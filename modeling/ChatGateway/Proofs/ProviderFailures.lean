import ChatGateway.Proofs.Gate
import ChatGateway.Proofs.TextCuts
import ChatGateway.Proofs.TextParts

namespace ChatGateway

/-! Failures of the provider. An answer whose status is 400 or above is told to the client
under its own status, with the message that its body holds or else the beginning of the
body. Answers with a status below 400 are all read as successes, those with a status of
300 and above among them. -/

namespace ErrorEnvelope

/-- What a body tells of an error. -/
inductive Tells (body : ByteArray) : String → Prop where
  | message {envelope : ErrorEnvelope} (read : decodeBytes decode body = .ok envelope) :
      Tells body envelope.message
  /-- The longest beginning, blanks apart, that has no more than 500 bytes. -/
  | beginning {text : String} (unread : ∀ envelope, decodeBytes decode body ≠ .ok envelope)
      (visible : Text.allBlank (Text.lossy body) = false)
      (begins : text.toList <+: (Text.trim (Text.lossy body)).toList)
      (short : text.utf8ByteSize ≤ 500)
      (longest : ∀ longer : String, longer.toList <+: (Text.trim (Text.lossy body)).toList →
        longer.utf8ByteSize ≤ 500 → longer.toList <+: text.toList) :
      Tells body text
  | nothing (unread : ∀ envelope, decodeBytes decode body ≠ .ok envelope)
      (blank : Text.allBlank (Text.lossy body) = true) :
      Tells body "empty response body"

theorem messageOf_of_unread {body : ByteArray}
    (unread : ∀ envelope, decodeBytes decode body ≠ .ok envelope) :
    messageOf body =
      if Text.allBlank (Text.lossy body) = true then emptyBody
      else Text.truncated 500 (Text.trim (Text.lossy body)) := by
  have blank : Text.truncated 500 (Text.trim (Text.lossy body)) = "" ↔
      Text.allBlank (Text.lossy body) = true := by
    rw [Text.truncated_eq_empty_iff (by decide), Text.trim_eq_empty_iff]
  cases read : decodeBytes decode body with
  | ok envelope => exact absurd read (unread envelope)
  | error fault =>
      rw [messageOf, read]
      exact if_congr blank rfl rfl

theorem tells_messageOf (body : ByteArray) : Tells body (messageOf body) := by
  cases read : decodeBytes decode body with
  | ok envelope =>
      rw [messageOf, read]
      exact .message read
  | error fault =>
      have unread : ∀ envelope, decodeBytes decode body ≠ .ok envelope := by
        rw [read]
        nofun
      rw [messageOf_of_unread unread]
      split
      · next blank => exact .nothing unread blank
      · next visible =>
          exact .beginning unread (Bool.eq_false_iff.mpr visible) (Text.truncated_begins 500 _)
            (Text.utf8ByteSize_truncated_le 500 _)
            fun _ begins short => Text.prefix_truncated begins short

theorem Tells.unique {body : ByteArray} {message other : String} (tells : Tells body message)
    (tellsOther : Tells body other) : message = other := by
  cases tells with
  | message read =>
      cases tellsOther with
      | message readOther => rw [Except.ok.inj (read.symm.trans readOther)]
      | beginning unread => exact absurd read (unread _)
      | nothing unread => exact absurd read (unread _)
  | beginning unread visible begins short longest =>
      cases tellsOther with
      | message read => exact absurd read (unread _)
      | beginning _ _ beginsOther shortOther longestOther =>
          rw [← String.toList_inj]
          exact (longestOther _ begins short).eq_of_length_le
            (longest _ beginsOther shortOther).length_le
      | nothing _ blank => exact absurd (visible.symm.trans blank) (by decide)
  | nothing unread blank =>
      cases tellsOther with
      | message read => exact absurd read (unread _)
      | beginning _ visible => exact absurd (visible.symm.trans blank) (by decide)
      | nothing => rfl

/-- Texts are cut at the last place within the limit that does not divide a character, and
the search for it ends before it passes the first byte. So a body that is no envelope is told
by a text of one to 500 bytes: what the body begins with, blanks apart, or, if it holds
nothing else, that it is empty. -/
theorem messages_are_cut_between_characters (limit : Nat) (text : String) (body : ByteArray) :
    Text.LongestCut limit text (Text.truncated limit text) ∧
    Text.cutBack? limit text = some (Text.truncated limit text) ∧
    ((∀ envelope, decodeBytes decode body ≠ .ok envelope) →
      messageOf body ≠ "" ∧ (messageOf body).utf8ByteSize ≤ 500 ∧
        (Text.LongestCut 500 (Text.trim (Text.lossy body)) (messageOf body) ∨
          Text.allBlank (Text.lossy body) = true ∧ messageOf body = "empty response body")) := by
  refine ⟨Text.longestCut_truncated limit text, Text.cutBack?_eq limit text, ?_⟩
  intro unread
  rw [messageOf_of_unread unread]
  split
  · next blank => exact ⟨by decide, by decide, .inr ⟨blank, rfl⟩⟩
  · next visible =>
      have nonEmpty : Text.truncated 500 (Text.trim (Text.lossy body)) ≠ "" := by
        rwa [ne_eq, Text.truncated_eq_empty_iff (by decide), Text.trim_eq_empty_iff]
      exact ⟨nonEmpty, Text.utf8ByteSize_truncated_le 500 _,
        .inl (Text.longestCut_truncated 500 _)⟩

def brokenBody : ByteArray := ⟨#[0x20, 0x6E, 0x6F, 0xE2, 0x82]⟩

theorem message_of_brokenBody :
    (∀ envelope, decodeBytes decode brokenBody ≠ .ok envelope) ∧
      Text.LongestCut 500 "no\ufffd" (messageOf brokenBody) ∧
      Text.LongestCut 3 "h€" (Text.truncated 3 "h€") ∧ Text.truncated 3 "h€" = "h" := by
  have nothing : (decodeBytes decode brokenBody).toOption.isNone = true := by decide +kernel
  have unread : ∀ envelope, decodeBytes decode brokenBody ≠ .ok envelope := by
    intro envelope read
    rw [read] at nothing
    cases nothing
  have trimmed : Text.trim (Text.lossy brokenBody) = "no\ufffd" := by decide +kernel
  have visible : Text.allBlank (Text.lossy brokenBody) = false := by decide +kernel
  rcases messages_are_cut_between_characters 3 "h€" brokenBody with ⟨cut, -, told⟩
  rcases (told unread).2.2 with begun | ⟨blank, -⟩
  · rw [trimmed] at begun
    exact ⟨unread, begun, cut, by decide⟩
  · exact absurd (visible.symm.trans blank) (by decide)

end ErrorEnvelope

namespace Exchange

def resultOf (gateway : Gateway) (fresh : Fresh) (headers : List Header) (request : ChatRequest)
    (answer : Url → ProviderCall → Delivery) : Except Fault Completion :=
  ((complete gateway fresh (.ofHeaders headers) request (sendTo answer)).run []).1.2.2

theorem resultOf_of_admitted {gateway : Gateway} {headers : List Header} {body : ByteArray}
    {request : ChatRequest} {token : String} {url : Url} (fresh : Fresh)
    (answer : Url → ProviderCall → Delivery) (admitted : Admitted gateway body request token)
    (accepted : (callFor gateway headers request token).address = .ok url) :
    resultOf gateway fresh headers request answer = (conclude fresh request.model
      (outcomeOf url (answer url (callFor gateway headers request token)))).2 := by
  rcases prepare_of_admitted headers fresh.requestId admitted with ⟨notes, prepared⟩
  rw [resultOf, complete, prepared]
  dsimp only
  rw [sendTo_of_address accepted]
  rfl

/-! What an answer is taken for. -/

section

variable (fresh : Fresh) (model : String) {status : UInt16} {content : ByteArray}

theorem conclude_of_failed (failed : 400 ≤ status) :
    (conclude fresh model (.answered status content)).2 =
      .error (.provider status (ErrorEnvelope.messageOf content)) := by
  rw [conclude, Answer.ofResponse, if_pos failed]

theorem conclude_of_unread (below : status < 400)
    (unread : ∀ given, decodeBytes Answer.decode content ≠ .ok given) :
    ∃ message, (conclude fresh model (.answered status content)).2 =
      .error (.badAnswer message) := by
  cases read : decodeBytes Answer.decode content with
  | ok given => exact absurd read (unread given)
  | error fault =>
      rw [conclude, Answer.ofResponse, if_neg (UInt16.not_le.mpr below), read]
      exact ⟨_, rfl⟩

end

/-- The client is told of a failure: the result is the provider's error, and the reply
reports it under its status with what the body tells. -/
def Told (status : UInt16) (content : ByteArray) (result : Except Fault Completion)
    (reply : Reply) : Prop :=
  ∃ message, ErrorEnvelope.Tells content message ∧ result = .error (.provider status message) ∧
    reply.status = status ∧ reply.body =
      some (ChatError.of (Fault.typeOfStatus status) message (some status)).toJson

theorem told_ofFault {status : UInt16} (failed : 400 ≤ status) (number : status < 1000)
    (content : ByteArray) :
    let fault := Fault.provider status (ErrorEnvelope.messageOf content)
    Told status content (.error fault) (.ofFault fault) := by
  intro fault
  have statusOf : Reply.statusOf fault = status :=
    if_pos ⟨UInt16.le_trans (by decide) failed, number⟩
  refine ⟨_, ErrorEnvelope.tells_messageOf content, rfl, statusOf, ?_⟩
  rw [Reply.ofFault, statusOf]
  rfl

/-- The client is told of a failure just when the status is 400 or above. What has another
status, be it a success or not, becomes a completion if it can be read as an answer. A
status has at most three digits. -/
theorem failure_told_iff (gateway : Gateway) (fresh : Fresh) (headers : List Header)
    (answer : Url → ProviderCall → Delivery) {body content : ByteArray} {request : ChatRequest}
    {token : String} {url : Url} {status : UInt16}
    (admitted : Admitted gateway body request token)
    (accepted : (callFor gateway headers request token).address = .ok url)
    (answered : answer url (callFor gateway headers request token) = .answered status content)
    (number : status < 1000) :
    let result := resultOf gateway fresh headers request answer
    let reply := (watch gateway fresh headers body answer).1.reply
    (Told status content result reply ↔ 400 ≤ status) ∧
      (status < 400 →
        (∀ given, decodeBytes Answer.decode content = .ok given →
          ∃ completion, result = .ok completion ∧ reply = .ofCompletion completion) ∧
        ((∀ given, decodeBytes Answer.decode content ≠ .ok given) →
          ∃ message, result = .error (.badAnswer message) ∧ reply.Reports 502 "api_error")) := by
  intro result reply
  have concluded : result = (conclude fresh request.model (.answered status content)).2 := by
    have result := resultOf_of_admitted fresh answer admitted accepted
    rwa [answered] at result
  have replied : reply = .ofResult result := by
    have watched := (watch_of_admitted gateway fresh headers answer admitted accepted).2
    rwa [answered, outcomeOf, ← concluded] at watched
  by_cases failed : 400 ≤ status
  · have fault := concluded.trans (conclude_of_failed fresh request.model failed)
    rw [replied, fault]
    refine ⟨iff_of_true (told_ofFault failed number content) failed, fun below => ?_⟩
    exact absurd failed (UInt16.not_le.mpr below)
  · have below := UInt16.not_le.mp failed
    cases read : decodeBytes Answer.decode content with
    | ok given =>
        rcases conclude_of_answered fresh request.model below read with ⟨completion, equal, -⟩
        rw [replied, concluded.trans equal]
        refine ⟨iff_of_false ?_ failed, fun _ => ⟨fun _ _ => ⟨completion, rfl, rfl⟩, ?_⟩⟩
        · rintro ⟨_, -, fault, -⟩
          cases fault
        · exact fun unread => absurd rfl (unread given)
    | error fault =>
        have unread : ∀ given, decodeBytes Answer.decode content ≠ .ok given := by
          intro given equal
          cases read.symm.trans equal
        rcases conclude_of_unread fresh request.model below unread with ⟨message, equal⟩
        rw [replied, concluded.trans equal]
        refine ⟨iff_of_false ?_ failed, fun _ => ⟨?_, fun _ => ⟨message, rfl, ?_⟩⟩⟩
        · rintro ⟨_, -, fault, -⟩
          cases fault
        · intro given equal
          cases equal
        · exact Reply.reports_ofFault (.badAnswer message)

def quotaBody : ByteArray :=
  ("\x7b\"error\":\x7b\"code\":429,\"message\":\"Quota exceeded\"," ++
    "\"status\":\"RESOURCE_EXHAUSTED\"\x7d\x7d").toUTF8

theorem told_quotaExceeded :
    let reply := (watch routedGateway default [] (greetingBody "mini")
      fun _ _ => .answered 429 quotaBody).1.reply
    reply.status = 429 ∧
      reply.body = some (ChatError.of "rate_limit_error" "Quota exceeded" (some 429)).toJson := by
  intro reply
  rcases exists_address_mini [] with ⟨url, address⟩
  have failure := failure_told_iff routedGateway default [] (fun _ _ => .answered 429 quotaBody)
    admitted_mini address rfl (by decide)
  rcases failure.1.mpr (by decide) with ⟨message, tells, -, status, body⟩
  have quota : ErrorEnvelope.messageOf quotaBody = "Quota exceeded" := by decide +kernel
  rw [tells.unique (ErrorEnvelope.tells_messageOf quotaBody), quota] at body
  exact ⟨status, body⟩

def choicesBody : ByteArray :=
  "\x7b\"error\":\x7b\"code\":300,\"message\":\"Multiple Choices\"\x7d\x7d".toUTF8

/-- An error that comes with a redirection is replied to as a success. -/
theorem untold_multipleChoices :
    let answer (_ : Url) (_ : ProviderCall) := Delivery.answered 300 choicesBody
    let result := resultOf routedGateway default [] (greeting "mini") answer
    let reply := (watch routedGateway default [] (greetingBody "mini") answer).1.reply
    ErrorEnvelope.messageOf choicesBody = "Multiple Choices" ∧
      (∀ status message, result ≠ .error (.provider status message)) ∧ reply.status = 200 := by
  intro answer result reply
  have given : (decodeBytes Answer.decode choicesBody).toOption.isSome := by decide +kernel
  rcases Option.isSome_iff_exists.mp given with ⟨read, given⟩
  rcases exists_address_mini [] with ⟨url, address⟩
  have below : (300 : UInt16) < 400 := by decide
  rcases conclude_of_answered default "mini" below (eq_ok_of_toOption_eq_some given) with
    ⟨completion, concluded, -⟩
  have completed : result = .ok completion :=
    (resultOf_of_admitted default answer admitted_mini address).trans concluded
  have replied : reply = .ofResult (.ok completion) := by
    rw [← concluded]
    exact (watch_of_admitted routedGateway default [] answer admitted_mini address).2
  rw [completed, replied]
  exact ⟨by decide +kernel, nofun, rfl⟩

end Exchange

end ChatGateway
