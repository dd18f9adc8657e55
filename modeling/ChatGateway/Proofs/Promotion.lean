import ChatGateway.Chat.Reply

namespace ChatGateway

/-! Reasoning in place of an answer. Where the texts of an answer say nothing, the client
is answered with what was thought, if that is a text. Thoughts are joined by line feeds
before that is looked at: two of them are a text even when nothing was thought in either. -/

namespace Text

theorem join_eq_empty_iff {separator : String} (visible : separator ≠ "") (parts : List String) :
    join separator parts = "" ↔ parts = [] ∨ parts = [""] := by
  cases parts with
  | nil => simp [join]
  | cons first rest =>
      cases rest with
      | nil => simp [join]
      | cons second rest => simp [join, visible]

theorem join_ne_empty_iff {separator : String} (visible : separator ≠ "") (parts : List String) :
    join separator parts ≠ "" ↔ (∃ part ∈ parts, part ≠ "") ∨ 2 ≤ parts.length := by
  rw [ne_eq, join_eq_empty_iff visible]
  cases parts with
  | nil => simp
  | cons first rest => cases rest <;> simp

end Text

def ContentBlock.said : List ContentBlock → String
  | [] => ""
  | .text content _ :: rest => content ++ said rest
  | _ :: rest => said rest

theorem ContentBlock.join_texts (blocks : List ContentBlock) :
    Text.join "" (blocks.filterMap MessageContent.textOf?) = said blocks := by
  induction blocks with
  | nil => rfl
  | cons block rest induction =>
      cases block with
      | text text extra =>
          have taken : MessageContent.textOf? (.text text extra) = some text := rfl
          rw [said, ← induction, List.filterMap_cons_some taken]
          cases rest.filterMap MessageContent.textOf? <;> simp [Text.join]
      | _ => exact induction

namespace Answer

/-- Something was thought, or more than one thought was given. -/
def Reasons (answer : Answer) : Prop :=
  (∃ thought ∈ answer.thoughts, thought ≠ "") ∨ 2 ≤ answer.thoughts.length

/-- The answer is told by its reasoning. -/
def Promotes (answer : Answer) : Prop :=
  ContentBlock.said answer.content = "" ∧ answer.Reasons

theorem content_chatMessage (answer : Answer) :
    answer.chatMessage.content =
      if answer.texts = [] then none else some (ContentBlock.said answer.content) := by
  rw [chatMessage, ← ContentBlock.join_texts, ← texts]
  cases answer.texts <;> rfl

theorem reasoningContent_chatMessage (answer : Answer) :
    answer.chatMessage.reasoningContent =
      if answer.thoughts = [] then none else some (Text.join "\n" answer.thoughts) := by
  rw [chatMessage]
  cases answer.thoughts <;> rfl

theorem content_all_empty_iff (answer : Answer) :
    answer.chatMessage.content.all (· == "") = true ↔ ContentBlock.said answer.content = "" := by
  rw [content_chatMessage]
  split
  · next silent =>
      have nothing : ContentBlock.said answer.content = "" := by
        rw [← ContentBlock.join_texts, ← texts, silent]
        rfl
      simp [nothing]
  · simp

theorem filter_reasoningContent (answer : Answer) (reasoning : String) :
    answer.chatMessage.reasoningContent.filter (· != "") = some reasoning ↔
      answer.Reasons ∧ answer.chatMessage.reasoningContent = some reasoning := by
  have reasons : answer.Reasons ↔ Text.join "\n" answer.thoughts ≠ "" :=
    (Text.join_ne_empty_iff (by decide) answer.thoughts).symm
  rw [Option.filter_eq_some_iff, and_comm, reasons, reasoningContent_chatMessage]
  split
  · simp
  · apply and_congr_left
    intro equal
    rw [← Option.some.inj equal, bne_iff_ne]

theorem promoted?_eq_some_iff (answer : Answer) (reasoning : String) :
    answer.chatMessage.promoted? = some reasoning ↔
      answer.Promotes ∧ answer.chatMessage.reasoningContent = some reasoning := by
  rw [ChoiceMessage.promoted?, Promotes, ← content_all_empty_iff, and_assoc,
    ← filter_reasoningContent]
  split
  · next silent => simp [silent]
  · next saying => simp [saying]

theorem reasoningContent_of_promotes {answer : Answer} (promotes : answer.Promotes) :
    answer.chatMessage.reasoningContent = some (Text.join "\n" answer.thoughts) := by
  rw [reasoningContent_chatMessage, if_neg]
  intro none
  rcases promotes.2 with ⟨thought, member, _⟩ | several
  · rw [none] at member
    cases member
  · simp [none] at several

/-- How a client is told of an answer, and what is recorded of it. -/
structure TellsAnswer (answer : Answer) (completion : Completion) (decisions : List Decision) :
    Prop where
  /-- The reasoning takes the place of the text. -/
  promoted : answer.Promotes →
    completion.choices.map (·.message.content) = [some (Text.join "\n" answer.thoughts)] ∧
      completion.choices.map (·.message.reasoningContent) =
        [some (Text.join "\n" answer.thoughts)]
  /-- The text stays, and is absent when there is none. -/
  unpromoted : ¬ answer.Promotes →
    completion.choices.map (·.message.content) =
      [if answer.texts = [] then none else some (ContentBlock.said answer.content)]
  recorded : decisions = [.reasoningContentPromoted 0] ↔ answer.Promotes
  unrecorded : decisions = [] ↔ ¬ answer.Promotes

/-- Reasoning is promoted into the content, and this is recorded, just when the texts of
the answer say nothing and something was thought, or more than one thought was given. -/
theorem tellsAnswer_normalize (answer : Answer) (freshId : String) (created : Int)
    (model : String) :
    answer.TellsAnswer ((answer.toCompletion freshId created).normalize model).1
      ((answer.toCompletion freshId created).normalize model).2 := by
  rw [toCompletion, Completion.normalize, List.map_singleton, Choice.normalize]
  cases promoted : answer.chatMessage.promoted? with
  | some reasoning =>
      rcases (promoted?_eq_some_iff answer reasoning).mp promoted with ⟨promotes, given⟩
      have joined : reasoning = Text.join "\n" answer.thoughts :=
        Option.some.inj (given.symm.trans (reasoningContent_of_promotes promotes))
      exact {
        promoted := fun _ => by simp [joined, reasoningContent_of_promotes promotes]
        unpromoted := fun stays => absurd promotes stays
        recorded := by simp [promotes]
        unrecorded := by simp [promotes] }
  | none =>
      have stays : ¬ answer.Promotes := by
        intro promotes
        have taken := (promoted?_eq_some_iff answer _).mpr
          ⟨promotes, reasoningContent_of_promotes promotes⟩
        rw [promoted] at taken
        cases taken
      exact {
        promoted := fun promotes => absurd promotes stays
        unpromoted := fun _ => by simp [content_chatMessage]
        recorded := by simp [stays]
        unrecorded := by simp [stays] }

def emptyThoughts : Answer where
  id := "answer"
  type := "message"
  role := "assistant"
  content := [.thinking "" (some "first") .empty, .thinking "" (some "second") .empty]
  model := "claude"
  stopReason := none
  stopSequence := none
  usage := ⟨0, 0, none, none⟩

/-- Nothing is said and nothing thought, and yet reasoning is promoted: the line feed
between the thoughts. -/
theorem promoted_of_emptyThoughts :
    ContentBlock.said emptyThoughts.content = "" ∧ emptyThoughts.texts = [] ∧
      (∀ thought ∈ emptyThoughts.thoughts, thought = "") ∧
      ((emptyThoughts.toCompletion "fresh" 0).normalize "claude").1.choices.map
        (·.message.content) = [some "\n"] ∧
      ((emptyThoughts.toCompletion "fresh" 0).normalize "claude").2 =
        [.reasoningContentPromoted 0] := by
  refine ⟨rfl, rfl, ?_, ?_, ?_⟩
  · decide +kernel
  · decide +kernel
  · decide +kernel

end Answer

end ChatGateway
