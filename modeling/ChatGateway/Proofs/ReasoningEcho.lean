import ChatGateway.Chat.Reply
import ChatGateway.Proofs.BlockForms
import ChatGateway.Proofs.Echo
import ChatGateway.Provider.Call

namespace ChatGateway

/-! Reasoning that is handed to the client. An answer's blocks of reasoning are handed on
beside the text when they can be read; one whose parts are no texts is only told by its
type, and is not handed on. -/

namespace Json

def isReasoning (value : Json) : Bool :=
  value.textAt? "type" == some "thinking" || value.textAt? "type" == some "redacted_thinking"

/-- Tagged as reasoning, with texts where texts belong. -/
def isReadableReasoning (value : Json) : Bool :=
  match value.textAt? "type" with
  | some "thinking" =>
      (value.textOrEmpty? "thinking").isSome && (value.optionalText? "signature").isSome
  | some "redacted_thinking" => (value.textOrEmpty? "data").isSome
  | _ => false

theorem isReasoning_of_isReadableReasoning {value : Json}
    (readable : value.isReadableReasoning = true) : value.isReasoning = true := by
  rw [isReadableReasoning] at readable
  rw [isReasoning]
  split at readable
  · next typed => simp [typed]
  · next typed => simp [typed]
  · cases readable

/-- A value that is repeated. Each key holds the same, except that a text that was missing
is written as the empty text, and that a signature that was null is left out. -/
structure Repeats (received repeated : Json) : Prop where
  isObject : ∃ object : Object, repeated = object.toJson
  sameBut : ∀ key, repeated.get? key = received.get? key ∨
    (key = "thinking" ∨ key = "data") ∧ received.get? key = none ∧
      repeated.get? key = some (.string "") ∨
    key = "signature" ∧ received.get? key = some .null ∧ repeated.get? key = none

end Json

namespace ContentBlock

theorem isReasoning_ofJson (value : Json) : (ofJson value).isReasoning = value.isReasoning := by
  rw [isReasoning, Json.isReasoning, typeName_ofJson]

theorem isThinkingBlock_of_typeName_ne {block : ContentBlock}
    (notThinking : block.typeName ≠ some "thinking")
    (notRedacted : block.typeName ≠ some "redacted_thinking") :
    Answer.isThinkingBlock block = false := by
  cases block with
  | thinking => exact absurd rfl notThinking
  | redactedThinking => exact absurd rfl notRedacted
  | _ => rfl

theorem isThinkingBlock_ofJson {value : Json} (wellFormed : value.WellFormed) :
    Answer.isThinkingBlock (ofJson value) = value.isReadableReasoning := by
  rw [Json.isReadableReasoning]
  split
  · next typed =>
      rcases Json.exists_object_of_textAt? typed with ⟨members, rfl⟩
      rcases ofJson_of_body? wellFormed typed rfl with ⟨others, -, read⟩
      rw [read, thinkingBody, Record.toOption_ofMembers_seq, Record.toOption_ofMembers_map,
        toOption_defaultedText wellFormed (by decide), toOption_omissibleText wellFormed (by decide)]
      cases (Json.object members).textOrEmpty? "thinking" with
      | none => rfl
      | some thought => cases (Json.object members).optionalText? "signature" <;> rfl
  · next typed =>
      rcases Json.exists_object_of_textAt? typed with ⟨members, rfl⟩
      rcases ofJson_of_body? wellFormed typed rfl with ⟨others, -, read⟩
      rw [read, redactedThinkingBody, Record.toOption_ofMembers_map,
        toOption_defaultedText wellFormed (by decide)]
      cases (Json.object members).textOrEmpty? "data" <;> rfl
  · next notThinking notRedacted =>
      apply isThinkingBlock_of_typeName_ne
      · rwa [typeName_ofJson]
      · rwa [typeName_ofJson]

/-! What is handed on. -/

theorem memberForm_of_reasoning {type key : String}
    (reasons : type = "thinking" ∨ type = "redacted_thinking") :
    memberForm type key = .plain ∨
      (key = "thinking" ∨ key = "data") ∧ memberForm type key = .defaulted (.string "") ∨
      key = "signature" ∧ memberForm type key = .omissible := by
  rcases reasons with isType | isType
  all_goals
    subst isType
    unfold memberForm
    split <;> simp_all

theorem repeats_ofJson {value : Json} (wellFormed : value.WellFormed)
    (readable : value.isReadableReasoning = true) : value.Repeats (ofJson value).toJson := by
  have thinks := (isThinkingBlock_ofJson wellFormed).trans readable
  have understood (raw) : ofJson value ≠ .other raw := by
    intro kept
    rw [kept] at thinks
    cases thinks
  rcases exists_rewritten wellFormed understood with ⟨type, object, typed, written, rewrites⟩
  have reasons : type = "thinking" ∨ type = "redacted_thinking" := by
    have reasoning := Json.isReasoning_of_isReadableReasoning readable
    rw [typeName_ofJson] at typed
    rw [Json.isReasoning, typed] at reasoning
    simpa using reasoning
  refine ⟨⟨object, written⟩, fun key => ?_⟩
  have rewrites := rewrites key
  have same : (ofJson value).toJson.get? key = object.get? key := by rw [written]; rfl
  rw [same]
  rcases memberForm_of_reasoning reasons with plain | ⟨text, defaulted⟩ | ⟨signature, omissible⟩
  · rw [plain, MemberForm.rewrites_plain_iff] at rewrites
    exact .inl rewrites.symm
  · rw [defaulted] at rewrites
    generalize value.get? key = held at rewrites ⊢
    generalize object.get? key = rewritten at rewrites ⊢
    cases rewrites with
    | given => exact .inl rfl
    | missing => exact .inr (.inl ⟨text, rfl, rfl⟩)
  · rw [omissible] at rewrites
    generalize value.get? key = held at rewrites ⊢
    generalize object.get? key = rewritten at rewrites ⊢
    cases rewrites with
    | absent => exact .inl rfl
    | null => exact .inr (.inr ⟨signature, rfl, rfl⟩)
    | present => exact .inl rfl

end ContentBlock

namespace Answer

theorem exists_received_of_read {body : ByteArray} {answer : Answer}
    (read : decodeBytes decode body = .ok answer) :
    ∃ received, ContentBlock.MadeOf answer.content received := by
  rw [decodeBytes] at read
  split at read
  · exact exists_received_of_answer_read read
  · cases read

theorem nonEmpty_eq_none_iff {α : Type} (items : List α) : nonEmpty items = none ↔ items = [] := by
  cases items <;> simp [nonEmpty]

section

variable {answer : Answer} {received : List Json}
  (made : ContentBlock.MadeOf answer.content received)
include made

theorem thinkingBlocks_of_madeOf :
    answer.thinkingBlocks = (received.filter Json.isReadableReasoning).map .ofJson := by
  rw [thinkingBlocks, made.equal, List.filter_map]
  congr 1
  exact List.filter_congr fun value member =>
    ContentBlock.isThinkingBlock_ofJson (made.wellFormed value member)

/-- All tagged reasoning is handed on just when all of it can be read. -/
theorem thinkingBlocks_eq_filter_iff :
    answer.thinkingBlocks = answer.content.filter ContentBlock.isReasoning ↔
      ∀ value ∈ received, value.isReasoning = true → value.isReadableReasoning = true := by
  have told : ∀ value ∈ received,
      Answer.isThinkingBlock (.ofJson value) = value.isReadableReasoning := fun value member =>
    ContentBlock.isThinkingBlock_ofJson (made.wellFormed value member)
  rw [thinkingBlocks, made.equal]
  constructor
  · intro equal value member reasons
    have inside : ContentBlock.ofJson value ∈
        (received.map ContentBlock.ofJson).filter ContentBlock.isReasoning :=
      List.mem_filter.mpr ⟨List.mem_map_of_mem member,
        (ContentBlock.isReasoning_ofJson value).trans reasons⟩
    rw [← equal] at inside
    exact (told value member).symm.trans (List.mem_filter.mp inside).2
  · intro readable
    apply List.filter_congr
    intro block inside
    rcases List.mem_map.mp inside with ⟨value, member, rfl⟩
    rw [told value member, ContentBlock.isReasoning_ofJson, Bool.eq_iff_iff]
    exact ⟨Json.isReasoning_of_isReadableReasoning, readable value member⟩

end

/-- Reasoning that is handed on beside the text of an answer: of the values that the answer
was made of, those that are readable reasoning, each once, in order and repeated as it was
received, and nothing when there are none. -/
structure HandsOn (received : List Json) (answer : Answer)
    (handedOn : Option (List ContentBlock)) : Prop where
  repeated : List.Forall₂ Json.Repeats (received.filter Json.isReadableReasoning)
    ((handedOn.getD []).map ContentBlock.toJson)
  absent : handedOn = none ↔ received.filter Json.isReadableReasoning = []
  /-- This is all that is tagged as reasoning just when all of that can be read. -/
  complete : handedOn.getD [] = answer.content.filter ContentBlock.isReasoning ↔
    ∀ value ∈ received, value.isReasoning = true → value.isReadableReasoning = true

/-- Every answer that was read is made of values that were received, and of whichever it
is made, the completion hands on their readable reasoning. -/
theorem reasoning_handed_on_iff {body : ByteArray} {answer : Answer}
    (read : decodeBytes decode body = .ok answer) (freshId : String) (created : Int) :
    (∃ received, ContentBlock.MadeOf answer.content received) ∧
      ∀ received, ContentBlock.MadeOf answer.content received →
        ∃ handedOn, HandsOn received answer handedOn ∧
          (answer.toCompletion freshId created).choices.map (·.message.thinkingBlocks) =
            [handedOn] := by
  refine ⟨exists_received_of_read read, fun received made => ?_⟩
  have blocks := thinkingBlocks_of_madeOf made
  refine ⟨nonEmpty answer.thinkingBlocks, ⟨?_, ?_, ?_⟩, rfl⟩
  · rw [getD_nonEmpty, blocks, List.map_map, List.forall₂_map_right_iff, List.forall₂_same]
    intro value member
    rcases List.mem_filter.mp member with ⟨inside, readable⟩
    exact ContentBlock.repeats_ofJson (made.wellFormed value inside) readable
  · rw [nonEmpty_eq_none_iff, blocks, List.map_eq_nil_iff]
  · rw [getD_nonEmpty]
    exact thinkingBlocks_eq_filter_iff made

def mixedBody : ByteArray :=
  ("\x7b\"content\":[\x7b\"type\":\"thinking\",\"thinking\":\"plan\",\"signature\":null,\"index\":0\x7d," ++
    "\x7b\"type\":\"text\",\"text\":\"done\"\x7d,\x7b\"type\":\"redacted_thinking\"\x7d," ++
    "\x7b\"type\":\"thinking\",\"thinking\":5\x7d]\x7d").toUTF8

def unreadableThought : Json :=
  .object [("thinking", .number (.integer 5)), ("type", .string "thinking")]

def mixedValues : List Json :=
  [.object [("index", .number (.integer 0)), ("signature", .null), ("thinking", .string "plan"),
      ("type", .string "thinking")],
    .object [("text", .string "done"), ("type", .string "text")],
    .object [("type", .string "redacted_thinking")],
    unreadableThought]

def mixedAnswer : Answer where
  id := ""
  type := ""
  role := ""
  content := mixedValues.map .ofJson
  model := ""
  stopReason := none
  stopSequence := none
  usage := ⟨0, 0, none, none⟩

theorem read_mixedBody : decodeBytes decode mixedBody = .ok mixedAnswer :=
  eq_ok_of_toOption_eq_some (by decide +kernel)

theorem handsOn_mixedAnswer :
    decodeBytes decode mixedBody = .ok mixedAnswer ∧
      ContentBlock.MadeOf mixedAnswer.content mixedValues ∧
      HandsOn mixedValues mixedAnswer
        (some [.thinking "plan" none (.ofList [("index", .number (.integer 0))]),
          .redactedThinking "" .empty]) := by
  have made : ContentBlock.MadeOf mixedAnswer.content mixedValues := by
    refine ⟨?_, rfl⟩
    intro value member
    simp only [mixedValues, unreadableThought, List.mem_cons, List.not_mem_nil, or_false] at member
    rcases member with rfl | rfl | rfl | rfl <;>
      simp only [Json.WellFormed, Json.MembersWellFormed] <;> decide
  rcases (reasoning_handed_on_iff read_mixedBody "fresh" 0).2 mixedValues made with
    ⟨handedOn, handsOn, completion⟩
  have blocks : (mixedAnswer.toCompletion "fresh" 0).choices.map (·.message.thinkingBlocks) =
      [some [.thinking "plan" none (.ofList [("index", .number (.integer 0))]),
        .redactedThinking "" .empty]] := by decide +kernel
  rw [blocks] at completion
  cases completion
  exact ⟨read_mixedBody, made, handsOn⟩

/-- Reasoning is in the answer, told by its type, that is not in the completion. -/
theorem reasoning_lost_of_mixedAnswer :
    decodeBytes decode mixedBody = .ok mixedAnswer ∧
      .other unreadableThought ∈ mixedAnswer.content.filter ContentBlock.isReasoning ∧
      ∀ choice ∈ (mixedAnswer.toCompletion "fresh" 0).choices,
        .other unreadableThought ∉ choice.message.thinkingBlocks.getD [] := by
  exact ⟨read_mixedBody, by decide +kernel, by decide +kernel⟩

end Answer

end ChatGateway
