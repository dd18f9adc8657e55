import ChatGateway.Chat.Message
import ChatGateway.Proofs.BlockForms

namespace ChatGateway

/-! Messages as they are read and as they are written. A message that was read holds blocks
that come back when they are written, and its further members are none of its fields; of
such a message every field is found where it was written. -/

/-! Decoders that read what is written. -/

/-- What is written of the value can be held, and is read as the value. -/
structure Decoder.Returns {α : Type} (decode : Decoder α) (write : α → Json) (value : α) :
    Prop where
  wellFormed : (write value).WellFormed
  read : decode (.ofJson (write value)) = .ok value

namespace Decoder

theorem returns_string (text : String) : string.Returns .string text :=
  ⟨wellFormed_string text, rfl⟩

variable {α : Type} {decode : Decoder α} {write : α → Json}

theorem mapM_ofItems {values : List α} (each : ∀ value ∈ values, decode.Returns write value) :
    (Document.ofItems (values.map write)).mapM decode = .ok values := by
  induction values with
  | nil => rfl
  | cons value rest induction =>
      rw [List.forall_mem_cons] at each
      rw [List.map_cons, Document.ofItems, List.mapM_cons, each.1.read, induction each.2]
      rfl

theorem returns_list {values : List α} (each : ∀ value ∈ values, decode.Returns write value) :
    (list decode).Returns (fun values => .array (values.map write)) values where
  wellFormed := by
    rw [Json.WellFormed, Json.itemsWellFormed_iff, List.forall_mem_map]
    exact fun value inside => (each value inside).wellFormed
  read := mapM_ofItems each

theorem exists_ok_of_map {ε β : Type} {result : Except ε α} {build : α → β} {value : β}
    (made : (result.map build).toOption = some value) :
    ∃ given, result = .ok given ∧ build given = value := by
  cases result with
  | error fault => cases made
  | ok given =>
      cases made
      exact ⟨given, rfl, rfl⟩

theorem ok_of_nullable {document : Document} {value : α}
    (read : nullable decode document = .ok (some value)) : decode document = .ok value := by
  rw [nullable.eq_def] at read
  split at read
  · cases read
  · cases made : decode document with
    | error fault =>
        rw [made] at read
        cases read
    | ok other =>
        rw [made] at read
        cases read
        rfl

end Decoder

namespace Record

variable {α : Type} {documents : List (String × Document)} {name : String}
  {decode : Decoder α} {write : α → Json}

theorem required_of_returns {value : α} (finds : Finds documents name (some (write value)))
    (returns : decode.Returns write value) :
    ((required name decode).ofMembers documents).toOption = some value := by
  rw [required, toOption_ofMembers_field finds.nodup, finds.found, Option.map_some]
  exact congrArg Except.toOption returns.read

theorem omissible_of_returns {value : Option α} (finds : Finds documents name (value.map write))
    (returns : ∀ present ∈ value, decode.Returns write present)
    (notNull : ∀ present, write present ≠ .null) :
    ((omissible name decode).ofMembers documents).toOption = some value := by
  rw [omissible, defaulted, toOption_ofMembers_field finds.nodup, finds.found]
  cases value with
  | none => rfl
  | some present =>
      change (Decoder.nullable decode (.ofJson (write present))).toOption = _
      rw [Decoder.toOption_nullable, if_neg (notNull present), (returns present rfl).read]
      rfl

theorem toOption_seq {β : Type} {members : List (String × Document)} {function : Record (α → β)}
    {argument : Record α} {build : α → β} {value : α}
    (built : (function.ofMembers members).toOption = some build)
    (argued : (argument.ofMembers members).toOption = some value) :
    ((function <*> argument).ofMembers members).toOption = some (build value) := by
  rw [toOption_ofMembers_seq, built, argued]
  rfl

end Record

/-! Parts of messages. -/

namespace ContentBlock

theorem returns_ofJson {value : Json} (wellFormed : value.WellFormed) :
    decode.Returns toJson (ofJson value) := by
  have written := (wellFormed_ofJson wellFormed).toJson
  refine ⟨written, ?_⟩
  rw [decode, Decoder.json, Document.value?_ofJson written]
  exact congrArg Except.ok (ofJson_toJson_ofJson wellFormed)

theorem returns_of_list_decode {document : Document} {blocks : List ContentBlock}
    (bounded : document.Bounded) (decoded : Decoder.list decode document = .ok blocks) :
    ∀ block ∈ blocks, decode.Returns toJson block := by
  cases document with
  | array items =>
      rw [Document.Bounded, Document.itemsBounded_iff] at bounded
      rcases exists_received_of_items bounded (forall₂_of_mapM_eq_ok decoded) with ⟨received, made⟩
      rw [made.equal, List.forall_mem_map]
      exact fun value inside => returns_ofJson (made.wellFormed value inside)
  | _ => cases decoded

end ContentBlock

theorem Role.returns_name (role : Role) : decode.Returns (fun role => .string role.name) role where
  wellFormed := wellFormed_string role.name
  read := by rw [Document.ofJson, decode, Decoder.variant, ofName?_name]

theorem ToolCall.returns_toJson (call : ToolCall) : decode.Returns toJson call where
  wellFormed := by
    refine Json.wellFormed_ofMembers ?_
    simp [member, wellFormed_string, Json.wellFormed_ofMembers]
  read := rfl

namespace MessageContent

def Settled (content : MessageContent) : Prop :=
  ∀ blocks, content = .blocks blocks →
    ∀ block ∈ blocks, ContentBlock.decode.Returns ContentBlock.toJson block

theorem settled_of_decode {document : Document} {content : MessageContent}
    (bounded : document.Bounded) (decoded : decode document = .ok content) : content.Settled := by
  intro blocks equal
  subst equal
  rw [decode, Decoder.union] at decoded
  split at decoded
  · cases decoded
  · split at decoded
    · next found =>
        cases decoded
        rcases List.exists_of_findSome?_eq_some found with ⟨form, inside, read⟩
        rcases List.mem_pair.mp inside with rfl | rfl
        · rcases Decoder.exists_ok_of_map read with ⟨text, -, equal⟩
          cases equal
        · rcases Decoder.exists_ok_of_map read with ⟨others, made, equal⟩
          cases equal
          exact ContentBlock.returns_of_list_decode bounded made
    · cases decoded

theorem returns_of_settled {content : MessageContent} (settled : content.Settled) :
    decode.Returns toJson content := by
  cases content with
  | text text => exact ⟨wellFormed_string text, rfl⟩
  | blocks blocks =>
      have returns := Decoder.returns_list (settled blocks rfl)
      refine ⟨returns.wellFormed, ?_⟩
      change decode (.ofJson (.array (blocks.map ContentBlock.toJson))) = .ok (.blocks blocks)
      rw [decode, Decoder.union, Document.value?_ofJson returns.wellFormed, if_neg (by simp)]
      simp only [List.findSome?_cons, returns.read]
      rfl

end MessageContent

namespace ChatMessage

def writtenFields (message : ChatMessage) : List (String × Option Json) :=
  [("role", some (.string message.role.name)),
    ("content", message.content.map MessageContent.toJson),
    ("tool_calls", message.toolCalls.map ToolCall.listToJson),
    ("tool_call_id", message.toolCallId.map .string),
    ("name", message.name.map .string),
    ("thinking_blocks", message.thinkingBlocks.map ContentBlock.listToJson)]

theorem toJson_eq_ofFields (message : ChatMessage) :
    message.toJson = .ofFields message.writtenFields message.extra := by
  simp [toJson, write, Json.ofFields, writtenFields, member, member?]
  rfl

theorem nodup_writtenFields (message : ChatMessage) :
    (message.writtenFields.map Prod.fst).Nodup := by
  simp [writtenFields]

theorem get?_toJson_other (message : ChatMessage) {key : String} (noField : key ∉ fields.keys) :
    message.toJson.get? key = message.extra.get? key := by
  rw [toJson_eq_ofFields]
  exact Json.get?_ofFields_other message.nodup_writtenFields _ noField

/-- All parts of the message come back, and its further members are none of its fields. -/
structure Settled (message : ChatMessage) : Prop where
  content : ∀ content ∈ message.content, content.Settled
  beside : ∀ blocks ∈ message.thinkingBlocks,
    ∀ block ∈ blocks, ContentBlock.decode.Returns ContentBlock.toJson block
  apart : ∀ key ∈ fields.keys, message.extra.get? key = none
  held : message.extra.WellFormed

theorem passes_fields :
    fields.Passes Document.Bounded fun build => ∀ extra,
      (∀ content ∈ (build extra).content, content.Settled) ∧
        ∀ blocks ∈ (build extra).thinkingBlocks,
          ∀ block ∈ blocks, ContentBlock.decode.Returns ContentBlock.toJson block := by
  refine Record.passes_seq (fun beside => ∀ blocks ∈ beside,
    ∀ block ∈ blocks, ContentBlock.decode.Returns ContentBlock.toJson block) ?_
    (Record.passes_field ?_ ?_ ?_)
  · refine Record.passes_seq (fun _ => True) ?_ Record.passes_any_field
    refine Record.passes_seq (fun _ => True) ?_ Record.passes_any_field
    refine Record.passes_seq (fun _ => True) ?_ Record.passes_any_field
    refine Record.passes_seq (fun content => ∀ present ∈ content, present.Settled) ?_
      (Record.passes_field ?_ ?_ ?_)
    · refine Record.passes_seq (fun _ => True) ?_ Record.passes_any_field
      exact Record.passes_pure fun _ _ _ settled _ _ _ _ _ _ _ returns _ => ⟨settled, returns⟩
    · intro document content bounded decoded present equal
      rw [Option.mem_def.mp equal] at decoded
      exact MessageContent.settled_of_decode bounded (Decoder.ok_of_nullable decoded)
    · intro content absent
      cases absent
      nofun
    · intro content omitted
      cases omitted
      nofun
  · intro document beside bounded decoded blocks equal
    rw [Option.mem_def.mp equal] at decoded
    exact ContentBlock.returns_of_list_decode bounded (Decoder.ok_of_nullable decoded)
  · intro beside absent
    cases absent
    nofun
  · intro beside omitted
    cases omitted
    nofun

theorem extra_of_ofMembers {members : List (String × Document)} {build : Object → ChatMessage}
    (built : fields.ofMembers members = .ok build) (others : Object) :
    (build others).extra = others := by
  have passes : fields.Passes (fun _ => True) fun build =>
      ∀ others, (build others).extra = others := by
    repeat refine Record.passes_seq (fun _ => True) ?_ Record.passes_any_field
    exact Record.passes_pure fun _ _ _ _ _ _ _ _ _ _ _ _ _ => rfl
  exact passes.ofMembers members build (fun _ _ => trivial) built others

theorem settled_of_decode {document : Document} {message : ChatMessage}
    (bounded : document.Bounded) (decoded : decode document = .ok message) : message.Settled := by
  cases document with
  | object members =>
      rw [Document.Bounded, Document.membersBounded_iff] at bounded
      rcases Record.decodeOpen_eq_ok decoded with ⟨build, others, built, kept, rfl⟩
      rcases passes_fields.ofMembers members build bounded built others with ⟨content, beside⟩
      refine ⟨content, beside, ?_, ?_⟩
      · intro key isField
        rw [extra_of_ofMembers built, Record.get?_of_keepOthers kept,
          if_pos (by simpa using isField)]
      · rw [extra_of_ofMembers built]
        exact Record.wellFormed_of_keepOthers bounded kept
  | _ => cases decoded

namespace Settled

variable {message : ChatMessage} (settled : message.Settled)

include settled

theorem wellFormed_toJson : message.toJson.WellFormed := by
  have content (content) (given : message.content = some content) : content.toJson.WellFormed :=
    (MessageContent.returns_of_settled (settled.content content given)).wellFormed
  have calls (calls) : (ToolCall.listToJson calls).WellFormed :=
    (Decoder.returns_list fun call _ => ToolCall.returns_toJson call).wellFormed
  have beside (blocks) (given : message.thinkingBlocks = some blocks) :
      (ContentBlock.listToJson blocks).WellFormed :=
    (Decoder.returns_list (settled.beside blocks given)).wellFormed
  rw [toJson_eq_ofFields]
  refine Json.wellFormed_ofFields ?_ settled.held
  simp +contextual [writtenFields, wellFormed_string, content, calls, beside]

theorem get?_toJson_field {field : String × Option Json} (inside : field ∈ message.writtenFields) :
    message.toJson.get? field.1 = field.2 := by
  have isField : field.1 ∈ fields.keys := List.mem_map_of_mem inside
  rw [toJson_eq_ofFields]
  exact Json.get?_ofFields_field message.nodup_writtenFields inside (settled.apart _ isField)

theorem toOption_ofMembers {members : List (String × Json)}
    (written : message.toJson = .object members) :
    (fields.ofMembers (Document.ofMembers members)).toOption =
      some (ChatMessage.mk message.role message.content message.toolCalls message.toolCallId
        message.name message.thinkingBlocks) := by
  have wellFormed := settled.wellFormed_toJson
  rw [written] at wellFormed
  have finds (field) (inside : field ∈ message.writtenFields) :
      Record.Finds (Document.ofMembers members) field.1 field.2 := by
    rw [← settled.get?_toJson_field inside, written]
    exact Record.finds_ofMembers wellFormed field.1
  simp only [writtenFields, List.forall_mem_cons] at finds
  rcases finds with ⟨role, content, toolCalls, toolCallId, name, beside, -⟩
  refine Record.toOption_seq (Record.toOption_seq (Record.toOption_seq (Record.toOption_seq
    (Record.toOption_seq (Record.toOption_seq rfl ?_) ?_) ?_) ?_) ?_) ?_
  · exact Record.required_of_returns role (Role.returns_name message.role)
  · refine Record.omissible_of_returns content (fun content given => ?_) ?_
    · exact MessageContent.returns_of_settled (settled.content content given)
    · intro content
      cases content <;> nofun
  · exact Record.omissible_of_returns toolCalls
      (fun _ _ => Decoder.returns_list fun call _ => ToolCall.returns_toJson call) nofun
  · exact Record.omissible_of_returns toolCallId (fun id _ => Decoder.returns_string id) nofun
  · exact Record.omissible_of_returns name (fun name _ => Decoder.returns_string name) nofun
  · exact Record.omissible_of_returns beside
      (fun blocks given => Decoder.returns_list (settled.beside blocks given)) nofun

theorem returns : decode.Returns toJson message where
  wellFormed := settled.wellFormed_toJson
  read := by
    rcases Json.exists_object_ofFields message.writtenFields message.extra with ⟨object, equal⟩
    have written : message.toJson = .object object.members := message.toJson_eq_ofFields.trans equal
    have wellFormed := settled.wellFormed_toJson
    rw [written] at wellFormed
    have built := eq_ok_of_toOption_eq_some (settled.toOption_ofMembers written)
    rcases Record.keepOthers_ofMembers wellFormed fields.keys with ⟨others, kept, held⟩
    -- no field is kept a second time: a settled message has none among its further members
    have same : others = message.extra := by
      apply Object.eq_of_get?
      intro key
      rw [Object.get?, held, Object.lookup_filter fun key => !fields.keys.contains key]
      by_cases isField : key ∈ fields.keys
      · rw [settled.apart key isField, if_neg (by simpa using isField)]
      · rw [← message.get?_toJson_other isField, written, if_pos (by simpa using isField)]
        rfl
    rw [decode, written, Document.ofJson, Record.decodeOpen, built, kept, same]
    rfl

end Settled

theorem returns_of_decode {value : Json} (wellFormed : value.WellFormed) {message : ChatMessage}
    (decoded : Decoder.ofJson decode value = .ok message) : decode.Returns toJson message :=
  (settled_of_decode (bounded_ofJson wellFormed) decoded).returns

end ChatMessage

/-- Whatever a value is read as is written so that it is read as the same again. A block has the
type of its value. One that was not understood is written as the value; one that was understood
is written member by member, each in its form. -/
theorem written_forms_are_read_again (value : Json) (wellFormed : value.WellFormed) :
    let block := ContentBlock.ofJson value
    (∀ type, block.typeName = some type ↔
      ∃ members, value = .object members ∧ ("type", .string type) ∈ members) ∧
    ((∃ raw, block = .other raw) ↔ ∀ type read, ¬ ContentBlock.ReadFrom value type read) ∧
    (∀ raw, block = .other raw → block.toJson = value) ∧
    ContentBlock.ofJson block.toJson = block ∧
    ((∀ raw, block ≠ .other raw) → ∃ (type : String) (object : Object),
      block.typeName = some type ∧ block.toJson = object.toJson ∧
        ∀ key, (ContentBlock.memberForm type key).Rewrites (value.get? key) (object.get? key)) ∧
    ∀ message, Decoder.ofJson ChatMessage.decode value = .ok message →
      Decoder.ofJson ChatMessage.decode message.toJson = .ok message := by
  intro block
  refine ⟨fun type => ?_, ContentBlock.exists_eq_other_iff wellFormed, fun raw kept => ?_,
    ContentBlock.ofJson_toJson_ofJson wellFormed, ContentBlock.exists_rewritten wellFormed,
    fun message decoded => (ChatMessage.returns_of_decode wellFormed decoded).read⟩
  · rw [ContentBlock.typeName_ofJson]
    exact Json.textAt?_eq_some_iff wellFormed
  · rw [kept, ContentBlock.eq_of_ofJson_eq_other wellFormed kept]
    rfl

def taggedMessage : Json :=
  .object [("cache_control", .object [("type", .string "ephemeral")]),
    ("content", .array [.object [("name", .string "list"), ("type", .string "tool_use")],
      .object [("image_url", .array [.string "https://host/image", .null]),
        ("type", .string "image_url")],
      .object [("source", .null), ("type", .string "image")]]),
    ("role", .string "assistant"), ("signature", .null), ("thinking", .string "plan"),
    ("type", .string "thinking")]

def readMessage : ChatMessage where
  role := .assistant
  content := some (.blocks [.toolUse "" "list" (.object []) .empty,
    .imageUrl "https://host/image" none .empty,
    .other (.object [("source", .null), ("type", .string "image")])])
  toolCalls := none
  toolCallId := none
  name := none
  thinkingBlocks := none
  extra := .ofList [("cache_control", .object [("type", .string "ephemeral")]),
    ("signature", .null), ("thinking", .string "plan"), ("type", .string "thinking")]

theorem taggedMessage_is_read_again :
    taggedMessage.WellFormed ∧
      (∃ object : Object, (ContentBlock.ofJson taggedMessage).toJson = object.toJson ∧
        object.get? "signature" = none ∧ object.get? "role" = some (.string "assistant")) ∧
      Decoder.ofJson ChatMessage.decode taggedMessage = .ok readMessage ∧
      Decoder.ofJson ChatMessage.decode readMessage.toJson = .ok readMessage := by
  have wellFormed : taggedMessage.WellFormed := by
    simp only [taggedMessage, Json.WellFormed, Json.MembersWellFormed, Json.ItemsWellFormed]
    decide
  have thinks : (ContentBlock.ofJson taggedMessage).typeName = some "thinking" := by
    decide +kernel
  have understood (raw) : ContentBlock.ofJson taggedMessage ≠ .other raw := by
    intro kept
    have differs : ContentBlock.ofJson taggedMessage ≠ .other taggedMessage := by decide +kernel
    rw [ContentBlock.eq_of_ofJson_eq_other wellFormed kept] at kept
    exact differs kept
  have read : Decoder.ofJson ChatMessage.decode taggedMessage = .ok readMessage :=
    eq_ok_of_toOption_eq_some (by decide +kernel)
  rcases written_forms_are_read_again taggedMessage wellFormed with
    ⟨_, _, _, _, rewritten, messages⟩
  rcases rewritten understood with ⟨type, object, typed, written, rewrites⟩
  cases typed.symm.trans thinks
  refine ⟨wellFormed, ⟨object, written, ?_, ?_⟩, read, messages readMessage read⟩
  · have omitted : MemberForm.omissible.Rewrites (some .null) (object.get? "signature") :=
      rewrites "signature"
    generalize object.get? "signature" = member at omitted ⊢
    cases omitted with
    | null => rfl
    | present notNull => exact absurd rfl notNull
  · exact (MemberForm.rewrites_plain_iff.mp (rewrites "role")).symm

end ChatGateway
