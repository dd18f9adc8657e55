import ChatGateway.Proofs.FieldForms

namespace ChatGateway

/-! Blocks as they are read and as they are written. A block is written with its type, with
its fields, and with the further members of the value that it was read from; what is written
is read as the same block. -/

/-! Addresses of images. -/

namespace ContentBlock

theorem imageAddress_members_iff {members : List (String × Json)}
    (wellFormed : (Json.object members).WellFormed) (url : String) (detail : Option String) :
    (imageAddress.ofMembers (Document.ofMembers members)).toOption = some (url, detail) ↔
      (Json.object members).get? "url" = some (.string url) ∧
        (Json.object members).optionalText? "detail" = some detail := by
  have finds := Record.finds_ofMembers wellFormed
  rw [imageAddress, Record.ofMembers_seq_eq_some_iff, Json.optionalText?_eq_some_iff]
  simp [Record.ofMembers_map_eq_some_iff,
    Record.required_eq_some_iff (finds "url") Decoder.inverts_string,
    Record.optional_eq_some_iff (finds "detail") Decoder.inverts_string]

theorem imageAddress_items_iff (items : List Json) (url : String) (detail : Option String) :
    (imageAddress.decode "struct ImageUrl" (.ofJson (.array items))).toOption =
        some (url, detail) ↔
      items = [.string url, .ofOption (detail.map .string)] := by
  constructor
  · intro read
    rcases items with _ | ⟨first, _ | ⟨second, _ | ⟨third, rest⟩⟩⟩
    · cases read
    · cases first <;> cases read
    · cases first with
      | string text =>
          cases second with
          | null => cases read; rfl
          | string further => cases read; rfl
          | _ => cases read
      | _ => cases read
    · cases first with
      | string text => cases second <;> cases read
      | _ => cases read
  · intro equal
    rw [equal]
    cases detail <;> rfl

theorem imageAddress_eq_some_iff {held : Json} (wellFormed : held.WellFormed) (url : String)
    (detail : Option String) :
    (imageAddress.decode "struct ImageUrl" (.ofJson held)).toOption = some (url, detail) ↔
      TellsAddress held url detail := by
  cases held with
  | object members =>
      rw [Record.toOption_decode_object, imageAddress_members_iff wellFormed]
      constructor
      · intro told
        exact .members told.1 told.2
      · intro tells
        cases tells with
        | members atUrl atDetail => exact ⟨atUrl, atDetail⟩
  | array items =>
      rw [imageAddress_items_iff]
      constructor
      · intro equal
        rw [equal]
        exact .items url detail
      · intro tells
        cases tells
        rfl
  | _ => exact iff_of_false nofun nofun

/-! Blocks. -/

def memberForm : (type key : String) → MemberForm
  | "tool_use", "id" | "tool_result", "tool_use_id" | "thinking", "thinking"
  | "redacted_thinking", "data" => .defaulted (.string "")
  | "tool_use", "input" => .defaulted (.object [])
  | "tool_result", "content" | "tool_result", "is_error" | "thinking", "signature" => .omissible
  | "image_url", "image_url" => .address
  | _, _ => .plain

def writtenFields : ContentBlock → List (String × Option Json)
  | .text content _ => [("text", some (.string content))]
  | .imageUrl url detail _ => [("image_url", some (address url detail))]
  | .toolUse id name input _ =>
      [("id", some (.string id)), ("name", some (.string name)), ("input", some input)]
  | .toolResult toolUseId content isError _ =>
      [("tool_use_id", some (.string toolUseId)), ("content", content),
        ("is_error", isError.map .bool)]
  | .thinking thought signature _ =>
      [("thinking", some (.string thought)), ("signature", signature.map .string)]
  | .redactedThinking data _ => [("data", some (.string data))]
  | .other _ => []

def extra : ContentBlock → Object
  | .text _ extra | .imageUrl _ _ extra | .toolUse _ _ _ extra | .toolResult _ _ _ extra
  | .thinking _ _ extra | .redactedThinking _ extra => extra
  | .other _ => .empty

/-- A block that was understood, and the value that it was read from: its fields are those
of the value as they are written, and the other members of the value are beside them. -/
structure ReadFrom (value : Json) (type : String) (block : ContentBlock) : Prop where
  understood : ∀ raw, block ≠ .other raw
  typed : block.typeName = some type
  tagged : value.get? "type" = some (.string type)
  fields : ∀ field ∈ block.writtenFields,
    (memberForm type field.1).Rewrites (value.get? field.1) field.2
  extra : ∀ key, block.extra.get? key =
    if key = "type" ∨ key ∈ block.writtenFields.map Prod.fst then none else value.get? key

theorem imageAddress_field_iff {documents : List (String × Document)} {held : Option Json}
    (finds : Record.Finds documents "image_url" held) (url : String) (detail : Option String) :
    ((Record.required "image_url" (imageAddress.decode "struct ImageUrl")).ofMembers
      documents).toOption = some (url, detail) ↔
      MemberForm.address.Rewrites held (some (address url detail)) := by
  rw [Record.required, Record.toOption_ofMembers_field finds.nodup, finds.found]
  cases held with
  | none =>
      constructor
      · intro read
        cases read
      · intro rewrites
        cases rewrites
  | some held =>
      refine (imageAddress_eq_some_iff (finds.wellFormed held rfl) url detail).trans ⟨?_, ?_⟩
      · exact .address
      · intro rewrites
        generalize written : address url detail = value at rewrites
        cases rewrites with
        | address tells =>
            rcases address_inj written with ⟨sameUrl, sameDetail⟩
            rwa [sameUrl, sameDetail]

theorem ofMembers_body_eq_some_iff {members : List (String × Json)}
    (wellFormed : (Json.object members).WellFormed) {type : String}
    {body : Record (Object → ContentBlock)} (known : body? type = some body) (others : Object)
    {block : ContentBlock} (understood : ∀ raw, block ≠ .other raw)
    (typed : block.typeName = some type) :
    (body.ofMembers (Document.ofMembers
        (members.filter fun (key, _) => key != "type"))).toOption.map (· others) = some block ↔
      (∀ field ∈ block.writtenFields, (memberForm type field.1).Rewrites
        ((Json.object members).get? field.1) field.2) ∧ others = block.extra := by
  have finds := Record.finds_body wellFormed
  rw [Option.map_eq_some_iff]
  cases block with
  | other raw => exact absurd rfl (understood raw)
  | text content extra =>
      cases typed
      cases known
      simp [textBody, writtenFields, memberForm, ContentBlock.extra,
        Record.ofMembers_map_eq_some_iff,
        Record.required_eq_some_iff (finds "text" (by decide)) Decoder.inverts_string]
  | imageUrl url detail extra =>
      cases typed
      cases known
      simp [imageUrlBody, writtenFields, memberForm, ContentBlock.extra,
        Record.ofMembers_map_eq_some_iff,
        imageAddress_field_iff (finds "image_url" (by decide))]
  | toolUse id name input extra =>
      cases typed
      cases known
      simp [toolUseBody, writtenFields, memberForm, ContentBlock.extra,
        Record.ofMembers_seq_eq_some_iff, Record.ofMembers_map_eq_some_iff,
        Record.defaulted_eq_some_iff (finds "id" (by decide)) Decoder.inverts_string,
        Record.required_eq_some_iff (finds "name" (by decide)) Decoder.inverts_string,
        Record.defaulted_eq_some_iff (finds "input" (by decide)) Decoder.inverts_json]
  | toolResult toolUseId content isError extra =>
      cases typed
      cases known
      simp [toolResultBody, writtenFields, memberForm, ContentBlock.extra,
        Record.ofMembers_seq_eq_some_iff, Record.ofMembers_map_eq_some_iff,
        Record.defaulted_eq_some_iff (finds "tool_use_id" (by decide)) Decoder.inverts_string,
        Record.omissible_eq_some_iff (finds "content" (by decide)) Decoder.inverts_json,
        Record.omissible_eq_some_iff (finds "is_error" (by decide)) Decoder.inverts_bool]
  | thinking thought signature extra =>
      cases typed
      cases known
      simp [thinkingBody, writtenFields, memberForm, ContentBlock.extra, and_assoc,
        Record.ofMembers_seq_eq_some_iff, Record.ofMembers_map_eq_some_iff,
        Record.defaulted_eq_some_iff (finds "thinking" (by decide)) Decoder.inverts_string,
        Record.omissible_eq_some_iff (finds "signature" (by decide)) Decoder.inverts_string]
  | redactedThinking data extra =>
      cases typed
      cases known
      simp [redactedThinkingBody, writtenFields, memberForm, ContentBlock.extra,
        Record.ofMembers_map_eq_some_iff,
        Record.defaulted_eq_some_iff (finds "data" (by decide)) Decoder.inverts_string]

theorem understood_of_body? {type : String} {body : Record (Object → ContentBlock)}
    (known : body? type = some body) :
    body.Passes (fun _ => True) fun build => ∀ others,
      (∀ raw, build others ≠ .other raw) ∧ (build others).typeName = some type := by
  rw [body?.eq_def] at known
  split at known
  all_goals cases known
  all_goals
    repeat refine Record.passes_seq (fun _ => True) ?_ Record.passes_any_field
    exact Record.passes_pure (by simp [typeName])

theorem exists_body?_of_understood {block : ContentBlock}
    (understood : ∀ raw, block ≠ .other raw) {type : String}
    (typed : block.typeName = some type) :
    ∃ body, body? type = some body ∧ body.keys = block.writtenFields.map Prod.fst := by
  cases block with
  | other raw => exact absurd rfl (understood raw)
  | _ =>
      cases typed
      exact ⟨_, rfl, rfl⟩

theorem ofJson_of_readFrom {value : Json} (wellFormed : value.WellFormed) {type : String}
    {block : ContentBlock} (reads : ReadFrom value type block) : ofJson value = block := by
  have typed : value.textAt? "type" = some type := by rw [Json.textAt?, reads.tagged]; rfl
  rcases Json.exists_object_of_textAt? typed with ⟨members, rfl⟩
  rcases exists_body?_of_understood reads.understood reads.typed with ⟨body, known, keys⟩
  rcases ofJson_of_body? wellFormed typed known with ⟨others, found, read⟩
  have sameExtra : others = block.extra := by
    apply Object.eq_of_get?
    intro key
    rw [found, reads.extra, keys]
  have made := (ofMembers_body_eq_some_iff wellFormed known others reads.understood
    reads.typed).mpr ⟨reads.fields, sameExtra⟩
  rw [read, made]
  rfl

theorem readFrom_or_kept {value : Json} (wellFormed : value.WellFormed) :
    (∃ type, ReadFrom value type (ofJson value)) ∨ ofJson value = .other value := by
  rcases ofJson_cases value with kept | ⟨members, type, body, _, _, rfl, typed, known, _, _⟩
  · exact .inr kept
  · rcases ofJson_of_body? wellFormed typed known with ⟨others, found, read⟩
    cases made : (body.ofMembers (Document.ofMembers
        (members.filter fun (key, _) => key != "type"))).toOption.map (· others) with
    | none =>
        rw [made] at read
        exact .inr read
    | some block =>
        rw [made] at read
        rcases Option.map_eq_some_iff.mp made with ⟨build, built, rfl⟩
        rcases (understood_of_body? known).ofMembers _ build (fun _ _ => trivial)
          (eq_ok_of_toOption_eq_some built) others with ⟨understood, sameType⟩
        -- the body that was read is that of the type of the block it made
        rcases exists_body?_of_understood understood sameType with ⟨same, alsoKnown, keys⟩
        rw [known] at alsoKnown
        cases alsoKnown
        rcases (ofMembers_body_eq_some_iff wellFormed known others understood sameType).mp made with
          ⟨fields, sameExtra⟩
        refine .inl ⟨type, ?_⟩
        rw [read]
        refine ⟨understood, sameType, Json.get?_of_textAt? typed, fields, fun key => ?_⟩
        rw [Option.getD_some, ← keys, ← found]
        exact congrArg (·.get? key) sameExtra.symm

/-- A value is read as the block that can be read from it; where there is none, the value is
kept as it is. -/
theorem ofJson_eq_iff {value : Json} (wellFormed : value.WellFormed) (block : ContentBlock) :
    ofJson value = block ↔ (∃ type, ReadFrom value type block) ∨
      block = .other value ∧ ∀ type other, ¬ ReadFrom value type other := by
  constructor
  · intro equal
    subst equal
    rcases readFrom_or_kept wellFormed with reads | kept
    · exact .inl reads
    · refine .inr ⟨kept, fun type other reads => ?_⟩
      have same := (ofJson_of_readFrom wellFormed reads).symm.trans kept
      exact reads.understood value same
  · intro read
    rcases read with ⟨type, reads⟩ | ⟨kept, unread⟩
    · exact ofJson_of_readFrom wellFormed reads
    · rcases readFrom_or_kept wellFormed with ⟨type, reads⟩ | same
      · exact absurd reads (unread type _)
      · exact same.trans kept.symm

theorem eq_of_ofJson_eq_other {value raw : Json} (wellFormed : value.WellFormed)
    (kept : ofJson value = .other raw) : raw = value := by
  rcases (ofJson_eq_iff wellFormed _).mp kept with ⟨type, reads⟩ | ⟨equal, _⟩
  · exact absurd rfl (reads.understood raw)
  · exact ContentBlock.other.inj equal

theorem exists_eq_other_iff {value : Json} (wellFormed : value.WellFormed) :
    (∃ raw, ofJson value = .other raw) ↔ ∀ type block, ¬ ReadFrom value type block := by
  constructor
  · intro isOther
    rcases isOther with ⟨raw, kept⟩
    rcases (ofJson_eq_iff wellFormed _).mp kept with ⟨type, reads⟩ | ⟨_, unread⟩
    · exact absurd rfl (reads.understood raw)
    · exact unread
  · intro unread
    exact ⟨value, (ofJson_eq_iff wellFormed _).mpr (.inr ⟨rfl, unread⟩)⟩

/-! Blocks as they are written. -/

section Written

variable {block : ContentBlock} {type : String} (understood : ∀ raw, block ≠ .other raw)
  (typed : block.typeName = some type)

include understood

theorem nodup_writtenFields (type : String) :
    (((("type", some (.string type)) :: block.writtenFields)).map Prod.fst).Nodup := by
  cases block with
  | other raw => exact absurd rfl (understood raw)
  | _ => simp [writtenFields]

include typed

theorem toJson_eq_ofFields :
    block.toJson =
      .ofFields (("type", some (.string type)) :: block.writtenFields) block.extra := by
  cases block with
  | other raw => exact absurd rfl (understood raw)
  | imageUrl =>
      cases typed
      rfl
  | _ =>
      cases typed
      simp [toJson, write, tagged, Json.ofFields, writtenFields, member, member?, ContentBlock.extra]

theorem memberForm_eq_plain {key : String} (other : key ∉ block.writtenFields.map Prod.fst) :
    memberForm type key = .plain := by
  cases block with
  | other raw => exact absurd rfl (understood raw)
  | _ =>
      cases typed
      simp only [writtenFields, List.map_cons, List.map_nil, List.mem_cons, List.not_mem_nil,
        or_false, not_or] at other
      unfold memberForm
      split <;> simp_all

end Written

namespace ReadFrom

variable {value : Json} {type : String} {block : ContentBlock} (reads : ReadFrom value type block)

include reads

theorem get?_toJson_type : block.toJson.get? "type" = some (.string type) := by
  have apart : block.extra.get? "type" = none := by rw [reads.extra, if_pos (.inl rfl)]
  rw [toJson_eq_ofFields reads.understood reads.typed]
  exact Json.get?_ofFields_field (nodup_writtenFields reads.understood type)
    List.mem_cons_self apart

theorem get?_toJson_field {field : String × Option Json} (inside : field ∈ block.writtenFields) :
    block.toJson.get? field.1 = field.2 := by
  have apart : block.extra.get? field.1 = none := by
    rw [reads.extra, if_pos (.inr (List.mem_map_of_mem inside))]
  rw [toJson_eq_ofFields reads.understood reads.typed]
  exact Json.get?_ofFields_field (nodup_writtenFields reads.understood type)
    (List.mem_cons_of_mem _ inside) apart

theorem get?_toJson_other {key : String} (noType : key ≠ "type")
    (noField : key ∉ block.writtenFields.map Prod.fst) :
    block.toJson.get? key = value.get? key := by
  have neither := not_or.mpr ⟨noType, noField⟩
  rw [toJson_eq_ofFields reads.understood reads.typed, Json.get?_ofFields_other
    (nodup_writtenFields reads.understood type) _ (List.mem_cons.not.mpr neither), reads.extra,
    if_neg neither]

theorem rewrites (key : String) :
    (memberForm type key).Rewrites (value.get? key) (block.toJson.get? key) := by
  by_cases declared : key ∈ block.writtenFields.map Prod.fst
  · rcases List.mem_map.mp declared with ⟨field, inside, rfl⟩
    rw [reads.get?_toJson_field inside]
    exact reads.fields field inside
  · rw [memberForm_eq_plain reads.understood reads.typed declared, MemberForm.rewrites_plain_iff]
    by_cases isType : key = "type"
    · rw [isType, reads.tagged, reads.get?_toJson_type]
    · exact (reads.get?_toJson_other isType declared).symm

theorem again : ReadFrom block.toJson type block where
  understood := reads.understood
  typed := reads.typed
  tagged := reads.get?_toJson_type
  fields field inside := by
    have rewritten := (reads.rewrites field.1).again
    rwa [reads.get?_toJson_field inside] at rewritten ⊢
  extra key := by
    rw [reads.extra]
    by_cases declared : key = "type" ∨ key ∈ block.writtenFields.map Prod.fst
    · rw [if_pos declared, if_pos declared]
    · rw [if_neg declared, if_neg declared]
      rw [not_or] at declared
      exact (reads.get?_toJson_other declared.1 declared.2).symm

end ReadFrom

theorem exists_rewritten {value : Json} (wellFormed : value.WellFormed)
    (understood : ∀ raw, ofJson value ≠ .other raw) :
    ∃ (type : String) (object : Object), (ofJson value).typeName = some type ∧
      (ofJson value).toJson = object.toJson ∧
        ∀ key, (memberForm type key).Rewrites (value.get? key) (object.get? key) := by
  rcases readFrom_or_kept wellFormed with ⟨type, reads⟩ | kept
  · have written := toJson_eq_ofFields understood reads.typed
    rcases Json.exists_object_ofFields _ (ofJson value).extra with ⟨object, equal⟩
    refine ⟨type, object, reads.typed, written.trans equal, fun key => ?_⟩
    have rewrites := reads.rewrites key
    rwa [written, equal] at rewrites
  · exact absurd kept (understood value)

/-! What is written is read again. -/

theorem wellFormed_default {type key : String} {default : Json}
    (form : memberForm type key = .defaulted default) : default.WellFormed := by
  unfold memberForm at form
  split at form
  all_goals cases form
  all_goals first | exact wellFormed_string _ | exact wellFormed_emptyObject
structure WellFormed (block : ContentBlock) : Prop where
  fields : ∀ field ∈ block.writtenFields, ∀ value ∈ field.2, value.WellFormed
  extra : block.extra.WellFormed
  kept : ∀ value, block = .other value → value.WellFormed

theorem ReadFrom.wellFormed {value : Json} {type : String} {block : ContentBlock}
    (reads : ReadFrom value type block) (wellFormed : value.WellFormed) : block.WellFormed where
  fields field inside :=
    (reads.fields field inside).wellFormed (fun _ => Json.wellFormed_of_get? wellFormed)
      fun _ => wellFormed_default
  extra member inside := by
    have found := Object.get?_eq_some_iff.mpr inside
    rw [reads.extra] at found
    split at found
    · cases found
    · exact Json.wellFormed_of_get? wellFormed found
  kept raw equal := absurd equal (reads.understood raw)

theorem wellFormed_other {value : Json} (wellFormed : value.WellFormed) :
    (other value).WellFormed where
  fields := List.forall_mem_nil _
  extra := Object.wellFormed_empty
  kept raw equal := by
    cases equal
    exact wellFormed

theorem wellFormed_ofJson {value : Json} (wellFormed : value.WellFormed) :
    (ofJson value).WellFormed := by
  rcases readFrom_or_kept wellFormed with ⟨type, reads⟩ | kept
  · exact reads.wellFormed wellFormed
  · rw [kept]
    exact wellFormed_other wellFormed

theorem WellFormed.toJson {block : ContentBlock} (wellFormed : block.WellFormed) :
    block.toJson.WellFormed := by
  by_cases understood : ∀ raw, block ≠ .other raw
  · have typed : ∃ type, block.typeName = some type := by
      cases block with
      | other raw => exact absurd rfl (understood raw)
      | _ => exact ⟨_, rfl⟩
    rcases typed with ⟨type, typed⟩
    rw [toJson_eq_ofFields understood typed]
    refine Json.wellFormed_ofFields (List.forall_mem_cons.mpr ⟨?_, wellFormed.fields⟩)
      wellFormed.extra
    intro written equal
    cases equal
    exact wellFormed_string type
  · push Not at understood
    rcases understood with ⟨raw, rfl⟩
    exact wellFormed.kept raw rfl

theorem ofJson_toJson_ofJson {value : Json} (wellFormed : value.WellFormed) :
    ofJson (ofJson value).toJson = ofJson value := by
  rcases readFrom_or_kept wellFormed with ⟨type, reads⟩ | kept
  · exact ofJson_of_readFrom (wellFormed_ofJson wellFormed).toJson reads.again
  · rw [kept]
    exact kept

end ContentBlock

end ChatGateway
