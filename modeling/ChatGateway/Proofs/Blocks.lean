import ChatGateway.Content
import ChatGateway.Proofs.HeldValues
import ChatGateway.Proofs.Records

namespace ChatGateway

/-! Blocks and the values that they are made of. -/

/-! Records that are read from a value. -/

theorem Document.lookup_ofMembers (members : List (String × Json)) (key : String) :
    (Document.ofMembers members).lookup key = (members.lookup key).map Document.ofJson := by
  induction members with
  | nil => rfl
  | cons member rest induction =>
      rcases member with ⟨other, value⟩
      rw [Document.ofMembers, Object.lookup_cons_eq, Object.lookup_cons_eq, induction]
      split <;> rfl

theorem Document.keys_ofMembers (members : List (String × Json)) :
    (Document.ofMembers members).map Prod.fst = members.map Prod.fst := by
  induction members with
  | nil => rfl
  | cons member rest induction =>
      rw [Document.ofMembers, List.map_cons, List.map_cons, induction]

theorem Document.nodup_ofMembers {members : List (String × Json)}
    (ascending : (members.map Prod.fst).Pairwise (· < ·)) :
    ((Document.ofMembers members).map Prod.fst).Nodup := by
  rw [keys_ofMembers]
  exact Object.keys_nodup ⟨members, ascending⟩

namespace Record

variable {α β : Type} {members : List (String × Document)}

theorem toOption_ofMembers_seq (function : Record (α → β)) (argument : Record α) :
    ((function <*> argument).ofMembers members).toOption =
      (function.ofMembers members).toOption.bind fun build =>
        (argument.ofMembers members).toOption.map build := by
  rw [seq_eq_apply, apply]
  dsimp only
  cases function.ofMembers members <;> cases argument.ofMembers members <;> rfl

theorem toOption_ofMembers_map (build : α → β) (record : Record α) :
    ((build <$> record).ofMembers members).toOption =
      (record.ofMembers members).toOption.map build :=
  toOption_ofMembers_seq (pure build) record

theorem occurrences_of_not_mem {key : String} :
    ∀ {members : List (String × Document)} {position : Nat}, key ∉ members.map Prod.fst →
      occurrences [key] position members = []
  | [], _, _ => rfl
  | (other, _) :: rest, position, absent => by
      rw [List.map_cons, List.mem_cons, not_or] at absent
      rw [occurrences, if_neg (by simpa using Ne.symm absent.1), occurrences_of_not_mem absent.2]

theorem occurrences_of_nodup (key : String) :
    ∀ {members : List (String × Document)} (position : Nat), (members.map Prod.fst).Nodup →
      (occurrences [key] position members).map Prod.snd = (members.lookup key).toList
  | [], _, _ => rfl
  | (other, value) :: rest, position, nodup => by
      rw [List.map_cons, List.nodup_cons] at nodup
      rw [occurrences, Object.lookup_cons_eq]
      by_cases equal : key = other
      · subst equal
        simp [occurrences_of_not_mem nodup.1]
      · rw [if_neg (by simpa using Ne.symm equal), if_neg equal, occurrences_of_nodup key _ nodup.2]

theorem toOption_ofMembers_field (nodup : (members.map Prod.fst).Nodup) (name : String)
    (decode : Decoder α) (absent : Except DecodeFault α) (omitted : Option α) :
    ((field name [] decode absent omitted).ofMembers members).toOption =
      match members.lookup name with
      | none => absent.toOption
      | some document => (decode document).toOption := by
  have found := occurrences_of_nodup name 0 nodup
  rw [field]
  dsimp only
  cases held : members.lookup name with
  | none =>
      rw [held, Option.toList_none, List.map_eq_nil_iff] at found
      rw [found]
      cases absent <;> rfl
  | some document =>
      rw [held, Option.toList_some, List.map_eq_singleton_iff] at found
      rcases found with ⟨⟨position, other⟩, found, rfl⟩
      rw [found]
      dsimp only
      cases decode other <;> rfl

end Record

/-! Values that are handed on. -/

mutual
theorem Document.value?_ofJson : ∀ {value : Json} (_ : value.WellFormed),
    (Document.ofJson value).value? = some value
  | .null, _ | .bool _, _ | .number _, _ | .string _, _ => rfl
  | .array items, wellFormed => by
      rw [Json.WellFormed] at wellFormed
      rw [Document.ofJson, Document.value?, Document.values?_ofItems wellFormed, Option.map_some]
  | .object members, wellFormed => by
      rw [Json.WellFormed] at wellFormed
      rw [Document.ofJson, Document.value?, Document.memberValues?_ofMembers wellFormed.2,
        Option.map_some, Object.toJson, Object.members_ofList wellFormed.1]

theorem Document.values?_ofItems : ∀ {items : List Json} (_ : Json.ItemsWellFormed items),
    Document.values? (Document.ofItems items) = some items
  | [], _ => rfl
  | item :: rest, wellFormed => by
      rw [Json.ItemsWellFormed] at wellFormed
      rw [Document.ofItems, Document.values?, Document.value?_ofJson wellFormed.1,
        Document.values?_ofItems wellFormed.2]

theorem Document.memberValues?_ofMembers : ∀ {members : List (String × Json)}
    (_ : Json.MembersWellFormed members),
      Document.memberValues? (Document.ofMembers members) = some members
  | [], _ => rfl
  | (key, value) :: rest, wellFormed => by
      rw [Json.MembersWellFormed] at wellFormed
      rw [Document.ofMembers, Document.memberValues?, Document.value?_ofJson wellFormed.1,
        Document.memberValues?_ofMembers wellFormed.2]
end

namespace Record

theorem keep_undeclared_ofMembers (keys : List String) {members : List (String × Json)}
    (wellFormed : Json.MembersWellFormed members) (position : Nat) :
    (undeclared keys position (Document.ofMembers members)).mapM keepOthers.keep =
      .ok (members.filter fun (key, _) => !keys.contains key) := by
  induction members generalizing position with
  | nil => rfl
  | cons member rest induction =>
      rcases member with ⟨key, value⟩
      rw [Json.MembersWellFormed] at wellFormed
      have others := induction wellFormed.2 (position + 1)
      rw [Document.ofMembers, undeclared]
      by_cases declared : keys.contains key
      · rw [if_pos declared, others, List.filter_cons_of_neg (by simpa using declared)]
      · rw [if_neg declared, List.mapM_cons, others, keepOthers.keep,
          Document.value?_ofJson wellFormed.1, List.filter_cons_of_pos (by simpa using declared)]
        rfl

theorem keepOthers_ofMembers {members : List (String × Json)}
    (wellFormed : (Json.object members).WellFormed) (keys : List String) :
    ∃ others, keepOthers keys (Document.ofMembers members) = .ok others ∧
      others.members = members.filter fun (key, _) => !keys.contains key := by
  rw [Json.WellFormed] at wellFormed
  rw [keepOthers, keep_undeclared_ofMembers keys wellFormed.2]
  refine ⟨_, rfl, Object.members_ofList (wellFormed.1.sublist ?_)⟩
  exact List.filter_sublist.map Prod.fst

end Record

namespace Json

def textOrEmpty? (value : Json) (key : String) : Option String :=
  match value.get? key with
  | none => some ""
  | some held => held.asString?

def optionalText? (value : Json) (key : String) : Option (Option String) :=
  match value.get? key with
  | none | some .null => some none
  | some held => held.asString?.map some

theorem optionalText?_eq_some {value : Json} {key : String} {text : Option String}
    (found : value.optionalText? key = some text) :
    value.get? key = text.map .string ∨ value.get? key = some .null ∧ text = none := by
  rw [optionalText?] at found
  split at found
  · next missing =>
      cases found
      exact .inl missing
  · next null =>
      cases found
      exact .inr ⟨null, rfl⟩
  · next held _ present =>
      cases held with
      | string text =>
          cases found
          exact .inl present
      | _ => cases found

theorem get?_of_textAt? {value : Json} {key text : String}
    (found : value.textAt? key = some text) : value.get? key = some (.string text) := by
  rw [textAt?, Option.bind_eq_some_iff] at found
  rcases found with ⟨held, present, isText⟩
  cases held with
  | string _ =>
      cases isText
      exact present
  | _ => cases isText

theorem exists_object_of_textAt? {value : Json} {key text : String}
    (held : value.textAt? key = some text) : ∃ members, value = .object members := by
  cases value with
  | object members => exact ⟨members, rfl⟩
  | _ => cases held

end Json

namespace ContentBlock

theorem ofJson_of_body? {members : List (String × Json)} {type : String}
    {body : Record (Object → ContentBlock)} (wellFormed : (Json.object members).WellFormed)
    (typed : (Json.object members).textAt? "type" = some type) (known : body? type = some body) :
    let fields := members.filter fun (key, _) => key != "type"
    ∃ others : Object,
      (∀ key, others.get? key = if key = "type" ∨ key ∈ body.keys then none
        else (Json.object members).get? key) ∧
      ofJson (.object members) =
        (((body.ofMembers (Document.ofMembers fields)).toOption.map (· others)).getD
          (.other (.object members))) := by
  intro fields
  have fieldsWellFormed : (Json.object fields).WellFormed := by
    rw [Json.WellFormed, Json.membersWellFormed_iff] at wellFormed ⊢
    refine ⟨wellFormed.1.sublist (List.filter_sublist.map Prod.fst), fun member inside => ?_⟩
    exact wellFormed.2 member (List.mem_filter.mp inside).1
  rcases Record.keepOthers_ofMembers fieldsWellFormed body.keys with ⟨others, kept, held⟩
  have found : ∀ key, others.get? key = if key = "type" ∨ key ∈ body.keys then none
      else (Json.object members).get? key := by
    intro key
    rw [Object.get?, held, Object.lookup_filter fun key => !body.keys.contains key,
      Object.lookup_filter fun key => key != "type", Json.get?]
    by_cases type : key = "type"
    · simp [type]
    · simp [type]
  refine ⟨others, found, ?_⟩
  have decoded : (body.decodeOpen "" (.ofJson (.object fields))).toOption =
      (body.ofMembers (Document.ofMembers fields)).toOption.map (· others) := by
    rw [Document.ofJson, Record.decodeOpen, kept]
    cases body.ofMembers (Document.ofMembers fields) <;> rfl
  rw [← decoded, ofJson]
  simp only [typed, known, Option.bind_eq_bind, Option.bind_some]
  rfl

/-! Texts among the members. -/

theorem toOption_string (held : Json) :
    (Decoder.string (.ofJson held)).toOption = held.asString? := by
  cases held <;> rfl

theorem lookup_body {members : List (String × Json)} {key : String} (other : key ≠ "type") :
    (Document.ofMembers (members.filter fun (key, _) => key != "type")).lookup key =
      ((Json.object members).get? key).map Document.ofJson := by
  rw [Document.lookup_ofMembers, Object.lookup_filter fun key => key != "type",
    if_pos (bne_iff_ne.mpr other), Json.get?]

theorem nodup_body {members : List (String × Json)}
    (wellFormed : (Json.object members).WellFormed) :
    ((Document.ofMembers (members.filter fun (key, _) => key != "type")).map Prod.fst).Nodup := by
  rw [Json.WellFormed] at wellFormed
  exact Document.nodup_ofMembers (wellFormed.1.sublist (List.filter_sublist.map Prod.fst))

section

variable {members : List (String × Json)} (wellFormed : (Json.object members).WellFormed)
include wellFormed

theorem toOption_defaultedText {key : String} (other : key ≠ "type") :
    ((Record.defaulted key .string "").ofMembers
      (Document.ofMembers (members.filter fun (key, _) => key != "type"))).toOption =
        (Json.object members).textOrEmpty? key := by
  rw [Record.defaulted, Record.toOption_ofMembers_field (nodup_body wellFormed), lookup_body other,
    Json.textOrEmpty?]
  cases (Json.object members).get? key with
  | none => rfl
  | some held => exact toOption_string held

theorem toOption_omissibleText {key : String} (other : key ≠ "type") :
    ((Record.omissible key .string).ofMembers
      (Document.ofMembers (members.filter fun (key, _) => key != "type"))).toOption =
        (Json.object members).optionalText? key := by
  rw [Record.omissible, Record.defaulted, Record.toOption_ofMembers_field (nodup_body wellFormed),
    lookup_body other, Json.optionalText?]
  cases (Json.object members).get? key with
  | none => rfl
  | some held => cases held <;> rfl

end

theorem typeName_ofJson (value : Json) : (ofJson value).typeName = value.textAt? "type" := by
  have typeName {type : String} {body : Record (Object → ContentBlock)}
      (known : body? type = some body) :
      body.Passes (fun _ => True) fun build => ∀ others, (build others).typeName = some type := by
    rw [body?.eq_def] at known
    split at known
    all_goals cases known
    all_goals
      repeat refine Record.passes_seq (fun _ => True) ?_ Record.passes_any_field
      refine Record.passes_pure ?_
      intros
      rfl
  rcases ofJson_cases value with
    kept | ⟨members, type, body, build, others, rfl, typed, known, built, read⟩
  · rw [kept, ContentBlock.typeName]
  · rw [read, typed, (typeName known).ofMembers _ build (fun _ _ => trivial) built others]

end ContentBlock

end ChatGateway
