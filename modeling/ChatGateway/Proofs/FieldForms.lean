import ChatGateway.Proofs.Blocks

namespace ChatGateway

/-! Fields as they are read and as they are written. Every field is written in a form of its
own, and every form leaves what it has written as it is. -/

/-! Fields and what they are read from. -/

/-- The decoder reads what is written for a value, and nothing else. -/
structure Decoder.Inverts {α : Type} (decode : Decoder α) (write : α → Json) : Prop where
  injective : Function.Injective write
  reads : ∀ held : Json, held.WellFormed → ∀ value,
    (decode (.ofJson held)).toOption = some value ↔ held = write value

namespace Decoder

theorem inverts_string : string.Inverts .string where
  injective _ _ equal := Json.string.inj equal
  reads held _ text := by
    rw [ContentBlock.toOption_string]
    cases held <;> simp [Json.asString?]

theorem inverts_bool : bool.Inverts .bool where
  injective _ _ equal := Json.bool.inj equal
  reads held _ value := by
    cases held <;> simp [Document.ofJson, bool, fails, Except.toOption]

theorem toOption_nullable {α : Type} (decode : Decoder α) (held : Json) :
    (nullable decode (.ofJson held)).toOption =
      if held = .null then some none else (decode (.ofJson held)).toOption.map some := by
  cases held with
  | null => rfl
  | _ =>
      rw [if_neg (by simp), Document.ofJson, nullable]
      · cases decode _ <;> rfl
      · nofun

theorem inverts_json : json.Inverts id where
  injective := Function.injective_id
  reads held wellFormed value := by
    rw [json, Document.value?_ofJson wellFormed]
    exact Option.some_inj

end Decoder

/-- How a member of a value is written again. -/
inductive MemberForm where
  /-- As it was. -/
  | plain
  /-- As it was, or as the default if it was missing. -/
  | defaulted (default : Json)
  /-- As it was, or not at all if it was null. -/
  | omissible
  /-- As the address of an image, without anything else that it held. -/
  | address

def ContentBlock.address (url : String) (detail : Option String) : Json :=
  .ofMembers (member "url" (.string url) ++ member? "detail" (detail.map .string))

/-- A value that tells the address of an image by its members, or in order by its items. -/
inductive ContentBlock.TellsAddress : Json → String → Option String → Prop where
  | members {members : List (String × Json)} {url : String} {detail : Option String}
      (atUrl : (Json.object members).get? "url" = some (.string url))
      (atDetail : (Json.object members).optionalText? "detail" = some detail) :
      TellsAddress (.object members) url detail
  | items (url : String) (detail : Option String) :
      TellsAddress (.array [.string url, .ofOption (detail.map .string)]) url detail

/-- What is held under a key, and what is written under it. -/
inductive MemberForm.Rewrites : MemberForm → Option Json → Option Json → Prop where
  | plain (held : Option Json) : Rewrites .plain held held
  | given (default held : Json) : Rewrites (.defaulted default) (some held) (some held)
  | missing (default : Json) : Rewrites (.defaulted default) none (some default)
  | absent : Rewrites .omissible none none
  | null : Rewrites .omissible (some .null) none
  | present {held : Json} (notNull : held ≠ .null) : Rewrites .omissible (some held) (some held)
  | address {held : Json} {url : String} {detail : Option String}
      (tells : ContentBlock.TellsAddress held url detail) :
      Rewrites .address (some held) (some (ContentBlock.address url detail))

namespace ContentBlock

theorem address_eq (url : String) (detail : Option String) :
    address url detail = .object (member? "detail" (detail.map .string) ++
      member "url" (.string url)) := by
  cases detail <;> rfl

theorem address_inj {url other : String} {detail further : Option String}
    (equal : address url detail = address other further) : url = other ∧ detail = further := by
  rw [address_eq, address_eq] at equal
  cases detail <;> cases further <;> simp_all [member, member?]

theorem tellsAddress_address (url : String) (detail : Option String) :
    TellsAddress (address url detail) url detail := by
  rw [address_eq]
  cases detail with
  | none => exact .members rfl rfl
  | some detail => exact .members rfl rfl

end ContentBlock

@[simp] theorem MemberForm.rewrites_plain_iff {held written : Option Json} :
    MemberForm.plain.Rewrites held written ↔ held = written := by
  constructor
  · intro rewrites
    cases rewrites
    rfl
  · intro equal
    rw [equal]
    exact .plain _

theorem MemberForm.Rewrites.again {form : MemberForm} {held written : Option Json}
    (rewrites : form.Rewrites held written) : form.Rewrites written written := by
  cases rewrites with
  | plain => exact .plain _
  | given => exact .given _ _
  | missing => exact .given _ _
  | absent => exact .absent
  | null => exact .absent
  | present notNull => exact .present notNull
  | address => exact .address (ContentBlock.tellsAddress_address _ _)

namespace Record

theorem ofMembers_seq_eq_some_iff {α β : Type} {members : List (String × Document)}
    {function : Record (α → β)} {argument : Record α} {result : β} :
    ((function <*> argument).ofMembers members).toOption = some result ↔
      ∃ build, (function.ofMembers members).toOption = some build ∧
        ∃ value, (argument.ofMembers members).toOption = some value ∧ build value = result := by
  rw [toOption_ofMembers_seq, Option.bind_eq_some_iff]
  simp only [Option.map_eq_some_iff]

theorem ofMembers_map_eq_some_iff {α β : Type} {members : List (String × Document)}
    {build : α → β} {argument : Record α} {result : β} :
    ((build <$> argument).ofMembers members).toOption = some result ↔
      ∃ value, (argument.ofMembers members).toOption = some value ∧ build value = result := by
  rw [toOption_ofMembers_map, Option.map_eq_some_iff]

structure Finds (documents : List (String × Document)) (name : String) (held : Option Json) :
    Prop where
  nodup : (documents.map Prod.fst).Nodup
  found : documents.lookup name = held.map Document.ofJson
  wellFormed : ∀ value ∈ held, value.WellFormed

section Fields

variable {α : Type} {documents : List (String × Document)} {name : String} {held : Option Json}
  {decode : Decoder α} {write : α → Json} (finds : Finds documents name held)
  (inverts : decode.Inverts write)

include finds inverts

theorem required_eq_some_iff (value : α) :
    ((required name decode).ofMembers documents).toOption = some value ↔
      MemberForm.plain.Rewrites held (some (write value)) := by
  rw [required, toOption_ofMembers_field finds.nodup, finds.found]
  cases held with
  | none => exact iff_of_false nofun nofun
  | some held =>
      refine (inverts.reads held (finds.wellFormed held rfl) value).trans ⟨?_, ?_⟩
      · intro equal
        rw [equal]
        exact .plain _
      · intro rewrites
        cases rewrites
        rfl

theorem defaulted_eq_some_iff (default value : α) :
    ((defaulted name decode default).ofMembers documents).toOption = some value ↔
      (MemberForm.defaulted (write default)).Rewrites held (some (write value)) := by
  rw [defaulted, toOption_ofMembers_field finds.nodup, finds.found]
  cases held with
  | none =>
      refine Option.some_inj.trans ⟨?_, ?_⟩
      · intro equal
        rw [equal]
        exact .missing _
      · intro rewrites
        generalize written : write value = other at rewrites
        cases rewrites
        exact (inverts.injective written).symm
  | some held =>
      refine (inverts.reads held (finds.wellFormed held rfl) value).trans ⟨?_, ?_⟩
      · intro equal
        rw [equal]
        exact .given _ _
      · intro rewrites
        cases rewrites
        rfl

theorem omissible_eq_some_iff (value : Option α) :
    ((omissible name decode).ofMembers documents).toOption = some value ↔
      MemberForm.omissible.Rewrites held (value.map write) := by
  rw [omissible, defaulted, toOption_ofMembers_field finds.nodup, finds.found]
  cases held with
  | none =>
      refine Option.some_inj.trans ⟨?_, ?_⟩
      · intro equal
        rw [← equal]
        exact .absent
      · intro rewrites
        cases value with
        | none => rfl
        | some value => cases rewrites
  | some held =>
      change (Decoder.nullable decode (.ofJson held)).toOption = some value ↔ _
      rw [Decoder.toOption_nullable]
      by_cases null : held = .null
      · subst null
        refine Option.some_inj.trans ⟨?_, ?_⟩
        · intro equal
          rw [← equal]
          exact .null
        · intro rewrites
          cases value with
          | none => rfl
          | some value =>
              rw [Option.map_some] at rewrites
              generalize write value = written at rewrites
              cases rewrites with
              | present notNull => exact absurd rfl notNull
      · rw [if_neg null, Option.map_eq_some_iff]
        have reads := inverts.reads held (finds.wellFormed held rfl)
        constructor
        · intro read
          rcases read with ⟨value, read, equal⟩
          rw [← equal, (reads value).mp read]
          exact .present ((reads value).mp read ▸ null)
        · intro rewrites
          cases value with
          | none =>
              cases rewrites
              exact absurd rfl null
          | some value =>
              refine ⟨value, (reads value).mpr ?_, rfl⟩
              cases rewrites
              rfl

theorem optional_eq_some_iff (value : Option α) :
    ((optional name decode).ofMembers documents).toOption = some value ↔
      MemberForm.omissible.Rewrites held (value.map write) :=
  omissible_eq_some_iff finds inverts value

end Fields

end Record

/-! Members of objects. -/

theorem Json.wellFormed_of_get? {value held : Json} {key : String} (wellFormed : value.WellFormed)
    (found : value.get? key = some held) : held.WellFormed := by
  cases value with
  | object members =>
      rw [WellFormed, membersWellFormed_iff] at wellFormed
      let object : Object := ⟨members, wellFormed.1⟩
      have inside : (key, held) ∈ object.members := Object.get?_eq_some_iff.mp found
      exact wellFormed.2 _ inside
  | _ => cases found

theorem Json.textAt?_eq_some_iff {value : Json} (wellFormed : value.WellFormed)
    {key text : String} : value.textAt? key = some text ↔
      ∃ members, value = .object members ∧ (key, .string text) ∈ members := by
  constructor
  · intro held
    rcases exists_object_of_textAt? held with ⟨members, rfl⟩
    rw [WellFormed] at wellFormed
    have nodup := Object.keys_nodup ⟨members, wellFormed.1⟩
    exact ⟨members, rfl, (lookup_eq_some_iff_mem nodup).mp (get?_of_textAt? held)⟩
  · intro held
    rcases held with ⟨members, rfl, inside⟩
    rw [WellFormed] at wellFormed
    have found : (object members).get? key = some (.string text) :=
      (lookup_eq_some_iff_mem (Object.keys_nodup ⟨members, wellFormed.1⟩)).mpr inside
    rw [textAt?, found]
    rfl

theorem Record.finds_ofMembers {members : List (String × Json)}
    (wellFormed : (Json.object members).WellFormed) (key : String) :
    Finds (Document.ofMembers members) key ((Json.object members).get? key) where
  nodup := by
    rw [Json.WellFormed] at wellFormed
    exact Document.nodup_ofMembers wellFormed.1
  found := Document.lookup_ofMembers members key
  wellFormed _ found := Json.wellFormed_of_get? wellFormed found

theorem Record.finds_body {members : List (String × Json)}
    (wellFormed : (Json.object members).WellFormed) (key : String) (other : key ≠ "type") :
    Finds (Document.ofMembers (members.filter fun (key, _) => key != "type")) key
      ((Json.object members).get? key) where
  nodup := ContentBlock.nodup_body wellFormed
  found := ContentBlock.lookup_body other
  wellFormed _ found := Json.wellFormed_of_get? wellFormed found

mutual
theorem Document.isWhole_ofJson : ∀ value : Json, (Document.ofJson value).isWhole = true
  | .null | .bool _ | .number _ | .string _ => rfl
  | .array items => Document.areWhole_ofItems items
  | .object members => Document.membersWhole_ofMembers members

theorem Document.areWhole_ofItems : ∀ items : List Json,
    Document.areWhole (Document.ofItems items) = true
  | [] => rfl
  | item :: rest => by
      rw [Document.ofItems, Document.areWhole, Document.isWhole_ofJson item,
        Document.areWhole_ofItems rest, Bool.and_self]

theorem Document.membersWhole_ofMembers : ∀ members : List (String × Json),
    Document.membersWhole (Document.ofMembers members) = true
  | [] => rfl
  | (_, value) :: rest => by
      rw [Document.ofMembers, Document.membersWhole, Document.isWhole_ofJson value,
        Document.membersWhole_ofMembers rest, Bool.and_self]
end

namespace Record

theorem mem_ofMembers {members : List (String × Json)} {document : String × Document}
    (member : document ∈ Document.ofMembers members) : ∃ value, document.2 = .ofJson value := by
  induction members with
  | nil => cases member
  | cons first rest induction =>
      rw [Document.ofMembers, List.mem_cons] at member
      rcases member with equal | later
      · rw [equal]
        exact ⟨_, rfl⟩
      · exact induction later

theorem skipOthers_ofMembers (keys : List String) (members : List (String × Json)) :
    skipOthers keys (Document.ofMembers members) = .ok () := by
  rw [skipOthers]
  split
  · next position skipped found =>
      have broken := List.find?_some found
      change (!skipped.2.isWhole) = true at broken
      have kept := List.mem_map_of_mem (f := Prod.snd) (List.mem_of_find?_eq_some found)
      rw [undeclared_snd] at kept
      rcases mem_ofMembers (List.mem_filter.mp kept).1 with ⟨value, equal⟩
      rw [equal, Document.isWhole_ofJson] at broken
      cases broken
  · rfl

theorem toOption_decode_object {α : Type} (record : Record α) (expected : String)
    (members : List (String × Json)) :
    (record.decode expected (.ofJson (.object members))).toOption =
      (record.ofMembers (Document.ofMembers members)).toOption := by
  rw [Document.ofJson, decode, decodeMembers, skipOthers_ofMembers]
  cases record.ofMembers (Document.ofMembers members) <;> rfl

end Record

theorem Json.optionalText?_eq_some_iff (value : Json) (key : String) (text : Option String) :
    value.optionalText? key = some text ↔
      MemberForm.omissible.Rewrites (value.get? key) (text.map .string) := by
  constructor
  · intro found
    rcases optionalText?_eq_some found with held | ⟨null, absent⟩
    · rw [held]
      cases text with
      | none => exact .absent
      | some text => exact .present (by simp)
    · rw [null, absent]
      exact .null
  · intro rewrites
    rw [optionalText?]
    generalize value.get? key = held at rewrites
    cases text with
    | none => cases rewrites <;> rfl
    | some text => cases rewrites; rfl

/-! Objects as they are written. -/

def Json.ofFields (fields : List (String × Option Json)) (extra : Object) : Json :=
  .ofMembers (fields.flatMap (fun (name, held) => member? name held) ++ extra.members)

namespace Json

variable {fields : List (String × Option Json)}

theorem lookup_present (nodup : (fields.map Prod.fst).Nodup) (key : String) :
    (fields.flatMap fun (name, held) => member? name held).lookup key =
      (fields.lookup key).join := by
  induction fields with
  | nil => rfl
  | cons first rest induction =>
      rcases first with ⟨name, held⟩
      rw [List.map_cons, List.nodup_cons] at nodup
      rw [List.flatMap_cons, List.lookup_append, lookup_member?, induction nodup.2,
        Object.lookup_cons_eq]
      by_cases equal : key = name
      · subst equal
        rw [lookup_eq_none_of_not_mem nodup.1, if_pos rfl, if_pos rfl]
        exact Option.or_none
      · rw [if_neg equal, if_neg equal, Option.none_or]

theorem nodup_present (nodup : (fields.map Prod.fst).Nodup) :
    ((fields.flatMap fun (name, held) => member? name held).map Prod.fst).Nodup := by
  refine nodup.sublist ?_
  clear nodup
  induction fields with
  | nil => exact .slnil
  | cons first rest induction =>
      rcases first with ⟨name, _ | held⟩
      · exact induction.cons _
      · exact induction.cons_cons _

theorem exists_object_ofFields (fields : List (String × Option Json)) (extra : Object) :
    ∃ object : Object, ofFields fields extra = object.toJson :=
  ⟨_, rfl⟩

theorem get?_ofFields (nodup : (fields.map Prod.fst).Nodup) (extra : Object) (key : String) :
    (ofFields fields extra).get? key = (extra.get? key).or (fields.lookup key).join := by
  have written : (ofFields fields extra).get? key = (Object.ofList
      (fields.flatMap (fun (name, held) => member? name held) ++ extra.members)).get? key := rfl
  rw [written, Object.get?_ofList_append, Object.lookup_reverse_of_nodup (nodup_present nodup),
    lookup_present nodup]

theorem get?_ofFields_field (nodup : (fields.map Prod.fst).Nodup) {extra : Object}
    {field : String × Option Json} (inside : field ∈ fields) (apart : extra.get? field.1 = none) :
    (ofFields fields extra).get? field.1 = field.2 := by
  rw [get?_ofFields nodup, apart, (lookup_eq_some_iff_mem nodup).mpr inside, Option.none_or,
    Option.join_some]

theorem get?_ofFields_other (nodup : (fields.map Prod.fst).Nodup) (extra : Object) {key : String}
    (noField : key ∉ fields.map Prod.fst) : (ofFields fields extra).get? key = extra.get? key := by
  rw [get?_ofFields nodup, lookup_eq_none_of_not_mem noField]
  exact Option.or_none

end Json

/-! What is written can be held. -/

theorem Json.wellFormed_ofFields {fields : List (String × Option Json)} {extra : Object}
    (fieldsHeld : ∀ field ∈ fields, ∀ value ∈ field.2, value.WellFormed)
    (extraHeld : extra.WellFormed) :
    (ofFields fields extra).WellFormed := by
  refine wellFormed_ofMembers fun member inside => ?_
  rcases List.mem_append.mp inside with present | further
  · rcases List.mem_flatMap.mp present with ⟨⟨name, _ | value⟩, inField, written⟩
    · cases written
    · rcases List.mem_singleton.mp written with rfl
      exact fieldsHeld _ inField value rfl
  · exact extraHeld member further

theorem wellFormed_string (text : String) : (Json.string text).WellFormed := by
  rw [Json.WellFormed]
  · exact trivial
  all_goals nofun

namespace ContentBlock

theorem wellFormed_address (url : String) (detail : Option String) :
    (address url detail).WellFormed := by
  refine Json.wellFormed_ofMembers ?_
  cases detail <;> simp [member, member?, wellFormed_string]

end ContentBlock

theorem MemberForm.Rewrites.wellFormed {form : MemberForm} {held written : Option Json}
    (rewrites : form.Rewrites held written) (heldWellFormed : ∀ value ∈ held, value.WellFormed)
    (defaultWellFormed : ∀ default, form = .defaulted default → default.WellFormed) :
    ∀ value ∈ written, value.WellFormed := by
  cases rewrites with
  | plain => exact heldWellFormed
  | given => exact heldWellFormed
  | missing default =>
      intro value equal
      cases equal
      exact defaultWellFormed _ rfl
  | absent => exact heldWellFormed
  | null => nofun
  | present => exact heldWellFormed
  | address =>
      intro value equal
      cases equal
      exact ContentBlock.wellFormed_address _ _

end ChatGateway
