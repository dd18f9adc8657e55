import ChatGateway.Messages.Answer
import ChatGateway.Proofs.ReadBack
import ChatGateway.Proofs.Records

namespace ChatGateway

/-! Values that were read are well-formed: an integer is only made of a literal that
fits 64 bits, and an object puts its members in order. Decoding hands such values on. -/

namespace Document

mutual
/-- The integers of the document have 64 bits. -/
def Bounded : Document → Prop
  | .number (.integer value) => FitsWord value
  | .array items => ItemsBounded items
  | .object members => MembersBounded members
  | _ => True

def ItemsBounded : List Document → Prop
  | [] => True
  | item :: rest => item.Bounded ∧ ItemsBounded rest

def MembersBounded : List (String × Document) → Prop
  | [] => True
  | (_, value) :: rest => value.Bounded ∧ MembersBounded rest
end

theorem itemsBounded_iff (items : List Document) :
    ItemsBounded items ↔ ∀ item ∈ items, item.Bounded := by
  induction items with
  | nil => simp [ItemsBounded]
  | cons item rest induction => rw [ItemsBounded, induction, List.forall_mem_cons]

theorem membersBounded_iff (members : List (String × Document)) :
    MembersBounded members ↔ ∀ member ∈ members, member.2.Bounded := by
  induction members with
  | nil => simp [MembersBounded]
  | cons member rest induction => rw [MembersBounded, induction, List.forall_mem_cons]

end Document

/-! Values of documents. -/

theorem Json.membersWellFormed_iff (members : List (String × Json)) :
    Json.MembersWellFormed members ↔ ∀ member ∈ members, member.2.WellFormed := by
  induction members with
  | nil => simp [Json.MembersWellFormed]
  | cons member rest induction =>
      rw [Json.MembersWellFormed, induction, List.forall_mem_cons]

theorem Json.itemsWellFormed_iff (items : List Json) :
    Json.ItemsWellFormed items ↔ ∀ item ∈ items, item.WellFormed := by
  induction items with
  | nil => simp [Json.ItemsWellFormed]
  | cons item rest induction => rw [Json.ItemsWellFormed, induction, List.forall_mem_cons]

namespace Object

theorem mem_place {key : String} {value : Json} {member : String × Json} :
    ∀ {members : List (String × Json)}, member ∈ place key value members →
      member = (key, value) ∨ member ∈ members
  | [], inside => .inl (List.mem_singleton.mp inside)
  | (other, present) :: rest, inside => by
      rw [place] at inside
      split at inside
      · exact List.mem_cons.mp inside
      · split at inside
        · rcases List.mem_cons.mp inside with equal | later
          · exact .inl equal
          · exact .inr (List.mem_cons_of_mem _ later)
        · rcases List.mem_cons.mp inside with equal | later
          · exact .inr (List.mem_cons.mpr (.inl equal))
          · exact (mem_place later).imp_right (List.mem_cons_of_mem _)

theorem mem_foldl_insert {member : String × Json} :
    ∀ (later : List (String × Json)) (object : Object),
      member ∈ (later.foldl (fun object (key, value) => object.insert key value) object).members →
        member ∈ object.members ∨ member ∈ later
  | [], _, present => .inl present
  | (key, value) :: rest, object, present => by
      rcases mem_foldl_insert rest _ present with earlier | later
      · rcases mem_place earlier with equal | before
        · exact .inr (List.mem_cons.mpr (.inl equal))
        · exact .inl before
      · exact .inr (List.mem_cons_of_mem _ later)

theorem mem_ofList {member : String × Json} {members : List (String × Json)}
    (inside : member ∈ (ofList members).members) : member ∈ members :=
  (mem_foldl_insert members empty inside).resolve_left List.not_mem_nil

def WellFormed (object : Object) : Prop :=
  ∀ member ∈ object.members, member.2.WellFormed

theorem wellFormed_empty : empty.WellFormed :=
  List.forall_mem_nil _

theorem wellFormed_ofList {members : List (String × Json)}
    (held : ∀ member ∈ members, member.2.WellFormed) : (ofList members).WellFormed :=
  fun member inside => held member (mem_ofList inside)

namespace WellFormed

variable {object : Object} (wellFormed : object.WellFormed)

include wellFormed

theorem toJson : object.toJson.WellFormed := by
  rw [Object.toJson, Json.WellFormed, Json.membersWellFormed_iff]
  exact ⟨object.ascending, wellFormed⟩

theorem get? {key : String} {value : Json} (found : object.get? key = some value) :
    value.WellFormed :=
  wellFormed (key, value) (get?_eq_some_iff.mp found)

theorem filter (keep : String → Bool) : (object.filter keep).WellFormed :=
  fun member inside => wellFormed member (List.mem_filter.mp inside).1

theorem insert (key : String) {value : Json} (held : value.WellFormed) :
    (object.insert key value).WellFormed := by
  intro member inside
  rcases mem_place inside with equal | before
  · rw [equal]
    exact held
  · exact wellFormed member before

end WellFormed

end Object

theorem Json.wellFormed_ofMembers {members : List (String × Json)}
    (held : ∀ member ∈ members, member.2.WellFormed) : (ofMembers members).WellFormed :=
  (Object.wellFormed_ofList held).toJson

mutual
theorem wellFormed_of_value? : ∀ {document : Document} {value : Json} (_ : document.Bounded)
    (_ : document.value? = some value), value.WellFormed
  | .null, _, _, valued => by
      cases valued
      trivial
  | .bool _, _, _, valued => by
      cases valued
      trivial
  | .number (.integer _), _, bounded, valued => by
      cases valued
      rw [Document.Bounded] at bounded
      rwa [Json.WellFormed]
  | .number (.float _), _, _, valued => by
      cases valued
      trivial
  | .string _, _, _, valued => by
      cases valued
      trivial
  | .array items, _, bounded, valued => by
      rw [Document.Bounded] at bounded
      rw [Document.value?, Option.map_eq_some_iff] at valued
      rcases valued with ⟨values, valued, rfl⟩
      exact wellFormed_of_values? bounded valued
  | .object members, _, bounded, valued => by
      rw [Document.Bounded] at bounded
      rw [Document.value?, Option.map_eq_some_iff] at valued
      rcases valued with ⟨values, valued, rfl⟩
      have all := wellFormed_of_memberValues? bounded valued
      rw [Json.membersWellFormed_iff] at all
      exact Json.wellFormed_ofMembers all

theorem wellFormed_of_values? : ∀ {items : List Document} {values : List Json}
    (_ : Document.ItemsBounded items) (_ : Document.values? items = some values),
      Json.ItemsWellFormed values
  | [], _, _, valued => by
      cases valued
      trivial
  | item :: rest, _, bounded, valued => by
      rw [Document.ItemsBounded] at bounded
      rw [Document.values?] at valued
      split at valued
      · next first others =>
          cases valued
          exact ⟨wellFormed_of_value? bounded.1 first, wellFormed_of_values? bounded.2 others⟩
      · cases valued

theorem wellFormed_of_memberValues? : ∀ {members : List (String × Document)}
    {values : List (String × Json)} (_ : Document.MembersBounded members)
    (_ : Document.memberValues? members = some values), Json.MembersWellFormed values
  | [], _, _, valued => by
      cases valued
      trivial
  | (key, value) :: rest, _, bounded, valued => by
      rw [Document.MembersBounded] at bounded
      rw [Document.memberValues?] at valued
      split at valued
      · next first others =>
          cases valued
          exact ⟨wellFormed_of_value? bounded.1 first,
            wellFormed_of_memberValues? bounded.2 others⟩
      · cases valued
end

theorem Document.wellFormed_of_held {written : List (String × Document)}
    {held : List (String × Json)} (bounded : ∀ member ∈ written, member.2.Bounded)
    (each : List.Forall₂ Held written held) : ∀ member ∈ held, member.2.WellFormed := by
  induction each with
  | nil => nofun
  | cons first _ induction =>
      rw [List.forall_mem_cons] at bounded ⊢
      exact ⟨wellFormed_of_value? bounded.1 first.2, induction bounded.2⟩

theorem Record.wellFormed_of_keepOthers {keys : List String} {members : List (String × Document)}
    {others : Object} (bounded : ∀ member ∈ members, member.2.Bounded)
    (kept : keepOthers keys members = .ok others) : others.WellFormed := by
  rcases held_of_keepOthers kept with ⟨held, each, rfl⟩
  apply Object.wellFormed_ofList
  exact Document.wellFormed_of_held
    (fun member inside => bounded member (List.mem_filter.mp inside).1) each

/-! Documents that are read. What a reader of one value gives is a hypothesis of the
readers that call it, until the induction on the fuel closes it. -/

theorem gatherDigits_lt (digits : List Char) {value : Nat} (below : value < Nat.pow 2 64) :
    (gatherDigits value digits).1 < Nat.pow 2 64 := by
  induction digits generalizing value with
  | nil => exact below
  | cons digit rest induction =>
      rw [gatherDigits]
      split
      · next fits => exact induction fits
      · exact below

theorem bounded_number_of_value? {literal : NumberLiteral} {found : Number}
    (valued : literal.value? = some found) : (Document.number found).Bounded := by
  cases found with
  | float value => trivial
  | integer value =>
      have below : (gatherDigits 0 literal.whole).1 < 18446744073709551616 :=
        gatherDigits_lt literal.whole (Nat.two_pow_pos 64)
      have half : Nat.pow 2 63 = 9223372036854775808 := rfl
      rw [Document.Bounded, fitsWord_iff]
      rw [NumberLiteral.value?] at valued
      dsimp only at valued
      split at valued
      · split at valued
        · cases valued
          omega
        · next negative =>
            split at valued
            · cases valued
            · next held =>
                cases valued
                omega
      · rcases Option.map_eq_some_iff.mp valued with ⟨_, _, equal⟩
        cases equal

theorem bounded_withinDepth {depth : Nat} {value : Document} (rest : Remaining)
    (bounded : value.Bounded) : (withinDepth depth value rest).1.Bounded := by
  rw [withinDepth]
  split
  · dsimp only
    split <;> trivial
  · exact bounded

theorem bounded_readString (input : List Char) : (readString input).1.Bounded := by
  rw [readString]
  split
  · trivial
  · split <;> trivial

section Parts

variable {readOne : List Char → Document × Remaining}
  (bounded : ∀ input, (readOne input).1.Bounded)

include bounded

theorem bounded_readItems (fuel : Nat) (input : List Char) :
    Document.ItemsBounded (readItems readOne fuel input).1 := by
  induction fuel generalizing input with
  | zero => exact ⟨trivial, trivial⟩
  | succ fuel induction =>
      have first := bounded input
      rw [readItems]
      split
      · next item ended =>
          rw [ended] at first
          exact ⟨first, trivial⟩
      · next item rest read =>
          rw [read] at first
          split
          · exact ⟨first, induction _⟩
          · exact ⟨first, trivial⟩
          · exact ⟨first, trivial, trivial⟩

theorem bounded_readMember (input : List Char) :
    (readMember readOne input).1.2.Bounded := by
  rw [readMember]
  split
  · split
    · split
      · exact bounded _
      · trivial
    · trivial
  · trivial

theorem bounded_readMembers (fuel : Nat) (input : List Char) :
    Document.MembersBounded (readMembers readOne fuel input).1 := by
  induction fuel generalizing input with
  | zero => exact ⟨trivial, trivial⟩
  | succ fuel induction =>
      have first := bounded_readMember bounded input
      rw [readMembers]
      split
      · next member ended =>
          rw [ended] at first
          exact ⟨first, trivial⟩
      · next member rest read =>
          rw [read] at first
          split
          · exact ⟨first, induction _⟩
          · exact ⟨first, trivial⟩
          · exact ⟨first, trivial, trivial⟩

end Parts

theorem bounded_readValue (fuel depth : Nat) (input : List Char) :
    (readValue fuel depth input).1.Bounded := by
  induction fuel generalizing depth input with
  | zero => trivial
  | succ fuel induction =>
      rw [readValue]
      split
      · trivial
      · trivial
      · trivial
      · exact bounded_readString _
      · split
        · exact bounded_withinDepth _ trivial
        · exact bounded_withinDepth _ (bounded_readItems (induction (depth - 1)) fuel _)
      · split
        · exact bounded_withinDepth _ trivial
        · exact bounded_withinDepth _ (bounded_readMembers (induction (depth - 1)) fuel _)
      · split
        · trivial
        · split
          · next valued => exact bounded_number_of_value? valued
          · trivial

theorem bounded_read (text : List Char) : (Document.read text).1.Bounded := by
  have bounded := bounded_readValue (text.length + 1) maximalDepth text
  rw [Document.read]
  split
  · next document rest read =>
      rw [read] at bounded
      exact bounded
  · next document read =>
      rw [read] at bounded
      exact bounded

/-- Every value that is read can be held. -/
theorem wellFormed_of_read {text : String} {value : Json} (read : Json.read text = some value) :
    value.WellFormed := by
  have bounded := bounded_read text.toList
  rw [Json.read] at read
  split at read
  · next document found =>
      rw [found] at bounded
      exact wellFormed_of_value? bounded read
  · cases read

/-! Values at hand are documents again when they are decoded. -/

mutual
theorem bounded_ofJson : ∀ {value : Json} (_ : value.WellFormed), (Document.ofJson value).Bounded
  | .null, _ => trivial
  | .bool _, _ => trivial
  | .number (.integer _), wellFormed => by
      rw [Json.WellFormed] at wellFormed
      rwa [Document.ofJson, Document.Bounded]
  | .number (.float _), _ => trivial
  | .string _, _ => trivial
  | .array items, wellFormed => by
      rw [Json.WellFormed] at wellFormed
      exact bounded_ofItems wellFormed
  | .object members, wellFormed => by
      rw [Json.WellFormed] at wellFormed
      exact bounded_ofMembers wellFormed.2

theorem bounded_ofItems : ∀ {items : List Json} (_ : Json.ItemsWellFormed items),
    Document.ItemsBounded (Document.ofItems items)
  | [], _ => trivial
  | _ :: _, wellFormed => ⟨bounded_ofJson wellFormed.1, bounded_ofItems wellFormed.2⟩

theorem bounded_ofMembers : ∀ {members : List (String × Json)}
    (_ : Json.MembersWellFormed members), Document.MembersBounded (Document.ofMembers members)
  | [], _ => trivial
  | _ :: _, wellFormed => ⟨bounded_ofJson wellFormed.1, bounded_ofMembers wellFormed.2⟩
end

/-! Decoding hands the values on. -/

theorem wellFormed_emptyObject : (Json.object []).WellFormed := by
  rw [Json.WellFormed]
  exact ⟨.nil, trivial⟩

theorem wellFormed_of_json {document : Document} {value : Json} (bounded : document.Bounded)
    (decoded : Decoder.json document = .ok value) : value.WellFormed := by
  rw [Decoder.json] at decoded
  split at decoded
  · next valued =>
      cases decoded
      exact wellFormed_of_value? bounded valued
  · cases decoded

/-- A value is kept, or it is an object that is read as the body of its type, with further
members beside it. -/
theorem ContentBlock.ofJson_cases (value : Json) :
    ofJson value = .other value ∨ ∃ members type body build others,
      value = .object members ∧ value.textAt? "type" = some type ∧ body? type = some body ∧
        body.ofMembers (Document.ofMembers (members.filter fun (key, _) => key != "type")) =
          .ok build ∧
        ofJson value = build others := by
  cases value with
  | object members =>
      cases typed : (Json.object members).textAt? "type" with
      | none =>
          refine .inl ?_
          rw [ofJson, typed]
          rfl
      | some type =>
          cases known : body? type with
          | none =>
              refine .inl ?_
              rw [ofJson, typed]
              simp only [Option.bind_eq_bind, Option.bind_some, known]
              rfl
          | some body =>
              have read : ofJson (.object members) =
                  (body.decodeOpen "" (.ofJson (.object (members.filter
                    fun (key, _) => key != "type")))).toOption.getD (.other (.object members)) := by
                rw [ofJson, typed]
                simp only [Option.bind_eq_bind, Option.bind_some, known]
              rw [read, Document.ofJson]
              cases made : body.decodeOpen "" (.object (Document.ofMembers (members.filter
                  fun (key, _) => key != "type"))) with
              | error fault => exact .inl rfl
              | ok block =>
                  rcases Record.decodeOpen_eq_ok made with ⟨build, others, built, _, rfl⟩
                  exact .inr ⟨members, type, body, build, others, rfl, rfl, known, built, rfl⟩
  | _ => exact .inl rfl

theorem Decoder.exists_bounded_of_ofText {α : Type} {decode : Decoder α} {text : List Char}
    {value : α} (decoded : ofText decode text = .ok value) :
    ∃ document : Document, document.Bounded ∧ decode document = .ok value := by
  refine ⟨(Document.read text).1, bounded_read text, ?_⟩
  rw [ofText] at decoded
  dsimp only at decoded
  split at decoded
  · cases decoded
  · next made =>
      split at decoded
      · cases decoded
        exact made
      · cases decoded

/-- All values that the decoder makes of bounded documents satisfy the property. -/
def Decoder.Makes {α : Type} (decode : Decoder α) (property : α → Prop) : Prop :=
  ∀ document value, document.Bounded → decode document = .ok value → property value

section Records

variable {α : Type} {record : Record α} {property : α → Prop}
  (passes : record.Passes Document.Bounded property)

include passes

theorem Record.Passes.of_decodeMembers {members : List (String × Document)} {value : α}
    (bounded : (Document.object members).Bounded)
    (decoded : record.decodeMembers members = .ok value) : property value := by
  rw [Document.Bounded, Document.membersBounded_iff] at bounded
  rw [Record.decodeMembers] at decoded
  split at decoded
  · next both =>
      cases decoded
      exact passes.ofMembers members _ bounded (Record.ok_of_earliest both).1
  · cases decoded

theorem Record.Passes.of_decodeItems {items : List Document} {expected : String}
    {excess : Nat → DecodeFault} {value : α} (bounded : (Document.array items).Bounded)
    (decoded : record.decodeItems expected excess items = .ok value) : property value := by
  rw [Document.Bounded, Document.itemsBounded_iff] at bounded
  rw [Record.decodeItems] at decoded
  split at decoded
  · cases decoded
  · next made =>
      cases decoded
      exact (passes.ofItems _ _ items _ _ bounded made).1
  · cases decoded

theorem Record.Passes.makes_decode (expected : String) :
    Decoder.Makes (record.decode expected) property := by
  intro document value bounded decoded
  cases document with
  | object members => exact passes.of_decodeMembers bounded decoded
  | array items => exact passes.of_decodeItems bounded decoded
  | _ => cases decoded

theorem Record.Passes.makes_decodeBody (expected : String) :
    Decoder.Makes (record.decodeBody expected) property := by
  intro document value bounded decoded
  cases document with
  | object members => exact passes.of_decodeMembers bounded decoded
  | array items =>
      rw [Record.decodeBody] at decoded
      exact passes.of_decodeItems bounded decoded
  | _ => cases decoded

end Records

theorem exists_received_of_decode {document : Document} {block : ContentBlock}
    (bounded : document.Bounded) (decoded : ContentBlock.decode document = .ok block) :
    ∃ value : Json, value.WellFormed ∧ block = .ofJson value := by
  rw [ContentBlock.decode] at decoded
  cases given : Decoder.json document with
  | error fault =>
      rw [given] at decoded
      cases decoded
  | ok value =>
      rw [given] at decoded
      cases decoded
      exact ⟨value, wellFormed_of_json bounded given, rfl⟩

structure ContentBlock.MadeOf (blocks : List ContentBlock) (received : List Json) : Prop where
  wellFormed : ∀ value ∈ received, value.WellFormed
  equal : blocks = received.map ofJson

theorem exists_received_of_items {items : List Document} {blocks : List ContentBlock}
    (bounded : ∀ item ∈ items, item.Bounded)
    (each : List.Forall₂ (fun item block => ContentBlock.decode item = .ok block) items blocks) :
    ∃ received, ContentBlock.MadeOf blocks received := by
  induction each with
  | nil => exact ⟨[], List.forall_mem_nil _, rfl⟩
  | cons decoded _ induction =>
      rw [List.forall_mem_cons] at bounded
      rcases exists_received_of_decode bounded.1 decoded with ⟨value, wellFormed, rfl⟩
      rcases induction bounded.2 with ⟨received, allWellFormed, rfl⟩
      exact ⟨value :: received, List.forall_mem_cons.mpr ⟨wellFormed, allWellFormed⟩, rfl⟩

theorem exists_received_of_answer_read {text : List Char} {answer : Answer}
    (decoded : Decoder.ofText Answer.decode text = .ok answer) :
    ∃ received, ContentBlock.MadeOf answer.content received := by
  have content : Answer.fields.Passes Document.Bounded fun answer =>
      ∃ received, ContentBlock.MadeOf answer.content received := by
    refine Record.passes_seq (fun _ => True) ?_ Record.passes_any_field
    refine Record.passes_seq (fun _ => True) ?_ Record.passes_any_field
    refine Record.passes_seq (fun _ => True) ?_ Record.passes_any_field
    refine Record.passes_seq (fun _ => True) ?_ Record.passes_any_field
    refine Record.passes_seq (fun content => ∃ received, ContentBlock.MadeOf content received) ?_
      (Record.passes_field ?_ ?_ ?_)
    · repeat refine Record.passes_seq (fun _ => True) ?_ Record.passes_any_field
      exact Record.passes_pure fun _ _ _ _ _ _ _ held _ _ _ _ _ _ _ _ => held
    · intro document blocks bounded decoded
      cases document with
      | array items =>
          rw [Document.Bounded, Document.itemsBounded_iff] at bounded
          exact exists_received_of_items bounded (forall₂_of_mapM_eq_ok decoded)
      | _ => cases decoded
    · intro blocks absent
      cases absent
      exact ⟨[], List.forall_mem_nil _, rfl⟩
    · intro blocks omitted
      cases omitted
      exact ⟨[], List.forall_mem_nil _, rfl⟩
  rcases Decoder.exists_bounded_of_ofText decoded with ⟨document, bounded, made⟩
  exact content.makes_decode _ document answer bounded made

end ChatGateway
