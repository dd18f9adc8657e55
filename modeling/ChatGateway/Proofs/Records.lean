import ChatGateway.Decoding
import Mathlib.Data.List.Forall2

namespace ChatGateway

/-! What decoding makes of the members and items of a record: which of them are kept as
they are, and what is known of the fields when it is known of all that they are made
of. -/

/-! Objects as they are looked up. -/

theorem lookup_isSome_iff_mem {α : Type} {key : String} :
    ∀ {members : List (String × α)},
      (members.lookup key).isSome ↔ key ∈ members.map Prod.fst
  | [] => by simp
  | (other, value) :: rest => by
      rw [Object.lookup_cons_eq, List.map_cons, List.mem_cons, ← lookup_isSome_iff_mem]
      by_cases equal : key = other <;> simp [equal]

theorem lookup_eq_none_of_not_mem {α : Type} {key : String} {members : List (String × α)}
    (absent : key ∉ members.map Prod.fst) : members.lookup key = none := by
  rw [← Option.not_isSome_iff_eq_none, lookup_isSome_iff_mem]
  exact absent

theorem lookup_eq_some_iff_mem {α : Type} {members : List (String × α)} {key : String} {value : α}
    (nodup : (members.map Prod.fst).Nodup) :
    members.lookup key = some value ↔ (key, value) ∈ members := by
  rw [List.lookup_eq_some_iff]
  constructor
  · rintro ⟨front, back, split, -⟩
    rw [split]
    exact List.mem_append_right _ List.mem_cons_self
  · intro inside
    rcases List.append_of_mem inside with ⟨front, back, split⟩
    refine ⟨front, back, split, fun member before => ?_⟩
    rw [split, List.map_append, List.map_cons, List.nodup_append] at nodup
    rw [bne_iff_ne]
    exact (nodup.2.2 member.1 (List.mem_map_of_mem before) key List.mem_cons_self).symm

namespace Object

theorem mem_keys_iff {object : Object} {key : String} :
    key ∈ object.keys ↔ (object.get? key).isSome :=
  lookup_isSome_iff_mem.symm

theorem get?_foldl_insert (key : String) :
    ∀ (members : List (String × Json)) (object : Object),
      (members.foldl (fun object (key, value) => object.insert key value) object).get? key =
        (members.reverse.lookup key).or (object.get? key)
  | [], object => by simp
  | (other, value) :: rest, object => by
      rw [List.foldl_cons, get?_foldl_insert key rest, get?_insert, List.reverse_cons,
        List.lookup_append, Option.or_assoc, lookup_cons_eq]
      split <;> simp

theorem get?_ofList (members : List (String × Json)) (key : String) :
    (ofList members).get? key = members.reverse.lookup key := by
  rw [ofList, get?_foldl_insert]
  exact Option.or_none

theorem lookup_reverse_of_nodup {members : List (String × Json)}
    (nodup : (members.map Prod.fst).Nodup) (key : String) :
    members.reverse.lookup key = members.lookup key := by
  induction members with
  | nil => rfl
  | cons first rest induction =>
      rcases first with ⟨other, value⟩
      rw [List.map_cons, List.nodup_cons] at nodup
      rw [List.reverse_cons, List.lookup_append, induction nodup.2, lookup_cons_eq,
        lookup_cons_eq]
      by_cases equal : key = other
      · subst equal
        rw [lookup_eq_none_of_not_mem nodup.1, if_pos rfl, if_pos rfl, Option.none_or]
      · rw [if_neg equal, if_neg equal, List.lookup_nil, Option.or_none]

theorem get?_ofList_append (members : List (String × Json)) (extra : Object) (key : String) :
    (ofList (members ++ extra.members)).get? key =
      (extra.get? key).or (members.reverse.lookup key) := by
  rw [get?_ofList, List.reverse_append, List.lookup_append,
    lookup_reverse_of_nodup extra.keys_nodup, get?]

theorem get?_eq_some_iff {object : Object} {key : String} {value : Json} :
    object.get? key = some value ↔ (key, value) ∈ object.members :=
  lookup_eq_some_iff_mem object.keys_nodup

theorem eq_of_get? {left right : Object} (same : ∀ key, left.get? key = right.get? key) :
    left = right := by
  have ordered (object : Object) : object.members.Pairwise (·.1 < ·.1) :=
    List.pairwise_map.mp object.ascending
  have nodup (object : Object) : object.members.Nodup := by
    refine (ordered object).imp ?_
    rintro member other before rfl
    exact String.lt_irrefl _ before
  have sameMembers : left.members.Perm right.members := by
    rw [List.perm_ext_iff_of_nodup (nodup left) (nodup right)]
    intro member
    rw [← get?_eq_some_iff, ← get?_eq_some_iff, same]
  have equal : left.members = right.members :=
    sameMembers.eq_of_pairwise (fun _ _ _ _ before after => absurd after (String.lt_asymm before))
      (ordered left) (ordered right)
  cases left
  cases right
  cases equal
  rfl

theorem ofList_members (object : Object) : ofList object.members = object := by
  apply eq_of_get?
  intro key
  rw [get?_ofList, lookup_reverse_of_nodup object.keys_nodup, get?]

theorem get?_eraseAll (object : Object) (keys : List String) (key : String) :
    (object.eraseAll keys).get? key = if key ∈ keys then none else object.get? key := by
  rw [eraseAll, get?_filter]
  by_cases erased : key ∈ keys <;> simp [erased]

end Object

/-! Results. -/

theorem eq_ok_of_toOption_eq_some {ε α : Type} {result : Except ε α} {value : α}
    (held : result.toOption = some value) : result = .ok value := by
  cases result with
  | error => cases held
  | ok => cases held; rfl

/-! Members that are written. -/

theorem lookup_member (key other : String) (value : Json) :
    (member key value).lookup other = if other = key then some value else none :=
  Object.lookup_cons_eq other key value []

theorem lookup_member? (key other : String) (value : Option Json) :
    (member? key value).lookup other = if other = key then value else none := by
  cases value with
  | none => simp [member?]
  | some value => exact lookup_member key other value

theorem forall₂_of_mapM_eq_ok {ε α β : Type} {decode : α → Except ε β} :
    ∀ {items : List α} {values : List β}, items.mapM decode = .ok values →
      List.Forall₂ (fun item value => decode item = .ok value) items values
  | [], values, read => by
      rw [List.mapM_nil] at read
      cases read
      exact .nil
  | item :: rest, values, read => by
      rw [List.mapM_cons] at read
      cases first : decode item with
      | error fault =>
          rw [first] at read
          cases read
      | ok value =>
          rw [first] at read
          cases others : rest.mapM decode with
          | error fault =>
              rw [others] at read
              cases read
          | ok tail =>
              rw [others] at read
              cases read
              exact .cons first (forall₂_of_mapM_eq_ok others)

namespace Document

/-- A member that was kept, beside the member that it was read from. -/
def Held (written : String × Document) (held : String × Json) : Prop :=
  held.1 = written.1 ∧ written.2.value? = some held.2

/-- What the members hold under `key`. Of several members the last counts. -/
def valueAt? (members : List (String × Document)) (key : String) : Option Json :=
  (members.reverse.lookup key).bind value?

theorem lookup_of_held {written : List (String × Document)} {held : List (String × Json)}
    (each : List.Forall₂ Held written held) (key : String) :
    held.lookup key = (written.lookup key).bind value? := by
  induction each with
  | nil => rfl
  | @cons document pair _ _ first _ induction =>
      rcases document with ⟨name, document⟩
      rcases pair with ⟨_, value⟩
      rcases first with ⟨rfl, valued⟩
      rw [Object.lookup_cons_eq, Object.lookup_cons_eq, induction]
      split
      · exact valued.symm
      · rfl

theorem keys_of_held {written : List (String × Document)} {held : List (String × Json)}
    (each : List.Forall₂ Held written held) :
    held.map Prod.fst = written.map Prod.fst := by
  induction each with
  | nil => rfl
  | cons first _ induction => rw [List.map_cons, List.map_cons, first.1, induction]

end Document

namespace Record

/-! What a record makes of the members that it does not declare. -/

theorem undeclared_snd (keys : List String) :
    ∀ (members : List (String × Document)) (position : Nat),
      (undeclared keys position members).map Prod.snd =
        members.filter fun (key, _) => !keys.contains key
  | [], _ => rfl
  | (key, document) :: rest, position => by
      rw [undeclared, List.filter_cons]
      by_cases declared : key ∈ keys <;> simp [declared, undeclared_snd keys rest]

theorem held_of_keep {found : List (Nat × String × Document)} {kept : List (String × Json)}
    (read : found.mapM keepOthers.keep = .ok kept) :
    List.Forall₂ Document.Held (found.map Prod.snd) kept := by
  rw [List.forall₂_map_left_iff]
  refine (forall₂_of_mapM_eq_ok read).imp ?_
  rintro ⟨position, key, document⟩ ⟨name, value⟩ held
  rw [keepOthers.keep] at held
  cases valued : document.value? with
  | none =>
      rw [valued] at held
      cases held
  | some found =>
      rw [valued] at held
      cases held
      exact ⟨rfl, valued⟩

variable {keys : List String} {members : List (String × Document)} {others : Object}

theorem held_of_keepOthers (read : keepOthers keys members = .ok others) :
    ∃ kept, List.Forall₂ Document.Held (members.filter fun (key, _) => !keys.contains key) kept ∧
      others = Object.ofList kept := by
  rw [keepOthers] at read
  cases found : (undeclared keys 0 members).mapM keepOthers.keep with
  | error fault =>
      rw [found] at read
      cases read
  | ok kept =>
      rw [found] at read
      cases read
      have each := held_of_keep found
      rw [undeclared_snd] at each
      exact ⟨kept, each, rfl⟩

theorem get?_of_keepOthers (read : keepOthers keys members = .ok others) (key : String) :
    others.get? key = if keys.contains key then none else Document.valueAt? members key := by
  rcases held_of_keepOthers read with ⟨kept, each, rfl⟩
  rw [Object.get?_ofList, Document.lookup_of_held (List.forall₂_reverse_iff.mpr each),
    ← List.filter_reverse, Object.lookup_filter fun key => !keys.contains key]
  cases keys.contains key <;> rfl

theorem isSome_of_keepOthers (read : keepOthers keys members = .ok others) {key : String}
    (present : key ∈ members.map Prod.fst) (undeclared : key ∉ keys) :
    (others.get? key).isSome := by
  rcases held_of_keepOthers read with ⟨kept, each, rfl⟩
  rw [Object.get?_ofList, lookup_isSome_iff_mem, List.map_reverse, List.mem_reverse,
    Document.keys_of_held each, List.mem_map]
  rcases List.mem_map.mp present with ⟨written, member, rfl⟩
  refine ⟨written, List.mem_filter.mpr ⟨member, ?_⟩, rfl⟩
  simpa using undeclared

theorem ok_of_earliest {α β : Type} {first : Except (Nat × DecodeFault) α}
    {second : Except (Nat × DecodeFault) β} {values : α × β}
    (both : earliest first second = .ok values) :
    first = .ok values.1 ∧ second = .ok values.2 := by
  cases first <;> cases second <;> cases both
  exact ⟨rfl, rfl⟩

theorem decodeOpen_eq_ok {α : Type} {record : Record (Object → α)} {expected : String}
    {members : List (String × Document)} {result : α}
    (decoded : record.decodeOpen expected (.object members) = .ok result) :
    ∃ build others, record.ofMembers members = .ok build ∧
      keepOthers record.keys members = .ok others ∧ result = build others := by
  rw [decodeOpen] at decoded
  split at decoded
  · next build others both =>
      cases decoded
      exact ⟨build, others, (ok_of_earliest both).1, (ok_of_earliest both).2, rfl⟩
  · cases decoded

/-! What all parts of a record are made of. -/

/-- From members and items that are `taken`, the record only makes what satisfies
`property`, and it leaves only such items over. -/
structure Passes {α : Type} (record : Record α) (taken : Document → Prop)
    (property : α → Prop) : Prop where
  ofMembers : ∀ members value, (∀ member ∈ members, taken member.2) →
    record.ofMembers members = .ok value → property value
  ofItems : ∀ expected position items value rest, (∀ item ∈ items, taken item) →
    record.ofItems expected position items = .ok (value, rest) →
      property value ∧ ∀ item ∈ rest, taken item

variable {α β : Type} {taken : Document → Prop}

theorem passes_pure {property : α → Prop} {value : α} (holds : property value) :
    (pure value : Record α).Passes taken property where
  ofMembers members result _ read := by
    cases read
    exact holds
  ofItems expected position items result rest allTaken read := by
    cases read
    exact ⟨holds, allTaken⟩

theorem seq_eq_apply (function : Record (α → β)) (argument : Record α) :
    function <*> argument = apply function argument := rfl

theorem passes_seq {function : Record (α → β)} {argument : Record α} {property : β → Prop}
    (accepted : α → Prop)
    (builds : function.Passes taken fun build => ∀ value, accepted value → property (build value))
    (accepts : argument.Passes taken accepted) : (function <*> argument).Passes taken property where
  ofMembers members result allTaken read := by
    rw [seq_eq_apply, apply] at read
    dsimp only at read
    cases given : earliest (function.ofMembers members) (argument.ofMembers members) with
    | error fault =>
        rw [given] at read
        cases read
    | ok values =>
        rw [given] at read
        cases read
        rcases ok_of_earliest given with ⟨built, argued⟩
        exact builds.ofMembers members _ allTaken built _
          (accepts.ofMembers members _ allTaken argued)
  ofItems expected position items result rest allTaken read := by
    rw [seq_eq_apply, apply] at read
    dsimp only at read
    cases built : function.ofItems expected position items with
    | error fault =>
        rw [built] at read
        cases read
    | ok found =>
        rcases found with ⟨build, between⟩
        rw [built] at read
        dsimp only at read
        rcases builds.ofItems expected position items build between allTaken built with
          ⟨holds, betweenTaken⟩
        cases argued : argument.ofItems expected (position + function.size) between with
        | error fault =>
            rw [argued] at read
            cases read
        | ok found =>
            rcases found with ⟨value, after⟩
            rw [argued] at read
            cases read
            rcases accepts.ofItems expected _ between value after betweenTaken argued with
              ⟨valueAccepted, afterTaken⟩
            exact ⟨holds value valueAccepted, afterTaken⟩

theorem mem_of_mem_occurrences {keys : List String} {found : Nat × Document} :
    ∀ {members : List (String × Document)} {position : Nat},
      found ∈ occurrences keys position members → ∃ key, (key, found.2) ∈ members
  | [], _, inside => nomatch inside
  | (key, value) :: rest, position, inside => by
      rw [occurrences] at inside
      split at inside
      · rcases List.mem_cons.mp inside with rfl | later
        · exact ⟨key, List.mem_cons_self⟩
        · rcases mem_of_mem_occurrences later with ⟨other, member⟩
          exact ⟨other, List.mem_cons_of_mem _ member⟩
      · rcases mem_of_mem_occurrences inside with ⟨other, member⟩
        exact ⟨other, List.mem_cons_of_mem _ member⟩

/-- A field only makes what its decoder makes, or what stands for its absence. -/
theorem passes_field {name : String} {aliases : List String} {decode : Decoder α}
    {absent : Except DecodeFault α} {omitted : Option α} {property : α → Prop}
    (decoded : ∀ document value, taken document → decode document = .ok value → property value)
    (ofAbsent : ∀ value, absent = .ok value → property value)
    (ofOmitted : ∀ value, omitted = some value → property value) :
    (field name aliases decode absent omitted).Passes taken property where
  ofMembers members value allTaken read := by
    rw [field] at read
    dsimp only at read
    split at read
    · cases absent with
      | error fault => cases read
      | ok value =>
          cases read
          exact ofAbsent _ rfl
    · next position document found =>
        have inside : (position, document) ∈ occurrences (name :: aliases) 0 members := by
          rw [found]
          exact List.mem_singleton_self _
        rcases mem_of_mem_occurrences inside with ⟨key, member⟩
        cases made : decode document with
        | error fault =>
            rw [made] at read
            cases read
        | ok value =>
            rw [made] at read
            cases read
            exact decoded document _ (allTaken _ member) made
    · split at read <;> cases read
  ofItems expected position items value rest allTaken read := by
    rw [field] at read
    dsimp only at read
    split at read
    · next item after =>
        rw [List.forall_mem_cons] at allTaken
        cases made : decode item with
        | error fault =>
            rw [made] at read
            cases read
        | ok value =>
            rw [made] at read
            cases read
            exact ⟨decoded item _ allTaken.1 made, allTaken.2⟩
    · cases read
      exact ⟨ofOmitted _ rfl, allTaken⟩
    · cases read

theorem passes_any_field {name : String} {aliases : List String} {decode : Decoder α}
    {absent : Except DecodeFault α} {omitted : Option α} :
    (field name aliases decode absent omitted).Passes taken fun _ => True :=
  passes_field (fun _ _ _ _ => trivial) (fun _ _ => trivial) (fun _ _ => trivial)

end Record

end ChatGateway
