namespace ChatGateway

/-! JSON values. An object of a value that was decoded lists its members by
ascending key and names no key twice; `Object` is that list together with the
proof, and is what the records of this library keep their further keys in. -/

/-- An integer literal between -2^63 and 2^64 - 1 stays an integer; every other
number is a double. -/
inductive Number where
  | integer (value : Int)
  | float (value : Float)
  deriving DecidableEq, Inhabited

inductive Json where
  | null
  | bool (value : Bool)
  | number (value : Number)
  | string (text : String)
  | array (items : List Json)
  | object (members : List (String × Json))
  deriving Inhabited

namespace Json

mutual
def decEq : (left right : Json) → Decidable (left = right)
  | .null, .null => isTrue rfl
  | .bool left, .bool right =>
      decidable_of_iff (left = right) (by simp)
  | .number left, .number right =>
      decidable_of_iff (left = right) (by simp)
  | .string left, .string right =>
      decidable_of_iff (left = right) (by simp)
  | .array left, .array right =>
      match decEqItems left right with
      | isTrue equal => isTrue (by rw [equal])
      | isFalse different => isFalse (by simpa using different)
  | .object left, .object right =>
      match decEqMembers left right with
      | isTrue equal => isTrue (by rw [equal])
      | isFalse different => isFalse (by simpa using different)
  | .null, .bool _ | .null, .number _ | .null, .string _ | .null, .array _
  | .null, .object _ | .bool _, .null | .bool _, .number _ | .bool _, .string _
  | .bool _, .array _ | .bool _, .object _ | .number _, .null | .number _, .bool _
  | .number _, .string _ | .number _, .array _ | .number _, .object _
  | .string _, .null | .string _, .bool _ | .string _, .number _
  | .string _, .array _ | .string _, .object _ | .array _, .null
  | .array _, .bool _ | .array _, .number _ | .array _, .string _
  | .array _, .object _ | .object _, .null | .object _, .bool _
  | .object _, .number _ | .object _, .string _ | .object _, .array _ =>
      isFalse nofun

def decEqItems : (left right : List Json) → Decidable (left = right)
  | [], [] => isTrue rfl
  | [], _ :: _ | _ :: _, [] => isFalse nofun
  | left :: lefts, right :: rights =>
      match decEq left right, decEqItems lefts rights with
      | isTrue head, isTrue tail => isTrue (by rw [head, tail])
      | isFalse different, _ => isFalse (by simp [different])
      | _, isFalse different => isFalse (by simp [different])

def decEqMembers : (left right : List (String × Json)) → Decidable (left = right)
  | [], [] => isTrue rfl
  | [], _ :: _ | _ :: _, [] => isFalse nofun
  | (leftKey, left) :: lefts, (rightKey, right) :: rights =>
      match decEq left right, decEqMembers lefts rights with
      | isTrue head, isTrue tail =>
          if key : leftKey = rightKey then isTrue (by rw [key, head, tail])
          else isFalse (by simp [key])
      | isFalse different, _ => isFalse (by simp [different])
      | _, isFalse different => isFalse (by simp [different])
end

instance : DecidableEq Json := decEq

def ofNat (value : Nat) : Json := .number (.integer value)

def get? (value : Json) (key : String) : Option Json :=
  match value with
  | .object members => members.lookup key
  | _ => none

def asString? : Json → Option String
  | .string text => some text
  | _ => none

def isObject : Json → Bool
  | .object _ => true
  | _ => false

def textAt? (value : Json) (key : String) : Option String :=
  (value.get? key).bind asString?

end Json

/-! Objects. Keys are compared by code points, which is also the order of their
UTF-8 bytes. -/

structure Object where
  members : List (String × Json)
  ascending : (members.map Prod.fst).Pairwise (· < ·)
  deriving DecidableEq

namespace Object

def empty : Object := ⟨[], .nil⟩

instance : Inhabited Object := ⟨empty⟩

/-- Puts a member in its place; a member that had the key gives way. -/
def place (key : String) (value : Json) :
    List (String × Json) → List (String × Json)
  | [] => [(key, value)]
  | (other, present) :: rest =>
      if key < other then (key, value) :: (other, present) :: rest
      else if key = other then (key, value) :: rest
      else (other, present) :: place key value rest

theorem mem_keys_place {key other : String} {value : Json} :
    ∀ {members : List (String × Json)},
      other ∈ (place key value members).map Prod.fst ↔
        other = key ∨ other ∈ members.map Prod.fst
  | [] => by simp [place]
  | (present, held) :: rest => by
      unfold place
      split
      · simp
      · split
        · rename_i equal
          simp [equal]
        · simp only [List.map_cons, List.mem_cons, mem_keys_place]
          constructor
          · rintro (here | here | there) <;> simp_all
          · rintro (here | here | there) <;> simp_all

theorem place_ascending {key : String} {value : Json} :
    ∀ {members : List (String × Json)},
      (members.map Prod.fst).Pairwise (· < ·) →
        ((place key value members).map Prod.fst).Pairwise (· < ·)
  | [], _ => by simp [place]
  | (other, present) :: rest, ascending => by
      simp only [List.map_cons, List.pairwise_cons] at ascending
      rcases ascending with ⟨above, restAscending⟩
      unfold place
      split
      · rename_i before
        simp only [List.map_cons, List.pairwise_cons, List.mem_cons]
        refine ⟨?_, above, restAscending⟩
        rintro next (rfl | member)
        · exact before
        · exact String.lt_trans before (above next member)
      · split
        · rename_i equal
          subst equal
          simp only [List.map_cons, List.pairwise_cons]
          exact ⟨above, restAscending⟩
        · rename_i notBefore notEqual
          simp only [List.map_cons, List.pairwise_cons]
          refine ⟨?_, place_ascending restAscending⟩
          intro next member
          rcases mem_keys_place.mp member with rfl | member
          · rcases Std.lt_trichotomy next other with before | equal | after
            · exact absurd before notBefore
            · exact absurd equal notEqual
            · exact after
          · exact above next member

def insert (object : Object) (key : String) (value : Json) : Object :=
  ⟨place key value object.members, place_ascending object.ascending⟩

/-- The object of a list of members; of two with one key the later stays. -/
def ofList (members : List (String × Json)) : Object :=
  members.foldl (fun object (key, value) => object.insert key value) empty

def get? (object : Object) (key : String) : Option Json :=
  object.members.lookup key

def keys (object : Object) : List String :=
  object.members.map Prod.fst

def contains (object : Object) (key : String) : Bool :=
  object.keys.contains key

def filter (object : Object) (keep : String → Bool) : Object where
  members := object.members.filter fun (key, _) => keep key
  ascending := object.ascending.sublist (List.filter_sublist.map Prod.fst)

def erase (object : Object) (key : String) : Object :=
  object.filter (· != key)

def eraseAll (object : Object) (keys : List String) : Object :=
  object.filter fun key => !keys.contains key

def isEmpty (object : Object) : Bool :=
  object.members.isEmpty

def toJson (object : Object) : Json :=
  .object object.members

/-! What is found after a member was put in, or members were filtered. -/

theorem lookup_cons_eq {α : Type} (key other : String) (value : α)
    (members : List (String × α)) :
    ((other, value) :: members).lookup key =
      if key = other then some value else members.lookup key := by
  rw [List.lookup_cons]
  by_cases equal : key = other
  · simp [equal]
  · rw [beq_false_of_ne equal, if_neg equal]

theorem lookup_place {key other : String} {value : Json} :
    ∀ {members : List (String × Json)},
      (place key value members).lookup other =
        if other = key then some value else members.lookup other
  | [] => by rw [place, lookup_cons_eq]
  | (present, held) :: rest => by
      unfold place
      split
      · rw [lookup_cons_eq]
      · split
        · rename_i equal
          subst equal
          by_cases same : other = key <;> simp [lookup_cons_eq, same]
        · rename_i different
          rw [lookup_cons_eq, lookup_cons_eq, lookup_place]
          by_cases equal : other = key
          · subst equal
            simp [different]
          · simp [equal]

@[simp] theorem get?_insert (object : Object) (key other : String) (value : Json) :
    (object.insert key value).get? other =
      if other = key then some value else object.get? other :=
  lookup_place

theorem lookup_filter {α : Type} (keep : String → Bool) (key : String) :
    ∀ members : List (String × α),
      (members.filter fun (other, _) => keep other).lookup key =
        if keep key then members.lookup key else none
  | [] => by simp
  | (present, held) :: rest => by
      have induction := lookup_filter keep key rest
      simp only [List.filter_cons]
      by_cases equal : key = present
      · subst equal
        by_cases kept : keep key
        · simp [kept]
        · simp [kept, induction]
      · by_cases kept : keep present <;> simp [kept, equal, lookup_cons_eq, induction]

@[simp] theorem get?_filter (object : Object) (keep : String → Bool) (key : String) :
    (object.filter keep).get? key = if keep key then object.get? key else none :=
  lookup_filter keep key object.members

theorem keys_nodup (object : Object) : object.keys.Nodup := by
  refine List.Pairwise.imp ?_ object.ascending
  rintro key other before rfl
  exact String.lt_irrefl key before

example : (ofList [("b", .null), ("a", .bool true), ("b", .bool false)]).members =
    [("a", .bool true), ("b", .bool false)] := by decide

end Object

end ChatGateway
