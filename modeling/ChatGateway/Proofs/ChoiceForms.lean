import ChatGateway.Proofs.ToolChoices

namespace ChatGateway

/-! Tool choices as they are read and as they are written. Words and objects of both dialects
are read as a choice, and a choice is written in one form: with its type, with a name that is
not empty if it is for one tool, and with the further members that it came with. None of these
is called like a part that a choice is read from, so what is written is read as the choice. -/

namespace ToolChoice

/-- The type that a word or a type of either dialect stands for. -/
def meantType? : String → Option String
  | "auto" => some "auto"
  | "any" | "required" => some "any"
  | "none" => some "none"
  | "tool" | "function" => some "tool"
  | _ => Option.none

/-- The type that a value tells. A word cannot ask for one tool: it has no place for a name. -/
def toldType? : Json → Option String
  | .string word => (meantType? word).filter (· != "tool")
  | value => (value.textAt? "type").bind meantType?

def toldName? (value : Json) : Option String :=
  match value.textAt? "type" with
  | some "tool" => (nestedName? value "tool").or (value.textAt? "name")
  | some "function" => nestedName? value "function"
  | _ => Option.none

def partKeys : List String := ["type", "name", "tool", "function"]

def Apart (extra : Object) : Prop :=
  ∀ key ∈ partKeys, extra.get? key = Option.none

inductive Directs : ToolChoice → String → Option String → Object → Prop where
  | auto (extra : Object) : Directs (.auto extra) "auto" Option.none extra
  | any (extra : Object) : Directs (.any extra) "any" Option.none extra
  | none (extra : Object) : Directs (.none extra) "none" Option.none extra
  | tool (name : Option String) (extra : Object) : Directs (.tool name extra) "tool" name extra

/-- A choice in the form in which choices are read. -/
inductive Settled : ToolChoice → Prop where
  | told {choice : ToolChoice} {type : String} {name : Option String} {extra : Object}
      (directs : choice.Directs type name extra) (named : name ≠ some "") (apart : Apart extra) :
      Settled choice
  | untold {value : Json} (untold : toldType? value = Option.none) : Settled (.malformed value)

/-! Choices as they are read. -/

theorem extraOf_toJson (object : Object) : extraOf object.toJson = object.eraseAll partKeys := by
  rw [Object.toJson, extraOf, Object.ofList_members, partKeys]

theorem apart_extraOf (value : Json) : Apart (extraOf value) := by
  intro key part
  cases value with
  | object members => exact (Object.get?_eraseAll _ partKeys key).trans (if_pos part)
  | _ => rfl

theorem nonEmpty_eq_some_iff (name : Option String) (text : String) :
    nonEmpty name = some text ↔ name = some text ∧ text ≠ "" := by
  rw [nonEmpty, Option.filter_eq_some_iff, bne_iff_ne]

theorem nonEmpty_ne (name : Option String) : nonEmpty name ≠ some "" := fun equal =>
  ((nonEmpty_eq_some_iff name "").mp equal).2 rfl

theorem nonEmpty_eq_self {name : Option String} (named : name ≠ some "") :
    nonEmpty name = name := by
  cases name with
  | none => rfl
  | some text => exact (nonEmpty_eq_some_iff _ _).mpr ⟨rfl, fun empty => named (empty ▸ rfl)⟩

/-- A value that tells no type is kept, and of any other the parts are read. -/
theorem ofJson_cases (value : Json) :
    (toldType? value = Option.none ∧ ofJson value = .malformed value) ∨
      ∃ type, toldType? value = some type ∧
        (ofJson value).Directs type (nonEmpty (toldName? value)) (extraOf value) := by
  cases value with
  | string word =>
      unfold ofJson
      dsimp only
      split
      · next told =>
          cases told
          exact .inr ⟨"auto", rfl, .auto _⟩
      · next told =>
          cases told
          exact .inr ⟨"any", rfl, .any _⟩
      · next told =>
          cases told
          exact .inr ⟨"any", rfl, .any _⟩
      · next told =>
          cases told
          exact .inr ⟨"none", rfl, .none _⟩
      · next told =>
          cases told
          exact .inl ⟨rfl, rfl⟩
      · next told =>
          cases told
          exact .inl ⟨rfl, rfl⟩
      · refine .inl ⟨?_, rfl⟩
        rw [toldType?, meantType?.eq_def]
        split <;> simp_all
  | object members =>
      have tells : toldType? (.object members) =
          ((Json.object members).textAt? "type").bind meantType? := rfl
      unfold ofJson
      dsimp only
      rw [tells, toldName?]
      split
      · next typed =>
          rw [typed]
          exact .inr ⟨"auto", rfl, .auto _⟩
      · next typed =>
          rw [typed]
          exact .inr ⟨"any", rfl, .any _⟩
      · next typed =>
          rw [typed]
          exact .inr ⟨"any", rfl, .any _⟩
      · next typed =>
          rw [typed]
          exact .inr ⟨"none", rfl, .none _⟩
      · next typed =>
          rw [typed]
          exact .inr ⟨"tool", rfl, .tool _ _⟩
      · next typed =>
          rw [typed]
          exact .inr ⟨"tool", rfl, .tool _ _⟩
      · refine .inl ⟨?_, rfl⟩
        cases typed : (Json.object members).textAt? "type" with
        | none => rfl
        | some type =>
            rw [Option.bind_some, meantType?.eq_def]
            split <;> simp_all
  | _ => exact .inl ⟨rfl, rfl⟩

/-! Choices as they are written. -/

theorem directive_ne_string (type : String) (name : Option String) (extra : Object)
    (word : String) : directive type name extra ≠ .string word := by
  simp [directive, Json.ofMembers, Object.toJson]

section Directive

variable (type : String) (name : Option String) {extra : Object} (apart : Apart extra)

include apart

theorem get?_directive_type :
    (directive type name extra).get? "type" = some (.string type) := by
  have untyped : extra.get? "type" = Option.none := apart _ (by decide)
  rw [directive_eq_ofFields]
  exact Json.get?_ofFields_field (by simp) List.mem_cons_self untyped

theorem get?_directive_name :
    (directive type name extra).get? "name" = name.map .string := by
  have unnamed : extra.get? "name" = Option.none := apart _ (by decide)
  rw [directive_eq_ofFields]
  exact Json.get?_ofFields_field (by simp) (List.mem_cons_of_mem _ List.mem_cons_self) unnamed

theorem extraOf_directive : extraOf (directive type name extra) = extra := by
  apply Object.eq_of_get?
  intro key
  have written : directive type name extra = Object.toJson (Object.ofList _) := rfl
  rw [written, extraOf_toJson, Object.get?_eraseAll]
  by_cases part : key ∈ partKeys
  · rw [if_pos part, apart key part]
  · rw [if_neg part]
    rw [partKeys] at part
    exact get?_directive type name extra (by simp_all) (by simp_all)

end Directive

theorem Directs.toJson_eq {choice : ToolChoice} {type : String} {name : Option String}
    {extra : Object} (directs : choice.Directs type name extra) :
    choice.toJson = directive type name extra := by
  cases directs <;> rfl

theorem Directs.ofJson_directive {choice : ToolChoice} {type : String} {name : Option String}
    {extra : Object} (directs : choice.Directs type name extra) (named : name ≠ some "")
    (apart : Apart extra) : ofJson (directive type name extra) = choice := by
  have typed : (directive type name extra).textAt? "type" = some type := by
    rw [Json.textAt?, get?_directive_type type name apart]
    rfl
  have names : (directive type name extra).textAt? "name" = name := by
    rw [Json.textAt?, get?_directive_name type name apart]
    cases name <;> rfl
  have noNested : nestedName? (directive type name extra) "tool" = Option.none := by
    rw [nestedName?, get?_directive type name extra (by decide) (by decide),
      apart "tool" (by decide)]
    rfl
  have further := extraOf_directive type name apart
  have isObject : (directive type name extra).isObject = true := rfl
  cases directs with
  | tool =>
      rw [ofJson, typed]
      simp only [isObject, noNested, names, further, if_true, Option.none_or,
        nonEmpty_eq_self named]
      exact directive_ne_string _ _ _
  | _ =>
      rw [ofJson, typed]
      simp only [further]
      exact directive_ne_string _ _ _

theorem Settled.read_again {choice : ToolChoice} (settled : choice.Settled) :
    ofJson choice.toJson = choice := by
  cases settled with
  | told directs named apart =>
      rw [directs.toJson_eq]
      exact directs.ofJson_directive named apart
  | untold untold =>
      rcases ofJson_cases _ with ⟨_, kept⟩ | ⟨type, told, _⟩
      · exact kept
      · rw [toJson, untold] at told
        cases told

theorem settled_ofJson (value : Json) : (ofJson value).Settled := by
  rcases ofJson_cases value with ⟨untold, kept⟩ | ⟨type, _, directs⟩
  · rw [kept]
    exact .untold untold
  · exact .told directs (nonEmpty_ne _) (apart_extraOf value)

/-! The flag for parallel calls is a further member. -/

theorem apart_insert_parallelKey {extra : Object} (apart : Apart extra) (flag : Json) :
    Apart (extra.insert parallelKey flag) := by
  intro key part
  have other : key ≠ parallelKey := by
    intro equal
    rw [equal] at part
    exact absurd part (by decide)
  rw [Object.get?_insert, if_neg other]
  exact apart key part

theorem Settled.withParallelCalls {choice : ToolChoice} (settled : choice.Settled)
    (allowed : Bool) : (choice.withParallelCalls allowed).Settled := by
  cases settled with
  | untold untold => exact .untold untold
  | told directs named apart =>
      have flagged := apart_insert_parallelKey apart (.bool !allowed)
      cases directs with
      | auto => exact .told (.auto _) named flagged
      | any => exact .told (.any _) named flagged
      | none => exact .told (.none _) named apart
      | tool => exact .told (.tool _ _) named flagged

theorem isValid_withParallelCalls (choice : ToolChoice) (allowed : Bool) :
    (choice.withParallelCalls allowed).isValid = choice.isValid := by
  cases choice <;> rfl

/-! What is written of a value. -/

theorem Directs.ne_malformed {choice : ToolChoice} {type : String} {name : Option String}
    {extra : Object} (directs : choice.Directs type name extra) (raw : Json) :
    choice ≠ .malformed raw := by
  cases directs <;> nofun

theorem Directs.type_mem {choice : ToolChoice} {type : String} {name : Option String}
    {extra : Object} (directs : choice.Directs type name extra) :
    type ∈ ["auto", "any", "none", "tool"] := by
  cases directs <;> decide

theorem Directs.name_eq_some_iff {choice : ToolChoice} {type : String} {name : Option String}
    {extra : Object} (directs : choice.Directs type name extra) (text : String) :
    name = some text ↔ ∃ extra, choice = .tool (some text) extra := by
  cases directs <;> simp

theorem ofJson_eq_malformed_iff (value raw : Json) :
    ofJson value = .malformed raw ↔ raw = value ∧ toldType? value = Option.none := by
  rcases ofJson_cases value with ⟨untold, kept⟩ | ⟨type, told, directs⟩
  · rw [kept, untold, ToolChoice.malformed.injEq, eq_comm]
    exact (and_iff_left rfl).symm
  · refine iff_of_false (directs.ne_malformed raw) ?_
    intro malformed
    rw [malformed.2] at told
    cases told

theorem get?_toJson_ofJson (object : Object) {key : String} (further : key ∉ partKeys) :
    (ofJson object.toJson).toJson.get? key = object.get? key := by
  rcases ofJson_cases object.toJson with ⟨_, kept⟩ | ⟨type, _, directs⟩
  · rw [kept]
    rfl
  · have kept : (extraOf object.toJson).get? key = object.get? key := by
      rw [extraOf_toJson, Object.get?_eraseAll, if_neg further]
    rw [partKeys] at further
    rw [directs.toJson_eq, get?_directive _ _ _ (by simp_all) (by simp_all), kept]

theorem exists_type_written {value : Json} (understood : ∀ raw, ofJson value ≠ .malformed raw) :
    ∃ type ∈ ["auto", "any", "none", "tool"], toldType? value = some type ∧
      (ofJson value).toJson.get? "type" = some (.string type) ∧
        ∀ held, (ofJson value).toJson.get? "name" = some held ↔ ∃ name extra, name ≠ "" ∧
          toldName? value = some name ∧ ofJson value = .tool (some name) extra ∧
            held = .string name := by
  rcases ofJson_cases value with ⟨_, kept⟩ | ⟨type, told, directs⟩
  · exact absurd kept (understood value)
  · have apart := apart_extraOf value
    refine ⟨type, directs.type_mem, told, ?_, fun held => ?_⟩
    · rw [directs.toJson_eq, get?_directive_type _ _ apart]
    · rw [directs.toJson_eq, get?_directive_name _ _ apart, Option.map_eq_some_iff]
      constructor
      · intro written
        rcases written with ⟨name, isName, rfl⟩
        rcases (directs.name_eq_some_iff name).mp isName with ⟨extra, choice⟩
        rcases (nonEmpty_eq_some_iff _ _).mp isName with ⟨toldName, named⟩
        exact ⟨name, extra, named, toldName, choice, rfl⟩
      · intro named
        rcases named with ⟨name, extra, _, _, choice, rfl⟩
        exact ⟨name, (directs.name_eq_some_iff name).mpr ⟨extra, choice⟩, rfl⟩

/-- A choice is written so that it is read as the same choice, also with the flag for parallel
calls, which changes nothing about its being accepted. The members that are no parts of the
choice stay as they were. -/
theorem choice_forms_are_read_again (value : Json) (allowed : Bool) :
    let choice := ofJson value
    let flagged := choice.withParallelCalls allowed
    (ofJson choice.toJson = choice ∧ ofJson flagged.toJson = flagged) ∧
    flagged.isValid = choice.isValid ∧
    (∀ object : Object, value = object.toJson → ∀ key ∉ ["type", "name", "tool", "function"],
      choice.toJson.get? key = object.get? key) ∧
    ((∃ raw, choice = .malformed raw) ↔ toldType? value = Option.none) ∧
    (∀ raw, choice = .malformed raw → choice.toJson = value) ∧
    ((∀ raw, choice ≠ .malformed raw) → ∃ type ∈ ["auto", "any", "none", "tool"],
      toldType? value = some type ∧ choice.toJson.get? "type" = some (.string type) ∧
        ∀ held, choice.toJson.get? "name" = some held ↔ ∃ name extra, name ≠ "" ∧
          toldName? value = some name ∧ choice = .tool (some name) extra ∧
            held = .string name) := by
  intro choice flagged
  have settled := settled_ofJson value
  refine ⟨⟨settled.read_again, (settled.withParallelCalls allowed).read_again⟩,
    isValid_withParallelCalls choice allowed, ?_, ?_, fun raw kept => ?_, exists_type_written⟩
  · intro object equal key further
    subst equal
    exact get?_toJson_ofJson object further
  · simp [choice, ofJson_eq_malformed_iff]
  · rw [kept, toJson, ((ofJson_eq_malformed_iff value raw).mp kept).1]

/-- A choice of the chat dialect is written in the Messages dialect. -/
example :
    (ofJson (.object [("function", .object [("name", .string "look up")]), ("strict", .bool true),
      ("type", .string "function")])).toJson =
        .object [("name", .string "look up"), ("strict", .bool true), ("type", .string "tool")] := by
  decide

end ToolChoice

end ChatGateway
