import ChatGateway.Proofs.FieldForms
import ChatGateway.Tool

namespace ChatGateway

/-! Tools as they are read and as they are written. What the provider defines is handed on as it
came. A function tool of either dialect is written in the form of the Messages dialect: without a
type, with its name and its input schema, and with the further members of its definition; from
this form the same tool is read. -/

namespace ToolDefinition

/-- The definition is in the chat dialect: the function is an object of its own. -/
def Nested (body : Object) : Prop :=
  body.get? "type" = some (.string "function") ∧
    ∃ members, body.get? "function" = some (.object members)

/-- The definition is one of the provider's: it has a type, which is of no function tool. -/
def Provided (body : Object) : Prop :=
  (∃ type, type ≠ "custom" ∧ body.get? "type" = some (.string type)) ∧ ¬ Nested body

/-- The object that describes the function tool of a definition, and where its schema stands. -/
inductive Describes (body : Object) : Object → String → Prop where
  | nested {members : List (String × Json)} (nested : Nested body)
      (found : body.get? "function" = some (.object members)) :
      Describes body (.ofList members) "parameters"
  | flat (flat : ¬ Nested body) : Describes body body "input_schema"

def HasTextAt (object : Object) (key : String) : Prop :=
  ∀ held, object.get? key = some held → ∃ text, held = .string text

theorem textAt?_eq_some_iff {object : Object} {key text : String} :
    textAt? object key = some text ↔ object.get? key = some (.string text) := by
  rw [textAt?, Option.bind_eq_some_iff]
  constructor
  · intro held
    rcases held with ⟨held, found, isText⟩
    cases held with
    | string _ =>
        cases isText
        exact found
    | _ => cases isText
  · intro found
    exact ⟨_, found, rfl⟩

theorem textAt?_map_string {object : Object} {key : String} (hasText : HasTextAt object key) :
    (textAt? object key).map .string = object.get? key := by
  rw [textAt?]
  cases found : object.get? key with
  | none => rfl
  | some held =>
      rcases hasText held found with ⟨text, rfl⟩
      rfl

/-! The three ways in which a definition is read. -/

theorem ofObject_cases (body : Object) :
    (Provided body ∧ ofObject body = provided body) ∨
      (∃ members, Nested body ∧ body.get? "function" = some (.object members) ∧
        ofObject body = ofNested body (.ofList members)) ∨
      (¬ Provided body ∧ ¬ Nested body ∧ ofObject body = ofFlat body) := by
  rw [ofObject]
  split
  · next untyped =>
      have noType (type) (typed : body.get? "type" = some (.string type)) : False := by
        rw [textAt?_eq_some_iff.mpr typed] at untyped
        cases untyped
      refine .inr (.inr ⟨fun isProvided => ?_, fun nested => noType _ nested.1, rfl⟩)
      rcases isProvided.1 with ⟨type, _, typed⟩
      exact noType type typed
  · next typed =>
      rw [textAt?_eq_some_iff] at typed
      refine .inr (.inr ⟨fun isProvided => ?_, fun nested => ?_, rfl⟩)
      · rcases isProvided.1 with ⟨type, notCustom, other⟩
        cases typed.symm.trans other
        exact notCustom rfl
      · exact absurd (typed.symm.trans nested.1) (by decide)
  · next typed =>
      rw [textAt?_eq_some_iff] at typed
      split
      · next members found => exact .inr (.inl ⟨members, ⟨typed, members, found⟩, found, rfl⟩)
      · next noObject =>
          refine .inl ⟨⟨⟨_, by decide, typed⟩, fun nested => ?_⟩, rfl⟩
          rcases nested.2 with ⟨members, found⟩
          exact noObject members found
  · next type notCustom notFunction typed =>
      rw [textAt?_eq_some_iff] at typed
      refine .inl ⟨⟨⟨type, fun isCustom => ?_, typed⟩, fun nested => ?_⟩, rfl⟩
      · subst isCustom
        exact notCustom rfl
      · cases typed.symm.trans nested.1
        exact notFunction rfl

/-! Function tools as they are written. -/

theorem get?_toObject {tool : ToolDefinition} (isFunction : tool.kind = .function) (key : String) :
    tool.toObject.get? key =
      if key = "name" then some (.string tool.name)
      else if key = "input_schema" then some tool.inputSchema
      else if key = "description" then (tool.description.map .string).or (tool.extra.get? key)
      else tool.extra.get? key := by
  have same : tool.toObject = .ofList (tool.extra.members ++ member "name" (.string tool.name) ++
      member? "description" (tool.description.map .string) ++
        member "input_schema" tool.inputSchema) := by
    rw [toObject, isFunction]
  have nodup : ((member "name" (.string tool.name) ++
      (member? "description" (tool.description.map .string) ++
        member "input_schema" tool.inputSchema)).map Prod.fst).Nodup := by
    cases tool.description <;> simp [member, member?]
  rw [same, List.append_assoc, List.append_assoc, Object.get?_ofList, List.reverse_append,
    List.lookup_append, Object.lookup_reverse_of_nodup nodup,
    Object.lookup_reverse_of_nodup tool.extra.keys_nodup, List.lookup_append, List.lookup_append,
    lookup_member, lookup_member?, lookup_member, ← Object.get?]
  by_cases isName : key = "name"
  · simp [isName]
  by_cases isSchema : key = "input_schema"
  · simp [isSchema]
  by_cases isDescription : key = "description"
  · simp [isDescription]
  · simp [isName, isSchema, isDescription]

/-- An object that a function tool is written as. -/
structure Written (tool : ToolDefinition) (object : Object) : Prop where
  noType : object.get? "type" = none
  name : object.get? "name" = some (.string tool.name)
  schema : object.get? "input_schema" = some tool.inputSchema
  description : HasTextAt object "description"

theorem Written.read_again {tool : ToolDefinition} {object : Object}
    (written : tool.Written object) :
    (ofObject object).kind = .function ∧ (ofObject object).name = tool.name ∧
      (ofObject object).inputSchema = tool.inputSchema ∧ (ofObject object).toObject = object := by
  have untyped : textAt? object "type" = none := by rw [textAt?, written.noType]; rfl
  have read : ofObject object = ofFlat object := by rw [ofObject, untyped]
  have name : (ofFlat object).name = tool.name := by
    rw [ofFlat, textAt?_eq_some_iff.mpr written.name, Option.getD_some]
  have schema : (ofFlat object).inputSchema = tool.inputSchema := by
    rw [ofFlat, written.schema, Option.getD_some]
  rw [read]
  refine ⟨rfl, name, schema, Object.eq_of_get? fun key => ?_⟩
  have further : (ofFlat object).extra.get? key =
      if key ∈ ["type", "name", "description", "input_schema"] then none else object.get? key :=
    Object.get?_eraseAll object _ key
  rw [get?_toObject rfl, name, schema, further]
  by_cases isName : key = "name"
  · simp [isName, written.name]
  by_cases isSchema : key = "input_schema"
  · simp [isSchema, written.schema]
  by_cases isDescription : key = "description"
  · subst isDescription
    -- a description that is no text would be neither read nor kept
    have described := textAt?_map_string written.description
    simpa [ofFlat] using described
  by_cases isType : key = "type"
  · simp [isType, written.noType]
  · simp [isName, isSchema, isDescription, isType]

theorem written_toObject {tool : ToolDefinition} (isFunction : tool.kind = .function)
    (noType : tool.extra.get? "type" = none) (hasText : HasTextAt tool.extra "description") :
    tool.Written tool.toObject where
  noType := by rw [get?_toObject isFunction]; exact noType
  name := by rw [get?_toObject isFunction]; rfl
  schema := by rw [get?_toObject isFunction]; rfl
  description := by
    intro held found
    rw [get?_toObject isFunction] at found
    cases described : tool.description with
    | none =>
        rw [described] at found
        exact hasText held found
    | some text =>
        rw [described] at found
        exact ⟨text, (Option.some.inj found).symm⟩

/-! Definitions of both kinds. -/

theorem ofType_ne_function (type : String) : ToolKind.ofType type ≠ .function := by
  rw [ToolKind.ofType]
  split
  · nofun
  · split
    · nofun
    · split <;> nofun

structure ReadAsFunction (body : Object) (tool : ToolDefinition) : Prop where
  kind : tool.kind = .function
  described : ∃ described key, Describes body described key ∧
    tool.name = (textAt? described "name").getD "" ∧
      tool.inputSchema = (described.get? key).getD defaultInputSchema
  noType : tool.extra.get? "type" = none
  description : HasTextAt body "description" → HasTextAt tool.extra "description"
  further : ∀ key ∉ ["type", "name", "description", "input_schema"],
    (Nested body → key ≠ "function") → tool.extra.get? key = body.get? key

theorem readAsFunction_ofNested {body : Object} (nested : Nested body)
    {members : List (String × Json)} (found : body.get? "function" = some (.object members)) :
    ReadAsFunction body (ofNested body (.ofList members)) where
  kind := rfl
  described := ⟨_, _, .nested nested found, rfl, rfl⟩
  noType := Object.get?_eraseAll body ["function", "type"] "type"
  description hasText := by
    intro held found
    have kept : (ofNested body (.ofList members)).extra.get? "description" =
      body.get? "description" := Object.get?_eraseAll body ["function", "type"] "description"
    exact hasText held (kept.symm.trans found)
  further key notWritten notFunction := by
    rw [ofNested, Object.get?_eraseAll, if_neg]
    simp_all

theorem readAsFunction_ofFlat {body : Object} (flat : ¬ Nested body) :
    ReadAsFunction body (ofFlat body) where
  kind := rfl
  described := ⟨_, _, .flat flat, rfl, rfl⟩
  noType := Object.get?_eraseAll body _ "type"
  description _ := by
    intro held found
    have erased : (ofFlat body).extra.get? "description" = none := Object.get?_eraseAll body _ _
    rw [erased] at found
    cases found
  further key notWritten _ := (Object.get?_eraseAll body _ key).trans (if_neg notWritten)

theorem readAsFunction_of_not_provided {body : Object} (foreign : ¬ Provided body) :
    ReadAsFunction body (ofObject body) := by
  rcases ofObject_cases body with ⟨provided, _⟩ | ⟨members, nested, found, read⟩ | ⟨_, flat, read⟩
  · exact absurd provided foreign
  · rw [read]
    exact readAsFunction_ofNested nested found
  · rw [read]
    exact readAsFunction_ofFlat flat

theorem toObject_of_ne_function {tool : ToolDefinition} (noFunction : tool.kind ≠ .function) :
    tool.toObject = tool.extra := by
  rw [toObject]
  split
  · next isFunction => exact absurd isFunction noFunction
  · rfl

theorem written_of_provided {body : Object} (isProvided : Provided body) :
    (ofObject body).kind ≠ .function ∧ (ofObject body).toObject = body := by
  have read : ofObject body = provided body := by
    rcases ofObject_cases body with ⟨_, read⟩ | ⟨_, nested, _⟩ | ⟨foreign, _⟩
    · exact read
    · exact absurd nested isProvided.2
    · exact absurd isProvided foreign
  have noFunction : (provided body).kind ≠ .function := ofType_ne_function _
  rw [read]
  exact ⟨noFunction, toObject_of_ne_function noFunction⟩

/-- A tool is written so that it is read as the same tool. What the provider defines is written
as it came; any other definition is written as a function tool, with its further members. -/
theorem tool_forms_are_read_again (body : Object) :
    let tool := ofObject body
    (Provided body → tool.kind ≠ .function ∧ tool.toJson = body.toJson) ∧
    (¬ Provided body → tool.kind = .function ∧ tool.toJson.get? "type" = none ∧
      (∃ described schemaKey, Describes body described schemaKey ∧
        tool.toJson.get? "name" = some (.string ((textAt? described "name").getD "")) ∧
        tool.toJson.get? "input_schema" =
          some ((described.get? schemaKey).getD defaultInputSchema)) ∧
      ∀ key ∉ ["type", "name", "description", "input_schema"],
        (Nested body → key ≠ "function") → tool.toJson.get? key = body.get? key) ∧
    (HasTextAt body "description" →
      let again := ofObject tool.toObject
      again.kind = tool.kind ∧ again.name = tool.name ∧ again.inputSchema = tool.inputSchema ∧
        again.toJson = tool.toJson) := by
  intro tool
  refine ⟨fun isProvided => ?_, fun foreign => ?_, fun hasText => ?_⟩
  · rcases written_of_provided isProvided with ⟨noFunction, same⟩
    exact ⟨noFunction, congrArg Object.toJson same⟩
  · have read : ReadAsFunction body tool := readAsFunction_of_not_provided foreign
    have written (key) : tool.toJson.get? key = tool.toObject.get? key := rfl
    refine ⟨read.kind, ?_, ?_, fun key notWritten notFunction => ?_⟩
    · rw [written, get?_toObject read.kind]
      exact read.noType
    · rcases read.described with ⟨described, key, describes, name, schema⟩
      refine ⟨described, key, describes, ?_, ?_⟩
      · rw [written, get?_toObject read.kind, ← name]
        rfl
      · rw [written, get?_toObject read.kind, ← schema]
        rfl
    · rw [written, get?_toObject read.kind, ← read.further key notWritten notFunction]
      simp_all
  · by_cases isProvided : Provided body
    · rcases written_of_provided isProvided with ⟨_, same⟩
      simp [tool, same]
    · have read : ReadAsFunction body tool := readAsFunction_of_not_provided isProvided
      rcases (written_toObject read.kind read.noType (read.description hasText)).read_again with
        ⟨kind, name, schema, object⟩
      exact ⟨kind.trans read.kind.symm, name, schema, congrArg Object.toJson object⟩

/-- A description beside a nested function that is no text is written once, and then is lost. -/
example :
    let tool := ofObject (.ofList [("description", .bool true), ("function", .object []),
      ("type", .string "function")])
    tool.toJson.get? "description" = some (.bool true) ∧
      (ofObject tool.toObject).toJson.get? "description" = none := by
  decide

end ToolDefinition

end ChatGateway
