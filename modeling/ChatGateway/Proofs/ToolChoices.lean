import ChatGateway.Proofs.FieldForms
import ChatGateway.Proofs.Outgoing
import ChatGateway.Proofs.ReadBack

namespace ChatGateway

/-! Tool choices on their way into a payload. A choice is repaired, takes in the flag
for parallel calls, and is repaired again. A repair lets pass what the provider
accepts, and the flag touches nothing that a choice is accepted for, so the second
repair finds nothing to drop. The flag is looked for once, before the tool list is
final: beside a tool that is added later it is lost. -/

namespace ToolChoice

/-- The provider accepts the choice: it was understood, and where it is for one tool it
names the tool. -/
inductive Accepted : ToolChoice → Prop where
  | auto (extra : Object) : Accepted (.auto extra)
  | any (extra : Object) : Accepted (.any extra)
  | none (extra : Object) : Accepted (.none extra)
  | tool {name : String} (named : name ≠ "") (extra : Object) : Accepted (.tool (some name) extra)

theorem isValid_iff (choice : ToolChoice) : choice.isValid = true ↔ choice.Accepted := by
  constructor
  · intro valid
    cases choice with
    | auto extra => exact .auto extra
    | any extra => exact .any extra
    | none extra => exact .none extra
    | tool name extra =>
        cases name with
        | none => cases valid
        | some name => exact .tool (bne_iff_ne.mp valid) extra
    | malformed value => cases valid
  · intro accepted
    cases accepted with
    | tool named extra => exact bne_iff_ne.mpr named
    | _ => rfl

/-! The repair. -/

theorem repair_accepted {choice : ToolChoice} (accepted : choice.Accepted) :
    repair (some choice) = (some choice, Option.none) := by
  rw [repair, if_pos ((isValid_iff choice).mpr accepted)]

theorem repair_refused {choice : ToolChoice} (refused : ¬ choice.Accepted) :
    repair (some choice) = (Option.none, some choice) := by
  rw [repair, if_neg (mt (isValid_iff choice).mp refused)]

theorem repair_kept_iff {choice : Option ToolChoice} {kept : ToolChoice} :
    (repair choice).1 = some kept ↔ choice = some kept ∧ kept.Accepted := by
  cases choice with
  | none => simp [repair]
  | some choice =>
      by_cases accepted : choice.Accepted
      · rw [repair_accepted accepted, Option.some.injEq]
        refine (and_iff_left_of_imp ?_).symm
        rintro rfl
        exact accepted
      · rw [repair_refused accepted, Option.some.injEq]
        refine iff_of_false (Option.some_ne_none kept).symm ?_
        rintro ⟨rfl, held⟩
        exact accepted held

theorem repair_dropped_iff {choice : Option ToolChoice} {dropped : ToolChoice} :
    (repair choice).2 = some dropped ↔ choice = some dropped ∧ ¬ dropped.Accepted := by
  cases choice with
  | none => simp [repair]
  | some choice =>
      by_cases accepted : choice.Accepted
      · rw [repair_accepted accepted, Option.some.injEq]
        refine iff_of_false (Option.some_ne_none dropped).symm ?_
        rintro ⟨rfl, refused⟩
        exact refused accepted
      · rw [repair_refused accepted, Option.some.injEq]
        refine (and_iff_left_of_imp ?_).symm
        rintro rfl
        exact accepted

theorem repair_of_accepted {choice : Option ToolChoice}
    (accepted : ∀ kept, choice = some kept → kept.Accepted) :
    repair choice = (choice, Option.none) := by
  cases choice with
  | none => rfl
  | some choice => exact repair_accepted (accepted choice rfl)

/-! The flag for parallel calls. -/

def Flags (forbidden : Bool) (extra flagged : Object) : Prop :=
  ∀ key, flagged.get? key =
    if key = "disable_parallel_tool_use" then some (.bool forbidden) else extra.get? key

/-- A choice with the flag against parallel calls and otherwise unchanged. One that
forbids all tools has no place for the flag. -/
inductive Flagged (forbidden : Bool) : ToolChoice → ToolChoice → Prop where
  | auto {extra flagged : Object} (flags : Flags forbidden extra flagged) :
      Flagged forbidden (.auto extra) (.auto flagged)
  | any {extra flagged : Object} (flags : Flags forbidden extra flagged) :
      Flagged forbidden (.any extra) (.any flagged)
  | tool (name : Option String) {extra flagged : Object} (flags : Flags forbidden extra flagged) :
      Flagged forbidden (.tool name extra) (.tool name flagged)
  | none (extra : Object) : Flagged forbidden (.none extra) (.none extra)

theorem flagged_withParallelCalls {choice : ToolChoice} (accepted : choice.Accepted)
    (allowed : Bool) : Flagged (!allowed) choice (choice.withParallelCalls allowed) := by
  have flags (extra : Object) :
      Flags (!allowed) extra (extra.insert parallelKey (.bool !allowed)) :=
    fun key => Object.get?_insert extra parallelKey key _
  cases accepted with
  | auto extra => exact .auto (flags extra)
  | any extra => exact .any (flags extra)
  | none extra => exact .none extra
  | tool _ extra => exact .tool _ (flags extra)

theorem Flagged.accepted {forbidden : Bool} {choice flagged : ToolChoice}
    (flag : Flagged forbidden choice flagged) (accepted : choice.Accepted) :
    flagged.Accepted := by
  cases flag with
  | auto _ => exact .auto _
  | any _ => exact .any _
  | none extra => exact accepted
  | tool name _ =>
      cases accepted with
      | tool named _ => exact .tool named _

/-- The choice forbids all tools, or says as it is written whether one answer may call
several. -/
def Honours (allowed : Bool) (choice : ToolChoice) : Prop :=
  (∃ extra, choice = .none extra) ∨
    choice.toJson.get? "disable_parallel_tool_use" = some (.bool !allowed)

theorem directive_eq_ofFields (type : String) (name : Option String) (extra : Object) :
    directive type name extra =
      .ofFields [("type", some (.string type)), ("name", name.map .string)] extra := by
  simp [directive, Json.ofFields, member, member?]

theorem get?_directive (type : String) (name : Option String) (extra : Object) {key : String}
    (notType : key ≠ "type") (notName : key ≠ "name") :
    (directive type name extra).get? key = extra.get? key := by
  rw [directive_eq_ofFields]
  exact Json.get?_ofFields_other (by simp) extra (by simp [notType, notName])

theorem Flagged.honours {allowed : Bool} {choice flagged : ToolChoice}
    (flag : Flagged (!allowed) choice flagged) : flagged.Honours allowed := by
  have written (type : String) (name : Option String) {extra set : Object}
      (flags : Flags (!allowed) extra set) :
      (directive type name set).get? "disable_parallel_tool_use" = some (.bool !allowed) := by
    rw [get?_directive type name set (by decide) (by decide), flags, if_pos rfl]
  cases flag with
  | auto flags => exact .inr (written _ _ flags)
  | any flags => exact .inr (written _ _ flags)
  | none extra => exact .inl ⟨extra, rfl⟩
  | tool name flags => exact .inr (written _ name flags)

end ToolChoice

namespace Outgoing

variable (request : ChatRequest) (call : CallContext) (options : PayloadOptions)

theorem accepted_getD_repair {choice : Option ToolChoice} :
    ((ToolChoice.repair choice).1.getD .plainAuto).Accepted := by
  cases kept : (ToolChoice.repair choice).1 with
  | none => exact .auto .empty
  | some choice => exact (ToolChoice.repair_kept_iff.mp kept).2

theorem accepted_repaired {choice : ToolChoice}
    (held : request.repaired.toolChoice = some choice) : choice.Accepted := by
  rcases repaired_cases request with ⟨allowed, _, equal⟩ | ⟨_, equal⟩
  · rw [equal] at held
    cases held
    exact (ToolChoice.flagged_withParallelCalls accepted_getD_repair allowed).accepted
      accepted_getD_repair
  · rw [equal] at held
    exact (ToolChoice.repair_kept_iff.mp held).2

theorem repair_repaired :
    ToolChoice.repair request.repaired.toolChoice = (request.repaired.toolChoice, none) :=
  ToolChoice.repair_of_accepted fun _ held => accepted_repaired request held

theorem toolChoice_ofRequest :
    (ofRequest request call options).payload.toolChoice = request.repaired.toolChoice := by
  change (ToolChoice.repair request.repaired.toolChoice).1 = _
  rw [repair_repaired]

theorem told_toolChoiceDropped :
    Decision.told .toolChoiceDropped (ofRequest request call options).decisions =
      droppedChoice .inbound (ToolChoice.repair request.toolChoice).2 := by
  rw [told_ofRequest, tellings, repair_repaired]
  exact List.append_nil _

theorem toolChoiceDropped_mem_iff {stage : RepairStage} {value : Json} :
    .toolChoiceDropped stage value ∈ (ofRequest request call options).decisions ↔
      stage = .inbound ∧ ∃ choice, request.toolChoice = some choice ∧ ¬ choice.Accepted ∧
        value = choice.toJson := by
  rw [← Decision.mem_told, Decision.kind, told_toolChoiceDropped]
  simp only [← and_assoc, ← ToolChoice.repair_dropped_iff]
  cases (ToolChoice.repair request.toolChoice).2 <;> simp [droppedChoice]

theorem flagged_of_movesParallel {allowed : Bool} (moves : request.MovesParallel allowed) :
    ∃ choice, request.repaired.toolChoice = some choice ∧
      ToolChoice.Flagged (!allowed) ((ToolChoice.repair request.toolChoice).1.getD .plainAuto)
        choice := by
  rcases repaired_cases request with ⟨other, moved, equal⟩ | ⟨never, _⟩
  · have same : other = allowed := by simpa [moves.flagged] using moved.flagged.symm
    subst same
    rw [equal]
    exact ⟨_, rfl, ToolChoice.flagged_withParallelCalls accepted_getD_repair other⟩
  · exact absurd moves (never allowed)

theorem toolChoice_of_not_movesParallel (never : ∀ allowed, ¬ request.MovesParallel allowed) :
    (ofRequest request call options).payload.toolChoice =
      (ToolChoice.repair request.toolChoice).1 := by
  rw [toolChoice_ofRequest]
  rcases repaired_cases request with ⟨allowed, moved, _⟩ | ⟨_, equal⟩
  · exact absurd moved (never allowed)
  · rw [equal]

/-- The choice of a payload is one that the provider accepts: what the first repair let
pass of the client's choice, with the flag for parallel calls where it moves, on a
free choice if there is none. The second repair never drops anything. -/
theorem sent_choice_is_accepted (request : ChatRequest) (call : CallContext)
    (options : PayloadOptions) :
    let sent := ofRequest request call options
    ∃ inbound : Option ToolChoice,
      (∀ choice, inbound = some choice ↔ request.toolChoice = some choice ∧ choice.Accepted) ∧
      (∀ choice, sent.payload.toolChoice = some choice → choice.Accepted) ∧
      (∀ allowed, request.MovesParallel allowed →
        ∃ choice, sent.payload.toolChoice = some choice ∧
          ToolChoice.Flagged (!allowed) (inbound.getD (.auto .empty)) choice) ∧
      ((∀ allowed, ¬ request.MovesParallel allowed) → sent.payload.toolChoice = inbound) ∧
      ∀ value, .toolChoiceDropped .outbound value ∉ sent.decisions := by
  intro sent
  refine ⟨(ToolChoice.repair request.toolChoice).1, fun _ => ToolChoice.repair_kept_iff,
    ?_, ?_, ?_, ?_⟩
  · intro choice held
    rw [toolChoice_ofRequest] at held
    exact accepted_repaired request held
  · intro allowed moves
    rw [toolChoice_ofRequest]
    exact flagged_of_movesParallel request moves
  · exact toolChoice_of_not_movesParallel request call options
  · intro value told
    cases ((toolChoiceDropped_mem_iff request call options).mp told).1

/-- A choice of a tool without a name gives way to a free choice with the flag. -/
example :
    (ofRequest
      { ChatRequest.ofMessages "claude" [.ofContent .user (.text "Look it up.")] with
        tools := some [.ofFlat (.ofList [("name", .string "lookup")])]
        toolChoice := some (.ofJson (.object [("type", .string "tool"), ("tool", .object [])]))
        extra := .ofList [("parallel_tool_calls", .bool false)] }
      default plainOptions).payload.toolChoice =
    some (.auto (.ofList [("disable_parallel_tool_use", .bool true)])) := by decide

theorem honours_of_movesParallel {allowed : Bool} (moves : request.MovesParallel allowed) :
    ∃ choice, (ofRequest request call options).payload.toolChoice = some choice ∧
      choice.Honours allowed := by
  rw [toolChoice_ofRequest]
  rcases flagged_of_movesParallel request moves with ⟨choice, held, flag⟩
  exact ⟨choice, held, flag.honours⟩

/-- The flag for parallel calls is honoured beside tools exactly when, should the client
have declared none of them, its own choice already says what the flag says. -/
theorem parallel_calls_honoured_iff (request : ChatRequest) (call : CallContext)
    (options : PayloadOptions) {allowed : Bool}
    (flagged : request.extra.get? "parallel_tool_calls" = some (.bool allowed)) :
    let payload := (ofRequest request call options).payload
    (payload.toolList ≠ [] →
      ∃ choice, payload.toolChoice = some choice ∧ choice.Honours allowed) ↔
    (payload.toolList ≠ [] → request.toolList = [] →
      ∃ choice, request.toolChoice = some choice ∧ choice.Accepted ∧ choice.Honours allowed) := by
  intro payload
  refine imp_congr_right fun _ => ?_
  by_cases declared : request.toolList = []
  · -- The flag never moves, so the client's own choice is all that can say it.
    have never (other : Bool) : ¬ request.MovesParallel other :=
      fun moves => moves.declared declared
    simp only [declared, true_imp_iff]
    refine exists_congr fun choice => ?_
    rw [toolChoice_of_not_movesParallel request call options never, ToolChoice.repair_kept_iff,
      and_assoc]
  · simp only [declared, false_imp_iff, iff_true]
    exact honours_of_movesParallel request call options ⟨declared, flagged⟩

def namelessChoiceRequest : ChatRequest :=
  { ChatRequest.ofMessages "claude" [.ofContent .user (.text "Look it up.")] with
    tools := some [.ofFlat (.ofList [("name", .string "lookup")])]
    toolChoice := some (.ofJson (.object [("type", .string "tool"), ("tool", .object [])]))
    extra := .ofList [("parallel_tool_calls", .bool false)] }

theorem parallel_calls_honoured_of_namelessChoice :
    let payload := (ofRequest namelessChoiceRequest default plainOptions).payload
    payload.toolList ≠ [] ∧
      ∃ choice, payload.toolChoice = some choice ∧ choice.Honours false := by
  have tools : (ofRequest namelessChoiceRequest default plainOptions).payload.toolList ≠ [] := by
    decide
  have flagged : namelessChoiceRequest.extra.get? "parallel_tool_calls" = some (.bool false) := rfl
  have declared : namelessChoiceRequest.toolList ≠ [] := by decide
  refine ⟨tools, (parallel_calls_honoured_iff namelessChoiceRequest default plainOptions
    flagged).mpr ?_ tools⟩
  intro _ undeclared
  exact absurd undeclared declared

def flaggedUploadRequest : ChatRequest :=
  { ChatRequest.ofMessages "claude"
      [.ofContent .user (.blocks [.plainText "analyse this", .other (.object
        [("file_id", .string "file_1"), ("type", .string "container_upload")])])] with
    extra := .ofList [("parallel_tool_calls", .bool false)] }

/-- Beside the tool that is added for a file the flag is dropped with the parameters that
are not supported. -/
theorem parallel_calls_lost_of_flaggedUpload :
    let sent := ofRequest flaggedUploadRequest default plainOptions
    flaggedUploadRequest.extra.get? "parallel_tool_calls" = some (.bool false) ∧
      sent.payload.toolList ≠ [] ∧
      (¬ ∃ choice, sent.payload.toolChoice = some choice ∧ choice.Honours false) ∧
      .paramsDropped ["parallel_tool_calls"] ∈ sent.decisions := by
  have absent :
      (ofRequest flaggedUploadRequest default plainOptions).payload.toolChoice = none := by decide
  refine ⟨rfl, by decide, ?_, by decide⟩
  rintro ⟨choice, held, _⟩
  rw [absent] at held
  cases held

end Outgoing

end ChatGateway
