import ChatGateway.Proofs.HeldRequests

namespace ChatGateway

/-! The text that is sent. It lists the members of a record as the record declares them,
where the value of the record lists them by their keys. Read back, the text is the value. -/

namespace Json

/-- The text of the layout holds the value. -/
structure LaysOut (layout value : Json) : Prop where
  fit : layout.IntegersFit
  inOrder : layout.inOrder = value

/-- The members have the same keys in the same order, and each value is laid out. -/
def LayOut (laid members : List (String × Json)) : Prop :=
  List.Forall₂ (fun layout member => layout.1 = member.1 ∧ layout.2.LaysOut member.2) laid members

theorem WellFormed.laysOut {value : Json} (wellFormed : value.WellFormed) :
    value.LaysOut value where
  fit _ inside := fits_of_mem_numbers wellFormed inside
  inOrder := inOrder_of_wellFormed wellFormed

theorem laysOut_string (text : String) : (string text).LaysOut (.string text) :=
  (wellFormed_string text).laysOut

theorem laysOut_bool (value : Bool) : (bool value).LaysOut (.bool value) :=
  WellFormed.laysOut trivial

theorem laysOut_ofUInt64 (value : UInt64) : (ofUInt64 value).LaysOut (.ofUInt64 value) := by
  apply WellFormed.laysOut
  have below := value.toNat_lt
  rw [ofUInt64, ofNat, WellFormed, fitsWord_iff]
  omega

theorem laysOut_ofFloat (value : Float) : (ofFloat value).LaysOut (.ofFloat value) :=
  WellFormed.laysOut trivial

theorem laysOut_array {layouts values : List Json} (each : List.Forall₂ LaysOut layouts values) :
    (array layouts).LaysOut (.array values) := by
  have items : (∀ integer, .integer integer ∈ itemsNumbers layouts → FitsWord integer) ∧
      itemsInOrder layouts = values := by
    induction each with
    | nil => exact ⟨nofun, rfl⟩
    | cons first _ induction =>
        refine ⟨fun integer inside => ?_, ?_⟩
        · rcases List.mem_append.mp inside with here | later
          · exact first.fit integer here
          · exact induction.1 integer later
        · rw [itemsInOrder, first.inOrder, induction.2]
  exact ⟨items.1, by rw [inOrder, items.2]⟩

theorem laysOut_map {α : Type} {layout value : α → Json} {items : List α}
    (each : ∀ item ∈ items, (layout item).LaysOut (value item)) :
    (array (items.map layout)).LaysOut (.array (items.map value)) := by
  apply laysOut_array
  rw [List.forall₂_map_left_iff, List.forall₂_map_right_iff]
  exact List.forall₂_same.mpr each

theorem laysOut_ofStrings (texts : List String) : (ofStrings texts).LaysOut (.ofStrings texts) :=
  laysOut_map fun text _ => laysOut_string text

theorem LayOut.laysOut_object {laid members : List (String × Json)} (each : LayOut laid members) :
    (object laid).LaysOut (.ofMembers members) := by
  have parts : (∀ integer, .integer integer ∈ membersNumbers laid → FitsWord integer) ∧
      membersInOrder laid = members := by
    induction each with
    | nil => exact ⟨nofun, rfl⟩
    | cons first _ induction =>
        refine ⟨fun integer inside => ?_, ?_⟩
        · rcases List.mem_append.mp inside with here | later
          · exact first.2.fit integer here
          · exact induction.1 integer later
        · rw [membersInOrder, first.1, first.2.inOrder, induction.2]
  exact ⟨parts.1, by rw [inOrder, parts.2, ofMembers]⟩

theorem layOut_member (key : String) {layout value : Json} (laysOut : layout.LaysOut value) :
    LayOut (member key layout) (member key value) :=
  .cons ⟨rfl, laysOut⟩ .nil

theorem layOut_member? {α : Type} (key : String) {layout value : α → Json} {held : Option α}
    (laysOut : ∀ present ∈ held, (layout present).LaysOut (value present)) :
    LayOut (member? key (held.map layout)) (member? key (held.map value)) := by
  cases held with
  | none => exact .nil
  | some present => exact layOut_member key (laysOut present rfl)

theorem layOut_given (key : String) {held : Option Json}
    (laysOut : ∀ value ∈ held, value.LaysOut value) :
    LayOut (member? key held) (member? key held) := by
  rw [← Option.map_id' (x := held)]
  exact layOut_member? key laysOut

theorem LayOut.append {front back : List (String × Json)} {first last : List (String × Json)}
    (before : LayOut front first) (after : LayOut back last) :
    LayOut (front ++ back) (first ++ last) :=
  List.rel_append before after

end Json

open Json

theorem Object.WellFormed.layOut {object : Object} (wellFormed : object.WellFormed) :
    LayOut object.members object.members :=
  List.forall₂_same.mpr fun member inside => ⟨rfl, (wellFormed member inside).laysOut⟩

namespace ContentBlock

theorem layOut_tagged (type : String) {laid fields : List (String × Json)}
    (each : LayOut laid fields) {extra : Object} (wellFormed : extra.WellFormed) :
    (tagged .object type laid extra).LaysOut (tagged .ofMembers type fields extra) :=
  (((layOut_member "type" (laysOut_string type)).append each).append
    wellFormed.layOut).laysOut_object

theorem WellFormed.laysOut {block : ContentBlock} (wellFormed : block.WellFormed) :
    (block.write .object).LaysOut block.toJson := by
  cases block with
  | text content extra =>
      exact layOut_tagged _ (layOut_member _ (laysOut_string content)) wellFormed.extra
  | imageUrl url detail extra =>
      have address : LayOut (member "url" (.string url) ++ member? "detail" (detail.map .string))
          (member "url" (.string url) ++ member? "detail" (detail.map .string)) :=
        (layOut_member _ (laysOut_string url)).append
          (layOut_member? _ fun detail _ => laysOut_string detail)
      exact layOut_tagged _ (layOut_member _ address.laysOut_object) wellFormed.extra
  | toolUse id name input extra =>
      have held : input.WellFormed := wellFormed.fields ("input", some input)
        (List.mem_cons_of_mem _ (List.mem_cons_of_mem _ List.mem_cons_self)) input rfl
      refine layOut_tagged _ ?_ wellFormed.extra
      exact ((layOut_member _ (laysOut_string id)).append
        (layOut_member _ (laysOut_string name))).append (layOut_member _ held.laysOut)
  | toolResult toolUseId content isError extra =>
      have held : ∀ value ∈ content, value.WellFormed := wellFormed.fields ("content", content)
        (List.mem_cons_of_mem _ List.mem_cons_self)
      refine layOut_tagged _ ?_ wellFormed.extra
      exact ((layOut_member _ (laysOut_string toolUseId)).append
        (layOut_given _ fun value given => (held value given).laysOut)).append
          (layOut_member? _ fun isError _ => laysOut_bool isError)
  | thinking thought signature extra =>
      refine layOut_tagged _ ?_ wellFormed.extra
      exact (layOut_member _ (laysOut_string thought)).append
        (layOut_member? _ fun signature _ => laysOut_string signature)
  | redactedThinking data extra =>
      exact layOut_tagged _ (layOut_member _ (laysOut_string data)) wellFormed.extra
  | other value => exact (wellFormed.kept value rfl).laysOut

theorem laysOut_list {blocks : List ContentBlock} (wellFormed : ∀ block ∈ blocks, block.WellFormed) :
    (writeList .object blocks).LaysOut (listToJson blocks) :=
  laysOut_map fun block inside => (wellFormed block inside).laysOut

end ContentBlock

theorem MessageContent.WellFormed.laysOut {content : MessageContent}
    (wellFormed : content.WellFormed) : (content.write .object).LaysOut content.toJson := by
  cases content with
  | text text => exact laysOut_string text
  | blocks blocks => exact ContentBlock.laysOut_list wellFormed

theorem ToolCall.laysOut (call : ToolCall) : (call.write .object).LaysOut call.toJson := by
  have function : LayOut
      (member "name" (.string call.name) ++ member "arguments" (.string call.arguments))
      (member "name" (.string call.name) ++ member "arguments" (.string call.arguments)) :=
    (layOut_member _ (laysOut_string call.name)).append
      (layOut_member _ (laysOut_string call.arguments))
  apply LayOut.laysOut_object
  exact ((layOut_member _ (laysOut_string call.id)).append
    (layOut_member _ (laysOut_string call.type))).append
      (layOut_member _ function.laysOut_object)

namespace ChatMessage

theorem WellFormed.laysOut {message : ChatMessage} (wellFormed : message.WellFormed) :
    (message.write .object).LaysOut message.toJson := by
  apply LayOut.laysOut_object
  repeat' apply LayOut.append
  · exact layOut_member _ (laysOut_string _)
  · exact layOut_member? _ fun content given => (wellFormed.content content given).laysOut
  · exact layOut_member? _ fun calls _ => laysOut_map fun call _ => call.laysOut
  · exact layOut_member? _ fun id _ => laysOut_string id
  · exact layOut_member? _ fun name _ => laysOut_string name
  · refine layOut_member? _ fun blocks given => ContentBlock.laysOut_list ?_
    have beside := wellFormed.beside
    rwa [sideBlocks, Option.mem_def.mp given] at beside
  · exact wellFormed.extra.layOut

end ChatMessage

theorem SystemBlock.WellFormed.laysOut {block : SystemBlock} (wellFormed : block.WellFormed) :
    (block.write .object).LaysOut block.toJson :=
  (((layOut_member _ (laysOut_string "text")).append
    (layOut_member _ (laysOut_string block.text))).append
      (layOut_given _ fun value given => (wellFormed value given).laysOut)).laysOut_object

theorem ToolDefinition.laysOut_list {tools : List ToolDefinition}
    (wellFormed : ∀ tool ∈ tools, tool.WellFormed) :
    (listToJson tools).LaysOut (listToJson tools) :=
  laysOut_map fun tool inside => (wellFormed tool inside).toJson.laysOut

theorem RequestMetadata.laysOut (metadata : RequestMetadata) :
    metadata.toJson.LaysOut metadata.toJson := by
  apply WellFormed.laysOut
  apply wellFormed_ofMembers
  cases metadata.userId <;> simp [member?, wellFormed_string]

theorem ThinkingConfig.laysOut (config : ThinkingConfig) :
    (config.write .object).LaysOut config.toJson := by
  cases config with
  | enabled budgetTokens =>
      exact ((layOut_member _ (laysOut_string "enabled")).append
        (layOut_member _ (laysOut_ofUInt64 budgetTokens))).laysOut_object
  | disabled => exact (layOut_member _ (laysOut_string "disabled")).laysOut_object

namespace Payload

variable {payload : Payload} (wellFormed : payload.WellFormed)

include wellFormed

theorem WellFormed.layOut :
    LayOut (payload.writeDeclared .object ++ payload.extra.members) payload.members := by
  refine .append ?_ wellFormed.extra.layOut
  rw [declaredMembers, writeDeclared, writeDeclared]
  repeat' apply LayOut.append
  · exact layOut_member _ (laysOut_string _)
  · refine layOut_member _ (laysOut_map fun message inside => ?_)
    exact (wellFormed.messages message inside).laysOut
  · exact layOut_member _ (laysOut_ofUInt64 _)
  · refine layOut_member? _ fun blocks given => laysOut_map fun block inside => ?_
    exact (wellFormed.system blocks given block inside).laysOut
  · exact layOut_member? _ fun value _ => laysOut_ofFloat value
  · exact layOut_member? _ fun value _ => laysOut_ofFloat value
  · exact layOut_member? _ fun value _ => laysOut_ofUInt64 value
  · exact layOut_member? _ fun sequences _ => laysOut_ofStrings sequences
  · refine layOut_member? _ fun tools given => ToolDefinition.laysOut_list ?_
    exact wellFormed.tools tools given
  · exact layOut_member? _ fun choice given => (wellFormed.toolChoice choice given).toJson.laysOut
  · exact layOut_member? _ fun config _ => config.laysOut
  · exact layOut_member? _ fun metadata _ => metadata.laysOut
  · exact layOut_member? _ fun betas _ => laysOut_ofStrings betas

end Payload

end ChatGateway
