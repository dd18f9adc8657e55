import ChatGateway.Proofs.Betas

namespace ChatGateway

/-! Which tools get the beta that they need. A kind of tool needs one token at most, and
what is needed is selected where the provider accepts it and dropped where it does not.
Of the computer-use tools the first one speaks for all: another gets its token only when
it needs the same, and so a list and its rearrangement select the same just when their
first computer-use tools need the same. -/

def ToolKind.neededBeta? : ToolKind → Option String
  | .toolSearch => some Beta.toolSearch
  | .webSearch => some Beta.webSearch
  | .computerUse version => some (Beta.ofComputerVersion version)
  | .function | .other _ => none

/-- The token was settled: selected if the provider accepts it, and dropped otherwise. -/
def BetaSelection.Settles (selection : BetaSelection) (token : String) : Prop :=
  if token ∈ Beta.supported then token ∈ selection.selected else token ∈ selection.dropped

def LeadsComputerUse (tools : List ToolDefinition) (version : String) : Prop :=
  ∃ before tool after, tools = before ++ tool :: after ∧ tool.kind = .computerUse version ∧
    ∀ other ∈ before, ∀ version, other.kind ≠ .computerUse version

theorem ToolDefinition.computerVersion?_eq_some {tool : ToolDefinition} {version : String} :
    tool.computerVersion? = some version ↔ tool.kind = .computerUse version := by
  rw [computerVersion?]
  cases tool.kind <;> simp

theorem ToolDefinition.computerVersion?_eq_none {tool : ToolDefinition} :
    tool.computerVersion? = none ↔ ∀ version, tool.kind ≠ .computerUse version := by
  simp [Option.eq_none_iff_forall_ne_some, computerVersion?_eq_some]

theorem computerVersion?_eq_some_iff {tools : List ToolDefinition} {version : String} :
    computerVersion? tools = some version ↔ LeadsComputerUse tools version := by
  simp only [computerVersion?, List.findSome?_eq_some_iff,
    ToolDefinition.computerVersion?_eq_some, ToolDefinition.computerVersion?_eq_none,
    LeadsComputerUse]

namespace LeadsComputerUse

theorem unique {tools : List ToolDefinition} {first second : String}
    (leads : LeadsComputerUse tools first) (alsoLeads : LeadsComputerUse tools second) :
    first = second := by
  rw [← computerVersion?_eq_some_iff] at leads alsoLeads
  exact Option.some.inj (leads.symm.trans alsoLeads)

theorem exists_tool {tools : List ToolDefinition} {version : String}
    (leads : LeadsComputerUse tools version) :
    ∃ tool ∈ tools, tool.kind = .computerUse version := by
  rcases leads with ⟨before, tool, after, rfl, kind, _⟩
  exact ⟨tool, by simp, kind⟩

theorem exists_of_mem {tools : List ToolDefinition} {tool : ToolDefinition} {version : String}
    (member : tool ∈ tools) (kind : tool.kind = .computerUse version) :
    ∃ first, LeadsComputerUse tools first := by
  cases found : computerVersion? tools with
  | some first => exact ⟨first, computerVersion?_eq_some_iff.mp found⟩
  | none =>
      have none := List.findSome?_eq_none_iff.mp found tool member
      exact absurd kind (ToolDefinition.computerVersion?_eq_none.mp none version)

theorem exists_of_perm {tools others : List ToolDefinition} {version : String}
    (leads : LeadsComputerUse tools version) (perm : tools.Perm others) :
    ∃ first, LeadsComputerUse others first := by
  rcases leads.exists_tool with ⟨tool, member, kind⟩
  exact exists_of_mem (perm.subset member) kind

end LeadsComputerUse

namespace Beta

theorem ofComputerVersion_ne (version : String) :
    ofComputerVersion version ≠ toolSearch ∧ ofComputerVersion version ≠ webSearch := by
  unfold ofComputerVersion
  repeat' split
  all_goals decide

theorem wanted_eq (tools : List ToolDefinition) :
    wanted tools =
      (if usesToolSearch tools then [toolSearch] else []) ++
        ((computerVersion? tools).map ofComputerVersion).toList ++
        (if usesWebSearch tools then [webSearch] else []) := by
  rw [wanted]
  cases computerVersion? tools <;> rfl

theorem mem_wanted_iff_kind {tools : List ToolDefinition} {token : String} :
    token ∈ wanted tools ↔
      (token = toolSearch ∧ ∃ tool ∈ tools, tool.kind = .toolSearch) ∨
      (∃ version, LeadsComputerUse tools version ∧ token = ofComputerVersion version) ∨
      (token = webSearch ∧ ∃ tool ∈ tools, tool.kind = .webSearch) := by
  have searched : usesToolSearch tools = true ↔ ∃ tool ∈ tools, tool.kind = .toolSearch := by
    simp [usesToolSearch]
  have browsed : usesWebSearch tools = true ↔ ∃ tool ∈ tools, tool.kind = .webSearch := by
    simp [usesWebSearch]
  simp only [wanted_eq, List.mem_append, List.mem_ite_nil_right, List.mem_singleton, searched,
    browsed, Option.mem_toList, Option.map_eq_some_iff, computerVersion?_eq_some_iff, eq_comm,
    or_assoc, and_comm]

theorem needed_of_exists_kind {tools : List ToolDefinition} {kind : ToolKind} {token : String}
    (needs : kind.neededBeta? = some token) (noComputer : ∀ version, kind ≠ .computerUse version)
    (used : ∃ tool ∈ tools, tool.kind = kind) :
    ∃ tool ∈ tools, tool.kind.neededBeta? = some token ∧
      ∀ version first, tool.kind = .computerUse version → LeadsComputerUse tools first →
        ofComputerVersion first = token := by
  rcases used with ⟨tool, member, rfl⟩
  refine ⟨tool, member, needs, ?_⟩
  intro version first isComputer
  exact absurd isComputer (noComputer version)

/-- A token is wanted when a tool needs it that the first computer-use tool does not
overrule. -/
theorem mem_wanted_iff {tools : List ToolDefinition} {token : String} :
    token ∈ wanted tools ↔
      ∃ tool ∈ tools, tool.kind.neededBeta? = some token ∧
        ∀ version first, tool.kind = .computerUse version → LeadsComputerUse tools first →
          ofComputerVersion first = token := by
  rw [mem_wanted_iff_kind]
  constructor
  · intro wanted
    rcases wanted with ⟨rfl, used⟩ | ⟨version, leads, rfl⟩ | ⟨rfl, used⟩
    · exact needed_of_exists_kind rfl (fun _ => ToolKind.noConfusion) used
    · rcases leads.exists_tool with ⟨tool, member, kind⟩
      refine ⟨tool, member, by rw [kind]; rfl, ?_⟩
      intro other first _ alsoLeads
      rw [alsoLeads.unique leads]
    · exact needed_of_exists_kind rfl (fun _ => ToolKind.noConfusion) used
  · intro needed
    rcases needed with ⟨tool, member, needs, ruled⟩
    cases kind : tool.kind with
    | toolSearch =>
        rw [kind] at needs
        exact .inl ⟨(Option.some.inj needs).symm, tool, member, kind⟩
    | computerUse version =>
        rcases LeadsComputerUse.exists_of_mem member kind with ⟨first, leads⟩
        exact .inr (.inl ⟨first, leads, (ruled version first kind leads).symm⟩)
    | webSearch =>
        rw [kind] at needs
        exact .inr (.inr ⟨(Option.some.inj needs).symm, tool, member, kind⟩)
    | function =>
        rw [kind] at needs
        cases needs
    | other type =>
        rw [kind] at needs
        cases needs

theorem ofComputerVersion_mem_wanted_iff {tools : List ToolDefinition} {first version : String}
    (leads : LeadsComputerUse tools first) :
    ofComputerVersion version ∈ wanted tools ↔
      ofComputerVersion first = ofComputerVersion version := by
  rw [mem_wanted_iff_kind]
  constructor
  · intro wanted
    rcases wanted with ⟨equal, _⟩ | ⟨other, alsoLeads, equal⟩ | ⟨equal, _⟩
    · exact absurd equal (ofComputerVersion_ne version).1
    · rw [equal, alsoLeads.unique leads]
    · exact absurd equal (ofComputerVersion_ne version).2
  · intro equal
    exact .inr (.inl ⟨first, leads, equal.symm⟩)

end Beta

namespace BetaSelection

theorem mem_selected_ofTools {tools : List ToolDefinition} {token : String} :
    token ∈ (ofTools tools).selected ↔ token ∈ Beta.wanted tools ∧ token ∈ Beta.supported := by
  rw [ofTools, Beta.mem_ascending, List.mem_filter, List.contains_iff_mem]

theorem mem_dropped_ofTools {tools : List ToolDefinition} {token : String} :
    token ∈ (ofTools tools).dropped ↔ token ∈ Beta.wanted tools ∧ token ∉ Beta.supported := by
  simp [ofTools]

theorem settles_ofTools_iff {tools : List ToolDefinition} {token : String} :
    (ofTools tools).Settles token ↔ token ∈ Beta.wanted tools := by
  rw [Settles]
  split
  · next accepted => simp [mem_selected_ofTools, accepted]
  · next refused => simp [mem_dropped_ofTools, refused]

end BetaSelection

/-! Rearranged tools. -/

theorem wanted_eq_of_perm {tools others : List ToolDefinition} (perm : tools.Perm others)
    (agree : ∀ first second, LeadsComputerUse tools first → LeadsComputerUse others second →
      Beta.ofComputerVersion first = Beta.ofComputerVersion second) :
    Beta.wanted tools = Beta.wanted others := by
  have searched : usesToolSearch tools = usesToolSearch others := perm.any_eq
  have browsed : usesWebSearch tools = usesWebSearch others := perm.any_eq
  have led : (computerVersion? tools).map Beta.ofComputerVersion =
      (computerVersion? others).map Beta.ofComputerVersion := by
    cases first : computerVersion? tools with
    | some version =>
        rw [computerVersion?_eq_some_iff] at first
        rcases first.exists_of_perm perm with ⟨second, leads⟩
        rw [computerVersion?_eq_some_iff.mpr leads, Option.map_some, Option.map_some,
          agree version second first leads]
    | none =>
        cases second : computerVersion? others with
        | none => rfl
        | some version =>
            rw [computerVersion?_eq_some_iff] at second
            rcases second.exists_of_perm perm.symm with ⟨other, leads⟩
            rw [← computerVersion?_eq_some_iff, first] at leads
            cases leads
  rw [Beta.wanted_eq, Beta.wanted_eq, searched, led, browsed]

/-- How the betas of a tool list answer the needs of its tools. -/
structure MeetsNeeds (tools : List ToolDefinition) (selection : BetaSelection) : Prop where
  /-- The token that a tool needs is settled, unless the tool is a computer-use tool and
  the first of these needs another token. -/
  settled : ∀ tool ∈ tools, ∀ token, tool.kind.neededBeta? = some token →
    (selection.Settles token ↔
      ∀ version first, tool.kind = .computerUse version → LeadsComputerUse tools first →
        Beta.ofComputerVersion first = token)
  /-- Nothing is selected that the provider does not accept, or dropped that it does. -/
  accepted : (∀ token ∈ selection.selected, token ∈ Beta.supported) ∧
    ∀ token ∈ selection.dropped, token ∉ Beta.supported
  /-- Nothing is selected or dropped that no tool needs. -/
  needed : ∀ token, token ∈ selection.selected ∨ token ∈ selection.dropped →
    ∃ tool ∈ tools, tool.kind.neededBeta? = some token
  /-- In another order the tools have the same betas just when the computer-use tool that
  comes first then needs the same token. -/
  rearranged : ∀ others, tools.Perm others →
    (BetaSelection.ofTools others = selection ↔
      ∀ first second, LeadsComputerUse tools first → LeadsComputerUse others second →
        Beta.ofComputerVersion first = Beta.ofComputerVersion second)

theorem meetsNeeds_ofTools (tools : List ToolDefinition) :
    MeetsNeeds tools (BetaSelection.ofTools tools) where
  settled tool member token needs := by
    rw [BetaSelection.settles_ofTools_iff]
    constructor
    · intro wanted version first kind leads
      rw [kind] at needs
      rw [← Option.some.inj needs] at wanted ⊢
      exact (Beta.ofComputerVersion_mem_wanted_iff leads).mp wanted
    · intro ruled
      exact Beta.mem_wanted_iff.mpr ⟨tool, member, needs, ruled⟩
  accepted := by
    refine ⟨?_, ?_⟩
    · intro token selected
      exact (BetaSelection.mem_selected_ofTools.mp selected).2
    · intro token dropped
      exact (BetaSelection.mem_dropped_ofTools.mp dropped).2
  needed token told := by
    rw [BetaSelection.mem_selected_ofTools, BetaSelection.mem_dropped_ofTools, ← and_or_left] at told
    rcases Beta.mem_wanted_iff.mp told.1 with ⟨tool, member, needs, _⟩
    exact ⟨tool, member, needs⟩
  rearranged others perm := by
    constructor
    · intro same first second leads alsoLeads
      have settled : (BetaSelection.ofTools others).Settles (Beta.ofComputerVersion first) := by
        rw [same, BetaSelection.settles_ofTools_iff, Beta.ofComputerVersion_mem_wanted_iff leads]
      rw [BetaSelection.settles_ofTools_iff,
        Beta.ofComputerVersion_mem_wanted_iff alsoLeads] at settled
      exact settled.symm
    · intro agree
      rw [BetaSelection.ofTools, BetaSelection.ofTools, wanted_eq_of_perm perm agree]

def twoScreens : List ToolDefinition :=
  [.ofObject (.ofList [("type", .string "computer_20241022"), ("name", .string "old")]),
    .ofObject (.ofList [("type", .string "computer_20250124"), ("name", .string "new")])]

/-- The second tool does not get its token, and gets it when it comes first. -/
theorem unmet_need_of_twoScreens :
    (∃ tool ∈ twoScreens, ∃ token, tool.kind.neededBeta? = some token ∧ token ∈ Beta.supported ∧
      token ∉ (BetaSelection.ofTools twoScreens).selected ∧
      token ∈ (BetaSelection.ofTools twoScreens.reverse).selected) ∧
    twoScreens.Perm twoScreens.reverse ∧
    (BetaSelection.ofTools twoScreens).selected ≠
      (BetaSelection.ofTools twoScreens.reverse).selected := by
  refine ⟨?_, (List.reverse_perm _).symm, by decide +kernel⟩
  exact ⟨twoScreens[1], by decide +kernel, "computer-use-2025-01-24", by decide +kernel⟩

end ChatGateway
