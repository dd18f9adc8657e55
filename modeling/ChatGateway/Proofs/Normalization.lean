import ChatGateway.Chat.Reply
import Mathlib.Data.List.Forall2

namespace ChatGateway

/-! Normalisation of a whole completion. Every choice that says nothing and has reasoning
answers with its reasoning. Nothing else changes beside the name of the model, and each
choice that changes is recorded once, in the order of the choices. A completion that was
normalised has no such choice left, so that nothing happens to it a second time. -/

namespace Choice

/-- The choice says nothing, and has this reasoning to answer with. -/
structure Owes (choice : Choice) (reasoning : String) : Prop where
  silent : choice.message.content = none ∨ choice.message.content = some ""
  reasoned : choice.message.reasoningContent = some reasoning
  visible : reasoning ≠ ""

def saying (choice : Choice) (content : String) : Choice :=
  { choice with message := { choice.message with content := some content } }

/-- A choice, and what the client is given for it. -/
inductive NormalizesTo (choice : Choice) : Choice → Prop where
  | promoted {reasoning : String} (owes : choice.Owes reasoning) :
      NormalizesTo choice (choice.saying reasoning)
  | kept (nothing : ∀ reasoning, ¬ choice.Owes reasoning) : NormalizesTo choice choice

theorem Owes.unique {choice : Choice} {left right : String} (first : choice.Owes left)
    (second : choice.Owes right) : left = right :=
  Option.some.inj (first.reasoned.symm.trans second.reasoned)

theorem NormalizesTo.unique {choice left right : Choice} (first : choice.NormalizesTo left)
    (second : choice.NormalizesTo right) : left = right := by
  cases first with
  | promoted owes =>
      cases second with
      | promoted owesAgain => rw [owes.unique owesAgain]
      | kept nothing => exact absurd owes (nothing _)
  | kept nothing =>
      cases second with
      | promoted owes => exact absurd owes (nothing _)
      | kept => rfl

theorem Owes.saying_ne {choice : Choice} {reasoning : String} (owes : choice.Owes reasoning) :
    choice ≠ choice.saying reasoning := by
  intro same
  have content : choice.message.content = some reasoning :=
    congrArg (fun given : Choice => given.message.content) same
  rcases owes.silent with absent | empty
  · rw [absent] at content
    cases content
  · rw [empty] at content
    exact owes.visible (Option.some.inj content).symm

theorem NormalizesTo.not_owes {choice given : Choice} (normalizes : choice.NormalizesTo given)
    (reasoning : String) : ¬ given.Owes reasoning := by
  cases normalizes with
  | promoted owes =>
      intro again
      rcases again.silent with absent | empty
      · cases absent
      · exact owes.visible (Option.some.inj empty)
  | kept nothing => exact nothing reasoning

theorem promoted?_eq_some_iff (choice : Choice) (reasoning : String) :
    choice.message.promoted? = some reasoning ↔ choice.Owes reasoning := by
  have silent : choice.message.content.all (· == "") = true ↔
      choice.message.content = none ∨ choice.message.content = some "" := by
    cases choice.message.content <;> simp
  have reasoned : choice.message.reasoningContent.filter (· != "") = some reasoning ↔
      choice.message.reasoningContent = some reasoning ∧ reasoning ≠ "" := by
    rw [Option.filter_eq_some_iff, bne_iff_ne]
  rw [ChoiceMessage.promoted?]
  split
  · next holds =>
      rw [reasoned]
      exact ⟨fun given => ⟨silent.mp holds, given.1, given.2⟩,
        fun owes => ⟨owes.reasoned, owes.visible⟩⟩
  · next speaks =>
      constructor
      · intro none
        cases none
      · intro owes
        exact absurd (silent.mpr owes.silent) speaks

/-- All that normalisation can do to a choice. -/
theorem normalize_cases (choice : Choice) :
    (∃ reasoning, choice.Owes reasoning ∧ choice.normalize =
      (choice.saying reasoning, [.reasoningContentPromoted choice.index])) ∨
    ((∀ reasoning, ¬ choice.Owes reasoning) ∧ choice.normalize = (choice, [])) := by
  rw [normalize]
  cases taken : choice.message.promoted? with
  | some reasoning => exact .inl ⟨reasoning, (promoted?_eq_some_iff choice _).mp taken, rfl⟩
  | none =>
      refine .inr ⟨?_, rfl⟩
      intro reasoning owes
      rw [(promoted?_eq_some_iff choice _).mpr owes] at taken
      cases taken

theorem normalizesTo_normalize (choice : Choice) : choice.NormalizesTo choice.normalize.1 := by
  rcases choice.normalize_cases with ⟨reasoning, owes, equal⟩ | ⟨nothing, equal⟩
  · rw [equal]
    exact .promoted owes
  · rw [equal]
    exact .kept nothing

theorem normalize_of_normalizesTo {choice given : Choice}
    (normalizes : choice.NormalizesTo given) : given.normalize = (given, []) := by
  rcases given.normalize_cases with ⟨reasoning, owes, -⟩ | ⟨-, equal⟩
  · exact absurd owes (normalizes.not_owes reasoning)
  · exact equal

theorem recorded_normalize (choice : Choice) :
    choice.normalize.2 = (if choice = choice.normalize.1 then [] else [choice]).map
      (.reasoningContentPromoted ·.index) := by
  rcases choice.normalize_cases with ⟨reasoning, owes, equal⟩ | ⟨-, equal⟩
  · rw [equal, if_neg owes.saying_ne]
    rfl
  · rw [equal, if_pos rfl]
    rfl

end Choice

/-! All choices. -/

def changedChoices (choices given : List Choice) : List Choice :=
  ((choices.zip given).filter fun (choice, given) => choice ≠ given).map Prod.fst

theorem changedChoices_cons (choice given : Choice) (choices others : List Choice) :
    changedChoices (choice :: choices) (given :: others) =
      (if choice = given then [] else [choice]) ++ changedChoices choices others := by
  rw [changedChoices, List.zip_cons_cons]
  by_cases same : choice = given
  · rw [List.filter_cons_of_neg (by simpa using same), if_pos same]
    rfl
  · rw [List.filter_cons_of_pos (by simpa using same), if_neg same]
    rfl

theorem recorded_eq_changed (choices : List Choice) :
    choices.flatMap (·.normalize.2) =
      (changedChoices choices (choices.map (·.normalize.1))).map
        (.reasoningContentPromoted ·.index) := by
  induction choices with
  | nil => rfl
  | cons choice rest induction =>
      rw [List.flatMap_cons, induction, List.map_cons, changedChoices_cons, List.map_append,
        choice.recorded_normalize]

/-- A completion, the one that the client is given for it, and what is recorded. -/
structure Normalizes (completion : Completion) (model : String) (given : Completion)
    (decisions : List Decision) : Prop where
  /-- The name and the choices apart, all stays as it is. -/
  frame : given = { completion with model, choices := given.choices }
  oneByOne : List.Forall₂ Choice.NormalizesTo completion.choices given.choices
  recorded : decisions = (changedChoices completion.choices given.choices).map
    (.reasoningContentPromoted ·.index)
  /-- Normalised once more, the completion stays as it is. -/
  again : given.normalize model = (given, [])

namespace Completion

theorem normalize_eq (completion : Completion) (model : String) :
    completion.normalize model =
      ({ completion with model, choices := completion.choices.map (·.normalize.1) },
        completion.choices.flatMap (·.normalize.2)) := by
  simp [normalize, List.flatMap_map, Function.comp_def]

theorem forall₂_normalizesTo (completion : Completion) (model : String) :
    List.Forall₂ Choice.NormalizesTo completion.choices
      (completion.normalize model).1.choices := by
  rw [normalize_eq, List.forall₂_map_right_iff, List.forall₂_same]
  intro choice _
  exact choice.normalizesTo_normalize

theorem normalize_again (completion : Completion) (model : String) :
    (completion.normalize model).1.normalize model = ((completion.normalize model).1, []) := by
  have same (choice : Choice) : choice.normalize.1.normalize = (choice.normalize.1, []) :=
    Choice.normalize_of_normalizesTo choice.normalizesTo_normalize
  simp [normalize_eq, Function.comp_def, same]

/-- Normalising gives that completion and that record, and no others, that are related to
the completion and the name as the rules say. -/
theorem normalize_eq_iff (completion : Completion) (model : String) (given : Completion)
    (decisions : List Decision) :
    completion.normalize model = (given, decisions) ↔
      Normalizes completion model given decisions := by
  constructor
  · intro equal
    have givenEqual := congrArg Prod.fst equal
    have decisionsEqual := congrArg Prod.snd equal
    subst givenEqual decisionsEqual
    refine ⟨?_, completion.forall₂_normalizesTo model, ?_, completion.normalize_again model⟩
    · rw [normalize_eq]
    · rw [normalize_eq]
      exact recorded_eq_changed completion.choices
  · intro normalizes
    have unique : Relator.RightUnique Choice.NormalizesTo :=
      fun _ _ _ first second => first.unique second
    have sameChoices : completion.choices.map (·.normalize.1) = given.choices := by
      have both := unique.forall₂ (completion.forall₂_normalizesTo model) normalizes.oneByOne
      rwa [normalize_eq] at both
    have sameRecord : completion.choices.flatMap (·.normalize.2) = decisions := by
      rw [recorded_eq_changed, sameChoices, ← normalizes.recorded]
    rw [normalize_eq, sameChoices, sameRecord, ← normalizes.frame]

end Completion

end ChatGateway
