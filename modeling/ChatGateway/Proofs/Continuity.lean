import ChatGateway.Proofs.Reasoning
import ChatGateway.Proofs.Refusal
import Mathlib.Data.Finset.Card
import Mathlib.Order.Bounds.Basic

namespace ChatGateway

/-! The scan of a history, told by places. A history is broken at the first place before
the last message where an assistant gave no reasoning; else it is told by the number of
places where an assistant spoke. Stripped messages have no reasoning at any place, so
that no history of them is preserved. -/

namespace ChatMessage

/-- Something stands beside the content, or a block in it is tagged as reasoning. -/
def GivesReasoning (message : ChatMessage) : Prop :=
  (∃ blocks, message.thinkingBlocks = some blocks ∧ blocks ≠ []) ∨
    ∃ block ∈ message.blocks, block.TaggedReasoning

theorem showsReasoning_iff (message : ChatMessage) :
    message.showsReasoning = true ↔ message.GivesReasoning := by
  have beside : (!message.sideBlocks.isEmpty) = true ↔
      ∃ blocks, message.thinkingBlocks = some blocks ∧ blocks ≠ [] := by
    rw [sideBlocks]
    cases message.thinkingBlocks <;> simp
  have inside : message.blocks.any ContentBlock.isReasoning = true ↔
      ∃ block ∈ message.blocks, block.TaggedReasoning := by
    simp only [List.any_eq_true, isReasoning_iff]
  rw [showsReasoning, Bool.or_eq_true, beside, inside, GivesReasoning]

instance (message : ChatMessage) : Decidable message.GivesReasoning :=
  decidable_of_iff _ message.showsReasoning_iff

end ChatMessage

/-! Places. -/

def placesBeforeLast (messages : List ChatMessage) (Holds : ChatMessage → Prop)
    [DecidablePred Holds] : Finset Nat :=
  (Finset.range (messages.length - 1)).filter fun place =>
    ∃ message ∈ messages[place]?, Holds message

section Places

variable {Holds : ChatMessage → Prop} [DecidablePred Holds] {test : ChatMessage → Bool}

theorem placesBeforeLast_eq (messages : List ChatMessage)
    (tests : ∀ message, test message = true ↔ Holds message) :
    placesBeforeLast messages Holds = (messages.dropLast.findIdxs test).toFinset := by
  ext place
  have length : messages.dropLast.length = messages.length - 1 := List.length_dropLast
  rw [List.mem_toFinset, List.mem_findIdxs_iff_exists_getElem_pos, placesBeforeLast,
    Finset.mem_filter, Finset.mem_range]
  constructor
  · intro given
    rcases given with ⟨before, message, found, holds⟩
    rcases List.getElem?_eq_some_iff.mp found with ⟨inside, equal⟩
    refine ⟨length ▸ before, (tests _).mpr ?_⟩
    rwa [List.getElem_dropLast, equal]
  · intro given
    rcases given with ⟨before, holds⟩
    rw [List.getElem_dropLast] at holds
    exact ⟨length ▸ before, _, List.getElem?_eq_getElem _, (tests _).mp holds⟩

theorem card_placesBeforeLast (messages : List ChatMessage)
    (tests : ∀ message, test message = true ↔ Holds message) :
    (placesBeforeLast messages Holds).card = messages.dropLast.countP test := by
  rw [placesBeforeLast_eq messages tests, List.toFinset_card_of_nodup List.nodup_findIdxs,
    List.length_findIdxs]

theorem findIdx?_eq_none_iff_places (messages : List ChatMessage)
    (tests : ∀ message, test message = true ↔ Holds message) :
    messages.dropLast.findIdx? test = none ↔ placesBeforeLast messages Holds = ∅ := by
  rw [placesBeforeLast_eq messages tests, List.toFinset_eq_empty_iff, List.findIdxs_eq_nil_iff,
    List.findIdx?_eq_none_iff]

theorem findIdx?_eq_some_iff_places (messages : List ChatMessage)
    (tests : ∀ message, test message = true ↔ Holds message) (index : Nat) :
    messages.dropLast.findIdx? test = some index ↔
      IsLeast (placesBeforeLast messages Holds : Set Nat) index := by
  have mem (place : Nat) : place ∈ (placesBeforeLast messages Holds : Set Nat) ↔
      ∃ inside : place < messages.dropLast.length, test messages.dropLast[place] = true := by
    rw [Finset.mem_coe, placesBeforeLast_eq messages tests, List.mem_toFinset,
      List.mem_findIdxs_iff_exists_getElem_pos]
  rw [List.findIdx?_eq_some_iff_getElem]
  constructor
  · intro found
    rcases found with ⟨inside, holds, first⟩
    refine ⟨(mem index).mpr ⟨inside, holds⟩, ?_⟩
    intro place member
    rcases (mem place).mp member with ⟨placeInside, placeHolds⟩
    by_contra! earlier
    exact first place earlier placeHolds
  · intro least
    rcases (mem index).mp least.1 with ⟨inside, holds⟩
    refine ⟨inside, holds, ?_⟩
    intro place earlier placeHolds
    have later := least.2 ((mem place).mpr ⟨earlier.trans inside, placeHolds⟩)
    omega

end Places

def answers (messages : List ChatMessage) : Finset Nat :=
  placesBeforeLast messages (·.role = .assistant)

def lapses (messages : List ChatMessage) : Finset Nat :=
  placesBeforeLast messages fun message => message.role = .assistant ∧ ¬ message.GivesReasoning

theorem isAssistant_iff (message : ChatMessage) :
    (message.role == .assistant) = true ↔ message.role = .assistant :=
  beq_iff_eq

theorem isLapse_iff (message : ChatMessage) :
    (message.role == .assistant && !message.showsReasoning) = true ↔
      message.role = .assistant ∧ ¬ message.GivesReasoning := by
  rw [Bool.and_eq_true, beq_iff_eq, Bool.not_eq_true', ← Bool.not_eq_true,
    message.showsReasoning_iff]

/-- A history, and what is told of it. -/
inductive Continuity.Tells (messages : List ChatMessage) : Continuity → Prop where
  | broken {index : Nat} (first : IsLeast (lapses messages : Set Nat) index) :
      Tells messages (.broken index)
  | preserved (intact : lapses messages = ∅) (answered : 1 ≤ (answers messages).card) :
      Tells messages (.preserved (answers messages).card)
  | firstTurn (unanswered : answers messages = ∅) : Tells messages .firstTurn

theorem lapses_subset_answers (messages : List ChatMessage) :
    lapses messages ⊆ answers messages := by
  intro place lapse
  rw [lapses, placesBeforeLast, Finset.mem_filter] at lapse
  rw [answers, placesBeforeLast, Finset.mem_filter]
  rcases lapse with ⟨before, message, found, assistant, -⟩
  exact ⟨before, message, found, assistant⟩

namespace Continuity

theorem Tells.unique {messages : List ChatMessage} {left right : Continuity}
    (first : Tells messages left) (second : Tells messages right) : left = right := by
  have unlapsed : answers messages = ∅ → lapses messages = ∅ := by
    intro unanswered
    exact Finset.subset_empty.mp (unanswered ▸ lapses_subset_answers messages)
  have lapsed {index : Nat} (least : IsLeast (lapses messages : Set Nat) index) :
      lapses messages ≠ ∅ := Finset.ne_empty_of_mem least.1
  cases first with
  | broken least =>
      cases second with
      | broken leastAgain => rw [least.unique leastAgain]
      | preserved intact => exact absurd intact (lapsed least)
      | firstTurn unanswered => exact absurd (unlapsed unanswered) (lapsed least)
  | preserved intact answered =>
      cases second with
      | broken least => exact absurd intact (lapsed least)
      | preserved => rfl
      | firstTurn unanswered => simp [unanswered] at answered
  | firstTurn unanswered =>
      cases second with
      | broken least => exact absurd (unlapsed unanswered) (lapsed least)
      | preserved _ answered => simp [unanswered] at answered
      | firstTurn => rfl

theorem tells_assess (messages : List ChatMessage) : Tells messages (assess messages) := by
  have counted : (answers messages).card = messages.dropLast.countP (·.role == .assistant) :=
    card_placesBeforeLast messages isAssistant_iff
  cases found : messages.dropLast.findIdx? fun message =>
      message.role == .assistant && !message.showsReasoning with
  | some index =>
      rw [assess_eq_broken_iff.mpr found]
      exact .broken ((findIdx?_eq_some_iff_places messages isLapse_iff index).mp found)
  | none =>
      have intact := (findIdx?_eq_none_iff_places messages isLapse_iff).mp found
      simp only [assess, found]
      split
      · next none =>
          rw [← counted, Finset.card_eq_zero] at none
          exact .firstTurn none
      · next turns some =>
          rw [← counted, Nat.succ_eq_add_one] at some
          rw [← some]
          exact .preserved intact (by omega)

end Continuity

theorem lapses_stripReasoning (messages : List ChatMessage) :
    lapses (stripReasoning messages).1 = answers (stripReasoning messages).1 := by
  apply Finset.Subset.antisymm (lapses_subset_answers _)
  intro place answer
  rw [answers, placesBeforeLast, Finset.mem_filter] at answer
  rw [lapses, placesBeforeLast, Finset.mem_filter]
  rcases answer with ⟨before, message, found, assistant⟩
  refine ⟨before, message, found, assistant, ?_⟩
  have member := List.mem_of_getElem? found
  rw [stripReasoning_eq] at member
  rcases List.mem_map.mp member with ⟨source, _, rfl⟩
  rw [← ChatMessage.showsReasoning_iff,
    ChatMessage.showsReasoning_of_stripsTo source.stripsTo_withoutReasoning assistant]
  exact Bool.false_ne_true

/-- The scan tells of a history what its rules say: the first lapse, or the number of
answers, or that there is none. Of stripped messages it never tells the number. -/
theorem assess_eq_iff_tells (messages : List ChatMessage) (continuity : Continuity) :
    (Continuity.assess messages = continuity ↔ Continuity.Tells messages continuity) ∧
      ∀ turns, Continuity.assess (stripReasoning messages).1 ≠ .preserved turns := by
  constructor
  · constructor
    · intro assessed
      rw [← assessed]
      exact Continuity.tells_assess messages
    · intro tells
      exact (Continuity.tells_assess messages).unique tells
  · intro turns preserved
    have tells := Continuity.tells_assess (stripReasoning messages).1
    rw [preserved] at tells
    cases tells with
    | preserved intact answered =>
        rw [← lapses_stripReasoning, intact] at answered
        cases answered

/-- What an assistant says last is to be continued, and is no answer yet. -/
example :
    let begun : List ChatMessage :=
      [.ofContent .user (.text "first"), .ofContent .assistant (.text "begun")]
    answers begun = ∅ ∧ Continuity.assess begun = .firstTurn := by decide

end ChatGateway
