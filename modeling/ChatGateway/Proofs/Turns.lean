import ChatGateway.Messages.Conversation
import Mathlib.Data.List.Chain

namespace ChatGateway

/-! Joining turns. The blocks of a list of turns, each placed under the role of
its turn, are the same before and after joining, and afterwards no two neighbours
share a role. Joining only ever puts further blocks behind those of a turn, so
what survives further blocks also holds of the joined turns. -/

/-- The blocks of a turn, each under the role of the turn. -/
def placed (turn : Role × List ContentBlock) : List (Role × ContentBlock) :=
  turn.2.map (turn.1, ·)

theorem mem_placed {turn : Role × List ContentBlock} {role : Role} {block : ContentBlock} :
    (role, block) ∈ placed turn ↔ turn.1 = role ∧ block ∈ turn.2 := by
  simp only [placed, List.mem_map, Prod.mk.injEq]
  constructor
  · rintro ⟨source, member, sameRole, rfl⟩
    exact ⟨sameRole, member⟩
  · rintro ⟨sameRole, member⟩
    exact ⟨block, member, sameRole, rfl⟩

/-- What a turn does when it is put before other turns: it stands alone, it takes
in the blocks of a neighbour of its role, or it is a neighbour of another role. -/
theorem mergeTurns_cons_cases (role : Role) (blocks : List ContentBlock)
    (rest : List (Role × List ContentBlock)) :
    (mergeTurns rest = [] ∧ mergeTurns ((role, blocks) :: rest) = [(role, blocks)]) ∨
    (∃ more others, mergeTurns rest = (role, more) :: others ∧
      mergeTurns ((role, blocks) :: rest) = (role, blocks ++ more) :: others) ∨
    (∃ next more others, next ≠ role ∧ mergeTurns rest = (next, more) :: others ∧
      mergeTurns ((role, blocks) :: rest) = (role, blocks) :: (next, more) :: others) := by
  cases joined : mergeTurns rest with
  | nil => exact .inl ⟨rfl, by simp [mergeTurns, joined]⟩
  | cons head others =>
      rcases head with ⟨next, more⟩
      by_cases equal : next = role
      · subst equal
        exact .inr (.inl ⟨more, others, rfl, by simp [mergeTurns, joined]⟩)
      · exact .inr (.inr ⟨next, more, others, equal, rfl, by simp [mergeTurns, joined, equal]⟩)

theorem mergeTurns_eq_nil_iff (turns : List (Role × List ContentBlock)) :
    mergeTurns turns = [] ↔ turns = [] := by
  cases turns with
  | nil => simp [mergeTurns]
  | cons turn rest =>
      rcases turn with ⟨role, blocks⟩
      rcases mergeTurns_cons_cases role blocks rest with
        ⟨_, result⟩ | ⟨_, _, _, result⟩ | ⟨_, _, _, _, _, result⟩ <;> simp [result]

/-- Joining neither loses, nor repeats, nor reorders a block. -/
theorem placed_mergeTurns (turns : List (Role × List ContentBlock)) :
    (mergeTurns turns).flatMap placed = turns.flatMap placed := by
  induction turns with
  | nil => rfl
  | cons turn rest induction =>
      rcases turn with ⟨role, blocks⟩
      rw [List.flatMap_cons, ← induction]
      rcases mergeTurns_cons_cases role blocks rest with
        ⟨joined, result⟩ | ⟨more, others, joined, result⟩ |
        ⟨next, more, others, _, joined, result⟩
      · rw [result, joined, List.flatMap_singleton, List.flatMap_nil, List.append_nil]
      · rw [result, joined]
        simp [placed]
      · rw [result, joined, List.flatMap_cons]

theorem isChain_mergeTurns (turns : List (Role × List ContentBlock)) :
    (mergeTurns turns).IsChain (·.1 ≠ ·.1) := by
  induction turns with
  | nil => exact .nil
  | cons turn rest induction =>
      rcases turn with ⟨role, blocks⟩
      rcases mergeTurns_cons_cases role blocks rest with
        ⟨_, result⟩ | ⟨more, others, joined, result⟩ |
        ⟨next, more, others, different, joined, result⟩
      · rw [result]
        exact .singleton _
      · rw [joined] at induction
        rw [result]
        -- Only the blocks of the first turn differ, and the relation reads roles.
        exact List.isChain_cons.mpr (List.isChain_cons.mp induction)
      · rw [joined] at induction
        rw [result]
        exact .cons_cons different.symm induction

theorem mergeTurns_of_isChain {turns : List (Role × List ContentBlock)}
    (alternate : turns.IsChain (·.1 ≠ ·.1)) : mergeTurns turns = turns := by
  induction turns with
  | nil => rfl
  | cons turn rest induction =>
      rcases turn with ⟨role, blocks⟩
      have joined := induction alternate.tail
      cases rest with
      | nil => rfl
      | cons next others =>
          have different : next.1 ≠ role := (List.isChain_cons_cons.mp alternate).1.symm
          rw [mergeTurns, joined]
          exact if_neg different

theorem exists_role_of_mem_mergeTurns {turns : List (Role × List ContentBlock)}
    {turn : Role × List ContentBlock} (member : turn ∈ mergeTurns turns) :
    ∃ source ∈ turns, source.1 = turn.1 := by
  induction turns generalizing turn with
  | nil => simp [mergeTurns] at member
  | cons first rest induction =>
      rcases first with ⟨role, blocks⟩
      have later : turn ∈ mergeTurns rest →
          ∃ source ∈ (role, blocks) :: rest, source.1 = turn.1 := by
        intro inRest
        rcases induction inRest with ⟨source, sourceMember, sameRole⟩
        exact ⟨source, List.mem_cons_of_mem _ sourceMember, sameRole⟩
      rcases mergeTurns_cons_cases role blocks rest with
        ⟨_, result⟩ | ⟨more, others, joined, result⟩ |
        ⟨next, more, others, _, joined, result⟩
      · rw [result, List.mem_singleton] at member
        exact ⟨(role, blocks), List.mem_cons_self, by rw [member]⟩
      · rw [result] at member
        rcases List.mem_cons.mp member with rfl | inOthers
        · exact ⟨(role, blocks), List.mem_cons_self, rfl⟩
        · exact later (joined ▸ List.mem_cons_of_mem _ inOthers)
      · rw [result] at member
        rcases List.mem_cons.mp member with rfl | inRest
        · exact ⟨(role, blocks), List.mem_cons_self, rfl⟩
        · exact later (joined ▸ inRest)

theorem forall_dropLast_mergeTurns {Holds : Role × List ContentBlock → Prop}
    (grows : ∀ role blocks more, Holds (role, blocks) → Holds (role, blocks ++ more))
    {turns : List (Role × List ContentBlock)}
    (earlier : ∀ turn ∈ turns.dropLast, Holds turn) :
    ∀ turn ∈ (mergeTurns turns).dropLast, Holds turn := by
  induction turns with
  | nil => simp [mergeTurns]
  | cons first rest induction =>
      rcases first with ⟨role, blocks⟩
      by_cases alone : rest = []
      · subst alone
        simp [mergeTurns]
      · rw [List.dropLast_cons_of_ne_nil alone] at earlier
        have firstHolds : Holds (role, blocks) := earlier _ List.mem_cons_self
        have restHolds := induction fun turn member =>
          earlier turn (List.mem_cons_of_mem _ member)
        rcases mergeTurns_cons_cases role blocks rest with
          ⟨joined, _⟩ | ⟨more, others, joined, result⟩ |
          ⟨next, more, others, _, joined, result⟩
        · exact absurd ((mergeTurns_eq_nil_iff rest).mp joined) alone
        · rw [result]
          rw [joined] at restHolds
          cases others with
          | nil => simp
          | cons second others =>
              rw [List.dropLast_cons_cons, List.forall_mem_cons] at restHolds ⊢
              exact ⟨grows role blocks more firstHolds, restHolds.2⟩
        · rw [result, List.dropLast_cons_cons, List.forall_mem_cons]
          rw [joined] at restHolds
          exact ⟨firstHolds, restHolds⟩

/-- What is done to the blocks of each turn comes to the same before joining and after
it, when joined blocks can be taken part by part. -/
theorem mergeTurns_map {change : Role → List ContentBlock → List ContentBlock}
    (partwise : ∀ role blocks more,
      change role (blocks ++ more) = change role blocks ++ change role more)
    (turns : List (Role × List ContentBlock)) :
    mergeTurns (turns.map fun turn => (turn.1, change turn.1 turn.2)) =
      (mergeTurns turns).map fun turn => (turn.1, change turn.1 turn.2) := by
  induction turns with
  | nil => rfl
  | cons turn rest induction =>
      rcases turn with ⟨role, blocks⟩
      rw [List.map_cons, mergeTurns, induction]
      rcases mergeTurns_cons_cases role blocks rest with
        ⟨joined, result⟩ | ⟨more, others, joined, result⟩ |
        ⟨next, more, others, different, joined, result⟩
      · rw [joined, result]
        rfl
      · rw [joined, result]
        simp [partwise]
      · rw [joined, result]
        simp [different]

end ChatGateway
