import ChatGateway.Thinking

namespace ChatGateway

/-! Budgets as natural numbers. The arithmetic of 64-bit words never wraps: a
budget exists exactly when the limit leaves room for the minimum beside the
answer's reserve, and is then the wanted one brought between the two bounds. A
budget that lies there already stays as it is, so that fitting a second time
changes nothing. -/

theorem toNat_min (left right : UInt64) :
    (min left right).toNat = min left.toNat right.toNat := by
  change (if left ≤ right then left else right).toNat = _
  split
  · next below =>
      rw [UInt64.le_iff_toNat_le] at below
      omega
  · next above =>
      rw [UInt64.le_iff_toNat_le] at above
      omega

theorem toNat_max (left right : UInt64) :
    (max left right).toNat = max left.toNat right.toNat := by
  change (if left ≤ right then right else left).toNat = _
  split
  · next below =>
      rw [UInt64.le_iff_toNat_le] at below
      omega
  · next above =>
      rw [UInt64.le_iff_toNat_le] at above
      omega

theorem toNat_saturatingSub (minuend subtrahend : UInt64) :
    (saturatingSub minuend subtrahend).toNat = minuend.toNat - subtrahend.toNat := by
  rw [saturatingSub]
  split
  · next below =>
      rw [UInt64.lt_iff_toNat_lt] at below
      rw [UInt64.toNat_zero]
      omega
  · next notBelow =>
      exact UInt64.toNat_sub_of_le _ _ (UInt64.not_lt.mp notBelow)

theorem minimalBudget_toNat : minimalBudget.toNat = 1024 := rfl

theorem answerReserve_toNat : answerReserve.toNat = 100 := rfl

theorem clampBudget_eq_none_iff (budget maxTokens : UInt64) :
    clampBudget budget maxTokens = none ↔ maxTokens.toNat < 1124 := by
  rw [clampBudget]
  simp only [ite_eq_right_iff, reduceCtorEq, imp_false, UInt64.le_iff_toNat_le, toNat_min,
    toNat_max, toNat_saturatingSub, minimalBudget_toNat, answerReserve_toNat]
  omega

/-- The budget found is the wanted one, brought between the minimum and the limit
less the reserve. -/
theorem toNat_of_clampBudget_eq_some {budget maxTokens found : UInt64}
    (clamped : clampBudget budget maxTokens = some found) :
    1124 ≤ maxTokens.toNat ∧
      found.toNat = max 1024 (min budget.toNat (maxTokens.toNat - 100)) := by
  have enough : ¬ maxTokens.toNat < 1124 := by
    rw [← clampBudget_eq_none_iff budget, clamped]
    simp
  rw [clampBudget] at clamped
  simp only [Option.ite_none_right_eq_some, Option.some.injEq] at clamped
  rw [← clamped.2, toNat_min, toNat_max, toNat_saturatingSub, minimalBudget_toNat,
    answerReserve_toNat]
  omega

theorem toNat_of_thinkingBudget_eq_some {maxTokens found : UInt64}
    (halved : thinkingBudget maxTokens = some found) :
    1124 ≤ maxTokens.toNat ∧ found.toNat = max 1024 (maxTokens.toNat / 2) := by
  have half : (maxTokens / 2).toNat = maxTokens.toNat / 2 := UInt64.toNat_div maxTokens 2
  have bounds := toNat_of_clampBudget_eq_some halved
  rw [half] at bounds
  omega

/-! Which budgets are found, and what a second fitting does. -/

theorem clampBudget_eq_some_iff {budget maxTokens found : UInt64} :
    clampBudget budget maxTokens = some found ↔
      1124 ≤ maxTokens.toNat ∧
        found.toNat = min (max budget.toNat 1024) (maxTokens.toNat - 100) := by
  constructor
  · intro clamped
    have bounds := toNat_of_clampBudget_eq_some clamped
    omega
  · intro bounds
    cases clamped : clampBudget budget maxTokens with
    | none =>
        have noRoom := (clampBudget_eq_none_iff budget maxTokens).mp clamped
        omega
    | some other =>
        have otherBounds := toNat_of_clampBudget_eq_some clamped
        have equal : other.toNat = found.toNat := by omega
        rw [UInt64.toNat_inj.mp equal]

theorem clampBudget_eq_self_iff {budget maxTokens : UInt64} :
    clampBudget budget maxTokens = some budget ↔
      1024 ≤ budget.toNat ∧ budget.toNat + 100 ≤ maxTokens.toNat := by
  rw [clampBudget_eq_some_iff]
  omega

theorem map_toNat_clampBudget (budget maxTokens : UInt64) :
    (clampBudget budget maxTokens).map UInt64.toNat =
      if maxTokens.toNat < 1124 then none
      else some (min (max budget.toNat 1024) (maxTokens.toNat - 100)) := by
  cases clamped : clampBudget budget maxTokens with
  | none => rw [if_pos ((clampBudget_eq_none_iff budget maxTokens).mp clamped), Option.map_none]
  | some found =>
      have bounds := clampBudget_eq_some_iff.mp clamped
      rw [if_neg (Nat.not_lt.mpr bounds.1), Option.map_some, bounds.2]

theorem map_toNat_thinkingBudget (maxTokens : UInt64) :
    (thinkingBudget maxTokens).map UInt64.toNat =
      if maxTokens.toNat < 1124 then none else some (max 1024 (maxTokens.toNat / 2)) := by
  cases halved : thinkingBudget maxTokens with
  | none => rw [if_pos ((clampBudget_eq_none_iff _ maxTokens).mp halved), Option.map_none]
  | some found =>
      have bounds := toNat_of_thinkingBudget_eq_some halved
      rw [if_neg (Nat.not_lt.mpr bounds.1), Option.map_some, bounds.2]

theorem clampBudget_mono {budget more maxTokens larger : UInt64} (wish : budget ≤ more)
    (limit : maxTokens ≤ larger) : clampBudget budget maxTokens ≤ clampBudget more larger := by
  cases clamped : clampBudget budget maxTokens with
  | none => exact Option.none_le
  | some found =>
      have bounds := clampBudget_eq_some_iff.mp clamped
      rw [UInt64.le_iff_toNat_le] at wish limit
      cases reached : clampBudget more larger with
      | none =>
          have noRoom := (clampBudget_eq_none_iff more larger).mp reached
          omega
      | some other =>
          have otherBounds := clampBudget_eq_some_iff.mp reached
          rw [Option.some_le_some, UInt64.le_iff_toNat_le]
          omega

theorem clampBudget_again {budget maxTokens found : UInt64}
    (clamped : clampBudget budget maxTokens = some found) :
    clampBudget found maxTokens = some found := by
  have bounds := clampBudget_eq_some_iff.mp clamped
  apply clampBudget_eq_self_iff.mpr
  omega

theorem fit?_again (config : ThinkingConfig) (maxTokens : UInt64) :
    (config.fit? maxTokens).bind (·.fit? maxTokens) = config.fit? maxTokens := by
  cases config with
  | disabled => rfl
  | enabled budget =>
      rw [ThinkingConfig.fit?]
      cases clamped : clampBudget budget maxTokens with
      | none => rfl
      | some found =>
          rw [Option.map_some, Option.bind_some, ThinkingConfig.fit?, clampBudget_again clamped,
            Option.map_some]

/-- A wish is brought between the minimum and the limit less the reserve, and nothing is
found just when the limit is below the two together; half of the limit has only the minimum
to reach. A larger wish or a larger limit never finds less, and what was fitted once is
fitted. -/
theorem budget_laws (budget maxTokens : UInt64) (config : ThinkingConfig) :
    (clampBudget budget maxTokens = none ↔ maxTokens.toNat < 1124) ∧
    (clampBudget budget maxTokens).map UInt64.toNat =
      (if maxTokens.toNat < 1124 then none
      else some (min (max budget.toNat 1024) (maxTokens.toNat - 100))) ∧
    (∀ more, budget ≤ more → clampBudget budget maxTokens ≤ clampBudget more maxTokens) ∧
    (∀ larger, maxTokens ≤ larger →
      clampBudget budget maxTokens ≤ clampBudget budget larger) ∧
    (∀ found, clampBudget budget maxTokens = some found →
      clampBudget found maxTokens = some found) ∧
    (thinkingBudget maxTokens).map UInt64.toNat =
      (if maxTokens.toNat < 1124 then none else some (max 1024 (maxTokens.toNat / 2))) ∧
    (config.fit? maxTokens).bind (·.fit? maxTokens) = config.fit? maxTokens := by
  refine ⟨clampBudget_eq_none_iff budget maxTokens, map_toNat_clampBudget budget maxTokens,
    ?_, ?_, ?_, map_toNat_thinkingBudget maxTokens, fit?_again config maxTokens⟩
  · intro more wish
    exact clampBudget_mono wish (UInt64.le_refl maxTokens)
  · intro larger limit
    exact clampBudget_mono (UInt64.le_refl budget) limit
  · intro found clamped
    exact clampBudget_again clamped

/-- At the least limit that has room every wish finds the minimum, and one token below it
none does. -/
theorem budget_laws_of_leastLimit :
    (1024 : UInt64) ≤ 5000 ∧ clampBudget 1024 1124 ≤ clampBudget 5000 1124 ∧
      (1123 : UInt64) ≤ 1124 ∧ clampBudget 5000 1123 ≤ clampBudget 5000 1124 ∧
      clampBudget 5000 1124 = some 1024 ∧ clampBudget 1024 1124 = some 1024 := by
  have wish : (1024 : UInt64) ≤ 5000 := by decide
  have limit : (1123 : UInt64) ≤ 1124 := by decide
  have found : clampBudget 5000 1124 = some 1024 := by decide
  exact ⟨wish, (budget_laws 1024 1124 .disabled).2.2.1 5000 wish,
    limit, (budget_laws 5000 1123 .disabled).2.2.2.1 1124 limit,
    found, (budget_laws 5000 1124 .disabled).2.2.2.2.1 1024 found⟩

end ChatGateway
