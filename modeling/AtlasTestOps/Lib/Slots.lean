import Mathlib

/-! A list with one place for every number of a range: what a filter finds in it. -/

namespace Slots

variable {α β : Type} [DecidableEq β]

/-- The entries of a range, filtered by a column that tells the numbers apart, are the entry of
one number. -/
theorem filter_filterMap_range' (g : ℕ → Option α) (key : α → β) (h : ℕ → β)
    (hkey : ∀ o x, g o = some x → key x = h o) (hinj : Function.Injective h) (o : ℕ) :
    ∀ a n : ℕ, ((List.range' a n).filterMap g).filter (fun x => key x = h o) =
      if a ≤ o ∧ o < a + n then (g o).toList else []
  | a, 0 => by
    rw [if_neg (by omega)]
    rfl
  | a, n + 1 => by
    have ih := filter_filterMap_range' g key h hkey hinj o (a + 1) n
    rw [List.range'_succ]
    by_cases ha : a = o
    · subst ha
      rw [if_neg (by omega)] at ih
      rw [if_pos (by omega)]
      cases hg : g a with
      | none => rw [List.filterMap_cons_none hg, ih]; rfl
      | some x =>
        rw [List.filterMap_cons_some hg, List.filter_cons_of_pos (by simp [hkey a x hg]), ih]
        rfl
    · have hcongr : (a + 1 ≤ o ∧ o < a + 1 + n) ↔ (a ≤ o ∧ o < a + (n + 1)) := by omega
      rw [if_congr hcongr rfl rfl] at ih
      rw [← ih]
      cases hg : g a with
      | none => rw [List.filterMap_cons_none hg]
      | some x =>
        have hne : key x ≠ h o := fun heq => ha (hinj ((hkey a x hg).symm.trans heq))
        rw [List.filterMap_cons_some hg, List.filter_cons_of_neg (by simp [hne])]

end Slots
