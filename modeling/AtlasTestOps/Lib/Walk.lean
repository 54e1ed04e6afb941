import Mathlib

/-! Walks of a digraph counted by their edges. On a finite digraph a set of nodes
closed under taking a predecessor holds a cycle, so acyclicity is the same as a
bound on the walks that end at each node. -/

namespace Digr

variable {α : Type*} {E : α → α → Prop}

/-- A walk of exactly `n` edges ends at `v`. -/
inductive WalkTo (E : α → α → Prop) : ℕ → α → Prop
  | nil (v : α) : WalkTo E 0 v
  | snoc {n : ℕ} {u v : α} : WalkTo E n u → E u v → WalkTo E (n + 1) v

/-- The longest walk that ends at `v` has `n` edges. -/
def LongestTo (E : α → α → Prop) (n : ℕ) (v : α) : Prop :=
  WalkTo E n v ∧ ∀ m, WalkTo E m v → m ≤ n

def Acyclic (E : α → α → Prop) : Prop := ∀ v, ¬ Relation.TransGen E v v

theorem walkTo_succ {n : ℕ} {v : α} : WalkTo E (n + 1) v ↔ ∃ u, WalkTo E n u ∧ E u v := by
  constructor
  · rintro (_ | ⟨hu, he⟩)
    exact ⟨_, hu, he⟩
  · rintro ⟨u, hu, he⟩
    exact WalkTo.snoc hu he

/-- Dropping the first edge of a walk keeps its end. -/
theorem WalkTo.tail {n : ℕ} {v : α} (h : WalkTo E (n + 1) v) : WalkTo E n v := by
  induction n generalizing v with
  | zero => exact WalkTo.nil v
  | succ n ih =>
    obtain ⟨u, hu, he⟩ := walkTo_succ.1 h
    exact WalkTo.snoc (ih hu) he

theorem WalkTo.anti {m n : ℕ} {v : α} (hmn : m ≤ n) (h : WalkTo E n v) : WalkTo E m v := by
  induction n with
  | zero => rwa [Nat.le_zero.1 hmn]
  | succ n ih =>
    rcases Nat.lt_or_ge n m with hlt | hge
    · rwa [show m = n + 1 by omega]
    · exact ih hge h.tail

theorem longestTo_iff {n : ℕ} {v : α} :
    LongestTo E n v ↔ WalkTo E n v ∧ ¬ WalkTo E (n + 1) v := by
  constructor
  · rintro ⟨hw, hmax⟩
    refine ⟨hw, fun h => ?_⟩
    have := hmax _ h
    omega
  · rintro ⟨hw, hno⟩
    refine ⟨hw, fun m hm => ?_⟩
    by_contra hlt
    exact hno (hm.anti (by omega))

/-- Every edge leads from a node to one whose longest walk is longer. -/
theorem LongestTo.lt_of_edge {m n : ℕ} {u v : α} (hu : LongestTo E m u) (hv : LongestTo E n v)
    (he : E u v) : m < n :=
  hv.2 _ (WalkTo.snoc hu.1 he)

theorem walkTo_of_cycle {v : α} (h : Relation.TransGen E v v) (n : ℕ) : WalkTo E n v := by
  have step : ∀ {u w : α}, Relation.TransGen E u w → ∀ m, WalkTo E m u → WalkTo E (m + 1) w := by
    intro u w huw
    induction huw with
    | single he => exact fun m hm => WalkTo.snoc hm he
    | tail _ he ih => exact fun m hm => WalkTo.snoc (ih m hm).tail he
  induction n with
  | zero => exact WalkTo.nil v
  | succ n ih => exact step h n ih

/-- Without a walk of `K` edges there is a longest one, and it is shorter. -/
theorem exists_longestTo {K : ℕ} {v : α} (h : ¬ WalkTo E K v) : ∃ i < K, LongestTo E i v := by
  induction K with
  | zero => exact absurd (WalkTo.nil v) h
  | succ K ih =>
    by_cases hK : WalkTo E K v
    · exact ⟨K, Nat.lt_succ_self K, longestTo_iff.2 ⟨hK, h⟩⟩
    · obtain ⟨i, hi, hlong⟩ := ih hK
      exact ⟨i, by omega, hlong⟩

/-- In a finite acyclic digraph a set in which every node has a predecessor is empty. -/
theorem Acyclic.no_predecessor_closed (hac : Acyclic E) {V : List α}
    (hpred : ∀ v ∈ V, ∃ u ∈ V, E u v) : V = [] := by
  have hfin : Finite {v // v ∈ V} := (List.finite_toSet V).to_subtype
  let r : {v // v ∈ V} → {v // v ∈ V} → Prop := fun a b => Relation.TransGen E a.1 b.1
  have htrans : IsTrans _ r := ⟨fun _ _ _ hab hbc => hab.trans hbc⟩
  have hirr : Std.Irrefl r := ⟨fun a => hac a.1⟩
  have hwf : WellFounded r := Finite.wellFounded_of_trans_of_irrefl r
  have hnone : ∀ a : {v // v ∈ V}, False := by
    intro a
    induction a using hwf.induction with
    | _ a ih =>
      obtain ⟨u, hu, he⟩ := hpred a.1 a.2
      exact ih ⟨u, hu⟩ (Relation.TransGen.single he)
  rw [List.eq_nil_iff_forall_not_mem]
  exact fun v hv => hnone ⟨v, hv⟩

end Digr
