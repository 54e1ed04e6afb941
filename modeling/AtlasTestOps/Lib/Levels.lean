import AtlasTestOps.Lib.Walk
import Mathlib

/-! Kahn's levelling of a finite digraph. `V` lists the nodes, `succ` the distinct
targets of each node, and the loop carries a remaining in-degree for every node.
Round `k` emits exactly the nodes whose longest incoming walk has `k` edges. -/

namespace Digr

variable {α : Type*} [DecidableEq α]

/-- Lower the remaining in-degree of one target and collect it when it reaches zero. -/
def relax (st : (α → ℤ) × List α) (t : α) : (α → ℤ) × List α :=
  let remaining := Function.update st.1 t (st.1 t - 1)
  (remaining, if remaining t = 0 then st.2 ++ [t] else st.2)

/-- One round: relax every target of every node of the level. -/
def expand (succ : α → List α) (remaining : α → ℤ) (level : List α) : (α → ℤ) × List α :=
  level.foldl (fun st u => (succ u).foldl relax st) (remaining, [])

/-- The level loop; `none` when the fuel ends before the ready list is empty. -/
def levelsFrom (succ : α → List α) (sort : List α → List α) :
    ℕ → (α → ℤ) → List α → Option (List (List α))
  | _, _, [] => some []
  | 0, _, _ :: _ => none
  | fuel + 1, remaining, u :: ready =>
    let next := expand succ remaining (u :: ready)
    (levelsFrom succ sort fuel next.1 (sort next.2)).map ((u :: ready) :: ·)

theorem relax_foldl_fst (ts : List α) (st : (α → ℤ) × List α) (v : α) :
    (ts.foldl relax st).1 v = st.1 v - ts.count v := by
  induction ts generalizing st with
  | nil => simp
  | cons t ts ih =>
    rw [List.foldl_cons, ih, List.count_cons]
    by_cases htv : t = v
    · subst htv
      simp [relax]
      omega
    · simp [relax, Function.update_of_ne (Ne.symm htv), htv]

/-- A node is collected once, by the relaxation that brings it to zero. -/
theorem relax_foldl_count (ts : List α) (st : (α → ℤ) × List α) (v : α)
    (hle : (ts.count v : ℤ) ≤ st.1 v) :
    (ts.foldl relax st).2.count v =
      st.2.count v + (if 0 < st.1 v ∧ st.1 v = ts.count v then 1 else 0) := by
  induction ts generalizing st with
  | nil =>
    rw [List.count_nil, if_neg (by omega)]
    rfl
  | cons t ts ih =>
    rw [List.foldl_cons]
    rw [List.count_cons] at hle ⊢
    by_cases htv : t = v
    · subst htv
      simp only [beq_self_eq_true, if_true] at hle ⊢
      have hval : (relax st t).1 t = st.1 t - 1 := by simp [relax]
      rw [ih (relax st t) (by rw [hval]; omega), hval]
      by_cases hzero : st.1 t - 1 = 0
      · have happ : (relax st t).2 = st.2 ++ [t] := by simp [relax, hzero]
        rw [happ, List.count_append, List.count_singleton_self, if_neg (by omega),
          if_pos (by omega)]
      · have happ : (relax st t).2 = st.2 := by simp [relax, hzero]
        rw [happ]
        congr 1
        exact if_congr (by omega) rfl rfl
    · have hval : (relax st t).1 v = st.1 v := by
        simp [relax, Function.update_of_ne (Ne.symm htv)]
      have hcnt : (relax st t).2.count v = st.2.count v := by
        simp only [relax]
        split_ifs
        · simp [List.count_append, htv]
        · rfl
      have hbeq : (t == v) = false := by simpa using htv
      simp only [hbeq, Bool.false_eq_true, if_false, Nat.add_zero] at hle ⊢
      rw [ih (relax st t) (by rw [hval]; exact hle), hval, hcnt]

theorem expand_eq (succ : α → List α) (remaining : α → ℤ) (level : List α) :
    expand succ remaining level = (level.flatMap succ).foldl relax (remaining, []) := by
  rw [expand, List.foldl_flatMap]

/-- How many nodes of the level have `v` as a target. -/
theorem count_flatMap_succ (succ : α → List α) (hnodup : ∀ u, (succ u).Nodup)
    (level : List α) (v : α) :
    (level.flatMap succ).count v = level.countP (fun u => v ∈ succ u) := by
  induction level with
  | nil => rfl
  | cons u level ih =>
    rw [List.flatMap_cons, List.count_append, ih, List.countP_cons, (hnodup u).count]
    by_cases hv : v ∈ succ u <;> simp [hv, Nat.add_comm]

theorem levelsFrom_succ (succ : α → List α) (sort : List α → List α) {fuel : ℕ}
    {remaining : α → ℤ} {ready : List α} {levels : List (List α)}
    (h : levelsFrom succ sort fuel remaining ready = some levels) :
    levelsFrom succ sort (fuel + 1) remaining ready = some levels := by
  induction fuel generalizing remaining ready levels with
  | zero =>
    cases ready with
    | nil => simpa [levelsFrom] using h
    | cons u ready => simp [levelsFrom] at h
  | succ fuel ih =>
    cases ready with
    | nil => simpa [levelsFrom] using h
    | cons u ready =>
      simp only [levelsFrom, Option.map_eq_some_iff] at h
      obtain ⟨rest, hrest, rfl⟩ := h
      rw [levelsFrom, ih hrest]
      rfl

/-- More fuel never changes a finished levelling. -/
theorem levelsFrom_mono (succ : α → List α) (sort : List α → List α) {fuel fuel' : ℕ}
    (hle : fuel ≤ fuel') {remaining : α → ℤ} {ready : List α} {levels : List (List α)}
    (h : levelsFrom succ sort fuel remaining ready = some levels) :
    levelsFrom succ sort fuel' remaining ready = some levels := by
  induction fuel' with
  | zero => rwa [Nat.le_zero.1 hle] at h
  | succ fuel' ih =>
    rcases Nat.lt_or_ge fuel' fuel with hlt | hge
    · rwa [show fuel = fuel' + 1 by omega] at h
    · exact levelsFrom_succ succ sort (ih hge)

section Correctness

open Classical

variable {V : List α} {succ : α → List α} {sort : List α → List α}

/-- The edge relation of a successor function. -/
abbrev Edge (succ : α → List α) (u v : α) : Prop := v ∈ succ u

/-- The finite digraph on which the loop runs. -/
structure Finite (V : List α) (succ : α → List α) : Prop where
  nodup : V.Nodup
  succNodup : ∀ u, (succ u).Nodup
  source : ∀ u v, v ∈ succ u → u ∈ V
  target : ∀ u v, v ∈ succ u → v ∈ V

/-- The loop invariant before round `k`: the ready list holds the nodes of level `k`, and
the remaining in-degree of a node counts its predecessors of level `k` or later. -/
structure RoundInv (V : List α) (succ : α → List α) (k : ℕ) (remaining : α → ℤ)
    (ready : List α) : Prop where
  nodup : ready.Nodup
  mem : ∀ v, v ∈ ready ↔ v ∈ V ∧ LongestTo (Edge succ) k v
  degree : ∀ v, remaining v = V.countP (fun u => WalkTo (Edge succ) k u ∧ v ∈ succ u)

omit [DecidableEq α] in
private theorem countP_disjoint (l : List α) (p q r : α → Bool)
    (hor : ∀ a, p a = true ↔ q a = true ∨ r a = true) (hdisj : ∀ a, ¬ (q a = true ∧ r a = true)) :
    l.countP p = l.countP q + l.countP r := by
  induction l with
  | nil => rfl
  | cons a l ih =>
    have h1 := hor a
    have h2 := hdisj a
    simp only [List.countP_cons, ih]
    cases hp : p a <;> cases hq : q a <;> cases hr : r a <;> simp_all <;> omega

/-- The predecessors lost in round `k` are those in the ready list. -/
private theorem degree_split (hV : V.Nodup) {k : ℕ} {remaining : α → ℤ} {ready : List α}
    (hinv : RoundInv V succ k remaining ready) (v : α) :
    V.countP (fun u => WalkTo (Edge succ) k u ∧ v ∈ succ u) =
      V.countP (fun u => WalkTo (Edge succ) (k + 1) u ∧ v ∈ succ u) +
        ready.countP (fun u => v ∈ succ u) := by
  have hperm : ready.Perm (V.filter (fun u => LongestTo (Edge succ) k u)) := by
    rw [List.perm_ext_iff_of_nodup hinv.nodup (hV.filter _)]
    intro a
    rw [hinv.mem a, List.mem_filter, decide_eq_true_eq]
  rw [hperm.countP_eq, List.countP_filter]
  apply countP_disjoint
  · intro u
    simp only [decide_eq_true_eq, Bool.and_eq_true, longestTo_iff]
    have htail : WalkTo (Edge succ) (k + 1) u → WalkTo (Edge succ) k u := WalkTo.tail
    tauto
  · intro u
    simp only [decide_eq_true_eq, Bool.and_eq_true, longestTo_iff]
    tauto

theorem RoundInv.expand (hg : Finite V succ) (hsort : ∀ l, (sort l).Perm l) {k : ℕ}
    {remaining : α → ℤ} {ready : List α} (hinv : RoundInv V succ k remaining ready) :
    RoundInv V succ (k + 1) (expand succ remaining ready).1
      (sort (expand succ remaining ready).2) := by
  have hcount : ∀ v, (ready.flatMap succ).count v = ready.countP (fun u => v ∈ succ u) :=
    count_flatMap_succ succ hg.succNodup ready
  have hcollect : ∀ v, (Digr.expand succ remaining ready).2.count v =
      if 0 < remaining v ∧ remaining v = (ready.flatMap succ).count v then 1 else 0 := by
    intro v
    rw [expand_eq, relax_foldl_count _ _ _ ?_]
    · simp
    · change ((ready.flatMap succ).count v : ℤ) ≤ remaining v
      rw [hcount, hinv.degree, degree_split hg.nodup hinv v]
      push_cast
      omega
  refine ⟨?_, ?_, ?_⟩
  · rw [(hsort _).nodup_iff, List.nodup_iff_count_le_one]
    intro v
    rw [hcollect v]
    split_ifs <;> omega
  · intro v
    rw [(hsort _).mem_iff, ← List.count_pos_iff, hcollect v, hcount v, hinv.degree v,
      degree_split hg.nodup hinv v, longestTo_iff, walkTo_succ, walkTo_succ]
    have hpos : 0 < V.countP (fun u => WalkTo (Edge succ) k u ∧ v ∈ succ u) ↔
        ∃ u, WalkTo (Edge succ) k u ∧ v ∈ succ u := by
      rw [List.countP_pos_iff]
      constructor
      · rintro ⟨u, -, hu⟩
        exact ⟨u, by simpa using hu⟩
      · rintro ⟨u, hu⟩
        exact ⟨u, hg.source u v hu.2, by simpa using hu⟩
    have hzero : V.countP (fun u => WalkTo (Edge succ) (k + 1) u ∧ v ∈ succ u) = 0 ↔
        ¬ ∃ u, WalkTo (Edge succ) (k + 1) u ∧ v ∈ succ u := by
      rw [List.countP_eq_zero]
      constructor
      · rintro h ⟨u, hu⟩
        exact h u (hg.source u v hu.2) (by simpa using hu)
      · intro h u _ hu
        exact h ⟨u, by simpa using hu⟩
    have hmemV : (∃ u, WalkTo (Edge succ) k u ∧ v ∈ succ u) → v ∈ V := by
      rintro ⟨u, -, hu⟩
      exact hg.target u v hu
    rw [degree_split hg.nodup hinv v] at hpos
    constructor
    · intro h
      split_ifs at h with hc
      · have h1 := hpos.1 (by omega)
        exact ⟨hmemV h1, h1, hzero.1 (by omega)⟩
      · omega
    · rintro ⟨-, h1, h2⟩
      have h1' := hpos.2 h1
      have h2' := hzero.2 h2
      rw [if_pos (by push_cast; omega)]
      exact Nat.one_pos
  · intro v
    rw [expand_eq, relax_foldl_fst, hcount v]
    change remaining v - _ = _
    rw [hinv.degree v, degree_split hg.nodup hinv v]
    push_cast
    omega

/-- The levels of a run from round `k`, and the round at which it found no ready node. -/
theorem levelsFrom_spec (hg : Finite V succ) (hsort : ∀ l, (sort l).Perm l) {fuel k : ℕ}
    {remaining : α → ℤ} {ready : List α} {levels : List (List α)}
    (hinv : RoundInv V succ k remaining ready)
    (h : levelsFrom succ sort fuel remaining ready = some levels) :
    (∀ i level, levels[i]? = some level →
      level.Nodup ∧ ∀ v, v ∈ level ↔ v ∈ V ∧ LongestTo (Edge succ) (k + i) v) ∧
    ∀ v ∈ V, ¬ LongestTo (Edge succ) (k + levels.length) v := by
  induction fuel generalizing k remaining ready levels with
  | zero =>
    cases ready with
    | nil =>
      obtain rfl : [] = levels := by simpa [levelsFrom] using h
      refine ⟨by simp, fun v hv hlong => ?_⟩
      simpa using (hinv.mem v).2 ⟨hv, hlong⟩
    | cons u ready => simp [levelsFrom] at h
  | succ fuel ih =>
    cases ready with
    | nil =>
      obtain rfl : [] = levels := by simpa [levelsFrom] using h
      refine ⟨by simp, fun v hv hlong => ?_⟩
      simpa using (hinv.mem v).2 ⟨hv, hlong⟩
    | cons u ready =>
      simp only [levelsFrom, Option.map_eq_some_iff] at h
      obtain ⟨rest, hrest, rfl⟩ := h
      obtain ⟨hlevels, hstop⟩ := ih (hinv.expand hg hsort) hrest
      refine ⟨?_, ?_⟩
      · intro i level hi
        cases i with
        | zero =>
          obtain rfl : u :: ready = level := by simpa using hi
          exact ⟨hinv.nodup, hinv.mem⟩
        | succ i =>
          rw [show k + (i + 1) = k + 1 + i by omega]
          exact hlevels i level (by simpa using hi)
      · rw [List.length_cons, show k + (rest.length + 1) = k + 1 + rest.length by omega]
        exact hstop

/-- Each round removes the ready nodes from those with a walk of `k` edges, so fuel for
every such node is enough. -/
theorem levelsFrom_terminates (hg : Finite V succ) (hsort : ∀ l, (sort l).Perm l) (fuel : ℕ)
    {k : ℕ} {remaining : α → ℤ} {ready : List α} (hinv : RoundInv V succ k remaining ready)
    (hfuel : V.countP (fun u => WalkTo (Edge succ) k u) ≤ fuel) :
    ∃ levels, levelsFrom succ sort fuel remaining ready = some levels := by
  induction fuel generalizing k remaining ready with
  | zero =>
    cases ready with
    | nil => exact ⟨[], by simp [levelsFrom]⟩
    | cons u ready =>
      obtain ⟨hu, hlong⟩ := (hinv.mem u).1 (by simp)
      rw [Nat.le_zero, List.countP_eq_zero] at hfuel
      exact absurd hlong.1 (by simpa using hfuel u hu)
  | succ fuel ih =>
    cases ready with
    | nil => exact ⟨[], by simp [levelsFrom]⟩
    | cons u ready =>
      obtain ⟨hu, hlong⟩ := (hinv.mem u).1 (by simp)
      have hsplit := countP_disjoint V (fun v => WalkTo (Edge succ) k v)
        (fun v => WalkTo (Edge succ) (k + 1) v) (fun v => LongestTo (Edge succ) k v)
        (fun v => by
          simp only [decide_eq_true_eq, longestTo_iff]
          have htail : WalkTo (Edge succ) (k + 1) v → WalkTo (Edge succ) k v := WalkTo.tail
          tauto)
        (fun v => by simp only [decide_eq_true_eq, longestTo_iff]; tauto)
      have hpos : 0 < V.countP (fun v => LongestTo (Edge succ) k v) :=
        List.countP_pos_iff.2 ⟨u, hu, by simpa using hlong⟩
      obtain ⟨rest, hrest⟩ := ih (hinv.expand hg hsort) (by omega)
      exact ⟨(u :: ready) :: rest, by simp [levelsFrom, hrest]⟩

/-- The nodes without a predecessor are ready before the first round. -/
theorem roundInv_start (hg : Finite V succ) (hsort : ∀ l, (sort l).Perm l) {indegree : α → ℤ}
    (hdeg : ∀ v, indegree v = V.countP (fun u => v ∈ succ u)) :
    RoundInv V succ 0 indegree (sort (V.filter (fun v => indegree v = 0))) := by
  refine ⟨(hsort _).nodup_iff.2 (hg.nodup.filter _), fun v => ?_, fun v => ?_⟩
  · rw [(hsort _).mem_iff, List.mem_filter, decide_eq_true_eq, hdeg, longestTo_iff, walkTo_succ]
    refine and_congr_right fun _ => ?_
    rw [Int.natCast_eq_zero, List.countP_eq_zero]
    constructor
    · intro h
      refine ⟨WalkTo.nil v, ?_⟩
      rintro ⟨u, -, hu⟩
      exact h u (hg.source u v hu) (by simpa using hu)
    · rintro ⟨-, h⟩ u _ hu
      exact h ⟨u, WalkTo.nil u, by simpa using hu⟩
  · rw [hdeg v]
    congr 1
    apply List.countP_congr
    intro u _
    simp only [decide_eq_true_eq, iff_and_self]
    exact fun _ => WalkTo.nil u

/-- What a levelling of the whole digraph is. -/
structure Levelling (V : List α) (succ : α → List α) (levels : List (List α)) : Prop where
  nodup : levels.flatten.Nodup
  mem : ∀ v, v ∈ levels.flatten → v ∈ V
  level : ∀ i level, levels[i]? = some level → ∀ v ∈ level, LongestTo (Edge succ) i v
  acyclic : (levels.map List.length).sum = V.length ↔ Acyclic (Edge succ)

omit [DecidableEq α] in
/-- A node with a walk as long as the levelling has arbitrarily long walks. -/
private theorem walkTo_of_stop (hg : Finite V succ) {K : ℕ}
    (hstop : ∀ v ∈ V, ¬ LongestTo (Edge succ) K v) (m : ℕ) :
    ∀ v ∈ V, WalkTo (Edge succ) K v → WalkTo (Edge succ) (K + m) v := by
  induction m with
  | zero => exact fun v _ h => h
  | succ m ih =>
    intro v hv hK
    have hnext : WalkTo (Edge succ) (K + 1) v := by
      by_contra hno
      exact hstop v hv (longestTo_iff.2 ⟨hK, hno⟩)
    obtain ⟨u, hu, he⟩ := walkTo_succ.1 hnext
    exact WalkTo.snoc (ih u (hg.source u v he) hu) he

theorem levelling_of_run (hg : Finite V succ) (hsort : ∀ l, (sort l).Perm l) {fuel : ℕ}
    {indegree : α → ℤ} {levels : List (List α)}
    (hdeg : ∀ v, indegree v = V.countP (fun u => v ∈ succ u))
    (h : levelsFrom succ sort fuel indegree (sort (V.filter (fun v => indegree v = 0))) =
      some levels) :
    Levelling V succ levels := by
  obtain ⟨hlevels, hstop⟩ := levelsFrom_spec hg hsort (roundInv_start hg hsort hdeg) h
  simp only [Nat.zero_add] at hlevels hstop
  have hlongest : ∀ i level, levels[i]? = some level → ∀ v ∈ level, LongestTo (Edge succ) i v :=
    fun i level hi v hv => (((hlevels i level hi).2 v).1 hv).2
  have hnodup : levels.flatten.Nodup := by
    rw [List.nodup_flatten]
    refine ⟨fun l hl => ?_, ?_⟩
    · obtain ⟨i, hi⟩ := List.mem_iff_getElem?.1 hl
      exact (hlevels i l hi).1
    · rw [List.pairwise_iff_getElem]
      intro i j hi hj hij v hvi hvj
      have h1 := hlongest i _ (List.getElem?_eq_getElem hi) v hvi
      have h2 := hlongest j _ (List.getElem?_eq_getElem hj) v hvj
      have := h1.2 j h2.1
      omega
  have hmem : ∀ v, v ∈ levels.flatten ↔ v ∈ V ∧ ¬ WalkTo (Edge succ) levels.length v := by
    intro v
    rw [List.mem_flatten]
    constructor
    · rintro ⟨l, hl, hv⟩
      obtain ⟨i, hi⟩ := List.mem_iff_getElem?.1 hl
      obtain ⟨hV, hlong⟩ := ((hlevels i l hi).2 v).1 hv
      have hlt : i < levels.length := (List.getElem?_eq_some_iff.1 hi).1
      refine ⟨hV, fun hw => ?_⟩
      have := hlong.2 _ hw
      omega
    · rintro ⟨hV, hno⟩
      obtain ⟨i, hi, hlong⟩ := exists_longestTo hno
      have hget : levels[i]? = some levels[i] := List.getElem?_eq_getElem hi
      exact ⟨_, List.getElem_mem hi, ((hlevels i _ hget).2 v).2 ⟨hV, hlong⟩⟩
  refine ⟨hnodup, fun v hv => ((hmem v).1 hv).1, hlongest, ?_⟩
  rw [← List.length_flatten]
  constructor
  · -- a node on a cycle has walks of every length, so no level would hold it
    intro hlen v hcyc
    have hV : v ∈ V := by
      obtain ⟨u, -, he⟩ := Relation.TransGen.tail'_iff.1 hcyc
      exact hg.target u v he
    have hperm : levels.flatten.Perm V :=
      (List.subperm_of_subset hnodup fun w hw => ((hmem w).1 hw).1).perm_of_length_le (by omega)
    exact ((hmem v).1 (hperm.mem_iff.2 hV)).2 (walkTo_of_cycle hcyc _)
  · intro hac
    have hnone : V.filter (fun v => WalkTo (Edge succ) levels.length v) = [] := by
      apply hac.no_predecessor_closed
      intro v hv
      obtain ⟨hV, hw⟩ := List.mem_filter.1 hv
      have hnext := walkTo_of_stop hg hstop 1 v hV (by simpa using hw)
      obtain ⟨u, hu, he⟩ := walkTo_succ.1 hnext
      exact ⟨u, List.mem_filter.2 ⟨hg.source u v he, by simpa using hu⟩, he⟩
    have hperm : levels.flatten.Perm V := by
      rw [List.perm_ext_iff_of_nodup hnodup hg.nodup]
      intro v
      rw [hmem v, and_iff_left_iff_imp]
      intro hV hw
      have : v ∈ V.filter (fun v => WalkTo (Edge succ) levels.length v) :=
        List.mem_filter.2 ⟨hV, by simpa using hw⟩
      simp [hnone] at this
    exact hperm.length_eq

end Correctness

end Digr
