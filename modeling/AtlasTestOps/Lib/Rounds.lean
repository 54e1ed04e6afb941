import AtlasTestOps.Lib.Walk
import Mathlib

/-! Levelling by rounds over a table of dependencies: each round takes the rows that wait for
nothing, and strikes them from the rest. Round `k` takes exactly the rows whose longest chain of
dependencies has `k` edges, and a round finds nothing to take only before a cycle. -/

namespace Digr

variable {α : Type*} [DecidableEq α]

/-- The rows that wait for nothing. -/
def ready (rows : List (α × List α)) : List α := (rows.filter fun r => r.2 = []).map fun r => r.1

/-- The table without the rows of `gone`, which nothing waits for any more. -/
def strike (gone : List α) (rows : List (α × List α)) : List (α × List α) :=
  (rows.filter fun r => r.1 ∉ gone).map fun r => (r.1, r.2.filter fun u => u ∉ gone)

/-- The rounds until the table is empty; `none` when one of them finds nothing to take. -/
def rounds (sort : List α → List α) : ℕ → List (α × List α) → Option (List (List α))
  | _, [] => some []
  | 0, _ :: _ => none
  | fuel + 1, r :: rows =>
    let level := sort (ready (r :: rows))
    if level = [] then none else (rounds sort fuel (strike level (r :: rows))).map (level :: ·)

section Correctness

open Classical

/-- The row `v` waits for `u`. -/
def Waits (rows : List (α × List α)) (u v : α) : Prop := ∃ us, (v, us) ∈ rows ∧ u ∈ us

/-- A table of dependencies among its own rows. -/
structure Closed (rows : List (α × List α)) : Prop where
  nodup : (rows.map fun r => r.1).Nodup
  source : ∀ r ∈ rows, ∀ u ∈ r.2, u ∈ rows.map fun r => r.1

/-- What is left of the table before round `k`. -/
noncomputable def remaining (rows : List (α × List α)) (k : ℕ) : List (α × List α) :=
  (rows.filter fun r => WalkTo (Waits rows) k r.1).map fun r =>
    (r.1, r.2.filter fun u => WalkTo (Waits rows) k u)

variable {rows : List (α × List α)} {sort : List α → List α} {k : ℕ}

omit [DecidableEq α] in
theorem remaining_zero : remaining rows 0 = rows := by
  have hall : ∀ v, WalkTo (Waits rows) 0 v := fun v => WalkTo.nil v
  simp [remaining, hall]

omit [DecidableEq α] in
/-- The row of a name is the only one. -/
theorem Closed.waits_iff (h : Closed rows) {u : α} {r : α × List α} (hr : r ∈ rows) :
    Waits rows u r.1 ↔ u ∈ r.2 := by
  constructor
  · rintro ⟨us, hus, hu⟩
    have heq : (r.1, us) = r := List.inj_on_of_nodup_map h.nodup hus hr rfl
    rw [← heq]
    exact hu
  · exact fun hu => ⟨r.2, hr, hu⟩

omit [DecidableEq α] in
theorem Closed.longestTo_iff_ready (h : Closed rows) {r : α × List α} (hr : r ∈ rows) :
    (WalkTo (Waits rows) k r.1 ∧ r.2.filter (fun u => WalkTo (Waits rows) k u) = []) ↔
      LongestTo (Waits rows) k r.1 := by
  rw [longestTo_iff, walkTo_succ, List.filter_eq_nil_iff]
  refine and_congr_right fun _ => ?_
  constructor
  · rintro hnone ⟨u, hu, hwaits⟩
    exact hnone u ((h.waits_iff hr).1 hwaits) (by simpa using hu)
  · intro hnone u hu hw
    exact hnone ⟨u, by simpa using hw, (h.waits_iff hr).2 hu⟩

omit [DecidableEq α] in
theorem Closed.mem_ready (h : Closed rows) {v : α} :
    v ∈ ready (remaining rows k) ↔ v ∈ rows.map (fun r => r.1) ∧ LongestTo (Waits rows) k v := by
  simp only [ready, remaining, List.mem_map, List.mem_filter, decide_eq_true_eq]
  constructor
  · rintro ⟨_, ⟨⟨r, ⟨hr, hwalk⟩, rfl⟩, hnil⟩, rfl⟩
    exact ⟨⟨r, hr, rfl⟩, (h.longestTo_iff_ready hr).1 ⟨hwalk, hnil⟩⟩
  · rintro ⟨⟨r, hr, rfl⟩, hlongest⟩
    obtain ⟨hwalk, hnil⟩ := (h.longestTo_iff_ready hr).2 hlongest
    exact ⟨_, ⟨⟨r, ⟨hr, hwalk⟩, rfl⟩, hnil⟩, rfl⟩

/-- One round leads from one remainder to the next. -/
theorem Closed.strike_remaining (h : Closed rows) (hsort : ∀ l, (sort l).Perm l) :
    strike (sort (ready (remaining rows k))) (remaining rows k) = remaining rows (k + 1) := by
  have hgone : ∀ v ∈ rows.map fun r => r.1, WalkTo (Waits rows) k v →
      (v ∉ sort (ready (remaining rows k)) ↔ WalkTo (Waits rows) (k + 1) v) := by
    intro v hv hwalk
    rw [(hsort _).mem_iff, h.mem_ready, longestTo_iff]
    tauto
  have hanti : ∀ v, WalkTo (Waits rows) (k + 1) v → WalkTo (Waits rows) k v := fun v => WalkTo.tail
  generalize sort (ready (remaining rows k)) = gone at hgone ⊢
  simp only [strike, remaining]
  rw [List.filter_map, List.filter_filter, List.map_map]
  refine (congrArg (List.map _) (List.filter_congr (q := fun r => WalkTo (Waits rows) (k + 1) r.1) ?_)).trans ?_
  · intro r hr
    have hkey : r.1 ∈ rows.map fun r => r.1 := List.mem_map_of_mem hr
    rw [Bool.eq_iff_iff]
    simp only [Function.comp_apply, Bool.and_eq_true, decide_eq_true_eq]
    constructor
    · rintro ⟨hnot, hwalk⟩
      exact (hgone r.1 hkey hwalk).1 hnot
    · intro hwalk
      exact ⟨(hgone r.1 hkey (hanti _ hwalk)).2 hwalk, hanti _ hwalk⟩
  apply List.map_congr_left
  intro r hr
  simp only [Function.comp_apply, List.filter_filter, Prod.mk.injEq, true_and]
  apply List.filter_congr
  intro u hu
  have hkey := h.source r (List.mem_filter.1 hr).1 u hu
  rw [Bool.eq_iff_iff]
  simp only [Bool.and_eq_true, decide_eq_true_eq]
  constructor
  · rintro ⟨hnot, hwalk⟩
    exact (hgone u hkey hwalk).1 hnot
  · intro hwalk
    exact ⟨(hgone u hkey (hanti _ hwalk)).2 hwalk, hanti _ hwalk⟩

omit [DecidableEq α] in
theorem mem_remaining {v : α} :
    v ∈ (remaining rows k).map (fun r => r.1) ↔ v ∈ rows.map (fun r => r.1) ∧ WalkTo (Waits rows) k v := by
  simp only [remaining, List.map_map, List.mem_map, List.mem_filter, decide_eq_true_eq, Function.comp_apply]
  constructor
  · rintro ⟨r, ⟨hr, hwalk⟩, rfl⟩
    exact ⟨⟨r, hr, rfl⟩, hwalk⟩
  · rintro ⟨⟨r, hr, rfl⟩, hwalk⟩
    exact ⟨r, ⟨hr, hwalk⟩, rfl⟩

omit [DecidableEq α] in
/-- A round that takes a row shortens the table. -/
theorem Closed.length_remaining_lt (h : Closed rows) (hready : ready (remaining rows k) ≠ []) :
    (remaining rows (k + 1)).length < (remaining rows k).length := by
  obtain ⟨v, hv⟩ := List.exists_mem_of_ne_nil _ hready
  obtain ⟨hkey, hlongest⟩ := h.mem_ready.1 hv
  obtain ⟨r, hr, rfl⟩ := List.mem_map.1 hkey
  have hlongest := longestTo_iff.1 hlongest
  simp only [remaining, List.length_map]
  have hsub : (rows.filter fun r => WalkTo (Waits rows) (k + 1) r.1) =
      (rows.filter fun r => WalkTo (Waits rows) k r.1).filter fun r => WalkTo (Waits rows) (k + 1) r.1 := by
    rw [List.filter_filter]
    apply List.filter_congr
    intro r _
    have htail : WalkTo (Waits rows) (k + 1) r.1 → WalkTo (Waits rows) k r.1 := WalkTo.tail
    rw [Bool.eq_iff_iff]
    simp only [Bool.and_eq_true, decide_eq_true_eq]
    tauto
  rw [hsub]
  refine List.length_filter_lt_length_iff_exists.2 ⟨r, ?_, by simpa using hlongest.2⟩
  exact List.mem_filter.2 ⟨hr, by simpa using hlongest.1⟩

omit [DecidableEq α] in
/-- A round that finds nothing to take stands before a cycle. -/
theorem Closed.not_acyclic (h : Closed rows) (hrows : remaining rows k ≠ [])
    (hready : ready (remaining rows k) = []) : ¬ Acyclic (Waits rows) := by
  intro hac
  have hnone : (remaining rows k).map (fun r => r.1) = [] := by
    apply hac.no_predecessor_closed
    intro v hv
    obtain ⟨hkey, hwalk⟩ := mem_remaining.1 hv
    have hnext : WalkTo (Waits rows) (k + 1) v := by
      by_contra hno
      have hmem := h.mem_ready.2 ⟨hkey, longestTo_iff.2 ⟨hwalk, hno⟩⟩
      simp [hready] at hmem
    obtain ⟨u, hu, hwaits⟩ := walkTo_succ.1 hnext
    obtain ⟨us, hus, hin⟩ := hwaits
    exact ⟨u, mem_remaining.2 ⟨h.source _ hus u hin, hu⟩, us, hus, hin⟩
  exact hrows (by simpa using hnone)

/-- The levels of a run from round `k`, which ends when no walk is that long. -/
theorem Closed.rounds_spec (h : Closed rows) (hsort : ∀ l, (sort l).Perm l) {fuel : ℕ} {levels : List (List α)}
    (hrun : rounds sort fuel (remaining rows k) = some levels) :
    (∀ i level, levels[i]? = some level → level.Nodup ∧
      ∀ v, v ∈ level ↔ v ∈ rows.map (fun r => r.1) ∧ LongestTo (Waits rows) (k + i) v) ∧
    ∀ v ∈ rows.map (fun r => r.1), ¬ WalkTo (Waits rows) (k + levels.length) v := by
  induction fuel generalizing k levels with
  | zero =>
    cases hrows : remaining rows k with
    | nil =>
      rw [hrows] at hrun
      obtain rfl : [] = levels := by simpa [rounds] using hrun
      refine ⟨by simp, fun v hv hwalk => ?_⟩
      have hmem := mem_remaining.2 ⟨hv, hwalk⟩
      simp [hrows] at hmem
    | cons r rest => simp [hrows, rounds] at hrun
  | succ fuel ih =>
    cases hrows : remaining rows k with
    | nil =>
      rw [hrows] at hrun
      obtain rfl : [] = levels := by simpa [rounds] using hrun
      refine ⟨by simp, fun v hv hwalk => ?_⟩
      have hmem := mem_remaining.2 ⟨hv, hwalk⟩
      simp [hrows] at hmem
    | cons r rest =>
      rw [hrows] at hrun
      simp only [rounds, ← hrows] at hrun
      by_cases hlevel : sort (ready (remaining rows k)) = []
      · simp [hlevel] at hrun
      · rw [if_neg hlevel, h.strike_remaining hsort, Option.map_eq_some_iff] at hrun
        obtain ⟨rest', hrest, rfl⟩ := hrun
        obtain ⟨hlevels, hstop⟩ := ih hrest
        refine ⟨?_, ?_⟩
        · intro i level hi
          cases i with
          | zero =>
            obtain rfl : sort (ready (remaining rows k)) = level := by simpa using hi
            refine ⟨(hsort _).nodup_iff.2 ?_, fun v => by rw [(hsort _).mem_iff]; exact h.mem_ready⟩
            have hkeys : ((remaining rows k).map fun r => r.1).Nodup := by
              rw [remaining, List.map_map]
              exact h.nodup.sublist (List.filter_sublist.map _)
            exact hkeys.sublist (List.filter_sublist.map _)
          | succ i =>
            rw [show k + (i + 1) = k + 1 + i by omega]
            exact hlevels i level (by simpa using hi)
        · rw [List.length_cons, show k + (rest'.length + 1) = k + 1 + rest'.length by omega]
          exact hstop

/-- With a round for each row, only a cycle stops the rounds. -/
theorem Closed.rounds_none (h : Closed rows) (hsort : ∀ l, (sort l).Perm l) {fuel : ℕ}
    (hfuel : (remaining rows k).length ≤ fuel) (hrun : rounds sort fuel (remaining rows k) = none) :
    ¬ Acyclic (Waits rows) := by
  induction fuel generalizing k with
  | zero =>
    rw [List.length_eq_zero_iff.1 (Nat.le_zero.1 hfuel)] at hrun
    simp [rounds] at hrun
  | succ fuel ih =>
    cases hrows : remaining rows k with
    | nil =>
      rw [hrows] at hrun
      simp [rounds] at hrun
    | cons r rest =>
      rw [hrows] at hrun
      simp only [rounds, ← hrows] at hrun
      by_cases hlevel : sort (ready (remaining rows k)) = []
      · have hready : ready (remaining rows k) = [] := (hlevel ▸ (hsort _)).nil_eq.symm
        exact h.not_acyclic (by simp [hrows]) hready
      · rw [if_neg hlevel, h.strike_remaining hsort, Option.map_eq_none_iff] at hrun
        have hready : ready (remaining rows k) ≠ [] := by
          intro hnil
          have hperm := hsort (ready (remaining rows k))
          rw [hnil] at hperm hlevel
          exact hlevel hperm.eq_nil
        have hlt := h.length_remaining_lt hready
        exact ih (by omega) hrun

/-- What the rounds of a whole table are. -/
structure Levelled (rows : List (α × List α)) (levels : List (List α)) : Prop where
  perm : levels.flatten.Perm (rows.map fun r => r.1)
  level : ∀ i level, levels[i]? = some level → ∀ v ∈ level, LongestTo (Waits rows) i v

/-- The rounds go through exactly when the dependencies have no cycle. -/
theorem Closed.rounds_isSome_iff (h : Closed rows) (hsort : ∀ l, (sort l).Perm l) :
    (rounds sort rows.length rows).isSome ↔ Acyclic (Waits rows) := by
  have hzero : remaining rows 0 = rows := remaining_zero
  cases hrun : rounds sort rows.length rows with
  | none =>
    have hcyclic := h.rounds_none hsort (hzero.symm ▸ le_rfl) (hzero.symm ▸ hrun)
    simpa using hcyclic
  | some levels =>
    obtain ⟨-, hstop⟩ := h.rounds_spec hsort (hzero.symm ▸ hrun)
    simp only [Option.isSome_some, true_iff]
    intro v hcycle
    have hkey : v ∈ rows.map fun r => r.1 := by
      obtain ⟨u, -, us, hus, -⟩ := Relation.TransGen.tail'_iff.1 hcycle
      exact List.mem_map_of_mem hus
    exact hstop v hkey (walkTo_of_cycle hcycle _)

theorem Closed.levelled (h : Closed rows) (hsort : ∀ l, (sort l).Perm l) {levels : List (List α)}
    (hrun : rounds sort rows.length rows = some levels) : Levelled rows levels := by
  have hzero : remaining rows 0 = rows := remaining_zero
  obtain ⟨hlevels, hstop⟩ := h.rounds_spec hsort (hzero.symm ▸ hrun)
  simp only [Nat.zero_add] at hlevels hstop
  have hlongest : ∀ i level, levels[i]? = some level → ∀ v ∈ level, LongestTo (Waits rows) i v :=
    fun i level hi v hv => (((hlevels i level hi).2 v).1 hv).2
  refine ⟨?_, hlongest⟩
  have hnodup : levels.flatten.Nodup := by
    rw [List.nodup_flatten]
    refine ⟨fun l hl => ?_, ?_⟩
    · obtain ⟨i, hi⟩ := List.mem_iff_getElem?.1 hl
      exact (hlevels i l hi).1
    · rw [List.pairwise_iff_getElem]
      intro i j hi hj hij v hvi hvj
      have h1 := hlongest i _ (List.getElem?_eq_getElem hi) v hvi
      have h2 := hlongest j _ (List.getElem?_eq_getElem hj) v hvj
      have := h1.2 j h2.1
      omega
  rw [List.perm_ext_iff_of_nodup hnodup h.nodup]
  intro v
  rw [List.mem_flatten]
  constructor
  · rintro ⟨l, hl, hv⟩
    obtain ⟨i, hi⟩ := List.mem_iff_getElem?.1 hl
    exact (((hlevels i l hi).2 v).1 hv).1
  · intro hkey
    obtain ⟨i, hi, hlong⟩ := exists_longestTo (hstop v hkey)
    exact ⟨_, List.getElem_mem hi, ((hlevels i _ (List.getElem?_eq_getElem hi)).2 v).2 ⟨hkey, hlong⟩⟩

end Correctness

end Digr
