import Mathlib.Logic.Relation
import Mathlib.Data.List.Nodup
import Mathlib.Data.List.Basic
import Mathlib.Data.List.Perm.Subperm
import Mathlib.Order.Basic
import Mathlib.Tactic.Common

/-! Reachability by a worklist. The stack starts with the targets of one node, so the
visited set at the end is what that node reaches by a non-empty walk. -/

namespace Digr

variable {α : Type*} [DecidableEq α]

/-- The worklist loop, the top of the stack first; `none` when the fuel ends early. -/
def reachFrom (succ : α → List α) : ℕ → List α → List α → Option (List α)
  | _, visited, [] => some visited
  | 0, _, _ :: _ => none
  | fuel + 1, visited, v :: pending =>
    if v ∈ visited then
      reachFrom succ fuel visited pending
    else
      reachFrom succ fuel (v :: visited)
        ((succ v).filter (fun w => w ∉ v :: visited) ++ pending)

theorem reachFrom_mono (succ : α → List α) {fuel fuel' : ℕ} (hle : fuel ≤ fuel')
    {visited pending reached : List α} (h : reachFrom succ fuel visited pending = some reached) :
    reachFrom succ fuel' visited pending = some reached := by
  induction fuel generalizing fuel' visited pending with
  | zero =>
    cases pending with
    | nil => cases fuel' <;> simpa [reachFrom] using h
    | cons v pending => simp [reachFrom] at h
  | succ fuel ih =>
    cases fuel' with
    | zero => omega
    | succ fuel' =>
      cases pending with
      | nil => simpa [reachFrom] using h
      | cons v pending =>
        rw [reachFrom] at h ⊢
        split_ifs at h ⊢
        · exact ih (by omega) h
        · exact ih (by omega) h

/-- What the loop keeps: everything found is reachable, and the targets of the source and
of every visited node are visited or on the stack. -/
structure WorkInv (succ : α → List α) (source : α) (visited pending : List α) : Prop where
  sound : ∀ v, v ∈ visited ∨ v ∈ pending → Relation.TransGen (fun a b => b ∈ succ a) source v
  start : ∀ w ∈ succ source, w ∈ visited ∨ w ∈ pending
  closed : ∀ v ∈ visited, ∀ w ∈ succ v, w ∈ visited ∨ w ∈ pending

omit [DecidableEq α] in
theorem workInv_start (succ : α → List α) (source : α) : WorkInv succ source [] (succ source) :=
  ⟨fun v hv => Relation.TransGen.single (by simpa using hv), fun _ h => Or.inr h, by simp⟩

omit [DecidableEq α] in
private theorem WorkInv.skip {succ : α → List α} {source v : α} {visited pending : List α}
    (hinv : WorkInv succ source visited (v :: pending)) (hv : v ∈ visited) :
    WorkInv succ source visited pending := by
  have hdrop : ∀ w, w ∈ visited ∨ w ∈ v :: pending → w ∈ visited ∨ w ∈ pending := by
    rintro w (hw | hw)
    · exact Or.inl hw
    · rcases List.mem_cons.1 hw with rfl | hw
      · exact Or.inl hv
      · exact Or.inr hw
  exact ⟨fun w hw => hinv.sound w (hw.imp_right (List.mem_cons_of_mem v)),
    fun w hw => hdrop w (hinv.start w hw), fun u hu w hw => hdrop w (hinv.closed u hu w hw)⟩

private theorem WorkInv.visit {succ : α → List α} {source v : α} {visited pending : List α}
    (hinv : WorkInv succ source visited (v :: pending)) :
    WorkInv succ source (v :: visited)
      ((succ v).filter (fun w => w ∉ v :: visited) ++ pending) := by
  have hv := hinv.sound v (Or.inr (by simp))
  have hkeep : ∀ w, w ∈ visited ∨ w ∈ v :: pending →
      w ∈ v :: visited ∨ w ∈ (succ v).filter (fun w => w ∉ v :: visited) ++ pending := by
    intro w hw
    simp only [List.mem_cons, List.mem_append] at hw ⊢
    tauto
  refine ⟨?_, fun w hw => hkeep w (hinv.start w hw), ?_⟩
  · rintro w (hw | hw)
    · rcases List.mem_cons.1 hw with rfl | hw
      · exact hv
      · exact hinv.sound w (Or.inl hw)
    · rcases List.mem_append.1 hw with hw | hw
      · exact hv.tail (List.mem_filter.1 hw).1
      · exact hinv.sound w (Or.inr (List.mem_cons_of_mem v hw))
  · intro u hu w hw
    rcases List.mem_cons.1 hu with rfl | hu
    · by_cases hseen : w ∈ u :: visited
      · exact Or.inl hseen
      · exact Or.inr (List.mem_append_left _ (List.mem_filter.2 ⟨hw, by simpa using hseen⟩))
    · exact hkeep w (hinv.closed u hu w hw)

/-- A finished run visits exactly what the source reaches by a non-empty walk. -/
theorem mem_reachFrom {succ : α → List α} {source : α} {fuel : ℕ}
    {visited pending reached : List α} (hinv : WorkInv succ source visited pending)
    (h : reachFrom succ fuel visited pending = some reached) (v : α) :
    v ∈ reached ↔ Relation.TransGen (fun a b => b ∈ succ a) source v := by
  induction fuel generalizing visited pending with
  | zero =>
    cases pending with
    | cons u pending => simp [reachFrom] at h
    | nil =>
      obtain rfl : visited = reached := by simpa [reachFrom] using h
      exact mem_visited_iff hinv v
  | succ fuel ih =>
    cases pending with
    | nil =>
      obtain rfl : visited = reached := by simpa [reachFrom] using h
      exact mem_visited_iff hinv v
    | cons u pending =>
      rw [reachFrom] at h
      split_ifs at h with hu
      · exact ih (hinv.skip hu) h
      · exact ih hinv.visit h
where
  mem_visited_iff {visited : List α} (hinv : WorkInv succ source visited []) (v : α) :
      v ∈ visited ↔ Relation.TransGen (fun a b => b ∈ succ a) source v := by
    refine ⟨fun hv => hinv.sound v (Or.inl hv), fun hreach => ?_⟩
    induction hreach with
    | single he => simpa using hinv.start _ he
    | tail _ he ih => simpa using hinv.closed _ ih _ he

/-- Each pop either shortens the stack or spends one unvisited node, which pays for the
targets it pushes. -/
theorem reachFrom_terminates {succ : α → List α} {V : List α}
    (hsucc : ∀ u, (succ u).length ≤ V.length) (htarget : ∀ u, ∀ w ∈ succ u, w ∈ V) (fuel : ℕ)
    (visited pending : List α) (hvisited : visited.Nodup) (hsub : ∀ v ∈ visited, v ∈ V)
    (hpending : ∀ v ∈ pending, v ∈ V)
    (hfuel : (V.length - visited.length) * (V.length + 1) + pending.length ≤ fuel) :
    ∃ reached, reachFrom succ fuel visited pending = some reached := by
  induction fuel generalizing visited pending with
  | zero =>
    cases pending with
    | nil => exact ⟨visited, by simp [reachFrom]⟩
    | cons v pending => simp at hfuel
  | succ fuel ih =>
    cases pending with
    | nil => exact ⟨visited, by simp [reachFrom]⟩
    | cons v pending =>
      rw [List.length_cons] at hfuel
      rw [reachFrom]
      split_ifs with hv
      · exact ih _ _ hvisited hsub (fun w hw => hpending w (List.mem_cons_of_mem v hw)) (by omega)
      · have hnodup : (v :: visited).Nodup := List.nodup_cons.2 ⟨hv, hvisited⟩
        have hsub' : ∀ w ∈ v :: visited, w ∈ V := by
          intro w hw
          rcases List.mem_cons.1 hw with rfl | hw
          · exact hpending w (by simp)
          · exact hsub w hw
        apply ih _ _ hnodup hsub'
        · intro w hw
          rcases List.mem_append.1 hw with hw | hw
          · exact htarget v w (List.mem_filter.1 hw).1
          · exact hpending w (List.mem_cons_of_mem v hw)
        · have hlen : visited.length + 1 ≤ V.length :=
            (List.subperm_of_subset hnodup hsub').length_le
          have hpush : ((succ v).filter (fun w => w ∉ v :: visited)).length ≤ V.length :=
            Nat.le_trans (List.length_filter_le _ _) (hsucc v)
          obtain ⟨d, hd⟩ : ∃ d, V.length - visited.length = d + 1 :=
            ⟨V.length - visited.length - 1, by omega⟩
          have hd' : V.length - (v :: visited).length = d := by
            rw [List.length_cons]
            omega
          rw [hd, Nat.add_mul] at hfuel
          rw [hd', List.length_append]
          omega

end Digr
