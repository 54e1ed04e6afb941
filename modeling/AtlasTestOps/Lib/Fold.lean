import Mathlib.Data.List.Basic
import Mathlib.Data.List.Nodup
import Mathlib.Data.List.Perm.Basic

/-! Loops over a list: an invariant indexed by the elements already processed, and
traversals that may fail. -/

namespace Loop

variable {α β σ : Type*}

/-- An invariant of the processed prefix that each iteration extends by one element. -/
theorem foldl_prefix {P : List α → σ → Prop} {f : σ → α → σ}
    (hstep : ∀ done a s, P done s → P (done ++ [a]) (f s a)) :
    ∀ (l done : List α) (s : σ), P done s → P (done ++ l) (l.foldl f s) := by
  intro l
  induction l with
  | nil => intro done s h; simpa using h
  | cons a l ih =>
    intro done s h
    have := ih (done ++ [a]) (f s a) (hstep done a s h)
    simpa using this

theorem foldl_of_start {P : List α → σ → Prop} {f : σ → α → σ} {s : σ} (hstart : P [] s)
    (hstep : ∀ done a s, P done s → P (done ++ [a]) (f s a)) (l : List α) :
    P l (l.foldl f s) := by
  simpa using foldl_prefix hstep l [] s hstart

theorem mapM_eq_some_map {f : α → Option β} {g : α → β} {l : List α}
    (h : ∀ a ∈ l, f a = some (g a)) : l.mapM f = some (l.map g) := by
  induction l with
  | nil => rfl
  | cons a l ih =>
    rw [List.mapM_cons, h a (by simp), ih fun b hb => h b (List.mem_cons_of_mem a hb)]
    rfl

/-- A fold whose steps fail at certain elements, always with the same error. -/
theorem foldlM_except {ε : Type*} {f : σ → α → Except ε σ} {g : σ → α → σ} {good : α → Prop}
    [DecidablePred good] {e : ε} (hgood : ∀ s a, good a → f s a = .ok (g s a))
    (hbad : ∀ s a, ¬ good a → f s a = .error e) (l : List α) (s : σ) :
    l.foldlM f s = if ∀ a ∈ l, good a then .ok (l.foldl g s) else .error e := by
  induction l generalizing s with
  | nil => simp [pure, Except.pure]
  | cons a l ih =>
    rw [List.foldlM_cons]
    by_cases ha : good a
    · rw [hgood s a ha]
      show l.foldlM f (g s a) = _
      rw [ih]
      simp [ha]
    · rw [hbad s a ha]
      simp [ha, bind, Except.bind]

/-- Making one more element of a duplicate-free list satisfy a test adds one to the count. -/
theorem countP_insert [DecidableEq α] {l : List α} (hl : l.Nodup) {a : α} (ha : a ∈ l)
    {p q : α → Bool} (hpa : p a = false) (hqa : q a = true)
    (hother : ∀ b, b ≠ a → q b = p b) : l.countP q = l.countP p + 1 := by
  have hperm := List.perm_cons_erase ha
  have hrest : (l.erase a).countP q = (l.erase a).countP p := by
    apply List.countP_congr
    intro b hb
    rw [hother b (hl.mem_erase_iff.1 hb).1]
  rw [hperm.countP_eq q, hperm.countP_eq p, List.countP_cons, List.countP_cons, hrest, hpa, hqa]
  simp

/-- With distinct keys, the search for a key finds the element that carries it. -/
theorem find?_key {κ : Type*} [DecidableEq κ] {l : List α} {key : α → κ}
    (hl : (l.map key).Nodup) {a : α} (ha : a ∈ l) :
    l.find? (fun b => key b == key a) = some a := by
  induction l with
  | nil => simp at ha
  | cons b l ih =>
    rw [List.map_cons, List.nodup_cons] at hl
    rcases List.mem_cons.1 ha with rfl | ha
    · simp
    · have hne : key b ≠ key a := fun he => hl.1 (he ▸ List.mem_map_of_mem ha)
      rw [List.find?_cons_of_neg (by simpa using hne)]
      exact ih hl.2 ha

end Loop
