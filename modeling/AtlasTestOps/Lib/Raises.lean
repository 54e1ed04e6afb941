import AtlasTestOps.Lib.Guarded

/-! The errors of a transaction, taken apart step by step like its commits. -/

namespace Txn

variable {σ ε α β : Type}

/-- Started in `s`, the transaction raises `e`. -/
def Raises (t : Tx σ ε α) (s : σ) (e : ε) : Prop := t s = .error e

instance [DecidableEq ε] (t : Tx σ ε α) (s : σ) (e : ε) : Decidable (Raises t s e) :=
  match h : t s with
  | .error e' => decidable_of_iff (e' = e) (by simp [Raises, h])
  | .ok _ => isFalse (by simp [Raises, h])

section Steps

variable {s : σ} {e : ε}

@[simp] theorem raises_pure {a : α} : ¬ Raises (pure a : Tx σ ε α) s e := by
  simp [Raises, pure, StateT.pure, Except.pure]

@[simp] theorem raises_read {f : σ → α} : ¬ Raises (read f : Tx σ ε α) s e := by
  simp [Raises, read]

@[simp] theorem raises_update {f : σ → σ} : ¬ Raises (update f : Tx σ ε Unit) s e := by
  simp [Raises, update]

@[simp] theorem raises_raise {e' : ε} : Raises (raise e' : Tx σ ε α) s e ↔ e' = e := by
  simp [Raises, raise]

@[simp] theorem raises_raiseIf {c : Prop} [Decidable c] {e' : ε} :
    Raises (raiseIf c e' : Tx σ ε Unit) s e ↔ c ∧ e' = e := by
  by_cases hc : c <;> simp [Raises, raiseIf, hc]

@[simp] theorem raises_demand {o : Option α} {e' : ε} :
    Raises (demand o e' : Tx σ ε α) s e ↔ o = none ∧ e' = e := by
  cases o <;> simp [Raises, demand]

/-- The first part raises, or it commits and the second part raises from there. -/
@[simp] theorem raises_bind {x : Tx σ ε α} {f : α → Tx σ ε β} :
    Raises (x >>= f) s e ↔ Raises x s e ∨ ∃ a m, Commits x s a m ∧ Raises (f a) m e := by
  simp only [Raises, Commits, bind, StateT.bind, Except.bind]
  cases x s with
  | error e' => simp
  | ok r =>
    constructor
    · exact fun h => Or.inr ⟨r.1, r.2, rfl, h⟩
    · rintro (h | ⟨a, m, h, hf⟩)
      · cases h
      · cases h
        exact hf

theorem raises_read_bind {f : σ → α} {g : α → Tx σ ε β} :
    Raises (read f >>= g) s e ↔ Raises (g (f s)) s e := by
  simp

/-! A check that raises another error only has to pass. -/

theorem raises_raiseIf_bind {c : Prop} [Decidable c] {e' : ε} {g : Unit → Tx σ ε β} (hne : e' ≠ e) :
    Raises (raiseIf c e' >>= g) s e ↔ ¬ c ∧ Raises (g ()) s e := by
  rw [raises_bind, raises_raiseIf, or_iff_right fun h => hne h.2]
  constructor
  · rintro ⟨⟨⟩, m, hc, hg⟩
    obtain ⟨hpass, rfl⟩ := commits_raiseIf.1 hc
    exact ⟨hpass, hg⟩
  · rintro ⟨hpass, hg⟩
    exact ⟨(), s, commits_raiseIf.2 ⟨hpass, rfl⟩, hg⟩

theorem raises_demand_bind {o : Option α} {e' : ε} {g : α → Tx σ ε β} (hne : e' ≠ e) :
    Raises (demand o e' >>= g) s e ↔ ∃ a, o = some a ∧ Raises (g a) s e := by
  simp [hne]

/-- A first part that never raises the error and leaves the state as it is has to commit. -/
theorem raises_within_bind {x : Tx σ ε Unit} {g : Unit → Tx σ ε β} (hx : Within (· = ·) x)
    (hne : ¬ Raises x s e) : Raises (x >>= g) s e ↔ Commits x s () s ∧ Raises (g ()) s e := by
  rw [raises_bind, or_iff_right hne]
  constructor
  · rintro ⟨⟨⟩, m, hc, hg⟩
    obtain rfl := hx s () m hc
    exact ⟨hc, hg⟩
  · rintro ⟨hc, hg⟩
    exact ⟨(), s, hc, hg⟩

@[simp] theorem raises_map {x : Tx σ ε α} {f : α → β} : Raises (f <$> x) s e ↔ Raises x s e := by
  rw [map_eq_pure_bind, raises_bind]
  simp

@[simp] theorem raises_ite {c : Prop} [Decidable c] {x y : Tx σ ε α} :
    Raises (if c then x else y) s e ↔ c ∧ Raises x s e ∨ ¬ c ∧ Raises y s e := by
  by_cases hc : c <;> simp [hc]

@[simp] theorem raises_rethrow {f : ε → ε} {t : Tx σ ε α} :
    Raises (rethrow f t) s e ↔ ∃ e', Raises t s e' ∧ f e' = e := by
  unfold Raises rethrow
  cases t s <;> simp [Except.mapError]

end Steps

theorem not_commits_of_raises {t : Tx σ ε α} {s s' : σ} {e : ε} {a : α} (h : Raises t s e) :
    ¬ Commits t s a s' := by
  unfold Raises at h
  simp [Commits, h]

end Txn
