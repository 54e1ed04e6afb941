import Mathlib

/-! Transactions over a state: a computation answers together with the state it
would leave behind, or raises and leaves nothing. Everything a proof needs from a
transaction is its `Commits` relation, which the simp set below takes apart step
by step. -/

namespace Txn

/-- A transaction over `σ` that may raise an `ε`. -/
abbrev Tx (σ ε α : Type) := StateT σ (Except ε) α

variable {σ ε α β : Type}

def raise (e : ε) : Tx σ ε α := fun _ => .error e

def read (f : σ → α) : Tx σ ε α := fun s => .ok (f s, s)

def update (f : σ → σ) : Tx σ ε Unit := fun s => .ok ((), f s)

/-- Stop with `e` when the condition holds. -/
def raiseIf (c : Prop) [Decidable c] (e : ε) : Tx σ ε Unit :=
  fun s => if c then .error e else .ok ((), s)

/-- The value of an option that must be present. -/
def demand (o : Option α) (e : ε) : Tx σ ε α :=
  fun s => match o with
    | none => .error e
    | some a => .ok (a, s)

/-- Raise what `f` makes of every error of the transaction. -/
def rethrow (f : ε → ε) (t : Tx σ ε α) : Tx σ ε α :=
  fun s => (t s).mapError f

/-- Started in `s`, the transaction answers `a` and commits `s'`. -/
def Commits (t : Tx σ ε α) (s : σ) (a : α) (s' : σ) : Prop := t s = .ok (a, s')

/-- The state after the transaction: the old one when it raises. -/
def after (t : Tx σ ε α) (s : σ) : σ :=
  match t s with
  | .ok (_, s') => s'
  | .error _ => s

section Steps

variable {s s' : σ} {a : α} {b : β}

@[simp] theorem commits_pure {a' : α} :
    Commits (pure a : Tx σ ε α) s a' s' ↔ a' = a ∧ s' = s := by
  simp only [Commits, pure, StateT.pure, Except.pure, Except.ok.injEq, Prod.mk.injEq]
  exact and_congr eq_comm eq_comm

@[simp] theorem commits_bind {x : Tx σ ε α} {f : α → Tx σ ε β} :
    Commits (x >>= f) s b s' ↔ ∃ a m, Commits x s a m ∧ Commits (f a) m b s' := by
  simp only [Commits, bind, StateT.bind, Except.bind]
  constructor
  · intro h
    cases hx : x s with
    | error e => simp [hx] at h
    | ok p =>
      obtain ⟨a, m⟩ := p
      exact ⟨a, m, rfl, by simpa [hx] using h⟩
  · rintro ⟨a, m, hx, hf⟩
    simpa [hx] using hf

@[simp] theorem commits_map {x : Tx σ ε α} {f : α → β} :
    Commits (f <$> x) s b s' ↔ ∃ a, Commits x s a s' ∧ b = f a := by
  rw [map_eq_pure_bind, commits_bind]
  constructor
  · rintro ⟨a, m, hx, h⟩
    obtain ⟨rfl, rfl⟩ := commits_pure.1 h
    exact ⟨a, hx, rfl⟩
  · rintro ⟨a, hx, rfl⟩
    exact ⟨a, s', hx, commits_pure.2 ⟨rfl, rfl⟩⟩

@[simp] theorem commits_discard {x : Tx σ ε α} {u : Unit} :
    Commits (discard x) s u s' ↔ ∃ a, Commits x s a s' := by
  have h : (discard x : Tx σ ε Unit) = (fun _ => ()) <$> x := rfl
  simp [h]

@[simp] theorem commits_raise {e : ε} : ¬ Commits (raise e : Tx σ ε α) s a s' := by
  simp [Commits, raise]

@[simp] theorem commits_read {f : σ → α} :
    Commits (read f : Tx σ ε α) s a s' ↔ a = f s ∧ s' = s := by
  simp only [Commits, read, Except.ok.injEq, Prod.mk.injEq]
  exact and_congr eq_comm eq_comm

theorem commits_read_bind {f : σ → α} {g : α → Tx σ ε β} :
    Commits (read f >>= g) s b s' ↔ Commits (g (f s)) s b s' := Iff.rfl

@[simp] theorem commits_update {f : σ → σ} {u : Unit} :
    Commits (update f : Tx σ ε Unit) s u s' ↔ s' = f s := by
  simp only [Commits, update, Except.ok.injEq, Prod.mk.injEq, true_and]
  exact eq_comm

@[simp] theorem commits_raiseIf {c : Prop} [Decidable c] {e : ε} {u : Unit} :
    Commits (raiseIf c e : Tx σ ε Unit) s u s' ↔ ¬ c ∧ s' = s := by
  by_cases hc : c <;> simp [Commits, raiseIf, hc, eq_comm]

@[simp] theorem commits_demand {o : Option α} {e : ε} :
    Commits (demand o e : Tx σ ε α) s a s' ↔ o = some a ∧ s' = s := by
  cases o <;> simp [Commits, demand, eq_comm]

theorem commits_raiseIf_bind {c : Prop} [Decidable c] {e : ε} {g : Unit → Tx σ ε β} :
    Commits (raiseIf c e >>= g) s b s' ↔ ¬ c ∧ Commits (g ()) s b s' := by
  simp only [commits_bind, commits_raiseIf]
  constructor
  · rintro ⟨_, _, ⟨hc, rfl⟩, h⟩
    exact ⟨hc, h⟩
  · rintro ⟨hc, h⟩
    exact ⟨(), s, ⟨hc, rfl⟩, h⟩

theorem commits_demand_bind {o : Option α} {e : ε} {g : α → Tx σ ε β} :
    Commits (demand o e >>= g) s b s' ↔ ∃ a, o = some a ∧ Commits (g a) s b s' := by
  simp only [commits_bind, commits_demand]
  constructor
  · rintro ⟨a, _, ⟨ho, rfl⟩, h⟩
    exact ⟨a, ho, h⟩
  · rintro ⟨a, ho, h⟩
    exact ⟨a, s, ⟨ho, rfl⟩, h⟩

@[simp] theorem commits_ite {c : Prop} [Decidable c] {x y : Tx σ ε α} :
    Commits (if c then x else y) s a s' ↔ (c ∧ Commits x s a s') ∨ (¬ c ∧ Commits y s a s') := by
  by_cases hc : c <;> simp [hc]

@[simp] theorem commits_rethrow {f : ε → ε} {t : Tx σ ε α} :
    Commits (rethrow f t) s a s' ↔ Commits t s a s' := by
  simp only [Commits, rethrow]
  cases t s <;> simp [Except.mapError]

/-- A transaction has at most one outcome. -/
theorem Commits.unique {t : Tx σ ε α} {a₁ a₂ : α} {s₁ s₂ : σ} (h₁ : Commits t s a₁ s₁)
    (h₂ : Commits t s a₂ s₂) : a₁ = a₂ ∧ s₁ = s₂ := by
  have h := h₁.symm.trans h₂
  simpa using h

/-- After a step whose outcome is known, the rest decides. -/
theorem Commits.bind_iff {x : Tx σ ε α} {f : α → Tx σ ε β} {m : σ} (h : Commits x s a m) :
    Commits (x >>= f) s b s' ↔ Commits (f a) m b s' := by
  rw [commits_bind]
  constructor
  · rintro ⟨a', m', hx, hf⟩
    obtain ⟨rfl, rfl⟩ := hx.unique h
    exact hf
  · exact fun hf => ⟨a, m, h, hf⟩

theorem after_of_commits {t : Tx σ ε α} (h : Commits t s a s') : after t s = s' := by
  simp only [after, show t s = .ok (a, s') from h]

theorem after_eq (t : Tx σ ε α) (s : σ) : after t s = s ∨ ∃ a, Commits t s a (after t s) := by
  cases h : t s with
  | error e => exact Or.inl (by simp only [after, h])
  | ok p => exact Or.inr ⟨p.1, by simp only [Commits, after, h]⟩

/-- A transaction that raises leaves the state as it was. -/
theorem after_of_raises {t : Tx σ ε α} {e : ε} (h : t s = .error e) : after t s = s := by
  simp only [after, h]

end Steps

/-! A transaction moves the state only along `R` when every commit does. -/

/-- Every commit of `t` relates the old state to the new one by `R`. -/
def Within (R : σ → σ → Prop) (t : Tx σ ε α) : Prop :=
  ∀ s a s', Commits t s a s' → R s s'

namespace Within

variable {R : σ → σ → Prop}

theorem pure [Std.Refl R] (a : α) : Within R (pure a : Tx σ ε α) := by
  intro s a' s' h
  obtain ⟨-, rfl⟩ := commits_pure.1 h
  exact Std.Refl.refl _

theorem bind [IsTrans σ R] {x : Tx σ ε α} {f : α → Tx σ ε β} (hx : Within R x)
    (hf : ∀ a, Within R (f a)) : Within R (x >>= f) := by
  intro s b s' h
  obtain ⟨a, m, h₁, h₂⟩ := commits_bind.1 h
  exact IsTrans.trans _ _ _ (hx s a m h₁) (hf a m b s' h₂)

theorem discard {x : Tx σ ε α} (h : Within R x) : Within R (discard x) := by
  intro s u s' hc
  obtain ⟨a, ha⟩ := commits_discard.1 hc
  exact h s a s' ha

theorem raise (e : ε) : Within R (raise e : Tx σ ε α) :=
  fun _ _ _ h => absurd h commits_raise

theorem read [Std.Refl R] (f : σ → α) : Within R (read f : Tx σ ε α) := by
  intro s a s' h
  obtain ⟨-, rfl⟩ := commits_read.1 h
  exact Std.Refl.refl _

theorem raiseIf [Std.Refl R] (c : Prop) [Decidable c] (e : ε) :
    Within R (raiseIf c e : Tx σ ε Unit) := by
  intro s a s' h
  obtain ⟨-, rfl⟩ := commits_raiseIf.1 h
  exact Std.Refl.refl _

theorem demand [Std.Refl R] (o : Option α) (e : ε) : Within R (demand o e : Tx σ ε α) := by
  intro s a s' h
  obtain ⟨-, rfl⟩ := commits_demand.1 h
  exact Std.Refl.refl _

theorem update {f : σ → σ} (h : ∀ s, R s (f s)) : Within R (update f : Tx σ ε Unit) := by
  intro s a s' hc
  obtain rfl := commits_update.1 hc
  exact h s

theorem rethrow {f : ε → ε} {t : Tx σ ε α} (h : Within R t) : Within R (rethrow f t) :=
  fun s a s' hc => h s a s' (commits_rethrow.1 hc)

theorem ite {c : Prop} [Decidable c] {x y : Tx σ ε α} (hx : Within R x) (hy : Within R y) :
    Within R (if c then x else y) := by
  by_cases hc : c
  · rwa [if_pos hc]
  · rwa [if_neg hc]

end Within

/-! Runs of a system whose steps are transactions. -/

/-- What every step preserves holds after every run. -/
theorem run_keeps {step : σ → σ → Prop} {I : σ → Prop} (hstep : ∀ s s', step s s' → I s → I s')
    {s s' : σ} (hrun : Relation.ReflTransGen step s s') (h : I s) : I s' := by
  induction hrun with
  | refl => exact h
  | tail _ he ih => exact hstep _ _ he ih

end Txn
