import AtlasTestOps.Lib.Table
import AtlasTestOps.Lib.Transaction

/-! Tables whose updates pass a trigger: an `update … where … returning` rewrites every row
it selects, or is refused as a whole. Then transactions on one part of the state. -/

namespace Txn

variable {σ ε α β : Type}

/-- A table of the state together with the trigger that each updated row passes. -/
structure GuardedTable (σ ε α : Type) where
  rows : σ → List α
  store : σ → List α → σ
  guard : α → α → Option ε

namespace GuardedTable

variable (t : GuardedTable σ ε α) (p : α → Bool) (f : α → α) {s s' : σ} {out : List α}

/-- The rows after the update, refused or not. -/
def rewrite (s : σ) : σ := t.store s ((t.rows s).map fun a => if p a then f a else a)

def update : Tx σ ε (List α) := fun s =>
  match ((t.rows s).filter p).findSome? fun a => t.guard a (f a) with
  | some e => .error e
  | none => .ok (((t.rows s).filter p).map f, t.rewrite p f s)

/-- The trigger passes the update of every row selected. -/
def Admits (s : σ) : Prop := ∀ a ∈ t.rows s, p a = true → t.guard a (f a) = none

theorem findSome?_eq_none_iff_admits :
    (((t.rows s).filter p).findSome? fun a => t.guard a (f a)) = none ↔ t.Admits p f s := by
  simp only [List.findSome?_eq_none_iff, List.mem_filter, and_imp, Admits]

@[simp] theorem commits_guarded :
    Commits (t.update p f) s out s' ↔
      t.Admits p f s ∧ out = ((t.rows s).filter p).map f ∧ s' = t.rewrite p f s := by
  rw [← findSome?_eq_none_iff_admits]
  unfold Commits update
  cases ((t.rows s).filter p).findSome? fun a => t.guard a (f a) with
  | none => simp [eq_comm]
  | some e => simp

theorem within_guarded {R : σ → σ → Prop} (h : ∀ s, t.Admits p f s → R s (t.rewrite p f s)) :
    Within R (t.update p f) := by
  intro s out s' hc
  obtain ⟨hadmits, -, rfl⟩ := (t.commits_guarded p f).1 hc
  exact h s hadmits

/-! An update that names one row by its key rewrites that row or none. -/

section Keyed

variable {κ : Type} [DecidableEq κ] {key : α → κ} {a : α}

omit [DecidableEq κ] in
theorem selects_iff (hids : ((t.rows s).map key).Nodup) (ha : a ∈ t.rows s)
    (hp : ∀ b, p b = true → key b = key a) {b : α} (hb : b ∈ t.rows s) :
    p b = true ↔ key b = key a ∧ p a = true := by
  constructor
  · intro h
    obtain rfl := Table.eq_of_key hids hb ha (hp b h)
    exact ⟨rfl, h⟩
  · rintro ⟨hkey, h⟩
    obtain rfl := Table.eq_of_key hids hb ha hkey
    exact h

omit [DecidableEq κ] in
theorem filter_keyed (hids : ((t.rows s).map key).Nodup) (ha : a ∈ t.rows s)
    (hp : ∀ b, p b = true → key b = key a) (h : p a = true) : (t.rows s).filter p = [a] := by
  have hnodup : ((t.rows s).filter p).Nodup := (List.Nodup.of_map _ hids).filter _
  have hmem : ∀ b, b ∈ (t.rows s).filter p ↔ b = a := by
    intro b
    rw [List.mem_filter]
    constructor
    · rintro ⟨hb, hpb⟩
      exact Table.eq_of_key hids hb ha (hp b hpb)
    · rintro rfl
      exact ⟨ha, h⟩
  have hperm : ((t.rows s).filter p).Perm [a] :=
    (List.perm_ext_iff_of_nodup hnodup (List.nodup_singleton a)).mpr (by simpa using hmem)
  exact List.perm_singleton.mp hperm

theorem commits_keyed (hids : ((t.rows s).map key).Nodup) (ha : a ∈ t.rows s)
    (hp : ∀ b, p b = true → key b = key a) :
    Commits (t.update p f) s out s' ↔
      (p a = true ∧ t.guard a (f a) = none ∧ out = [f a] ∧
        s' = t.store s (Table.modify key (key a) f (t.rows s))) ∨
      (p a = false ∧ out = [] ∧ s' = t.store s (t.rows s)) := by
  rw [commits_guarded]
  cases h : p a with
  | true =>
    have hrewrite : t.rewrite p f s = t.store s (Table.modify key (key a) f (t.rows s)) := by
      unfold rewrite Table.modify
      congr 1
      apply List.map_congr_left
      intro b hb
      have hiff := t.selects_iff p hids ha hp hb
      simp only [h, and_true] at hiff
      by_cases hb' : key b = key a
      · rw [if_pos (hiff.mpr hb'), if_pos hb']
      · rw [if_neg fun hpb => hb' (hiff.mp hpb), if_neg hb']
    have hadmits : t.Admits p f s ↔ t.guard a (f a) = none := by
      constructor
      · intro hall
        exact hall a ha h
      · intro hguard b hb hpb
        obtain rfl := Table.eq_of_key hids hb ha (hp b hpb)
        exact hguard
    rw [t.filter_keyed p hids ha hp h, hrewrite, hadmits]
    simp
  | false =>
    have hnone : ∀ b ∈ t.rows s, p b = false := by
      intro b hb
      have hiff := t.selects_iff p hids ha hp hb
      simpa [h] using hiff
    have hfilter : (t.rows s).filter p = [] := by
      rw [List.filter_eq_nil_iff]
      intro b hb
      simp [hnone b hb]
    have hrewrite : t.rewrite p f s = t.store s (t.rows s) := by
      unfold rewrite
      congr 1
      refine (List.map_congr_left fun b hb => ?_).trans (List.map_id _)
      simp [hnone b hb]
    have hadmits : t.Admits p f s := by
      intro b hb hpb
      simp [hnone b hb] at hpb
    rw [hfilter, hrewrite]
    simp [hadmits]

end Keyed

end GuardedTable

/-! ### A transaction on one part of the state -/

def onPart {τ : Type} (get : σ → τ) (set : σ → τ → σ) (t : Tx τ ε α) : Tx σ ε α := fun s =>
  match t (get s) with
  | .ok (a, part) => .ok (a, set s part)
  | .error e => .error e

@[simp] theorem commits_onPart {τ : Type} {get : σ → τ} {set : σ → τ → σ} {t : Tx τ ε α} {s s' : σ}
    {a : α} : Commits (onPart get set t) s a s' ↔ ∃ part, Commits t (get s) a part ∧ s' = set s part := by
  unfold Commits onPart
  cases t (get s) with
  | error e => simp
  | ok r =>
    obtain ⟨b, part⟩ := r
    simp [eq_comm, and_assoc]

end Txn
