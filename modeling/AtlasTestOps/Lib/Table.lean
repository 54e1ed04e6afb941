import Mathlib

/-! Tables whose rows are found by a key and rewritten in place. -/

namespace Table

variable {α β γ : Type*} [DecidableEq β] {key : α → β} {k : β} {f : α → α} {rows : List α}

/-- `update … where key = k` -/
def modify (key : α → β) (k : β) (f : α → α) (rows : List α) : List α :=
  rows.map fun a => if key a = k then f a else a

theorem mem_modify {b : α} :
    b ∈ modify key k f rows ↔ ∃ a ∈ rows, b = if key a = k then f a else a := by
  simp only [modify, List.mem_map, eq_comm]

/-- A column that the update does not write stays as it was. -/
theorem map_modify {g : α → γ} (hg : ∀ a, g (f a) = g a) :
    (modify key k f rows).map g = rows.map g := by
  rw [modify, List.map_map]
  apply List.map_congr_left
  intro a _
  by_cases h : key a = k <;> simp [h, hg]

/-- A second update of the row overwrites the first one. -/
theorem modify_modify {g : α → α} (hkey : ∀ a, key (f a) = key a) (hover : ∀ a, g (f a) = g a) :
    modify key k g (modify key k f rows) = modify key k g rows := by
  simp only [modify, List.map_map]
  apply List.map_congr_left
  intro a _
  by_cases h : key a = k
  · simp [h, hkey, hover]
  · simp [h]

/-- A relation that the updated row has to the old one, and every other row to itself. -/
theorem forall₂_modify {R : α → α → Prop} (hrefl : ∀ a, key a ≠ k → R a a)
    (hrow : ∀ a ∈ rows, key a = k → R a (f a)) : List.Forall₂ R rows (modify key k f rows) := by
  refine List.forall₂_map_right_iff.2 (List.forall₂_same.2 fun a ha => ?_)
  by_cases h : key a = k
  · simpa [h] using hrow a ha h
  · simpa [h] using hrefl a h

theorem length_modify : (modify key k f rows).length = rows.length := by
  simp [modify]

/-- A selection by columns that the update does not write selects the same rows. -/
theorem filter_modify {p : α → Bool} (hp : ∀ a, p (f a) = p a) :
    (modify key k f rows).filter p = modify key k f (rows.filter p) := by
  rw [modify, modify, List.filter_map]
  congr 1
  apply List.filter_congr
  intro a _
  by_cases h : key a = k <;> simp [h, hp]

/-- The row under the key, after the update of a table whose keys it does not write. -/
theorem find?_modify (hkey : ∀ a, key (f a) = key a) :
    (modify key k f rows).find? (fun a => key a = k) = (rows.find? fun a => key a = k).map f := by
  induction rows with
  | nil => rfl
  | cons a rows ih =>
    simp only [modify, List.map_cons, List.find?_cons] at ih ⊢
    by_cases h : key a = k
    · simp [h, hkey]
    · simpa [h] using ih

/-- The row under another key. -/
theorem find?_modify_other {k' : β} (hkey : ∀ a, key a = k → key (f a) = k) (hne : k ≠ k') :
    (modify key k f rows).find? (fun a => key a = k') = rows.find? fun a => key a = k' := by
  induction rows with
  | nil => rfl
  | cons a rows ih =>
    simp only [modify, List.map_cons, List.find?_cons] at ih ⊢
    by_cases h : key a = k
    · simpa [h, hkey a h, hne] using ih
    · simp [h, ih]

omit [DecidableEq β] in
/-- Two rows of a table with distinct keys that have one key are one row. -/
theorem eq_of_key {a b : α} (h : (rows.map key).Nodup) (ha : a ∈ rows) (hb : b ∈ rows)
    (hkey : key a = key b) : a = b :=
  List.inj_on_of_nodup_map h ha hb hkey

theorem find?_of_mem {a : α} (h : (rows.map key).Nodup) (ha : a ∈ rows) :
    (rows.find? fun b => key b = key a) = some a := by
  cases hf : rows.find? fun b => key b = key a with
  | none => simpa using List.find?_eq_none.1 hf a ha
  | some b =>
    have hb : key b = key a := by simpa using List.find?_some hf
    rw [eq_of_key h (List.mem_of_find?_eq_some hf) ha hb]

omit [DecidableEq β] in
/-- After the update of one row under its key: that row, and the others as they were. -/
theorem mem_modify_keyed [DecidableEq β] {a : α} (h : (rows.map key).Nodup) (ha : a ∈ rows) {b : α} :
    b ∈ modify key (key a) f rows ↔ b = f a ∨ (b ∈ rows ∧ key b ≠ key a) := by
  rw [mem_modify]
  constructor
  · rintro ⟨c, hc, rfl⟩
    by_cases hkey : key c = key a
    · obtain rfl := eq_of_key h hc ha hkey
      exact Or.inl (if_pos rfl)
    · rw [if_neg hkey]
      exact Or.inr ⟨hc, hkey⟩
  · rintro (rfl | ⟨hb, hkey⟩)
    · exact ⟨a, ha, (if_pos rfl).symm⟩
    · exact ⟨b, hb, (if_neg hkey).symm⟩

/-- The first rows of a table are those with the first keys. -/
theorem filter_mem_take (h : (rows.map key).Nodup) (n : ℕ) :
    rows.filter (fun a => key a ∈ (rows.map key).take n) = rows.take n := by
  induction rows generalizing n with
  | nil => simp
  | cons a rows ih =>
    obtain ⟨hnot, hrows⟩ := List.nodup_cons.1 h
    cases n with
    | zero => simp
    | succ n =>
      rw [List.map_cons, List.take_succ_cons, List.filter_cons_of_pos (by simp),
        List.take_succ_cons, ← ih hrows n]
      congr 1
      refine List.filter_congr fun b hb => ?_
      have hne : key b ≠ key a := fun heq => hnot (heq ▸ List.mem_map_of_mem hb)
      simp [hne]

/-! Row by row from one table to the next. -/

variable {δ : Type*} {R : α → δ → Prop} {xs : List α} {ys : List δ}

omit [DecidableEq β] in
theorem map_eq_of_forall₂ {g : α → γ} {h : δ → γ} (hR : ∀ a b, R a b → h b = g a)
    (hrows : List.Forall₂ R xs ys) : ys.map h = xs.map g := by
  induction hrows with
  | nil => rfl
  | cons hab _ ih => rw [List.map_cons, List.map_cons, hR _ _ hab, ih]

omit [DecidableEq β] in
theorem exists_left_of_forall₂ (hrows : List.Forall₂ R xs ys) {b : δ} (hb : b ∈ ys) :
    ∃ a ∈ xs, R a b := by
  induction hrows with
  | nil => simp at hb
  | cons hab _ ih =>
    rcases List.mem_cons.mp hb with rfl | hb
    · exact ⟨_, by simp, hab⟩
    · obtain ⟨a, ha, hR⟩ := ih hb
      exact ⟨a, by simp [ha], hR⟩

omit [DecidableEq β] in
theorem exists_right_of_forall₂ (hrows : List.Forall₂ R xs ys) {a : α} (ha : a ∈ xs) :
    ∃ b ∈ ys, R a b := by
  induction hrows with
  | nil => simp at ha
  | cons hab _ ih =>
    rcases List.mem_cons.mp ha with rfl | ha
    · exact ⟨_, by simp, hab⟩
    · obtain ⟨b, hb, hR⟩ := ih ha
      exact ⟨b, by simp [hb], hR⟩

end Table
