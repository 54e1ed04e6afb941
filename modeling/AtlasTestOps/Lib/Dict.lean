import Mathlib.Data.List.Nodup
import Mathlib.Data.List.Sort
import Mathlib.Order.Basic

/-! Dictionaries in insertion order whose values carry their own key: assigning at a key that is there
keeps its place, a new key goes last. Two dictionaries with the same values at every key differ only in
order, so they list the same values once these are sorted by key. -/

structure Dict {α κ : Type*} (key : α → κ) where
  entries : List α
  nodup : (entries.map key).Nodup

namespace Dict

variable {α κ : Type*} [DecidableEq κ] {key : α → κ}

omit [DecidableEq κ] in
def empty (key : α → κ) : Dict key := ⟨[], by simp⟩

def get (d : Dict key) (k : κ) : Option α := d.entries.find? fun a => key a = k

def contains (d : Dict key) (k : κ) : Bool := (d.get k).isSome

theorem contains_iff {d : Dict key} {k : κ} : d.contains k = true ↔ k ∈ d.entries.map key := by
  simp [contains, get]

/-- `d[key a] = a` -/
def set (d : Dict key) (a : α) : Dict key :=
  if h : d.contains (key a) = true then
    ⟨d.entries.map fun b => if key b = key a then a else b, by
      have hsame : (key ∘ fun b => if key b = key a then a else b) = key := by
        funext b
        by_cases hb : key b = key a <;> simp [hb]
      rw [List.map_map, hsame]
      exact d.nodup⟩
  else
    ⟨d.entries ++ [a], by
      rw [List.map_append, List.map_singleton, ← List.concat_eq_append, List.nodup_concat]
      exact ⟨fun hmem => h (contains_iff.2 hmem), d.nodup⟩⟩

/-- `del d[k]` -/
def erase (d : Dict key) (k : κ) : Dict key where
  entries := d.entries.filter fun a => key a ≠ k
  nodup := d.nodup.sublist (List.filter_sublist.map key)

/-- `{key(a): a for a in rows}` -/
def ofList (rows : List α) : Dict key := rows.foldl set (empty key)

/-! ### Reading after writing -/

theorem get_eq_some {d : Dict key} {k : κ} {a : α} : d.get k = some a ↔ a ∈ d.entries ∧ key a = k := by
  constructor
  · intro h
    exact ⟨List.mem_of_find?_eq_some h, by simpa using List.find?_some h⟩
  · rintro ⟨ha, rfl⟩
    cases hget : d.get (key a) with
    | none =>
      have hnone := List.find?_eq_none.1 hget a ha
      simp at hnone
    | some b =>
      have hb : key b = key a := by simpa using List.find?_some hget
      rw [List.inj_on_of_nodup_map d.nodup (List.mem_of_find?_eq_some hget) ha hb]

theorem mem_set {d : Dict key} {a b : α} : b ∈ (d.set a).entries ↔ b = a ∨ b ∈ d.entries ∧ key b ≠ key a := by
  unfold set
  split
  · rename_i h
    obtain ⟨c, hc, hkey⟩ := List.mem_map.1 (contains_iff.1 h)
    simp only [List.mem_map]
    constructor
    · rintro ⟨c, hc, rfl⟩
      by_cases hkey : key c = key a <;> simp [hkey, hc]
    · rintro (rfl | ⟨hb, hne⟩)
      · exact ⟨c, hc, by simp [hkey]⟩
      · exact ⟨b, hb, by simp [hne]⟩
  · rename_i h
    rw [contains_iff] at h
    have hne : ∀ b ∈ d.entries, key b ≠ key a := fun b hb heq => h (List.mem_map.2 ⟨b, hb, heq⟩)
    simp only [List.mem_append, List.mem_singleton]
    constructor
    · rintro (hb | rfl)
      · exact Or.inr ⟨hb, hne b hb⟩
      · exact Or.inl rfl
    · rintro (rfl | ⟨hb, -⟩)
      · exact Or.inr rfl
      · exact Or.inl hb

@[simp] theorem get_set (d : Dict key) (a : α) (k : κ) :
    (d.set a).get k = if key a = k then some a else d.get k := by
  ext b
  rw [get_eq_some, mem_set]
  by_cases hk : key a = k
  · subst hk
    simp only [if_true, Option.some.injEq]
    constructor
    · rintro ⟨rfl | ⟨-, hne⟩, hb⟩
      · rfl
      · exact absurd hb hne
    · rintro rfl
      exact ⟨Or.inl rfl, rfl⟩
  · rw [if_neg hk, get_eq_some]
    constructor
    · rintro ⟨rfl | ⟨hb, -⟩, hkey⟩
      · exact absurd hkey hk
      · exact ⟨hb, hkey⟩
    · rintro ⟨hb, rfl⟩
      exact ⟨Or.inr ⟨hb, Ne.symm hk⟩, rfl⟩

@[simp] theorem get_erase (d : Dict key) (k k' : κ) :
    (d.erase k).get k' = if k = k' then none else d.get k' := by
  ext b
  rw [get_eq_some]
  simp only [erase, ne_eq, List.mem_filter, decide_not, Bool.not_eq_true', decide_eq_false_iff_not]
  by_cases hk : k = k'
  · subst hk
    simp only [if_true, reduceCtorEq, iff_false]
    rintro ⟨⟨-, hne⟩, hb⟩
    exact hne hb
  · rw [if_neg hk, get_eq_some]
    constructor
    · rintro ⟨⟨hb, -⟩, hkey⟩
      exact ⟨hb, hkey⟩
    · rintro ⟨hb, rfl⟩
      exact ⟨⟨hb, Ne.symm hk⟩, rfl⟩

/-- Of rows with distinct keys each is found under its own. -/
theorem get_ofList {rows : List α} (h : (rows.map key).Nodup) (k : κ) :
    (ofList rows : Dict key).get k = rows.find? fun a => key a = k := by
  have hfold : ∀ (rows : List α) (d : Dict key), (rows.map key).Nodup →
      (∀ a ∈ rows, d.get (key a) = none) →
      (rows.foldl set d).get k = (rows.find? fun a => key a = k).or (d.get k) := by
    intro rows
    induction rows with
    | nil => simp
    | cons a rows ih =>
      intro d hnodup hfresh
      obtain ⟨ha, hnodup⟩ := List.nodup_cons.1 hnodup
      have hfresh' : ∀ b ∈ rows, (d.set a).get (key b) = none := by
        intro b hb
        have hne : key a ≠ key b := fun heq => ha (heq ▸ List.mem_map_of_mem hb)
        rw [get_set, if_neg hne]
        exact hfresh b (List.mem_cons_of_mem a hb)
      rw [List.foldl_cons, ih (d.set a) hnodup hfresh', get_set, List.find?_cons]
      by_cases hk : key a = k
      · subst hk
        have hnone : rows.find? (fun b => key b = key a) = none := by
          rw [List.find?_eq_none]
          intro b hb heq
          have heq : key b = key a := by simpa using heq
          exact ha (heq ▸ List.mem_map_of_mem hb)
        simp [hnone]
      · simp [hk]
  rw [ofList, hfold rows (empty key) h (fun _ _ => rfl)]
  cases rows.find? fun a => key a = k <;> rfl

/-- A dictionary that is rebuilt from its values, in any order, reads the same. -/
theorem get_ofList_of_perm {d : Dict key} {rows : List α} (h : rows.Perm d.entries) (k : κ) :
    (ofList rows : Dict key).get k = d.get k := by
  have hnodup : (rows.map key).Nodup := (h.map key).nodup_iff.2 d.nodup
  have hget : (ofList rows : Dict key).get k = Dict.get ⟨rows, hnodup⟩ k := get_ofList hnodup k
  ext a
  rw [hget, get_eq_some, get_eq_some, h.mem_iff]

/-! ### Sorting -/

variable [LinearOrder κ]

omit [DecidableEq κ] in
/-- `sorted(rows, key=key)` -/
def sortBy (key : α → κ) (rows : List α) : List α := rows.mergeSort fun a b => decide (key a ≤ key b)

omit [DecidableEq κ] in
theorem sortBy_perm (rows : List α) : (sortBy key rows).Perm rows := List.mergeSort_perm rows _

omit [DecidableEq κ] in
theorem sortBy_pairwise (rows : List α) : (sortBy key rows).Pairwise fun a b => key a ≤ key b := by
  have htrans : ∀ a b c : α, decide (key a ≤ key b) = true → decide (key b ≤ key c) = true →
      decide (key a ≤ key c) = true := by
    simpa using fun a b c => le_trans
  have htotal : ∀ a b : α, (decide (key a ≤ key b) || decide (key b ≤ key a)) = true := by
    simpa using fun a b => le_total (key a) (key b)
  simpa [sortBy] using List.pairwise_mergeSort htrans htotal rows

omit [DecidableEq κ] in
/-- Rows with distinct keys sort to one list, whatever their order. -/
theorem sortBy_eq_of_perm {xs ys : List α} (hnodup : (xs.map key).Nodup) (h : xs.Perm ys) :
    sortBy key xs = sortBy key ys := by
  have hperm : (sortBy key xs).Perm (sortBy key ys) :=
    (sortBy_perm xs).trans (h.trans (sortBy_perm ys).symm)
  refine hperm.eq_of_pairwise ?_ (sortBy_pairwise xs) (sortBy_pairwise ys)
  intro a b ha hb hle hge
  have hb' : b ∈ xs := h.mem_iff.2 ((sortBy_perm ys).mem_iff.1 hb)
  exact List.inj_on_of_nodup_map hnodup ((sortBy_perm xs).mem_iff.1 ha) hb' (le_antisymm hle hge)

omit [LinearOrder κ] in
theorem entries_perm {d e : Dict key} (h : ∀ k, d.get k = e.get k) : d.entries.Perm e.entries := by
  rw [List.perm_ext_iff_of_nodup (d.nodup.of_map _) (e.nodup.of_map _)]
  intro a
  have hd : a ∈ d.entries ↔ d.get (key a) = some a := by simp [get_eq_some]
  have he : a ∈ e.entries ↔ e.get (key a) = some a := by simp [get_eq_some]
  rw [hd, he, h]

theorem sortBy_entries_eq {d e : Dict key} (h : ∀ k, d.get k = e.get k) :
    sortBy key d.entries = sortBy key e.entries :=
  sortBy_eq_of_perm d.nodup (entries_perm h)

end Dict
