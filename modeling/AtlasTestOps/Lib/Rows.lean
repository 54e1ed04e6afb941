import Mathlib.Data.Nat.Notation
import Mathlib.Data.List.Induction
import Mathlib.Data.List.Sort
import Mathlib.Data.List.Nodup
import Mathlib.Data.List.Pairwise
import Mathlib.Tactic.Common

/-! Rows of an append-only table that are numbered by a revision: the newest row, and
tables whose revisions run from one without a gap. -/

namespace Rows

variable {α : Type*} (rev : α → ℕ)

/-- `order by rev desc limit 1` -/
def newest : List α → Option α
  | [] => none
  | a :: rows =>
    match newest rows with
    | none => some a
    | some b => if rev b < rev a then some a else some b

variable {rev}

@[simp] theorem newest_nil : newest rev [] = none := rfl

theorem newest_eq_none {rows : List α} : newest rev rows = none ↔ rows = [] := by
  cases rows with
  | nil => simp
  | cons a rows =>
    simp only [newest, reduceCtorEq, iff_false]
    cases newest rev rows with
    | none => simp
    | some b => by_cases h : rev b < rev a <;> simp [h]

theorem newest_mem {rows : List α} {b : α} (h : newest rev rows = some b) : b ∈ rows := by
  induction rows generalizing b with
  | nil => simp at h
  | cons a rows ih =>
    simp only [newest] at h
    cases hn : newest rev rows with
    | none =>
      simp only [hn, Option.some.injEq] at h
      simp [h]
    | some c =>
      simp only [hn] at h
      by_cases hc : rev c < rev a
      · simp only [if_pos hc, Option.some.injEq] at h
        simp [h]
      · simp only [if_neg hc, Option.some.injEq] at h
        exact List.mem_cons_of_mem a (ih (h ▸ hn))

theorem newest_ge {rows : List α} {b : α} (h : newest rev rows = some b) :
    ∀ a ∈ rows, rev a ≤ rev b := by
  induction rows generalizing b with
  | nil => simp
  | cons c rows ih =>
    intro a ha
    simp only [newest] at h
    cases hn : newest rev rows with
    | none =>
      simp only [hn, Option.some.injEq] at h
      obtain rfl := newest_eq_none.1 hn
      simp_all
    | some d =>
      simp only [hn] at h
      have hd := ih hn
      by_cases hc : rev d < rev c
      · simp only [if_pos hc, Option.some.injEq] at h
        subst h
        rcases List.mem_cons.1 ha with rfl | ha
        · exact le_rfl
        · have := hd a ha
          omega
      · simp only [if_neg hc, Option.some.injEq] at h
        subst h
        rcases List.mem_cons.1 ha with rfl | ha
        · exact Nat.not_lt.1 hc
        · exact hd a ha

/-- A row with a revision above all others is the newest one. -/
theorem newest_append {rows : List α} {b : α} (h : ∀ a ∈ rows, rev a < rev b) :
    newest rev (rows ++ [b]) = some b := by
  induction rows with
  | nil => simp [newest]
  | cons a rows ih =>
    have ha := h a (by simp)
    have hrest := ih fun c hc => h c (List.mem_cons_of_mem a hc)
    simp only [List.cons_append, newest, hrest]
    rw [if_neg (by omega)]

/-- The only row that a filter selects is the newest one. -/
theorem newest_of_unique {rows : List α} {p : α → Bool} {c : α} (hc : c ∈ rows) (hp : p c = true)
    (h : ∀ a ∈ rows, p a = true → a = c) : newest rev (rows.filter p) = some c := by
  cases hn : newest rev (rows.filter p) with
  | none =>
    have hmem : c ∈ rows.filter p := List.mem_filter.2 ⟨hc, hp⟩
    rw [newest_eq_none.1 hn] at hmem
    simp at hmem
  | some b =>
    obtain ⟨hb, hpb⟩ := List.mem_filter.1 (newest_mem hn)
    rw [h b hb hpb]

/-- A rewrite that keeps the revisions rewrites the newest row too. -/
theorem newest_map {rows : List α} {f : α → α} (hf : ∀ a, rev (f a) = rev a) :
    newest rev (rows.map f) = (newest rev rows).map f := by
  induction rows with
  | nil => rfl
  | cons a rows ih =>
    simp only [List.map_cons, newest, ih]
    cases newest rev rows with
    | none => rfl
    | some b =>
      simp only [Option.map_some, hf]
      split <;> rfl

/-! At most one row of a kind. -/

def AtMostOne (p : α → Bool) (rows : List α) : Prop :=
  rows.Pairwise fun a b => ¬ (p a = true ∧ p b = true)

namespace AtMostOne

variable {p : α → Bool} {rows : List α} {a b : α}

theorem nil : AtMostOne p ([] : List α) := List.Pairwise.nil

theorem map {q : α → Bool} {f : α → α} (hf : ∀ a, q (f a) = true → p a = true) (h : AtMostOne p rows) :
    AtMostOne q (rows.map f) :=
  List.pairwise_map.2 (h.imp fun hab hfab => hab ⟨hf _ hfab.1, hf _ hfab.2⟩)

theorem append (h : ∀ a ∈ rows, p a = false) : AtMostOne p (rows ++ [b]) := by
  refine List.pairwise_append.2 ⟨?_, List.pairwise_singleton _ _, ?_⟩
  · exact List.Pairwise.imp_of_mem (R := fun _ _ => True)
      (fun ha _ _ hab => by simp [h _ ha] at hab) (List.pairwise_of_forall fun _ _ => trivial)
  · intro a ha c _ hac
    simp [h a ha] at hac

theorem unique (h : AtMostOne p rows) (ha : a ∈ rows) (hb : b ∈ rows) (hpa : p a = true)
    (hpb : p b = true) : a = b := by
  by_contra hab
  have hsym : Std.Symm fun a b : α => ¬ (p a = true ∧ p b = true) := ⟨fun _ _ h h' => h ⟨h'.2, h'.1⟩⟩
  exact h.forall ha hb hab ⟨hpa, hpb⟩

end AtMostOne

variable (rev)

/-- The revisions are `1 .. n` in the order of the rows. -/
def Gapless (rows : List α) : Prop := rows.map rev = List.range' 1 rows.length

variable {rev}

theorem gapless_nil : Gapless rev ([] : List α) := rfl

theorem gapless_append {rows : List α} {b : α} :
    Gapless rev (rows ++ [b]) ↔ Gapless rev rows ∧ rev b = rows.length + 1 := by
  simp only [Gapless, List.map_append, List.map_cons, List.map_nil, List.length_append,
    List.length_cons, List.length_nil, List.range'_concat, Nat.zero_add]
  constructor
  · intro h
    obtain ⟨h₁, h₂⟩ := List.append_inj' h (by simp)
    simp only [List.cons.injEq, and_true] at h₂
    exact ⟨h₁, by omega⟩
  · rintro ⟨h₁, h₂⟩
    rw [h₁, h₂]
    simp [Nat.add_comm]

variable (rev)

/-- The revisions rise from row to row. -/
def Rising (rows : List α) : Prop := rows.Pairwise fun a b => rev a < rev b

variable {rev}

theorem Gapless.rising {rows : List α} (h : Gapless rev rows) : Rising rev rows := by
  have hmap : (rows.map rev).Pairwise (· < ·) := by
    rw [show rows.map rev = List.range' 1 rows.length from h]
    exact List.pairwise_lt_range'
  exact List.pairwise_map.1 hmap

theorem Rising.filter {rows : List α} (h : Rising rev rows) (p : α → Bool) :
    Rising rev (rows.filter p) :=
  List.Pairwise.filter p h

/-- The newest row of a rising table is its last one. -/
theorem Rising.newest_eq_getLast? {rows : List α} (h : Rising rev rows) :
    newest rev rows = rows.getLast? := by
  induction rows using List.reverseRecOn with
  | nil => rfl
  | append_singleton rows b _ =>
    rw [Rising, List.pairwise_append] at h
    rw [newest_append fun a ha => h.2.2 a ha b (by simp)]
    simp

theorem Gapless.newest_eq_getLast? {rows : List α} (h : Gapless rev rows) :
    newest rev rows = rows.getLast? :=
  h.rising.newest_eq_getLast?

/-- Among the rows that a filter selects, the newest is the last one. -/
theorem Gapless.newest_filter {rows : List α} (h : Gapless rev rows) (p : α → Bool) :
    newest rev (rows.filter p) = (rows.filter p).getLast? :=
  (h.rising.filter p).newest_eq_getLast?

/-- The next revision of a gapless table is one above that of its newest row. -/
theorem Gapless.length_eq {rows : List α} (h : Gapless rev rows) :
    rows.length = ((newest rev rows).map rev).getD 0 := by
  rw [h.newest_eq_getLast?]
  cases rows using List.reverseRecOn with
  | nil => rfl
  | append_singleton rows b =>
    simp only [List.getLast?_append, List.getLast?_singleton, Option.some_or, Option.map_some,
      Option.getD_some, (gapless_append.1 h).2, List.length_append, List.length_cons,
      List.length_nil]

/-- The last of the selected rows after one more row. -/
theorem Gapless.newest_filter_append {rows : List α} {b : α} (h : Gapless rev (rows ++ [b]))
    (p : α → Bool) :
    newest rev ((rows ++ [b]).filter p) = if p b then some b else newest rev (rows.filter p) := by
  rw [h.newest_filter, (gapless_append.1 h).1.newest_filter]
  cases hb : p b <;> simp [List.filter_append, hb]

/-- Looking up the keys of a table, when they are distinct, gives the table. -/
theorem lookup_keys {β : Type*} [DecidableEq β] {key : α → β} {rows : List α}
    (h : (rows.map key).Nodup) :
    (rows.map key).filterMap (fun k => rows.find? fun a => key a = k) = rows := by
  rw [List.filterMap_map]
  have hfind : ∀ a ∈ rows, ((fun k => rows.find? fun b => key b = k) ∘ key) a = some a := by
    intro a ha
    cases hf : rows.find? fun b => decide (key b = key a) with
    | none => simpa using List.find?_eq_none.1 hf a ha
    | some b =>
      have hkey : key b = key a := by simpa using List.find?_some hf
      rw [Function.comp_apply, hf,
        List.inj_on_of_nodup_map h (List.mem_of_find?_eq_some hf) ha hkey]
  rw [List.filterMap_congr hfind, List.filterMap_some]

/-! Rows that name their predecessor. -/

variable {β : Type*}

/-- The first row names `start` and every later row the row before it. -/
def LinkedFrom (id : α → β) (pred : α → Option β) : Option β → List α → Prop
  | _, [] => True
  | start, a :: rows => pred a = start ∧ LinkedFrom id pred (some (id a)) rows

theorem linkedFrom_append {id : α → β} {pred : α → Option β} {start : Option β} {rows : List α}
    {b : α} : LinkedFrom id pred start (rows ++ [b]) ↔
      LinkedFrom id pred start rows ∧ pred b = (rows.getLast?.map id).or start := by
  induction rows generalizing start with
  | nil => simp [LinkedFrom]
  | cons a rows ih =>
    simp only [List.cons_append, LinkedFrom, ih, and_assoc, and_congr_right_iff]
    intro _ _
    rw [List.getLast?_cons]
    cases rows.getLast? with
    | none => simp
    | some c => simp

end Rows
