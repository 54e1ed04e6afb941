import Mathlib

/-! Rows read page by page: a query returns the first rows behind a cursor in key order. When
the keys of the rows are `1..n`, so are those of the pages, one after the other. -/

namespace Paging

variable {α : Type}

/-- `where key > cursor order by le limit limit` -/
def page (le : α → α → Prop) [DecidableRel le] (key : α → ℕ) (cursor limit : ℕ) (rows : List α) :
    List α :=
  ((rows.filter fun row => cursor < key row).insertionSort le).take limit

/-- Rows told apart by `f` are told apart by a key that determines `f`. -/
theorem nodup_map_of_determines {β γ : Type} {f : α → β} {g : α → γ} {l : List α}
    (h : (l.map f).Nodup) (hg : ∀ x ∈ l, ∀ y ∈ l, g x = g y → f x = f y) : (l.map g).Nodup := by
  rw [List.Nodup, List.pairwise_map] at h ⊢
  exact h.imp_of_mem fun hx hy hne heq => hne (hg _ hx _ hy heq)

section Keys

variable {le : α → α → Prop} [DecidableRel le] {key : α → ℕ} {cursor limit n : ℕ} {rows : List α}

theorem mem_of_mem_page {row : α} (h : row ∈ page le key cursor limit rows) : row ∈ rows := by
  have hsorted := List.mem_of_mem_take h
  have hfilter := (List.perm_insertionSort _ _).mem_iff.1 hsorted
  exact List.mem_of_mem_filter hfilter

theorem nodup_page {β : Type} {f : α → β} (h : (rows.map f).Nodup) :
    ((page le key cursor limit rows).map f).Nodup := by
  have hfilter : ((rows.filter fun row => cursor < key row).map f).Nodup :=
    h.sublist (List.filter_sublist.map f)
  have hsorted := ((List.perm_insertionSort le _).map f).nodup_iff.2 hfilter
  exact hsorted.sublist ((List.take_sublist limit _).map f)

theorem filter_range' (n cursor : ℕ) :
    ((List.range' 1 n).filter fun k => cursor < k).Perm
      (List.range' (cursor + 1) (n - cursor)) := by
  refine (List.perm_ext_iff_of_nodup (List.Nodup.filter _ List.nodup_range') List.nodup_range').2 fun k => ?_
  simp only [List.mem_filter, List.mem_range'_1, decide_eq_true_eq]
  omega

theorem take_range' (s n k : ℕ) :
    (List.range' s n).take k = List.range' s (min k n) := by
  rcases Nat.le_total n k with hlast | hfull
  · rw [List.take_range'_of_length_le hlast, Nat.min_eq_right hlast]
  · rw [List.take_range'_of_length_ge hfull, Nat.min_eq_left hfull]

/-- A page of rows keyed `1..n` holds the keys right behind the cursor. -/
theorem page_keys [Std.Total le] [IsTrans α le] (hle : ∀ a b, le a b → key a ≤ key b)
    (h : (rows.map key).Perm (List.range' 1 n)) :
    (page le key cursor limit rows).map key =
      List.range' (cursor + 1) (min limit (n - cursor)) := by
  have hperm : (((rows.filter fun row => cursor < key row).insertionSort le).map key).Perm
      (List.range' (cursor + 1) (n - cursor)) := by
    refine ((List.perm_insertionSort le _).map key).trans ?_
    rw [show (rows.filter fun row => cursor < key row).map key =
      (rows.map key).filter fun k => cursor < k by rw [List.filter_map]; rfl]
    exact (h.filter _).trans (filter_range' n cursor)
  have hsorted : (((rows.filter fun row => cursor < key row).insertionSort le).map key).Pairwise
      (· ≤ ·) :=
    (List.pairwise_insertionSort le _).map key hle
  have heq := hperm.eq_of_pairwise (fun _ _ _ _ h1 h2 => Nat.le_antisymm h1 h2) hsorted
    (List.pairwise_le_range')
  rw [page, List.map_take, heq, take_range']

end Keys

/-- Two pages in a row: the cursor of the second is the last key of the first. -/
theorem range'_page_append (cursor a b : ℕ) :
    List.range' (cursor + 1) a ++ List.range' (cursor + a + 1) b =
      List.range' (cursor + 1) (a + b) := by
  rw [show cursor + a + 1 = cursor + 1 + a by omega, List.range'_append_1]

end Paging
