import Mathlib.Data.List.Nodup
import Mathlib.Data.List.Induction
import Mathlib.Tactic.Common

/-! Grouping the items of a list by a key, in the order in which the keys first appear:
a dictionary from keys to a tag of the first item and the items themselves. -/

namespace Grouping

variable {κ τ α : Type*} [DecidableEq κ]

structure Group (κ τ α : Type*) where
  key : κ
  tag : τ
  members : List α

/-- Add an item to the group of its key; a new key opens a group at the end. -/
def add (k : κ) (t : τ) (a : α) : List (Group κ τ α) → List (Group κ τ α)
  | [] => [⟨k, t, [a]⟩]
  | g :: groups =>
    if g.key = k then { g with members := g.members ++ [a] } :: groups else g :: add k t a groups

def collect (key : α → κ) (tag : α → τ) (items : List α) : List (Group κ τ α) :=
  items.foldl (fun groups a => add (key a) (tag a) a groups) []

theorem mem_add {k : κ} {t : τ} {a : α} {g : Group κ τ α} {groups : List (Group κ τ α)}
    (hnodup : (groups.map Group.key).Nodup) (h : g ∈ add k t a groups) :
    (g ∈ groups ∧ g.key ≠ k) ∨
      (∃ g₀ ∈ groups, g₀.key = k ∧ g = { g₀ with members := g₀.members ++ [a] }) ∨
      (k ∉ groups.map Group.key ∧ g = ⟨k, t, [a]⟩) := by
  induction groups with
  | nil => simpa [add] using h
  | cons g' groups ih =>
    rw [List.map_cons, List.nodup_cons] at hnodup
    by_cases hk : g'.key = k
    · rw [add, if_pos hk] at h
      rcases List.mem_cons.1 h with rfl | h
      · exact .inr (.inl ⟨g', by simp, hk, rfl⟩)
      · refine .inl ⟨List.mem_cons_of_mem _ h, fun hg => hnodup.1 ?_⟩
        rw [hk, ← hg]
        exact List.mem_map_of_mem h
    · rw [add, if_neg hk] at h
      rcases List.mem_cons.1 h with rfl | h
      · exact .inl ⟨by simp, hk⟩
      · rcases ih hnodup.2 h with ⟨hg, hne⟩ | ⟨g₀, hg₀, hkey, rfl⟩ | ⟨hnew, rfl⟩
        · exact .inl ⟨List.mem_cons_of_mem _ hg, hne⟩
        · exact .inr (.inl ⟨g₀, List.mem_cons_of_mem _ hg₀, hkey, rfl⟩)
        · refine .inr (.inr ⟨?_, rfl⟩)
          rw [List.map_cons, List.mem_cons, not_or]
          exact ⟨fun heq => hk heq.symm, hnew⟩

theorem mem_keys_add {k k' : κ} {t : τ} {a : α} {groups : List (Group κ τ α)} :
    k' ∈ (add k t a groups).map Group.key ↔ k' ∈ groups.map Group.key ∨ k' = k := by
  induction groups with
  | nil => simp [add]
  | cons g groups ih =>
    by_cases hk : g.key = k
    · rw [add, if_pos hk, List.map_cons, List.map_cons, List.mem_cons]
      simp only [hk]
      tauto
    · simp only [add, if_neg hk, List.map_cons, List.mem_cons, ih, or_assoc]

theorem nodup_keys_add {k : κ} {t : τ} {a : α} {groups : List (Group κ τ α)}
    (h : (groups.map Group.key).Nodup) : ((add k t a groups).map Group.key).Nodup := by
  induction groups with
  | nil => simp [add]
  | cons g groups ih =>
    rw [List.map_cons, List.nodup_cons] at h
    by_cases hk : g.key = k
    · simpa only [add, if_pos hk, List.map_cons, List.nodup_cons] using h
    · rw [add, if_neg hk, List.map_cons, List.nodup_cons, mem_keys_add, not_or]
      exact ⟨⟨h.1, hk⟩, ih h.2⟩

section Collect

variable {key : α → κ} {tag : α → τ} {items : List α}

theorem collect_append (a : α) :
    collect key tag (items ++ [a]) = add (key a) (tag a) a (collect key tag items) := by
  simp [collect]

/-- The keys of the groups are those of the items. -/
theorem mem_keys_collect {k : κ} :
    k ∈ (collect key tag items).map Group.key ↔ ∃ a ∈ items, key a = k := by
  induction items using List.reverseRecOn with
  | nil => simp [collect]
  | append_singleton items a ih =>
    rw [collect_append, mem_keys_add, ih]
    simp only [List.mem_append, List.mem_singleton, or_and_right, exists_or, exists_eq_left]
    exact or_congr_right eq_comm

theorem nodup_keys_collect : ((collect key tag items).map Group.key).Nodup := by
  induction items using List.reverseRecOn with
  | nil => simp [collect]
  | append_singleton items a ih =>
    rw [collect_append]
    exact nodup_keys_add ih

/-- A group holds exactly the items of its key, in their order. -/
theorem members_eq {g : Group κ τ α} (h : g ∈ collect key tag items) :
    g.members = items.filter fun a => key a = g.key := by
  induction items using List.reverseRecOn generalizing g with
  | nil => simp [collect] at h
  | append_singleton items a ih =>
    rw [collect_append] at h
    rcases mem_add nodup_keys_collect h with ⟨hg, hne⟩ | ⟨g₀, hg₀, hkey, rfl⟩ | ⟨hnew, rfl⟩
    · simp [List.filter_append, Ne.symm hne, ← ih hg]
    · simp [List.filter_append, hkey, ih hg₀]
    · rw [mem_keys_collect] at hnew
      have hnone : items.filter (fun b => key b = key a) = [] :=
        List.filter_eq_nil_iff.2 fun b hb hkey => hnew ⟨b, hb, by simpa using hkey⟩
      simp [List.filter_append, hnone]

/-- The tag of a group is that of one of its items. -/
theorem tag_eq {g : Group κ τ α} (h : g ∈ collect key tag items) :
    ∃ a ∈ items, key a = g.key ∧ tag a = g.tag := by
  induction items using List.reverseRecOn generalizing g with
  | nil => simp [collect] at h
  | append_singleton items a ih =>
    rw [collect_append] at h
    rcases mem_add nodup_keys_collect h with ⟨hg, -⟩ | ⟨g₀, hg₀, -, rfl⟩ | ⟨-, rfl⟩
    · obtain ⟨b, hb, hrest⟩ := ih hg
      exact ⟨b, List.mem_append_left _ hb, hrest⟩
    · obtain ⟨b, hb, hrest⟩ := ih hg₀
      exact ⟨b, List.mem_append_left _ hb, hrest⟩
    · exact ⟨a, by simp, rfl, rfl⟩

end Collect

end Grouping
