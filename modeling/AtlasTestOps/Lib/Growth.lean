import AtlasTestOps.Lib.Table

/-! Tables that only grow: a row may be rewritten along a relation, new rows come behind the
ones there are, and none is ever deleted. -/

namespace Growth

variable {α : Type*} {R : α → α → Prop} {rows rows' rows'' : List α}

/-- Every row has become the row at its place by `R`; the others are new. -/
def Extends (R : α → α → Prop) (rows rows' : List α) : Prop :=
  ∃ kept new, rows' = kept ++ new ∧ List.Forall₂ R rows kept

theorem Extends.of_forall₂ (h : List.Forall₂ R rows rows') : Extends R rows rows' :=
  ⟨rows', [], (List.append_nil _).symm, h⟩

theorem Extends.refl (hR : ∀ a, R a a) (rows : List α) : Extends R rows rows :=
  .of_forall₂ (List.forall₂_same.2 fun a _ => hR a)

theorem Extends.append (hR : ∀ a, R a a) (rows new : List α) : Extends R rows (rows ++ new) :=
  ⟨rows, new, rfl, List.forall₂_same.2 fun a _ => hR a⟩

theorem forall₂_trans (hR : ∀ a b c, R a b → R b c → R a c) (h : List.Forall₂ R rows rows')
    (h' : List.Forall₂ R rows' rows'') : List.Forall₂ R rows rows'' := by
  induction h generalizing rows'' with
  | nil => exact h'
  | cons hab _ ih =>
    cases h' with
    | cons hbc hrest => exact .cons (hR _ _ _ hab hbc) (ih hrest)

theorem Extends.trans (hR : ∀ a b c, R a b → R b c → R a c) (h : Extends R rows rows')
    (h' : Extends R rows' rows'') : Extends R rows rows'' := by
  obtain ⟨kept, new, rfl, hkept⟩ := h
  obtain ⟨kept', new', rfl, hkept'⟩ := h'
  -- The kept rows of the second step begin with those of the first.
  obtain ⟨early, late, hearly, hlate, rfl⟩ : ∃ early late, List.Forall₂ R kept early ∧
      List.Forall₂ R new late ∧ kept' = early ++ late := by
    refine ⟨kept'.take kept.length, kept'.drop kept.length, ?_, ?_, (List.take_append_drop _ _).symm⟩
    · simpa using List.forall₂_take kept.length hkept'
    · simpa using List.forall₂_drop kept.length hkept'
  exact ⟨early, late ++ new', by simp, forall₂_trans hR hkept hearly⟩

theorem Extends.exists_of_mem (h : Extends R rows rows') {a : α} (ha : a ∈ rows) :
    ∃ b ∈ rows', R a b := by
  obtain ⟨kept, new, rfl, hkept⟩ := h
  obtain ⟨b, hb, hab⟩ := Table.exists_right_of_forall₂ hkept ha
  exact ⟨b, List.mem_append_left _ hb, hab⟩

/-- Where no row is new, every row was one before. -/
theorem Extends.forall₂_of_length_eq (h : Extends R rows rows') (hlength : rows'.length = rows.length) :
    List.Forall₂ R rows rows' := by
  obtain ⟨kept, new, rfl, hkept⟩ := h
  rw [List.length_append, ← hkept.length_eq] at hlength
  obtain rfl : new = [] := List.length_eq_zero_iff.1 (by omega)
  rw [List.append_nil]
  exact hkept

end Growth
