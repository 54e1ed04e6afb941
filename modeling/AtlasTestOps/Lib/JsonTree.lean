import AtlasTestOps.Lib.Json

/-! JSON values over the scalars of a program, printed once its scalars are. Two ways to print
the scalars give a value the same canonical text exactly when they agree on the scalars that
the value holds. -/

inductive JsonTree (α : Type)
  | leaf (value : α)
  | str (text : String)
  | arr (items : List (JsonTree α))
  | obj (fields : List (String × JsonTree α))

namespace JsonTree

open Json

variable {α β : Type}

mutual

def print (f : α → Scalar) : JsonTree α → Json
  | .leaf value => .scalar (f value)
  | .str text => .str text
  | .arr items => .arr (printItems f items)
  | .obj fields => .obj (printFields f fields)

def printItems (f : α → Scalar) : List (JsonTree α) → List Json
  | [] => []
  | item :: items => print f item :: printItems f items

def printFields (f : α → Scalar) : List (String × JsonTree α) → List (String × Json)
  | [] => []
  | (key, value) :: fields => (key, print f value) :: printFields f fields

end

mutual

def map (g : α → β) : JsonTree α → JsonTree β
  | .leaf value => .leaf (g value)
  | .str text => .str text
  | .arr items => .arr (mapItems g items)
  | .obj fields => .obj (mapFields g fields)

def mapItems (g : α → β) : List (JsonTree α) → List (JsonTree β)
  | [] => []
  | item :: items => map g item :: mapItems g items

def mapFields (g : α → β) : List (String × JsonTree α) → List (String × JsonTree β)
  | [] => []
  | (key, value) :: fields => (key, map g value) :: mapFields g fields

end

mutual

/-- The scalars of a value, in order. -/
def leaves : JsonTree α → List α
  | .leaf value => [value]
  | .str _ => []
  | .arr items => leavesItems items
  | .obj fields => leavesFields fields

def leavesItems : List (JsonTree α) → List α
  | [] => []
  | item :: items => leaves item ++ leavesItems items

def leavesFields : List (String × JsonTree α) → List α
  | [] => []
  | (_, value) :: fields => leaves value ++ leavesFields fields

end

mutual

/-- The strings of a value, its keys among them. -/
def texts : JsonTree α → List String
  | .leaf _ => []
  | .str text => [text]
  | .arr items => textsItems items
  | .obj fields => textsFields fields

def textsItems : List (JsonTree α) → List String
  | [] => []
  | item :: items => texts item ++ textsItems items

def textsFields : List (String × JsonTree α) → List String
  | [] => []
  | (key, value) :: fields => key :: texts value ++ textsFields fields

end

mutual

/-- No object has a key twice. -/
def Distinct : JsonTree α → Prop
  | .leaf _ => True
  | .str _ => True
  | .arr items => DistinctItems items
  | .obj fields => (fields.map Prod.fst).Nodup ∧ DistinctFields fields

def DistinctItems : List (JsonTree α) → Prop
  | [] => True
  | item :: items => Distinct item ∧ DistinctItems items

def DistinctFields : List (String × JsonTree α) → Prop
  | [] => True
  | (_, value) :: fields => Distinct value ∧ DistinctFields fields

end

theorem printFields_eq_map (f : α → Scalar) (fields : List (String × JsonTree α)) :
    printFields f fields = fields.map fun field => (field.1, field.2.print f) := by
  induction fields with
  | nil => rfl
  | cons field fields ih => rw [printFields, ih, List.map_cons]

theorem keys_printFields (f : α → Scalar) (fields : List (String × JsonTree α)) :
    (printFields f fields).map Prod.fst = fields.map Prod.fst := by
  induction fields with
  | nil => rfl
  | cons field fields ih =>
    obtain ⟨key, value⟩ := field
    rw [printFields, List.map_cons, ih, List.map_cons]

mutual

theorem normalize_print_iff (f g : α → Scalar) : ∀ {v : JsonTree α}, v.Distinct →
    (normalize (v.print f) = normalize (v.print g) ↔ ∀ x ∈ v.leaves, f x = g x)
  | .leaf value, _ => by simp [print, leaves]
  | .str text, _ => by simp [print, leaves]
  | .arr items, h => by
    rw [print, print, normalize_arr_eq_iff, ← normalizeItems_eq_map, ← normalizeItems_eq_map, leaves]
    exact normalizeItems_print_iff f g h
  | .obj fields, h => by
    obtain ⟨hkeys, hfields⟩ := h
    rw [print, print, normalize_obj_eq_iff (by rwa [keys_printFields])
      (by rw [keys_printFields, keys_printFields]), leaves]
    exact normalizeFields_print_iff f g hfields

theorem normalizeItems_print_iff (f g : α → Scalar) : ∀ {items : List (JsonTree α)},
    DistinctItems items →
    (normalizeItems (printItems f items) = normalizeItems (printItems g items) ↔
      ∀ x ∈ leavesItems items, f x = g x)
  | [], _ => by simp [printItems, leavesItems]
  | item :: items, h => by
    obtain ⟨hitem, hitems⟩ := h
    rw [printItems, printItems, normalizeItems, normalizeItems, List.cons.injEq, leavesItems,
      List.forall_mem_append]
    exact and_congr (normalize_print_iff f g hitem) (normalizeItems_print_iff f g hitems)

theorem normalizeFields_print_iff (f g : α → Scalar) : ∀ {fields : List (String × JsonTree α)},
    DistinctFields fields →
    (normalizeFields (printFields f fields) = normalizeFields (printFields g fields) ↔
      ∀ x ∈ leavesFields fields, f x = g x)
  | [], _ => by simp [printFields, leavesFields]
  | (key, value) :: fields, h => by
    obtain ⟨hvalue, hfields⟩ := h
    rw [printFields, printFields, normalizeFields, normalizeFields, List.cons.injEq,
      Prod.mk.injEq, leavesFields, List.forall_mem_append]
    simp only [true_and]
    exact and_congr (normalize_print_iff f g hvalue) (normalizeFields_print_iff f g hfields)

end

theorem canonicalText_print_iff (f g : α → Scalar) {v : JsonTree α} (h : v.Distinct) :
    canonicalText (v.print f) = canonicalText (v.print g) ↔ ∀ x ∈ v.leaves, f x = g x :=
  canonicalText_eq_iff.trans (normalize_print_iff f g h)

mutual

theorem print_map (f : β → Scalar) (g : α → β) : ∀ v : JsonTree α,
    (v.map g).print f = v.print fun x => f (g x)
  | .leaf _ => rfl
  | .str _ => rfl
  | .arr items => by rw [map, print, print, printItems_map]
  | .obj fields => by rw [map, print, print, printFields_map]

theorem printItems_map (f : β → Scalar) (g : α → β) : ∀ items : List (JsonTree α),
    printItems f (mapItems g items) = printItems (fun x => f (g x)) items
  | [] => rfl
  | item :: items => by
    rw [mapItems, printItems, printItems, print_map f g item, printItems_map f g items]

theorem printFields_map (f : β → Scalar) (g : α → β) : ∀ fields : List (String × JsonTree α),
    printFields f (mapFields g fields) = printFields (fun x => f (g x)) fields
  | [] => rfl
  | (key, value) :: fields => by
    rw [mapFields, printFields, printFields, print_map f g value, printFields_map f g fields]

end

end JsonTree
