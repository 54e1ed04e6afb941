import Mathlib

/-! JSON values and their canonical text: compact separators, keys in order, only the
characters escaped that must be. Two values have one text exactly when they are the same
value up to the order in which their objects list the keys. -/

/-- A floating-point literal as it is printed. It is never an integer literal, and it ends
where the next separator stands. -/
structure FloatLiteral where
  text : List Char
  start : text.head?.any (fun c => c.isDigit || c ∈ ['-', 'N', 'I'])
  plain : text.all (fun c => c ∉ [',', Char.ofNat 93, Char.ofNat 125])
  fraction : text.any (fun c => !(c.isDigit || c = '-'))
  deriving DecidableEq, Repr

inductive Scalar
  | null
  | bool (value : Bool)
  | int (value : ℤ)
  | float (value : FloatLiteral)
  deriving DecidableEq, Repr

inductive Json
  | scalar (value : Scalar)
  | str (text : String)
  | arr (items : List Json)
  | obj (fields : List (String × Json))
  deriving Repr

namespace Json

abbrev null : Json := .scalar .null
abbrev bool (value : Bool) : Json := .scalar (.bool value)
abbrev int (value : ℤ) : Json := .scalar (.int value)

def option {α : Type} (encode : α → Json) : Option α → Json
  | none => null
  | some value => encode value

/-- The characters with an escape of their own, each with the letter that stands for it. -/
def shortEscapes : List (Char × Char) :=
  [(Char.ofNat 34, Char.ofNat 34), (Char.ofNat 92, Char.ofNat 92), (Char.ofNat 10, 'n'),
    (Char.ofNat 13, 'r'), (Char.ofNat 9, 't'), (Char.ofNat 12, 'f'), (Char.ofNat 8, 'b')]

def escapeChar (c : Char) : List Char :=
  match shortEscapes.find? (fun e => e.1 == c) with
  | some e => [Char.ofNat 92, e.2]
  | none =>
    if c.toNat < 32 then
      [Char.ofNat 92, 'u', '0', '0', Nat.digitChar (c.toNat / 16), Nat.digitChar (c.toNat % 16)]
    else [c]

def quote (text : String) : List Char :=
  Char.ofNat 34 :: (text.toList.flatMap escapeChar ++ [Char.ofNat 34])

def scalarText : Scalar → List Char
  | .null => ['n', 'u', 'l', 'l']
  | .bool true => ['t', 'r', 'u', 'e']
  | .bool false => ['f', 'a', 'l', 's', 'e']
  | .int n => (Int.repr n).toList
  | .float x => x.text

mutual

def render : Json → List Char
  | .scalar value => scalarText value
  | .str text => quote text
  | .arr items => Char.ofNat 91 :: renderItems true items
  | .obj fields => Char.ofNat 123 :: renderFields true fields

/-- The elements still to print, with the bracket that ends the array. -/
def renderItems (first : Bool) : List Json → List Char
  | [] => [Char.ofNat 93]
  | item :: items => (if first then [] else [',']) ++ render item ++ renderItems false items

def renderFields (first : Bool) : List (String × Json) → List Char
  | [] => [Char.ofNat 125]
  | (key, value) :: fields =>
    (if first then [] else [',']) ++ quote key ++ ':' :: render value ++ renderFields false fields

end

/-- `sort_keys`. -/
def sortFields (fields : List (String × Json)) : List (String × Json) :=
  fields.insertionSort (fun a b => a.1 ≤ b.1)

mutual

/-- The value with the keys of every object in order. -/
def normalize : Json → Json
  | .scalar value => .scalar value
  | .str text => .str text
  | .arr items => .arr (normalizeItems items)
  | .obj fields => .obj (sortFields (normalizeFields fields))

def normalizeItems : List Json → List Json
  | [] => []
  | item :: items => normalize item :: normalizeItems items

def normalizeFields : List (String × Json) → List (String × Json)
  | [] => []
  | (key, value) :: fields => (key, normalize value) :: normalizeFields fields

end

def canonicalText (value : Json) : String := String.ofList (render (normalize value))

/-! ### The text determines the value -/

def separators : List Char := [',', Char.ofNat 93, Char.ofNat 125]

/-- What follows a value: nothing, or the separator that ends it. -/
def Ends (rest : List Char) : Prop := ∀ c ∈ rest.head?, c ∈ separators

theorem append_inj_of_all {p : Char → Prop} {u v s t : List Char}
    (hu : ∀ c ∈ u, p c) (hv : ∀ c ∈ v, p c) (hs : ∀ c ∈ s.head?, ¬ p c)
    (ht : ∀ c ∈ t.head?, ¬ p c) (h : u ++ s = v ++ t) : u = v ∧ s = t := by
  induction u generalizing v with
  | nil =>
    cases v with
    | nil => exact ⟨rfl, h⟩
    | cons d v =>
      simp only [List.nil_append] at h
      exact absurd (hv d (by simp)) (hs d (by simp [h]))
  | cons c u ih =>
    cases v with
    | nil =>
      simp only [List.nil_append] at h
      exact absurd (hu c (by simp)) (ht c (by simp [← h]))
    | cons d v =>
      simp only [List.cons_append, List.cons.injEq] at h
      obtain ⟨rfl, h⟩ := h
      obtain ⟨rfl, rfl⟩ := ih (fun e he => hu e (by simp [he])) (fun e he => hv e (by simp [he])) h
      exact ⟨rfl, rfl⟩

/-! #### Scalars -/

theorem mem_int_repr {n : ℤ} {c : Char} (hc : c ∈ (Int.repr n).toList) :
    c.isDigit ∨ c = '-' := by
  rw [Int.repr_eq_if] at hc
  split at hc
  · simp only [Nat.toList_repr] at hc
    exact Or.inl (Nat.isDigit_of_mem_toDigits (by decide) (by decide) hc)
  · simp only [String.toList_append, List.mem_append, Nat.toList_repr] at hc
    rcases hc with hc | hc
    · exact Or.inr (by simpa using hc)
    · exact Or.inl (Nat.isDigit_of_mem_toDigits (by decide) (by decide) hc)

theorem int_repr_ne_nil (n : ℤ) : (Int.repr n).toList ≠ [] := by
  rw [Int.repr_eq_if]
  split <;> simp [Nat.toList_repr, Nat.toDigits_ne_nil]

/-- A character that a number may start with or hold. -/
theorem digit_or_minus_plain {c : Char} (hc : c.isDigit ∨ c = '-') :
    c ∉ separators ∧ c ∉ ['n', 't', 'f', Char.ofNat 34, Char.ofNat 91, Char.ofNat 123] := by
  constructor <;> (intro h; simp only [separators, List.mem_cons, List.not_mem_nil, or_false] at h)
  · rcases h with rfl | rfl | rfl <;> revert hc <;> decide
  · rcases h with rfl | rfl | rfl | rfl | rfl | rfl <;> revert hc <;> decide

theorem scalarText_plain (v : Scalar) : ∀ c ∈ scalarText v, c ∉ separators := by
  intro c hc
  match v with
  | .null => exact (by simp [separators] : ∀ c ∈ ['n', 'u', 'l', 'l'], c ∉ separators) c hc
  | .bool true => exact (by simp [separators] : ∀ c ∈ ['t', 'r', 'u', 'e'], c ∉ separators) c hc
  | .bool false => exact (by simp [separators] : ∀ c ∈ ['f', 'a', 'l', 's', 'e'], c ∉ separators) c hc
  | .int n => exact (digit_or_minus_plain (mem_int_repr hc)).1
  | .float x => simpa [separators] using List.all_eq_true.mp x.plain c hc

theorem float_head (x : FloatLiteral) :
    ∃ c cs, x.text = c :: cs ∧
      c ∉ ['n', 't', 'f', Char.ofNat 34, Char.ofNat 91, Char.ofNat 123] := by
  have hx := x.start
  cases h : x.text with
  | nil => simp [h] at hx
  | cons c cs =>
    refine ⟨c, cs, rfl, ?_⟩
    intro hc
    simp only [h, List.head?_cons, Option.any_some] at hx
    simp only [List.mem_cons, List.not_mem_nil, or_false] at hc
    rcases hc with rfl | rfl | rfl | rfl | rfl | rfl <;> revert hx <;> decide

theorem int_head (n : ℤ) :
    ∃ c cs, (Int.repr n).toList = c :: cs ∧
      c ∉ ['n', 't', 'f', Char.ofNat 34, Char.ofNat 91, Char.ofNat 123] := by
  obtain ⟨c, cs, h⟩ := List.exists_cons_of_ne_nil (int_repr_ne_nil n)
  exact ⟨c, cs, h, (digit_or_minus_plain (mem_int_repr (n := n) (c := c) (by simp [h]))).2⟩

theorem scalarText_head (v : Scalar) :
    ∃ c cs, scalarText v = c :: cs ∧ c ∉ [Char.ofNat 34, Char.ofNat 91, Char.ofNat 123] := by
  match v with
  | .null => exact ⟨_, _, rfl, by decide⟩
  | .bool true => exact ⟨_, _, rfl, by decide⟩
  | .bool false => exact ⟨_, _, rfl, by decide⟩
  | .int n =>
    obtain ⟨c, cs, h, hc⟩ := int_head n
    exact ⟨c, cs, h, fun hm => hc (by simp only [List.mem_cons] at hm ⊢; tauto)⟩
  | .float x =>
    obtain ⟨c, cs, h, hc⟩ := float_head x
    exact ⟨c, cs, h, fun hm => hc (by simp only [List.mem_cons] at hm ⊢; tauto)⟩

theorem int_ne_float (n : ℤ) (x : FloatLiteral) : (Int.repr n).toList ≠ x.text := by
  intro h
  obtain ⟨c, hc, hx⟩ := List.any_eq_true.mp x.fraction
  rw [← h] at hc
  have := mem_int_repr hc
  simp_all

/-- No number starts like one of the three words. -/
theorem word_ne_number {c d : Char} {cs ds : List Char} (hc : c ∈ ['n', 't', 'f'])
    (hd : d ∉ ['n', 't', 'f', Char.ofNat 34, Char.ofNat 91, Char.ofNat 123]) :
    c :: cs ≠ d :: ds := by
  intro h
  obtain ⟨rfl, -⟩ := List.cons.inj h
  exact hd (by simp only [List.mem_cons] at hc ⊢; tauto)

theorem scalarText_injective {v w : Scalar} (h : scalarText v = scalarText w) : v = w := by
  match v, w with
  | .null, .null => rfl
  | .null, .bool true => simp [scalarText] at h
  | .null, .bool false => simp [scalarText] at h
  | .bool true, .null => simp [scalarText] at h
  | .bool false, .null => simp [scalarText] at h
  | .bool true, .bool true => rfl
  | .bool false, .bool false => rfl
  | .bool true, .bool false => simp [scalarText] at h
  | .bool false, .bool true => simp [scalarText] at h
  | .int n, .int m => exact congrArg Scalar.int (Int.repr_injective (String.toList_inj.mp h))
  | .float x, .float y =>
    obtain ⟨text, _, _, _⟩ := x
    obtain ⟨text', _, _, _⟩ := y
    obtain rfl : text = text' := h
    rfl
  | .int n, .float x => exact absurd h (int_ne_float n x)
  | .float x, .int n => exact absurd h.symm (int_ne_float n x)
  | .null, .int n =>
    obtain ⟨c, cs, e, hc⟩ := int_head n
    exact absurd (h.trans e) (word_ne_number (by decide) hc)
  | .int n, .null =>
    obtain ⟨c, cs, e, hc⟩ := int_head n
    exact absurd (h.symm.trans e) (word_ne_number (by decide) hc)
  | .null, .float x =>
    obtain ⟨c, cs, e, hc⟩ := float_head x
    exact absurd (h.trans e) (word_ne_number (by decide) hc)
  | .float x, .null =>
    obtain ⟨c, cs, e, hc⟩ := float_head x
    exact absurd (h.symm.trans e) (word_ne_number (by decide) hc)
  | .bool b, .int n =>
    obtain ⟨c, cs, e, hc⟩ := int_head n
    cases b <;> exact absurd (h.trans e) (word_ne_number (by decide) hc)
  | .int n, .bool b =>
    obtain ⟨c, cs, e, hc⟩ := int_head n
    cases b <;> exact absurd (h.symm.trans e) (word_ne_number (by decide) hc)
  | .bool b, .float x =>
    obtain ⟨c, cs, e, hc⟩ := float_head x
    cases b <;> exact absurd (h.trans e) (word_ne_number (by decide) hc)
  | .float x, .bool b =>
    obtain ⟨c, cs, e, hc⟩ := float_head x
    cases b <;> exact absurd (h.symm.trans e) (word_ne_number (by decide) hc)

theorem scalar_append_inj {v w : Scalar} {s t : List Char} (hs : Ends s) (ht : Ends t)
    (h : scalarText v ++ s = scalarText w ++ t) : v = w ∧ s = t := by
  obtain ⟨htext, rfl⟩ := append_inj_of_all (scalarText_plain v) (scalarText_plain w)
    (fun c hc hn => hn (hs c hc)) (fun c hc hn => hn (ht c hc)) h
  exact ⟨scalarText_injective htext, rfl⟩

/-! #### Strings -/

theorem escapeChar_cases (c : Char) :
    (∃ e ∈ shortEscapes, e.1 = c ∧ escapeChar c = [Char.ofNat 92, e.2]) ∨
    (c.toNat < 32 ∧ escapeChar c =
      [Char.ofNat 92, 'u', '0', '0', Nat.digitChar (c.toNat / 16), Nat.digitChar (c.toNat % 16)]) ∨
    (c ≠ Char.ofNat 34 ∧ c ≠ Char.ofNat 92 ∧ escapeChar c = [c]) := by
  unfold escapeChar
  cases h : shortEscapes.find? (fun e => e.1 == c) with
  | some e =>
    have he := List.find?_some h
    exact Or.inl ⟨e, List.mem_of_find?_eq_some h, by simpa using he, rfl⟩
  | none =>
    refine Or.inr ?_
    have hne : ∀ e ∈ shortEscapes, e.1 ≠ c := by simpa using List.find?_eq_none.mp h
    by_cases hlt : c.toNat < 32
    · exact Or.inl ⟨hlt, by simp only [if_pos hlt]⟩
    · refine Or.inr ⟨?_, ?_, by simp only [if_neg hlt]⟩
      · rintro rfl; exact hne (Char.ofNat 34, Char.ofNat 34) (by decide) rfl
      · rintro rfl; exact hne (Char.ofNat 92, Char.ofNat 92) (by decide) rfl

/-- The letter of an escape tells which character it stands for. -/
theorem shortEscapes_injective :
    ∀ e ∈ shortEscapes, e.2 ≠ 'u' ∧ ∀ f ∈ shortEscapes, e.2 = f.2 → e.1 = f.1 := by
  decide

theorem control_injective : ∀ n : Fin 32, ∀ m : Fin 32,
    Nat.digitChar (n / 16) = Nat.digitChar (m / 16) →
    Nat.digitChar (n % 16) = Nat.digitChar (m % 16) → n = m := by
  decide

theorem escapeChar_append_inj {c d : Char} {s t : List Char}
    (h : escapeChar c ++ s = escapeChar d ++ t) : c = d ∧ s = t := by
  rcases escapeChar_cases c with ⟨e, he, rfl, hc⟩ | ⟨hlt, hc⟩ | ⟨-, hc34, hc⟩ <;>
    rcases escapeChar_cases d with ⟨f, hf, rfl, hd⟩ | ⟨hlt', hd⟩ | ⟨-, hd34, hd⟩ <;>
    rw [hc, hd] at h <;>
    simp only [List.cons_append, List.nil_append, List.cons.injEq, true_and] at h
  · exact ⟨(shortEscapes_injective e he).2 f hf h.1, h.2⟩
  · exact absurd h.1 (shortEscapes_injective e he).1
  · exact absurd h.1.symm hd34
  · exact absurd h.1.symm (shortEscapes_injective f hf).1
  · obtain ⟨h1, h2, rfl⟩ := h
    have := control_injective ⟨_, hlt⟩ ⟨_, hlt'⟩ h1 h2
    exact ⟨Char.toNat_inj.mp (Fin.mk.inj_iff.mp this), rfl⟩
  · exact absurd h.1.symm hd34
  · exact absurd h.1 hc34
  · exact absurd h.1 hc34
  · exact h

theorem escapeChar_ne_quote (c : Char) (s t : List Char) :
    escapeChar c ++ s ≠ Char.ofNat 34 :: t := by
  intro h
  rcases escapeChar_cases c with ⟨e, -, -, hc⟩ | ⟨-, hc⟩ | ⟨hne, -, hc⟩ <;> rw [hc] at h <;>
    simp only [List.cons_append, List.nil_append, List.cons.injEq] at h
  · exact absurd h.1 (by decide)
  · exact absurd h.1 (by decide)
  · exact hne h.1

theorem escaped_append_inj {cs ds : List Char} {s t : List Char}
    (h : cs.flatMap escapeChar ++ Char.ofNat 34 :: s =
      ds.flatMap escapeChar ++ Char.ofNat 34 :: t) : cs = ds ∧ s = t := by
  induction cs generalizing ds with
  | nil =>
    cases ds with
    | nil => simpa using h
    | cons d ds =>
      simp only [List.flatMap_nil, List.nil_append, List.flatMap_cons, List.append_assoc] at h
      exact absurd h.symm (escapeChar_ne_quote d _ _)
  | cons c cs ih =>
    cases ds with
    | nil =>
      simp only [List.flatMap_nil, List.nil_append, List.flatMap_cons, List.append_assoc] at h
      exact absurd h (escapeChar_ne_quote c _ _)
    | cons d ds =>
      simp only [List.flatMap_cons, List.append_assoc] at h
      obtain ⟨rfl, htail⟩ := escapeChar_append_inj h
      obtain ⟨rfl, rfl⟩ := ih htail
      exact ⟨rfl, rfl⟩

theorem quote_append_inj {a b : String} {s t : List Char} (h : quote a ++ s = quote b ++ t) :
    a = b ∧ s = t := by
  unfold quote at h
  simp only [List.cons_append, List.append_assoc, List.nil_append, List.cons.injEq, true_and] at h
  obtain ⟨htext, rfl⟩ := escaped_append_inj h
  exact ⟨String.toList_inj.mp htext, rfl⟩

/-! #### Values -/

/-- No value starts with a separator. -/
theorem render_ne_separator (value : Json) {c : Char} (hc : c ∈ separators) (s t : List Char) :
    render value ++ s ≠ c :: t := by
  intro h
  match value with
  | .scalar v =>
    obtain ⟨d, cs, hd, -⟩ := scalarText_head v
    have hplain := scalarText_plain v d (by simp [hd])
    rw [render, hd] at h
    obtain ⟨rfl, -⟩ := List.cons.inj h
    exact hplain hc
  | .str text =>
    rw [render, quote] at h
    obtain ⟨rfl, -⟩ := List.cons.inj h
    exact absurd hc (by decide)
  | .arr items =>
    rw [render] at h
    obtain ⟨rfl, -⟩ := List.cons.inj h
    exact absurd hc (by decide)
  | .obj fields =>
    rw [render] at h
    obtain ⟨rfl, -⟩ := List.cons.inj h
    exact absurd hc (by decide)

theorem scalarText_ne_opening (v : Scalar) {c : Char}
    (hc : c ∈ [Char.ofNat 34, Char.ofNat 91, Char.ofNat 123]) (s t : List Char) :
    scalarText v ++ s ≠ c :: t := by
  intro h
  obtain ⟨d, cs, hd, hplain⟩ := scalarText_head v
  rw [hd] at h
  obtain ⟨rfl, -⟩ := List.cons.inj h
  exact hplain hc

theorem ends_renderItems (items : List Json) (s : List Char) :
    Ends (renderItems false items ++ s) := by
  cases items <;> simp [Ends, renderItems, separators]

theorem ends_renderFields (fields : List (String × Json)) (s : List Char) :
    Ends (renderFields false fields ++ s) := by
  rcases fields with _ | ⟨⟨key, value⟩, fields⟩ <;> simp [Ends, renderFields, separators]

mutual

theorem render_append_inj : ∀ (a b : Json) {s t : List Char}, Ends s → Ends t →
    render a ++ s = render b ++ t → a = b ∧ s = t
  | .scalar v, .scalar w, s, t, hs, ht, h => by
    obtain ⟨rfl, rfl⟩ := scalar_append_inj hs ht h
    exact ⟨rfl, rfl⟩
  | .scalar v, .str _, _, _, _, _, h => absurd h (scalarText_ne_opening v (by decide) _ _)
  | .scalar v, .arr _, _, _, _, _, h => absurd h (scalarText_ne_opening v (by decide) _ _)
  | .scalar v, .obj _, _, _, _, _, h => absurd h (scalarText_ne_opening v (by decide) _ _)
  | .str _, .scalar w, _, _, _, _, h => absurd h.symm (scalarText_ne_opening w (by decide) _ _)
  | .arr _, .scalar w, _, _, _, _, h => absurd h.symm (scalarText_ne_opening w (by decide) _ _)
  | .obj _, .scalar w, _, _, _, _, h => absurd h.symm (scalarText_ne_opening w (by decide) _ _)
  | .str x, .str y, s, t, _, _, h => by
    obtain ⟨rfl, rfl⟩ := quote_append_inj h
    exact ⟨rfl, rfl⟩
  | .str _, .arr _, _, _, _, _, h => absurd (List.cons.inj h).1 (by decide)
  | .str _, .obj _, _, _, _, _, h => absurd (List.cons.inj h).1 (by decide)
  | .arr _, .str _, _, _, _, _, h => absurd (List.cons.inj h).1 (by decide)
  | .obj _, .str _, _, _, _, _, h => absurd (List.cons.inj h).1 (by decide)
  | .arr _, .obj _, _, _, _, _, h => absurd (List.cons.inj h).1 (by decide)
  | .obj _, .arr _, _, _, _, _, h => absurd (List.cons.inj h).1 (by decide)
  | .arr xs, .arr ys, s, t, _, _, h => by
    obtain ⟨rfl, rfl⟩ := renderItems_append_inj xs ys true (List.cons.inj h).2
    exact ⟨rfl, rfl⟩
  | .obj xs, .obj ys, s, t, _, _, h => by
    obtain ⟨rfl, rfl⟩ := renderFields_append_inj xs ys true (List.cons.inj h).2
    exact ⟨rfl, rfl⟩

theorem renderItems_append_inj : ∀ (xs ys : List Json) (first : Bool) {s t : List Char},
    renderItems first xs ++ s = renderItems first ys ++ t → xs = ys ∧ s = t
  | [], [], _, _, _, h => ⟨rfl, (List.cons.inj h).2⟩
  | [], y :: ys, false, _, _, h => absurd (List.cons.inj h).1 (by decide)
  | [], y :: ys, true, s, t, h => by
    simp only [renderItems, if_true, List.nil_append, List.append_assoc] at h
    exact absurd h.symm (render_ne_separator y (by decide) _ _)
  | x :: xs, [], false, _, _, h => absurd (List.cons.inj h).1 (by decide)
  | x :: xs, [], true, s, t, h => by
    simp only [renderItems, if_true, List.nil_append, List.append_assoc] at h
    exact absurd h (render_ne_separator x (by decide) _ _)
  | x :: xs, y :: ys, first, s, t, h => by
    simp only [renderItems, List.append_assoc, List.append_cancel_left_eq] at h
    obtain ⟨rfl, htail⟩ := render_append_inj x y (ends_renderItems xs s) (ends_renderItems ys t) h
    obtain ⟨rfl, rfl⟩ := renderItems_append_inj xs ys false htail
    exact ⟨rfl, rfl⟩

theorem renderFields_append_inj : ∀ (xs ys : List (String × Json)) (first : Bool)
    {s t : List Char}, renderFields first xs ++ s = renderFields first ys ++ t → xs = ys ∧ s = t
  | [], [], _, _, _, h => ⟨rfl, (List.cons.inj h).2⟩
  | [], (k, y) :: ys, false, _, _, h => absurd (List.cons.inj h).1 (by decide)
  | [], (k, y) :: ys, true, _, _, h => absurd (List.cons.inj h).1 (by decide)
  | (k, x) :: xs, [], false, _, _, h => absurd (List.cons.inj h).1 (by decide)
  | (k, x) :: xs, [], true, _, _, h => absurd (List.cons.inj h).1 (by decide)
  | (k, x) :: xs, (l, y) :: ys, first, s, t, h => by
    simp only [renderFields, List.append_assoc, List.cons_append, List.append_cancel_left_eq] at h
    obtain ⟨rfl, hvalue⟩ := quote_append_inj h
    obtain ⟨rfl, htail⟩ := render_append_inj x y (ends_renderFields xs s)
      (ends_renderFields ys t) (List.cons.inj hvalue).2
    obtain ⟨rfl, rfl⟩ := renderFields_append_inj xs ys false htail
    exact ⟨rfl, rfl⟩

end

theorem render_injective : Function.Injective render := by
  intro a b h
  exact (render_append_inj a b (s := []) (t := []) (by simp [Ends]) (by simp [Ends])
    (by simpa using h)).1

theorem canonicalText_eq_iff {a b : Json} :
    canonicalText a = canonicalText b ↔ normalize a = normalize b := by
  unfold canonicalText
  rw [String.ofList_inj]
  exact render_injective.eq_iff

/-! ### Objects up to the order of their keys -/

theorem normalizeItems_eq_map (items : List Json) :
    normalizeItems items = items.map normalize := by
  induction items with
  | nil => rfl
  | cons item items ih => rw [normalizeItems, ih, List.map_cons]

theorem normalizeFields_eq_map (fields : List (String × Json)) :
    normalizeFields fields = fields.map (fun f => (f.1, normalize f.2)) := by
  induction fields with
  | nil => rfl
  | cons f fields ih => rw [normalizeFields, ih, List.map_cons]

theorem keys_normalizeFields (fields : List (String × Json)) :
    (normalizeFields fields).map Prod.fst = fields.map Prod.fst := by
  rw [normalizeFields_eq_map, List.map_map]
  rfl

theorem eq_of_key {α : Type} {fields : List (String × α)} (hkeys : (fields.map Prod.fst).Nodup)
    {f g : String × α} (hf : f ∈ fields) (hg : g ∈ fields) (h : f.1 = g.1) : f = g :=
  List.inj_on_of_nodup_map hkeys hf hg h

/-- Two dictionaries sort to one list when they hold the same entries. -/
theorem sortFields_eq_iff_perm {fields others : List (String × Json)}
    (hkeys : (fields.map Prod.fst).Nodup) :
    sortFields fields = sortFields others ↔ fields.Perm others := by
  unfold sortFields
  constructor
  · intro h
    have hsorted := List.perm_insertionSort (fun a b : String × Json => a.1 ≤ b.1) others
    rw [← h] at hsorted
    exact (List.perm_insertionSort _ fields).symm.trans hsorted
  · intro h
    have hperm := ((List.perm_insertionSort (fun a b : String × Json => a.1 ≤ b.1) fields).trans
      h).trans (List.perm_insertionSort (fun a b : String × Json => a.1 ≤ b.1) others).symm
    refine hperm.eq_of_pairwise ?_ (List.pairwise_insertionSort _ _)
      (List.pairwise_insertionSort _ _)
    intro f g hf hg hle hge
    exact eq_of_key hkeys ((List.mem_insertionSort _).mp hf)
      (h.mem_iff.mpr ((List.mem_insertionSort _).mp hg)) (le_antisymm hle hge)

/-- With the keys in the same places, the same entries are the same list. -/
theorem eq_of_perm_of_map_eq {α κ : Type} {key : α → κ} {xs ys : List α}
    (hkeys : (xs.map key).Nodup) (hsame : xs.map key = ys.map key) (h : xs.Perm ys) :
    xs = ys := by
  induction xs generalizing ys with
  | nil => exact (List.map_eq_nil_iff.mp hsame.symm).symm
  | cons x xs ih =>
    cases ys with
    | nil => simp at hsame
    | cons y ys =>
      simp only [List.map_cons, List.cons.injEq] at hsame
      have hxy : x = y := by
        have hy : y ∈ x :: xs := h.mem_iff.mpr (by simp)
        exact List.inj_on_of_nodup_map hkeys (by simp) hy hsame.1
      subst hxy
      rw [ih (List.nodup_cons.mp hkeys).2 hsame.2 (List.perm_cons x |>.mp h)]

theorem normalize_obj_eq_iff_perm {fields others : List (String × Json)}
    (hkeys : (fields.map Prod.fst).Nodup) :
    normalize (.obj fields) = normalize (.obj others) ↔
      (normalizeFields fields).Perm (normalizeFields others) := by
  rw [normalize, normalize, Json.obj.injEq]
  exact sortFields_eq_iff_perm (by rwa [keys_normalizeFields])

/-- Two objects of one schema have one text when their fields have. -/
theorem normalize_obj_eq_iff {fields others : List (String × Json)}
    (hkeys : (fields.map Prod.fst).Nodup) (hsame : fields.map Prod.fst = others.map Prod.fst) :
    normalize (.obj fields) = normalize (.obj others) ↔
      normalizeFields fields = normalizeFields others := by
  rw [normalize_obj_eq_iff_perm hkeys]
  constructor
  · intro h
    exact eq_of_perm_of_map_eq (by rwa [keys_normalizeFields])
      (by rw [keys_normalizeFields, keys_normalizeFields, hsame]) h
  · intro h
    rw [h]

/-- Objects with one text have the same keys. -/
theorem keys_perm_of_canonicalText_eq {fields others : List (String × Json)}
    (h : canonicalText (.obj fields) = canonicalText (.obj others)) :
    (fields.map Prod.fst).Perm (others.map Prod.fst) := by
  have hsorted := canonicalText_eq_iff.mp h
  rw [normalize, normalize, Json.obj.injEq] at hsorted
  have hleft := List.perm_insertionSort (fun a b : String × Json => a.1 ≤ b.1)
    (normalizeFields fields)
  have hright := List.perm_insertionSort (fun a b : String × Json => a.1 ≤ b.1)
    (normalizeFields others)
  unfold sortFields at hsorted
  rw [hsorted] at hleft
  have hkeys := (hleft.symm.trans hright).map Prod.fst
  rwa [keys_normalizeFields, keys_normalizeFields] at hkeys

theorem normalize_arr_eq_iff {items others : List Json} :
    normalize (.arr items) = normalize (.arr others) ↔
      items.map normalize = others.map normalize := by
  rw [normalize, normalize, Json.arr.injEq, normalizeItems_eq_map, normalizeItems_eq_map]

@[simp] theorem normalize_str (text : String) : normalize (.str text) = .str text := rfl

@[simp] theorem normalize_scalar (value : Scalar) : normalize (.scalar value) = .scalar value := rfl

end Json
