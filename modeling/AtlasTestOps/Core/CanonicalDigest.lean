import AtlasTestOps.Lib.JsonTree
import AtlasTestOps.Lib.Utf8

/-! The two canonical texts that a payload's digest may be taken of: the one that
`canonical_digest` hashes, and the one that `atlas.task_canonical_json` prints of the payload
once it is stored as jsonb. jsonb has its own order of members, its own escapes and its own
numbers, which are decimals without exponent. -/

namespace Atlas

/-! ### Floats -/

/-- A finite Python float by its shortest decimal `0.d₁d₂… · 10^point`; zero is `0.0`. -/
structure PyFloat where
  negative : Bool
  first : Fin 10
  rest : List (Fin 10)
  point : ℤ
  bounded : rest.length < 17
  zero : first = 0 → rest = [] ∧ point = 1
deriving DecidableEq, Repr

def digitText (d : Fin 10) : Char := Nat.digitChar d

def signText (negative : Bool) : List Char := if negative then ['-'] else []

namespace PyFloat

def isZero (x : PyFloat) : Bool := x.first = 0

/-- The fractional and integer digits, after the first, without an exponent. -/
def fixedTail (x : PyFloat) : List Char :=
  let digits := x.rest.map digitText
  if x.point ≤ 0 then
    '.' :: (List.replicate (-x.point).toNat '0' ++ digitText x.first :: digits)
  else
    let integers := (x.point - 1).toNat
    if digits.length ≤ integers then
      digits ++ (List.replicate (integers - digits.length) '0' ++ ['.', '0'])
    else digits.take integers ++ '.' :: digits.drop integers

def fixedHead (x : PyFloat) : Char := if x.point ≤ 0 then '0' else digitText x.first

/-- At least two digits after the sign. -/
def exponentDigits (exponent : ℤ) : List Char :=
  let digits := Nat.toDigits 10 exponent.natAbs
  if exponent.natAbs < 10 then '0' :: digits else digits

def exponentTail (x : PyFloat) : List Char :=
  let exponent := x.point - 1
  (if x.rest = [] then [] else '.' :: x.rest.map digitText) ++
    'e' :: (if exponent < 0 then '-' else '+') :: exponentDigits exponent

/-- When `repr` writes an exponent. -/
def usesExponent (x : PyFloat) : Bool := x.point ≤ -4 ∨ 16 < x.point

/-- The integer that a float past `10^16` is. -/
def integerValue (x : PyFloat) : ℤ :=
  let digits : ℕ := (x.first :: x.rest).foldl (fun n d => 10 * n + d) 0
  let magnitude : ℤ := digits * 10 ^ (x.point - (x.rest.length + 1)).toNat
  if x.negative then -magnitude else magnitude

/-! #### The texts are float literals -/

/-- What stands in a literal after its first digit. -/
def LiteralTail (tail : List Char) : Prop :=
  (∀ c ∈ tail, c.isDigit ∨ c ∈ ['.', 'e', '+', '-']) ∧ ('.' ∈ tail ∨ 'e' ∈ tail)

theorem digitText_isDigit (d : Fin 10) : (digitText d).isDigit = true := by
  revert d
  decide

theorem digits_isDigit (ds : List (Fin 10)) : ∀ c ∈ ds.map digitText, c.isDigit = true := by
  intro c hc
  obtain ⟨d, -, rfl⟩ := List.mem_map.1 hc
  exact digitText_isDigit d

theorem zeros_isDigit (n : ℕ) : ∀ c ∈ List.replicate n '0', c.isDigit = true := by
  intro c hc
  rw [List.eq_of_mem_replicate hc]
  rfl

theorem exponentDigits_isDigit (exponent : ℤ) : ∀ c ∈ exponentDigits exponent, c.isDigit = true := by
  intro c hc
  unfold exponentDigits at hc
  have hdigits : ∀ c ∈ Nat.toDigits 10 exponent.natAbs, c.isDigit = true := fun c hc =>
    Nat.isDigit_of_mem_toDigits (by decide) (by decide) hc
  split at hc
  · rcases List.mem_cons.1 hc with rfl | hc
    · rfl
    · exact hdigits c hc
  · exact hdigits c hc

theorem fixedTail_literal (x : PyFloat) : LiteralTail x.fixedTail := by
  unfold LiteralTail fixedTail
  have hdigits := digits_isDigit x.rest
  have hfirst := digitText_isDigit x.first
  split
  · refine ⟨fun c hc => ?_, Or.inl (by simp)⟩
    simp only [List.mem_cons, List.mem_append] at hc
    rcases hc with rfl | hc | rfl | hc
    · simp
    · exact Or.inl (zeros_isDigit _ c hc)
    · exact Or.inl hfirst
    · exact Or.inl (hdigits c hc)
  · dsimp only
    split
    · refine ⟨fun c hc => ?_, Or.inl (by simp)⟩
      simp only [List.mem_cons, List.mem_append, List.not_mem_nil, or_false] at hc
      rcases hc with hc | hc | rfl | rfl
      · exact Or.inl (hdigits c hc)
      · exact Or.inl (zeros_isDigit _ c hc)
      · simp
      · exact Or.inl rfl
    · refine ⟨fun c hc => ?_, Or.inl (by simp)⟩
      simp only [List.mem_cons, List.mem_append] at hc
      rcases hc with hc | rfl | hc
      · exact Or.inl (hdigits c (List.mem_of_mem_take hc))
      · simp
      · exact Or.inl (hdigits c (List.mem_of_mem_drop hc))

theorem exponentTail_literal (x : PyFloat) : LiteralTail x.exponentTail := by
  unfold LiteralTail exponentTail
  refine ⟨fun c hc => ?_, Or.inr (by simp)⟩
  simp only [List.mem_append, List.mem_cons] at hc
  rcases hc with hc | rfl | rfl | hc
  · split at hc
    · cases hc
    · rcases List.mem_cons.1 hc with rfl | hc
      · simp
      · exact Or.inl (digits_isDigit x.rest c hc)
  · simp
  · split <;> simp
  · exact Or.inl (exponentDigits_isDigit _ c hc)

theorem literal_chars {c : Char} (h : c.isDigit ∨ c ∈ ['.', 'e', '+', '-']) :
    c ∉ [',', Char.ofNat 93, Char.ofNat 125] := by
  intro hc
  simp only [List.mem_cons, List.not_mem_nil, or_false] at hc
  rcases hc with rfl | rfl | rfl <;> revert h <;> decide

end PyFloat

/-- A sign, a digit and the rest of a literal. -/
def floatLiteral (negative : Bool) (head : Char) (tail : List Char) (hhead : head.isDigit = true)
    (htail : PyFloat.LiteralTail tail) : FloatLiteral where
  text := signText negative ++ head :: tail
  start := by cases negative <;> simp [signText, hhead]
  plain := by
    rw [List.all_eq_true]
    intro c hc
    rw [decide_eq_true_eq]
    apply PyFloat.literal_chars
    rcases List.mem_append.1 hc with hc | hc
    · refine Or.inr ?_
      cases negative <;> simp_all [signText]
    · rcases List.mem_cons.1 hc with rfl | hc
      · exact Or.inl hhead
      · exact htail.1 c hc
  fraction := by
    rw [List.any_eq_true]
    rcases htail.2 with h | h
    · exact ⟨'.', List.mem_append_right _ (List.mem_cons_of_mem _ h), rfl⟩
    · exact ⟨'e', List.mem_append_right _ (List.mem_cons_of_mem _ h), rfl⟩

namespace PyFloat

theorem fixedHead_isDigit (x : PyFloat) : x.fixedHead.isDigit = true := by
  unfold fixedHead
  split
  · rfl
  · exact digitText_isDigit x.first

def fixedLiteral (negative : Bool) (x : PyFloat) : FloatLiteral :=
  floatLiteral negative x.fixedHead x.fixedTail x.fixedHead_isDigit x.fixedTail_literal

/-- `float.__repr__`, which `json.dumps` writes. -/
def floatRepr (x : PyFloat) : FloatLiteral :=
  if x.usesExponent then
    floatLiteral x.negative (digitText x.first) x.exponentTail (digitText_isDigit x.first)
      x.exponentTail_literal
  else fixedLiteral x.negative x

/-- The numeric zero has no sign. -/
def numericSign (x : PyFloat) : Bool := x.negative && !x.isZero

/-- The literal read by the type numeric and printed again: the same digits and the same number
of fractional digits, without exponent. -/
def numeric (x : PyFloat) : Scalar :=
  if 16 < x.point then .int x.integerValue else .float (fixedLiteral x.numericSign x)

end PyFloat

/-! ### Payloads -/

inductive PyScalar
  | null
  | bool (value : Bool)
  | int (value : ℤ)
  | float (value : PyFloat)
deriving DecidableEq, Repr

/-- As `json.dumps` writes it. -/
def PyScalar.dumped : PyScalar → Scalar
  | .null => .null
  | .bool value => .bool value
  | .int value => .int value
  | .float value => .float value.floatRepr

/-- As jsonb holds what `json.dumps` has written. -/
def PyScalar.stored : PyScalar → Scalar
  | .null => .null
  | .bool value => .bool value
  | .int value => .int value
  | .float value => value.numeric

/-- As `json.loads` reads what jsonb prints: a number without a point is an `int`. -/
def PyScalar.loaded : PyScalar → PyScalar
  | .float value =>
    if 16 < value.point then .int value.integerValue
    else .float { value with negative := value.numericSign }
  | scalar => scalar

/-- A JSON value of Python: the keys of a `dict` are distinct. -/
structure Payload where
  value : JsonTree PyScalar
  distinct : value.Distinct

namespace Payload

/-- The text that `canonical_digest` hashes. -/
def canonicalDigestText (payload : Payload) : String :=
  Json.canonicalText (payload.value.print PyScalar.dumped)

end Payload

/-! ### jsonb -/

namespace Jsonb

/-- `convert_to(text, 'UTF8')` -/
def utf8 (text : String) : List UInt8 := Utf8.bytes text.toList

/-- The order of the collation `"C"`, which is that of `memcmp`. -/
def collateC (a b : String) : Bool := ¬ utf8 b < utf8 a

/-- The order in which jsonb keeps the keys of an object: the shorter before the longer. -/
def keyOrder (a b : String) : Bool :=
  (utf8 a).length < (utf8 b).length ∨
    ((utf8 a).length = (utf8 b).length ∧ collateC a b = true)

mutual

/-- The value with the members of every object as jsonb keeps them. -/
def arrange {α : Type} : JsonTree α → JsonTree α
  | .leaf value => .leaf value
  | .str text => .str text
  | .arr items => .arr (arrangeItems items)
  | .obj fields => .obj ((arrangeFields fields).insertionSort fun a b => keyOrder a.1 b.1)

def arrangeItems {α : Type} : List (JsonTree α) → List (JsonTree α)
  | [] => []
  | item :: items => arrange item :: arrangeItems items

def arrangeFields {α : Type} : List (String × JsonTree α) → List (String × JsonTree α)
  | [] => []
  | (key, value) :: fields => (key, arrange value) :: arrangeFields fields

end

/-- jsonb has no character U+0000. -/
def storable (text : String) : Bool := text.toList.all fun c => c ≠ Char.ofNat 0

/-- `%04x` -/
def hex4 (n : ℕ) : List Char :=
  [Nat.digitChar (n / 4096 % 16), Nat.digitChar (n / 256 % 16), Nat.digitChar (n / 16 % 16),
    Nat.digitChar (n % 16)]

/-- `escape_json`, which prints the strings and keys of a jsonb value, for one character. -/
def escapeJson (c : Char) : List Char :=
  if c = Char.ofNat 8 then [Char.ofNat 92, 'b']
  else if c = Char.ofNat 12 then [Char.ofNat 92, 'f']
  else if c = Char.ofNat 10 then [Char.ofNat 92, 'n']
  else if c = Char.ofNat 13 then [Char.ofNat 92, 'r']
  else if c = Char.ofNat 9 then [Char.ofNat 92, 't']
  else if c = Char.ofNat 34 then [Char.ofNat 92, Char.ofNat 34]
  else if c = Char.ofNat 92 then [Char.ofNat 92, Char.ofNat 92]
  else if c < ' ' then Char.ofNat 92 :: 'u' :: hex4 c.toNat
  else [c]

/-- `to_jsonb(text)::text` -/
def stringText (text : String) : List Char :=
  [Char.ofNat 34] ++ text.toList.flatMap escapeJson ++ [Char.ofNat 34]

/-- `value::text` of a number, a boolean or null; a number is a numeric. -/
def scalarText : Scalar → List Char
  | .null => "null".toList
  | .bool value => if value then "true".toList else "false".toList
  | .int value =>
    if value < 0 then '-' :: Nat.toDigits 10 value.natAbs else Nat.toDigits 10 value.natAbs
  | .float value => value.text

/-- `coalesce(string_agg(…, ','), '')` -/
def stringAgg : List (List Char) → List Char
  | [] => []
  | [part] => part
  | part :: parts => part ++ ',' :: stringAgg parts

end Jsonb

open Jsonb in
mutual

/-- `atlas.task_canonical_json` -/
def taskCanonicalText : Json → List Char
  | .obj fields =>
    Char.ofNat 123 :: stringAgg (((memberTexts fields).insertionSort fun a b =>
      collateC a.1 b.1).map Prod.snd) ++ [Char.ofNat 125]
  | .arr items => Char.ofNat 91 :: stringAgg (elementTexts items) ++ [Char.ofNat 93]
  | .str text => stringText text
  | .scalar value => scalarText value

/-- What the rows of `jsonb_array_elements` are aggregated from. -/
def elementTexts : List Json → List (List Char)
  | [] => []
  | item :: items => taskCanonicalText item :: elementTexts items

/-- What the rows of `jsonb_each` are aggregated from, with their keys. -/
def memberTexts : List (String × Json) → List (String × List Char)
  | [] => []
  | (key, value) :: fields =>
    (key, stringText key ++ ':' :: taskCanonicalText value) :: memberTexts fields

end

def taskCanonicalJson (value : Json) : String := String.ofList (taskCanonicalText value)

namespace Payload

/-- The payload cast to jsonb. -/
def jsonb (payload : Payload) : Option Json :=
  if payload.value.texts.all Jsonb.storable then
    some ((Jsonb.arrange payload.value).print PyScalar.stored)
  else none

/-- The payload that is read back from its jsonb value. -/
def readBack (payload : Payload) : JsonTree PyScalar :=
  (Jsonb.arrange payload.value).map PyScalar.loaded

end Payload

end Atlas
