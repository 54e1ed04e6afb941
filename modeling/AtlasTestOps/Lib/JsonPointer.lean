import AtlasTestOps.Lib.Json

/-! JSON Pointers. A pointer is the escaped text of a list of tokens, each after a slash; a token
names a member of an object or, as a decimal number without leading zeros, an item of an array. -/

namespace JsonPointer

def escapeToken (token : List Char) : List Char :=
  token.flatMap fun c => if c = '~' then ['~', '0'] else if c = '/' then ['~', '1'] else [c]

/-- The pointer of a list of tokens. -/
def render (tokens : List (List Char)) : List Char := tokens.flatMap fun token => '/' :: escapeToken token

/-- `0`, or a digit other than `0` followed by digits. -/
def IsIndex (token : List Char) : Prop :=
  token = ['0'] ∨ ∃ c cs, token = c :: cs ∧ c ≠ '0' ∧ ∀ d ∈ token, d.isDigit = true

/-- The value that the tokens name in a document. -/
inductive Resolves : Json → List (List Char) → Json → Prop
  | here (document : Json) : Resolves document [] document
  | member {fields : List (String × Json)} {token : List Char} {tokens : List (List Char)} {value target : Json}
      (hmember : fields.lookup (String.ofList token) = some value) (hrest : Resolves value tokens target) :
      Resolves (.obj fields) (token :: tokens) target
  | item {items : List Json} {token : List Char} {tokens : List (List Char)} {value target : Json}
      (hindex : IsIndex token) (hitem : items[Nat.ofDigitChars 10 token 0]? = some value)
      (hrest : Resolves value tokens target) : Resolves (.arr items) (token :: tokens) target

/-- The pointer refers to the value in the document. -/
def Refers (document : Json) (pointer : List Char) (target : Json) : Prop :=
  ∃ tokens, pointer = render tokens ∧ Resolves document tokens target

/-- One step down a document. -/
inductive PathStep
  | key (name : String)
  | index (n : ℕ)
deriving DecidableEq, Repr

def PathStep.token : PathStep → List Char
  | .key name => name.toList
  | .index n => Nat.toDigits 10 n

/-- The value at the end of a path. -/
inductive Reaches : Json → List PathStep → Json → Prop
  | here (document : Json) : Reaches document [] document
  | member {fields : List (String × Json)} {name : String} {path : List PathStep} {value target : Json}
      (hmember : fields.lookup name = some value) (hrest : Reaches value path target) :
      Reaches (.obj fields) (.key name :: path) target
  | item {items : List Json} {n : ℕ} {path : List PathStep} {value target : Json}
      (hitem : items[n]? = some value) (hrest : Reaches value path target) :
      Reaches (.arr items) (.index n :: path) target

theorem slash_not_mem_escapeToken (token : List Char) : '/' ∉ escapeToken token := by
  intro hmem
  obtain ⟨c, -, hc⟩ := List.mem_flatMap.1 hmem
  split at hc
  · simp at hc
  · split at hc
    · simp at hc
    · rename_i hslash
      exact hslash (List.mem_singleton.1 hc).symm

/-- A number is written without a leading zero. -/
theorem head_toDigits_ne_zero {n : ℕ} (hn : n ≠ 0) : ∃ c cs, Nat.toDigits 10 n = c :: cs ∧ c ≠ '0' := by
  induction n using Nat.base_induction 10 (by decide) with
  | single m hm =>
    refine ⟨m.digitChar, [], Nat.toDigits_of_lt_base hm, ?_⟩
    interval_cases m <;> first | exact absurd rfl hn | decide
  | digit m k hk hm ih =>
    obtain ⟨c, cs, hdigits, hc⟩ := ih (Nat.pos_iff_ne_zero.1 hm)
    exact ⟨c, cs ++ Nat.toDigits 10 k, by rw [← Nat.toDigits_append_toDigits (by decide) hm hk, hdigits]; rfl, hc⟩

theorem isIndex_toDigits (n : ℕ) : IsIndex (Nat.toDigits 10 n) := by
  by_cases hn : n = 0
  · exact Or.inl (by rw [hn, Nat.toDigits_zero])
  · obtain ⟨c, cs, hdigits, hc⟩ := head_toDigits_ne_zero hn
    exact Or.inr ⟨c, cs, hdigits, hc, fun d hd => Nat.isDigit_of_mem_toDigits (by decide) (by decide) hd⟩

theorem IsIndex.digits {token : List Char} (h : IsIndex token) : token ≠ [] ∧ ∀ d ∈ token, d.isDigit = true := by
  obtain rfl | ⟨c, cs, rfl, -, hdigits⟩ := h
  · exact ⟨by simp, fun d hd => by rw [List.mem_singleton.1 hd]; rfl⟩
  · exact ⟨by simp, hdigits⟩

/-- The tokens of a path name what the path reaches. -/
theorem Reaches.resolves {document target : Json} {path : List PathStep} (h : Reaches document path target) :
    Resolves document (path.map PathStep.token) target := by
  induction h with
  | here document => exact .here document
  | member hmember _ ih => exact .member (by rwa [PathStep.token, String.ofList_toList]) ih
  | item hitem _ ih => exact .item (isIndex_toDigits _) (by rwa [PathStep.token, Nat.ofDigitChars_ten_toDigits]) ih

end JsonPointer
