import Mathlib
import AtlasTestOps.Core.Contracts
import AtlasTestOps.Lib.Json

/-! How identities and digests are written on the wire, and the digest over the canonical
JSON of a contract. SHA-256 is a function on texts; what a result needs of it is that it
does not collide on the texts that are hashed. -/

namespace Atlas

def hexText (width n : ℕ) : List Char := (Nat.toDigits 16 n).leftpad width '0'

def hexDigitValue (c : Char) : ℕ := if c.isDigit then c.toNat - 48 else c.toNat - 87

def hexValue (text : List Char) : ℕ := text.foldl (fun value c => 16 * value + hexDigitValue c) 0

theorem hexDigitValue_digitChar : ∀ d < 16, hexDigitValue (Nat.digitChar d) = d := by
  decide

theorem digitChar_ne_dash : ∀ d < 16, Nat.digitChar d ≠ '-' := by
  decide

theorem hexValue_append_singleton (text : List Char) (c : Char) :
    hexValue (text ++ [c]) = 16 * hexValue text + hexDigitValue c := by
  simp [hexValue]

theorem hexValue_toDigits (n : ℕ) : hexValue (Nat.toDigits 16 n) = n := by
  induction n using Nat.strong_induction_on with
  | _ n ih =>
    rw [Nat.toDigits_eq_if (by decide)]
    split
    · simp [hexValue, hexDigitValue_digitChar n (by assumption)]
    · rw [hexValue_append_singleton, ih (n / 16) (by omega),
        hexDigitValue_digitChar _ (Nat.mod_lt _ (by decide))]
      omega

theorem hexValue_zeros (k : ℕ) (text : List Char) :
    hexValue (List.replicate k '0' ++ text) = hexValue text := by
  induction k with
  | zero => rfl
  | succ k ih =>
    rw [← ih]
    simp [hexValue, List.replicate_succ, hexDigitValue]

theorem hexText_injective (width : ℕ) : Function.Injective (hexText width) := by
  intro n m h
  have hvalue := congrArg hexValue h
  simpa only [hexText, List.leftpad, hexValue_zeros, hexValue_toDigits] using hvalue

theorem dash_not_mem_toDigits (n : ℕ) : '-' ∉ Nat.toDigits 16 n := by
  induction n using Nat.strong_induction_on with
  | _ n ih =>
    rw [Nat.toDigits_eq_if (by decide)]
    split
    · next hlt => simp [(digitChar_ne_dash n hlt).symm]
    · have := digitChar_ne_dash (n % 16) (Nat.mod_lt _ (by decide))
      simp [ih (n / 16) (by omega), this.symm]

/-- `str(uuid)`: 32 digits in the groups 8-4-4-4-12. -/
def uuidText (id : Uuid) : String :=
  let digits := hexText 32 id
  String.ofList (digits.take 8 ++ '-' :: ((digits.drop 8).take 4 ++ '-' ::
    ((digits.drop 12).take 4 ++ '-' :: ((digits.drop 16).take 4 ++ '-' :: digits.drop 20))))

theorem filter_uuidText (id : Uuid) :
    (uuidText id).toList.filter (fun c => c ≠ '-') = hexText 32 id := by
  have hdash : ∀ c ∈ hexText 32 id, (decide (c ≠ '-')) = true := by
    intro c hc
    simp only [hexText, List.leftpad, List.mem_append, List.mem_replicate] at hc
    rcases hc with ⟨-, rfl⟩ | hc
    · decide
    · exact decide_eq_true fun h => dash_not_mem_toDigits id (h ▸ hc)
  have htake : ∀ k l, (((hexText 32 id).drop k).take l).filter (fun c => c ≠ '-') =
      ((hexText 32 id).drop k).take l := fun k l =>
    List.filter_eq_self.mpr fun c hc => hdash c (List.mem_of_mem_drop (List.mem_of_mem_take hc))
  have hdrop : ((hexText 32 id).drop 20).filter (fun c => c ≠ '-') = (hexText 32 id).drop 20 :=
    List.filter_eq_self.mpr fun c hc => hdash c (List.mem_of_mem_drop hc)
  have hfirst := htake 0 8
  rw [List.drop_zero] at hfirst
  have hparts : ∀ k, ((hexText 32 id).drop k).take 4 ++ (hexText 32 id).drop (k + 4) =
      (hexText 32 id).drop k := fun k => by
    rw [← List.drop_drop, List.take_append_drop]
  unfold uuidText
  simp only [String.toList_ofList, List.filter_append, List.filter_cons, hfirst, htake, hdrop,
    ne_eq, not_true_eq_false, decide_false, Bool.false_eq_true, if_false]
  rw [hparts 16, hparts 12, hparts 8, List.take_append_drop]

theorem uuidText_injective : Function.Injective uuidText := by
  intro a b h
  apply hexText_injective 32
  rw [← filter_uuidText a, ← filter_uuidText b, h]

/-- A digest as it is stored. -/
def digestText (digest : Digest) : String :=
  String.ofList ("sha256:".toList ++ hexText 64 digest.toNat)

theorem digestText_injective : Function.Injective digestText := by
  intro a b h
  have htext := List.append_cancel_left (String.ofList_injective h)
  exact BitVec.eq_of_toNat_eq (hexText_injective 64 htext)

def wireUuid (id : Uuid) : Json := .str (uuidText id)

def wireDigest (digest : Digest) : Json := .str (digestText digest)

/-- `canonical_digest` -/
def canonicalDigest (sha256 : String → Digest) (value : Json) : Digest :=
  sha256 value.canonicalText

def CollisionFree (sha256 : String → Digest) (texts : List String) : Prop :=
  ∀ s ∈ texts, ∀ t ∈ texts, sha256 s = sha256 t → s = t

end Atlas
