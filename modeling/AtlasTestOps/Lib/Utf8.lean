import Mathlib

/-! The UTF-8 bytes of a text. They compare, byte by byte, as the texts do by their code points. -/

namespace Utf8

/-- The text as bytes. -/
def bytes (text : List Char) : List UInt8 := text.flatMap String.utf8EncodeChar

theorem sextets (v : ℕ) :
    v = v / 262144 * 262144 + v / 4096 % 64 * 4096 + v / 64 % 64 * 64 + v % 64 := by
  omega

/-- The bytes of four-byte characters compare as their six-bit groups do. -/
theorem sextets_lt {v w : ℕ} (h : v < w) (hbound : w < 2097152) {p : Prop} :
    (v / 262144 % 8 + 240) % 256 < (w / 262144 % 8 + 240) % 256 ∨
      (v / 262144 % 8 + 240) % 256 = (w / 262144 % 8 + 240) % 256 ∧
        ((v / 4096 % 64 + 128) % 256 < (w / 4096 % 64 + 128) % 256 ∨
          (v / 4096 % 64 + 128) % 256 = (w / 4096 % 64 + 128) % 256 ∧
            ((v / 64 % 64 + 128) % 256 < (w / 64 % 64 + 128) % 256 ∨
              (v / 64 % 64 + 128) % 256 = (w / 64 % 64 + 128) % 256 ∧
                ((v % 64 + 128) % 256 < (w % 64 + 128) % 256 ∨
                  (v % 64 + 128) % 256 = (w % 64 + 128) % 256 ∧ p))) := by
  have hv := sextets v
  have hw := sextets w
  have hbyte : ∀ n, (n % 64 + 128) % 256 = n % 64 + 128 := fun n => by omega
  have hfirst : ∀ n, (n % 8 + 240) % 256 = n % 8 + 240 := fun n => by omega
  rw [hbyte, hbyte, hbyte, hbyte, hbyte, hbyte, hfirst, hfirst,
    Nat.mod_eq_of_lt (show v / 262144 < 8 by omega), Nat.mod_eq_of_lt (show w / 262144 < 8 by omega)]
  have hv2 := Nat.mod_lt (v / 4096) (show 0 < 64 by decide)
  have hv1 := Nat.mod_lt (v / 64) (show 0 < 64 by decide)
  have hv0 := Nat.mod_lt v (show 0 < 64 by decide)
  have hw2 := Nat.mod_lt (w / 4096) (show 0 < 64 by decide)
  have hw1 := Nat.mod_lt (w / 64) (show 0 < 64 by decide)
  have hw0 := Nat.mod_lt w (show 0 < 64 by decide)
  generalize v / 4096 % 64 = v2 at *
  generalize v / 64 % 64 = v1 at *
  generalize v % 64 = v0 at *
  generalize v / 262144 = v3 at *
  generalize w / 4096 % 64 = w2 at *
  generalize w / 64 % 64 = w1 at *
  generalize w % 64 = w0 at *
  generalize w / 262144 = w3 at *
  by_cases hp : p <;> simp only [hp] <;> omega

/-- The first byte that differs decides, whatever follows. -/
theorem encodeChar_lt {c d : Char} (h : c < d) (s t : List UInt8) :
    String.utf8EncodeChar c ++ s < String.utf8EncodeChar d ++ t := by
  have hlt : c.val.toNat < d.val.toNat := h
  have hbound : d.val.toNat < 0x110000 := by
    rcases d.valid with h | h
    · exact h.trans (by decide)
    · exact h.2
  unfold String.utf8EncodeChar
  dsimp only
  by_cases hrest : s < t <;> split_ifs <;>
    simp only [List.cons_append, List.nil_append, List.cons_lt_cons_iff, UInt8.lt_iff_toNat_lt,
      ← UInt8.toNat_inj, UInt8.toNat_ofNat', hrest] <;>
    first | omega | exact sextets_lt hlt (by omega)

theorem bytes_lt {a b : List Char} (h : a < b) : bytes a < bytes b := by
  induction a generalizing b with
  | nil =>
    cases b with
    | nil => exact absurd h (List.not_lt_nil _)
    | cons d b =>
      have hne : bytes (d :: b) ≠ [] := by
        simp [bytes, String.utf8EncodeChar_ne_nil]
      obtain ⟨byte, rest, hbytes⟩ := List.exists_cons_of_ne_nil hne
      rw [hbytes]
      exact List.nil_lt_cons _ _
  | cons c a ih =>
    cases b with
    | nil => exact absurd h (List.not_lt_nil _)
    | cons d b =>
      rcases List.cons_lt_cons_iff.1 h with hfirst | ⟨rfl, hlater⟩
      · exact encodeChar_lt hfirst _ _
      · have hrest := ih hlater
        unfold bytes at hrest ⊢
        rw [List.flatMap_cons, List.flatMap_cons]
        exact List.append_left_lt hrest

theorem bytes_lt_iff {a b : List Char} : bytes a < bytes b ↔ a < b := by
  refine ⟨fun h => ?_, bytes_lt⟩
  rcases lt_trichotomy a b with hab | rfl | hba
  · exact hab
  · exact absurd h (List.lt_irrefl _)
  · exact absurd h (List.lt_asymm (bytes_lt hba))

end Utf8
