import Mathlib.Data.List.Basic
import Mathlib.Data.Nat.Notation

/-! The parts of the host language's `str` that the domain code uses. -/

namespace Atlas.Text

/-- The characters that `strip` removes. -/
def isSpace (c : Char) : Bool :=
  let n := c.toNat
  (9 ≤ n && n ≤ 13) || (28 ≤ n && n ≤ 32) || n = 0x85 || n = 0xA0 || n = 0x1680 ||
    (0x2000 ≤ n && n ≤ 0x200A) || n = 0x2028 || n = 0x2029 || n = 0x202F || n = 0x205F || n = 0x3000

def lstrip (s : List Char) : List Char := s.dropWhile isSpace

def strip (s : List Char) : List Char := (lstrip (lstrip s).reverse).reverse

/-- `s.strip()` is empty. -/
def isBlank (s : String) : Bool := s.toList.all isSpace

end Atlas.Text
