import AtlasTestOps.Lib.Json

/-! `pointer_value`, which reads a run input by a JSON Pointer. -/

namespace Atlas.Fixture

open Json

/-! Decimal digits of Unicode. -/

/-- The zero of each script's decimal digits; the nine others follow it. -/
def decimalZeros : List ℕ :=
  [0x30, 0x660, 0x6f0, 0x7c0, 0x966, 0x9e6, 0xa66, 0xae6, 0xb66, 0xbe6, 0xc66, 0xce6, 0xd66, 0xde6,
    0xe50, 0xed0, 0xf20, 0x1040, 0x1090, 0x17e0, 0x1810, 0x1946, 0x19d0, 0x1a80, 0x1a90, 0x1b50,
    0x1bb0, 0x1c40, 0x1c50, 0xa620, 0xa8d0, 0xa900, 0xa9d0, 0xa9f0, 0xaa50, 0xabf0, 0xff10, 0x104a0,
    0x10d30, 0x10d40, 0x11066, 0x110f0, 0x11136, 0x111d0, 0x112f0, 0x11450, 0x114d0, 0x11650,
    0x116c0, 0x116d0, 0x116da, 0x11730, 0x118e0, 0x11950, 0x11bf0, 0x11c50, 0x11d50, 0x11da0,
    0x11f50, 0x16130, 0x16a60, 0x16ac0, 0x16b50, 0x16d70, 0x1ccf0, 0x1d7ce, 0x1d7d8, 0x1d7e2,
    0x1d7ec, 0x1d7f6, 0x1e140, 0x1e2f0, 0x1e4f0, 0x1e5f1, 0x1e950, 0x1fbf0]

/-- The digits that are not decimal: superscripts, circled ones and the like. -/
def otherDigits : List (ℕ × ℕ) :=
  [(0xb2, 0xb3), (0xb9, 0xb9), (0x1369, 0x1371), (0x19da, 0x19da), (0x2070, 0x2070), (0x2074,
    0x2079), (0x2080, 0x2089), (0x2460, 0x2468), (0x2474, 0x247c), (0x2488, 0x2490), (0x24ea,
    0x24ea), (0x24f5, 0x24fd), (0x24ff, 0x24ff), (0x2776, 0x277e), (0x2780, 0x2788), (0x278a,
    0x2792), (0x10a40, 0x10a43), (0x10e60, 0x10e68), (0x11052, 0x1105a), (0x1f100, 0x1f10a)]

def decimalValue (c : Char) : Option ℕ :=
  (decimalZeros.find? fun start => start ≤ c.toNat ∧ c.toNat < start + 10).map fun start => c.toNat - start

/-- `str.isdigit` on one character -/
def isUnicodeDigit (c : Char) : Bool :=
  (decimalValue c).isSome || otherDigits.any fun range => range.1 ≤ c.toNat ∧ c.toNat ≤ range.2

/-- `str.isdigit` -/
def isDigitText (text : List Char) : Bool := text ≠ [] && text.all isUnicodeDigit

def maxIntDigits : ℕ := 4300

/-- `int` of a text of digits, which refuses digits that are not decimal and overlong texts. -/
def intOfDigits (text : List Char) : Option ℕ :=
  if maxIntDigits < text.length then none
  else (text.mapM decimalValue).map fun digits => digits.foldl (fun value digit => 10 * value + digit) 0

/-! The pointer. -/

inductive PointerError
  | missing
  | invalidInt
deriving DecidableEq, Repr

/-- `str.split` on a slash -/
def splitSlash : List Char → List (List Char)
  | [] => [[]]
  | c :: cs => if c = '/' then [] :: splitSlash cs else (splitSlash cs).modifyHead fun token => c :: token

/-- `str.replace` of the pair `~d` -/
def replacePair (d letter : Char) : List Char → List Char
  | '~' :: c :: cs => if c = d then letter :: replacePair d letter cs else '~' :: replacePair d letter (c :: cs)
  | c :: cs => c :: replacePair d letter cs
  | [] => []

def unescape (rawToken : List Char) : List Char := replacePair '0' '~' (replacePair '1' '/' rawToken)

/-- The loop over the tokens. -/
def walkTokens : Json → List (List Char) → Except PointerError Json
  | current, [] => .ok current
  | .obj fields, token :: tokens =>
    match fields.lookup (String.ofList token) with
    | some value => walkTokens value tokens
    | none => .error .missing
  | .arr items, token :: tokens =>
    if !isDigitText token then .error .missing
    else
      match intOfDigits token with
      | none => .error .invalidInt
      | some index =>
        match items[index]? with
        | some item => walkTokens item tokens
        | none => .error .missing
  | .scalar _, _ :: _ => .error .missing
  | .str _, _ :: _ => .error .missing

def pointerTokens (pointer : String) : List (List Char) := (splitSlash pointer.toList).tail.map unescape

def pointerValue (document : Json) (pointer : String) : Except PointerError Json :=
  walkTokens document (pointerTokens pointer)

end Atlas.Fixture
