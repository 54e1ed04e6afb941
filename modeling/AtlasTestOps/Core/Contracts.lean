import Mathlib.Data.Nat.Notation
import AtlasTestOps.Lib.Transaction

/-! Identities, digests, times and errors shared by the Task and Result contracts.
An identity is only ever compared; a digest is `sha256:` and 64 lower-case hex
digits, so 256 bits; a time is counted in microseconds. -/

namespace Atlas

abbrev Uuid := ℕ

abbrev Digest := BitVec 256

abbrev Instant := ℕ

def seconds (n : ℕ) : ℕ := n * 1000000

/-- The columns that tie a row to one TaskRun. -/
structure RunScope where
  tenantId : Uuid
  projectId : Uuid
  taskRunId : Uuid
  manifestHash : Digest
deriving DecidableEq, Repr

/-- The columns that tie a row to one ExecutionUnit. -/
structure UnitScope extends RunScope where
  executionUnitId : Uuid
  unitKey : Digest
deriving DecidableEq, Repr

/-- What an operation may raise, by the layer that raises it. -/
inductive Fault
  | projection (errorCode : String)
  | worker (errorCode : String)
  | finalization (errorCode : String)
  | integrityConflict (errorCode : String)
  | application (errorCode detail : String)
  | validation (message : String)
  | constraint (name : String)
deriving DecidableEq, Repr

/-- The first rule that a contract value breaks. -/
def firstViolation : List (Bool × String) → Option String
  | [] => none
  | (violated, message) :: rules => if violated then some message else firstViolation rules

@[simp] theorem firstViolation_nil : firstViolation [] = none := rfl

@[simp] theorem firstViolation_cons {violated : Bool} {message : String}
    {rules : List (Bool × String)} :
    firstViolation ((violated, message) :: rules) = none ↔
      violated = false ∧ firstViolation rules = none := by
  cases violated <;> simp [firstViolation]

def isCodeChar (c : Char) : Bool := c.isUpper || c.isDigit || c == '_'

/-- `^[A-Z][A-Z0-9_]{least,most}$` -/
def matchesCode (least most : ℕ) (s : String) : Bool :=
  match s.toList with
  | [] => false
  | c :: cs => c.isUpper && (least ≤ cs.length && cs.length ≤ most) && cs.all isCodeChar

/-- `SAFE_REASON_PATTERN` -/
def safeReason (s : String) : Bool := matchesCode 1 95 s

end Atlas
