import AtlasTestOps.Core.Wire
import AtlasTestOps.Task.Models

/-! The wire contract of the Run Manifest: its field checks, the derived digests of its
Units, the digest of its retry policy and the hash over its body. The body leaves the
retry policy out and sorts the Units, so the hash pins the whole contract only together
with the checks. -/

namespace Atlas.Task

open Atlas

inductive TaskTriggerSource
  | manual | schedule | ci | webhook | api
deriving DecidableEq, Repr

def TaskTriggerSource.value : TaskTriggerSource → String
  | .manual => "MANUAL"
  | .schedule => "SCHEDULE"
  | .ci => "CI"
  | .webhook => "WEBHOOK"
  | .api => "API"

inductive TaskRunManifestSchemaVersion
  | legacy | current
deriving DecidableEq, Repr

def TaskRunManifestSchemaVersion.value : TaskRunManifestSchemaVersion → String
  | .legacy => "atlas.task-run-manifest/0.1"
  | .current => "atlas.task-run-manifest/0.2"

def taskRetryPolicySchemaVersion : String := "atlas.task-retry-policy/0.1"

def taskRetryPolicyDigestKey : String := "infra-retry"

/-- `REFERENCE_KEY_PATTERN` -/
def matchesReferenceKey (s : String) : Bool :=
  match s.toList with
  | [] => false
  | c :: cs => c.isAlphanum && (2 ≤ cs.length && cs.length ≤ 319) &&
      cs.all (fun c => c.isAlphanum || c ∈ "._:@/+=-".toList)

/-- `POLICY_KEY_PATTERN` -/
def matchesPolicyKey (s : String) : Bool :=
  match s.toList with
  | [] => false
  | c :: cs => c.isLower && (1 ≤ cs.length && cs.length ≤ 127) &&
      cs.all (fun c => c.isLower || c.isDigit || c ∈ "_.-".toList)

/-- A number of a version: no leading zero. -/
def versionNumber : List Char → Bool
  | ['0'] => true
  | c :: cs => c.isDigit && c ≠ '0' && cs.all Char.isDigit
  | [] => false

/-- The pre-release or build part of a version, with the mark it starts with. -/
def versionTag : List Char → Bool
  | [] => true
  | _ :: tag => tag ≠ [] && tag.all (fun c => c.isAlphanum || c == '.' || c == '-')

/-- `SEMVER_PATTERN`, with the length bounds of `SemanticVersion` -/
def matchesSemver (s : String) : Bool :=
  let (release, build) := s.toList.span (fun c => c ≠ '+')
  let (numbers, preRelease) := release.span (fun c => c ≠ '-')
  let numbers := numbers.splitOn '.'
  (5 ≤ s.length && s.length ≤ 80) && numbers.length == 3 && numbers.all versionNumber &&
    versionTag preRelease && versionTag build

section Contract

variable (sha256 : String → Digest)

/-- The matrix identity that `execution_unit_key` hashes. -/
def ExecutionUnitManifest.keyJson (unit : ExecutionUnitManifest) : Json :=
  .obj
    [("caseVersionId", wireUuid unit.caseVersionId),
     ("environmentId", wireUuid unit.environmentId),
     ("browserProfileVersionId", wireUuid unit.browserProfileVersionId),
     ("identityProfileVersionId", wireUuid unit.identityProfileVersionId),
     ("dataProfileVersionId", wireUuid unit.dataProfileVersionId),
     ("parameterDigest", wireDigest unit.parameterDigest)]

def executionUnitKey (unit : ExecutionUnitManifest) : Digest :=
  canonicalDigest sha256 unit.keyJson

/-- The pinned references that `execution_unit_dependency_digest` hashes. -/
def ExecutionUnitManifest.dependencyJson (unit : ExecutionUnitManifest) : Json :=
  .obj
    [("caseVersionId", wireUuid unit.caseVersionId),
     ("executionProfileVersionId", wireUuid unit.executionProfileVersionId),
     ("fixtureBlueprintVersionId", wireUuid unit.fixtureBlueprintVersionId),
     ("identityProfileVersionId", wireUuid unit.identityProfileVersionId),
     ("environmentId", wireUuid unit.environmentId),
     ("browserProfileVersionId", wireUuid unit.browserProfileVersionId),
     ("dataProfileVersionId", wireUuid unit.dataProfileVersionId)]

def executionUnitDependencyDigest (unit : ExecutionUnitManifest) : Digest :=
  canonicalDigest sha256 unit.dependencyJson

/-- `validate_derived_digests`, after the bound on the ordinal. -/
def ExecutionUnitManifest.violation (unit : ExecutionUnitManifest) : Option String :=
  firstViolation
    [(unit.ordinal < 1, "ordinal"),
     (unit.unitKey ≠ executionUnitKey sha256 unit, "unitKey must match the frozen matrix identity"),
     (unit.dependencyDigest ≠ executionUnitDependencyDigest sha256 unit,
       "dependencyDigest must match all pinned Unit references")]

/-- `model_dump(mode="json", by_alias=True)` of a Unit -/
def ExecutionUnitManifest.toJson (unit : ExecutionUnitManifest) : Json :=
  .obj
    [("ordinal", .int unit.ordinal),
     ("unitKey", wireDigest unit.unitKey),
     ("caseVersionId", wireUuid unit.caseVersionId),
     ("executionProfileVersionId", wireUuid unit.executionProfileVersionId),
     ("fixtureBlueprintVersionId", wireUuid unit.fixtureBlueprintVersionId),
     ("identityProfileVersionId", wireUuid unit.identityProfileVersionId),
     ("environmentId", wireUuid unit.environmentId),
     ("browserProfileVersionId", wireUuid unit.browserProfileVersionId),
     ("dataProfileVersionId", wireUuid unit.dataProfileVersionId),
     ("parameterDigest", wireDigest unit.parameterDigest),
     ("dependencyDigest", wireDigest unit.dependencyDigest)]

/-- The body that `task_retry_policy_digest` hashes. -/
def TaskRetryPolicyContent.toJson (policy : TaskRetryPolicyContent) : Json :=
  .obj
    [("schemaVersion", .str taskRetryPolicySchemaVersion),
     ("infraRetryAttempts", .int policy.infraRetryAttempts),
     ("maxTotalInfraRetries", .int policy.maxTotalInfraRetries),
     ("initialBackoffSeconds", .int policy.initialBackoffSeconds),
     ("maximumBackoffSeconds", .int policy.maximumBackoffSeconds),
     ("jitterPercent", .int policy.jitterPercent)]

def taskRetryPolicyDigest (policy : TaskRetryPolicyContent) : Digest :=
  canonicalDigest sha256 policy.toJson

/-- The wire form of a retry policy, with the digest it was published under. -/
structure SignedRetryPolicy extends TaskRetryPolicyContent where
  contentDigest : Digest
deriving DecidableEq, Repr

def SignedRetryPolicy.violation (policy : SignedRetryPolicy) : Option String :=
  match policy.toTaskRetryPolicyContent.violation with
  | some message => some message
  | none => firstViolation
      [(policy.contentDigest ≠ taskRetryPolicyDigest sha256 policy.toTaskRetryPolicyContent,
        "contentDigest must match the complete TaskRetryPolicy")]

/-- The fields of a Manifest. A dictionary is the list of its entries. -/
structure ManifestContent where
  schemaVersion : TaskRunManifestSchemaVersion
  taskRunId : Uuid
  taskPlanVersionId : Uuid
  triggerSource : TaskTriggerSource
  triggerFingerprint : String
  tenantId : Uuid
  projectId : Uuid
  iterationId : Option String
  units : List ExecutionUnitManifest
  policyDigests : List (String × Digest)
  retryPolicy : Option SignedRetryPolicy
  compilerVersion : String
  manifestHash : Digest
deriving DecidableEq, Repr

/-- `sorted(units, key=unit_key)`: digests compare as their fixed-width texts do. -/
def sortUnits (units : List ExecutionUnitManifest) : List ExecutionUnitManifest :=
  units.insertionSort (fun a b => a.unitKey ≤ b.unitKey)

/-- `dict(sorted(policy_digests.items()))`: no two entries share a key. -/
def sortDigests (digests : List (String × Digest)) : List (String × Digest) :=
  digests.insertionSort (fun a b => a.1 ≤ b.1)

/-- The body that `task_run_manifest_hash` hashes. -/
def ManifestContent.body (m : ManifestContent) : Json :=
  .obj
    [("schemaVersion", .str m.schemaVersion.value),
     ("taskRunId", wireUuid m.taskRunId),
     ("taskPlanVersionId", wireUuid m.taskPlanVersionId),
     ("triggerSource", .str m.triggerSource.value),
     ("triggerFingerprint", .str m.triggerFingerprint),
     ("tenantId", wireUuid m.tenantId),
     ("projectId", wireUuid m.projectId),
     ("iterationId", Json.option .str m.iterationId),
     ("units", .arr ((sortUnits m.units).map ExecutionUnitManifest.toJson)),
     ("policyDigests", .obj ((sortDigests m.policyDigests).map fun p => (p.1, wireDigest p.2))),
     ("compilerVersion", .str m.compilerVersion)]

/-- `task_run_manifest_hash`, which raises when the schema and the policy disagree. -/
def taskRunManifestHash (m : ManifestContent) : Except String Digest :=
  if m.schemaVersion = .current then
    if m.retryPolicy.isNone then .error "current Run Manifest requires retryPolicy"
    else .ok (canonicalDigest sha256 m.body)
  else if m.retryPolicy.isSome then .error "legacy Run Manifest cannot contain retryPolicy"
  else .ok (canonicalDigest sha256 m.body)

def ManifestContent.policyDigest (m : ManifestContent) (key : String) : Option Digest :=
  (m.policyDigests.find? (fun p => p.1 == key)).map Prod.snd

/-- The field constraints, the validators of the nested contracts and `validate_manifest`. -/
def ManifestContent.violation (m : ManifestContent) : Option String :=
  firstViolation
    [(m.triggerFingerprint.length < 3 ∨ 320 < m.triggerFingerprint.length ∨
        !matchesReferenceKey m.triggerFingerprint, "triggerFingerprint"),
     (m.iterationId.any fun s => s.length < 3 || 160 < s.length || !matchesReferenceKey s,
       "iterationId"),
     (m.units.length < 1 ∨ 100000 < m.units.length, "units"),
     (m.units.any fun unit => (unit.violation sha256).isSome, "units"),
     (m.policyDigests.length < 1 ∨ 64 < m.policyDigests.length, "policyDigests"),
     (m.policyDigests.any fun p => !matchesPolicyKey p.1,
       "policyDigests contains an invalid policy key"),
     (m.retryPolicy.any fun policy => (policy.violation sha256).isSome, "retryPolicy"),
     (!matchesSemver m.compilerVersion, "compilerVersion"),
     (¬ (m.units.map (·.unitKey)).Nodup, "Run Manifest unitKey values must be unique"),
     (m.units.map (·.unitKey) ≠ (sortUnits m.units).map (·.unitKey),
       "Run Manifest units must be sorted by unitKey"),
     (m.units.map (·.ordinal) ≠ List.range' 1 m.units.length,
       "Run Manifest Unit ordinals must be contiguous"),
     (m.schemaVersion = .legacy ∧ m.retryPolicy.isSome,
       "legacy Run Manifest cannot contain retryPolicy"),
     (m.schemaVersion ≠ .legacy ∧ ∀ policy ∈ m.retryPolicy,
        m.policyDigest taskRetryPolicyDigestKey ≠ some policy.contentDigest,
       "current Run Manifest requires retryPolicy and its exact policy digest"),
     (taskRunManifestHash sha256 m ≠ .ok m.manifestHash,
       "manifestHash must match the complete Run Manifest")]

/-- An accepted Manifest. `normalize_policy_digests` stores the dictionary in key order. -/
structure RunManifest extends ManifestContent where
  sorted : policyDigests.Pairwise (fun a b => a.1 < b.1)
  valid : toManifestContent.violation sha256 = none

variable {sha256}

def RunManifest.recomputeManifestHash (m : RunManifest sha256) : Except String Digest :=
  taskRunManifestHash sha256 m.toManifestContent

end Contract

end Atlas.Task
