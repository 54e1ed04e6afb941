import AtlasTestOps.Service.FixtureSystem

/-! The references that were passed to the create calls of resources, kept beside a run of the
platform: the ledger itself records only the parents it resolved them to. -/

namespace Atlas.Service

open Atlas Atlas.Fixture Atlas.Store Txn

/-- A reference that the create call of a resource was passed in one of its parent inputs. -/
structure PassedRef where
  resourceId : Uuid
  opaqueRef : String
deriving DecidableEq, Repr

/-- The values of `parent_ref_inputs` among the inputs of a create call. -/
def parentRefs (atom : DataAtomVersion) (inputs : PortValues) : List String :=
  match atom.contract.resourcePolicy with
  | none => []
  | some policy => policy.parentRefInputs.filterMap (textAt inputs)

def eventRefs : FixtureEvent → List String
  | .recordOutcome claim _ _ => parentRefs claim.atom claim.inputs
  | .reconcileFound claim _ _ _ => parentRefs claim.atom claim.inputs
  | _ => []

/-- What an event passed for the resources that it entered into the ledger. -/
def passedRefs (e : FixtureEvent) (db db' : FixtureDb) : List PassedRef :=
  (db'.resources.drop db.resources.length).flatMap fun resource =>
    (eventRefs e).map (PassedRef.mk resource.id)

structure TracedSystem where
  system : FixtureSystem
  passed : List PassedRef

def TracedSystem.apply (worker : FixtureWorker) (e : FixtureEvent) (t : TracedSystem) :
    TracedSystem :=
  let next := e.apply worker t.system
  ⟨next, t.passed ++ passedRefs e t.system.db next.db⟩

def TracedStep (worker : FixtureWorker) (ok : FixtureEvent → FixtureSystem → Prop)
    (t t' : TracedSystem) : Prop :=
  ∃ e : FixtureEvent, e.Enabled t.system ∧ ok e t.system ∧ t' = t.apply worker e

def TracedRun (worker : FixtureWorker) (ok : FixtureEvent → FixtureSystem → Prop) :
    TracedSystem → TracedSystem → Prop :=
  Relation.ReflTransGen (TracedStep worker ok)

/-- A resource with a reference of its own in the run, none of whose parents has been claimed
for cleanup. -/
structure EntersPlainly (s : FixtureSystem) (runId : Uuid) (atom : DataAtomVersion)
    (inputs outputs : PortValues) : Prop where
  distinct : ∀ policy, atom.contract.resourcePolicy = some policy → ∀ r ∈ s.db.resources,
    r.fixtureRunId = runId → textAt outputs policy.resourceRefOutput ≠ some r.opaqueRef
  unclaimed : ∀ r ∈ s.db.resources, r.fixtureRunId = runId → r.opaqueRef ∈ parentRefs atom inputs →
    ∀ claim ∈ s.cleanups, claim.resource.id ≠ r.id

def RecordsPlainly (e : FixtureEvent) (s : FixtureSystem) : Prop :=
  match e with
  | .recordOutcome claim result _ =>
    EntersPlainly s claim.run.id claim.atom claim.inputs result.outputs
  | .reconcileFound claim outputs _ _ =>
    EntersPlainly s claim.run.id claim.atom claim.inputs outputs
  | _ => True

end Atlas.Service
