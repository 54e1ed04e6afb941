import AtlasTestOps.Core.Contracts

/-! The trusted actor of a request and what the actor's grants allow. -/

namespace Atlas

inductive PlatformRole
  | orgAdmin | projectAdmin | componentMaintainer | caseAuthor | caseReviewer | runOperator
  | observer
deriving DecidableEq, Repr

structure AccessGrant where
  role : PlatformRole
  projectId : Option Uuid
deriving DecidableEq, Repr

structure ActorContext where
  tenantId : Uuid
  actorId : Option Uuid
  grants : List AccessGrant
  developmentOverride : Bool
deriving DecidableEq, Repr

namespace ActorContext

variable (actor : ActorContext) (projectId : Uuid)

def isOrganizationAdmin : Bool :=
  actor.developmentOverride ||
    actor.grants.any fun grant => grant.role = .orgAdmin ∧ grant.projectId = none

/-- A grant on the project with one of the roles, or organisation-wide authority. -/
def hasRole (roles : List PlatformRole) : Bool :=
  actor.isOrganizationAdmin ||
    actor.grants.any fun grant => grant.projectId = some projectId ∧ grant.role ∈ roles

def canReadProject : Bool :=
  actor.isOrganizationAdmin || actor.grants.any fun grant => grant.projectId = some projectId

def canOperateProject : Bool := actor.hasRole projectId [.projectAdmin, .runOperator]

def canReviewResults : Bool := actor.hasRole projectId [.projectAdmin, .caseReviewer]

end ActorContext

end Atlas
