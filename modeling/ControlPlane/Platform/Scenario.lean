import ControlPlane.Platform.Store

/-!
# A platform to try things on

Entities that are described by their id, their name and where they belong, and a small platform made of them.
-/

namespace ControlPlane.Platform.Scenario

/-- An active organization. -/
def organization (id name : String) : Organization where
  id := id
  name := name
  status := some "active"
  quotaDefinitionId := some "default-quota"
  createdAt := (Timestamp.ofString "2016-06-08T16:41:33Z").toOption

/-- A space that may be entered. -/
def space (id name organization : String) : Space where
  id := id
  name := name
  organizationId := some organization
  allowSsh := true

/-- A small space quota without limits for instances. -/
def spaceQuota (id name organization : String) : SpaceQuota where
  id := id
  name := name
  organizationId := some organization
  paidServicePlans := false
  totalServices := 10
  totalRoutes := 20
  totalMemoryLimit := 2048
  instanceMemoryLimit := -1
  appInstanceLimit := some (-1)

/-- A service instance that the platform looks after. -/
def managed (id name space : String) : ServiceInstance where
  id := id
  name := name
  origin := .managed
  spaceId := some space

/-- A service instance that the user looks after. -/
def userProvided (id name space : String) : ServiceInstance := { managed id name space with origin := .userProvided }

/-- Two organizations, with names of spaces and service instances that occur once and several times. -/
def standard : Store where
  organizations := [organization "org-1" "test-org", organization "org-2" "other-org"]
  spaces := [space "space-1" "dev" "org-1", space "space-2" "prod" "org-1", space "space-3" "dev" "org-2"]
  spaceQuotas := [spaceQuota "quota-1" "small" "org-1", spaceQuota "quota-2" "large" "org-1"]
  serviceInstances :=
    [managed "si-1" "my-db" "space-1", userProvided "si-2" "my-creds" "space-1", managed "si-3" "cache" "space-2",
      managed "si-4" "cache" "space-2"]

end ControlPlane.Platform.Scenario
