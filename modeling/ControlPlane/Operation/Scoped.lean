import ControlPlane.Operation.Target

/-!
# Taking a list within the organization item by item

A list within the organization is taken like any other list, but its first item costs the lookup of the organization. Before
the first item is asked for nothing is sent. A lookup that fails is told once and ends the list.
-/

namespace ControlPlane

/-- The state of taking a list within an organization. -/
inductive Scoped (α : Type) where
  | unopened
  | listing (organization : String) (pager : Pager α)
  | closed

namespace Scoped

variable {σ α : Type}

/-- Takes the next item of a list whose organization is known. -/
def take (t : Target) (server : Http.Server σ) (list : String → Collection α) (organization : String) (pager : Pager α)
    (s : Session σ) : Pager.Poll α × Scoped α × Session σ :=
  let (told, pager, s) := pager.poll (t.client.pages server (list organization) .all) s
  (told, .listing organization pager, s)

/-- Takes the next item. -/
def poll (t : Target) (server : Http.Server σ) (list : String → Collection α) :
    Scoped α → Session σ → Pager.Poll α × Scoped α × Session σ
  | unopened, s =>
    match (t.organizationId server).runOn s with
    | (.error e, s) => (.failed e, closed, s)
    | (.ok organization, s) => take t server list organization .start s
  | listing organization pager, s => take t server list organization pager s
  | closed, s => (.finished, closed, s)

end Scoped

end ControlPlane
