import PathRouter.Proofs.RouteFile.Registering

/-!
# Operations on tables

Whatever can be done with the table of a session: the steps of the session, registering a route
file that is at hand, and putting a table made of any compiled routes in the place of the one in
use.  A run is a list of such operations.
-/

namespace PathRouter

variable {α : Type}

/-- A table to start with: an empty one, or one made of compiled routes. -/
def Table.start : Option (List (CompiledRoute α)) → Table α
  | none => {}
  | some routes => .ofCompiled routes

/-- What can be done in a session. -/
inductive Operation : Type → Type 1 where
  /-- A step. -/
  | step {α : Type} (step : Step α) : Operation α
  /-- Registers the routes of a route file, whose targets are texts. -/
  | register (f : RouteFile) : Operation String
  /-- Replaces the table by one to start with. -/
  | replace {α : Type} (given : Option (List (CompiledRoute α))) : Operation α

namespace Session

/-- Carries out an operation. -/
def perform :
    {α : Type} → [ToJson α] → [FromJson α] → Session α → Operation α → Session α × Result α
  | _, _, _, s, .step step => (s.step step).value
  | _, _, _, s, .register f => (s.withTable (s.table.register f).value, .done)
  | _, _, _, s, .replace given => (s.withTable (.start given), .done)

/-- Carries out operations one after the other. -/
def performAll [ToJson α] [FromJson α] (s : Session α) :
    List (Operation α) → Session α × List (Result α)
  | [] => (s, [])
  | o :: os =>
    let (s, result) := s.perform o
    let (s, results) := s.performAll os
    (s, result :: results)

end Session

end PathRouter
