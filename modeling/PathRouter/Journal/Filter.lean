import PathRouter.Journal.Directive

/-!
# Filters

A filter says which events are shown. It is written as directives with commas between them. Of all
the directives that hold for an event the most specific one decides, and of two that are equally
specific the later one.
-/

namespace PathRouter

/-- A filter. -/
structure Filter where
  /-- The rules, as they are written. -/
  directives : List Directive
deriving DecidableEq, Repr

namespace Filter

/-- The parts of a written filter. -/
def parts (text : String) : List (List Char) :=
  ((text.splitOn ",").filter fun s => !s.isEmpty).map String.toList

/-- The filter with some rules. Without any, only failures are shown. -/
def ofDirectives (ds : List Directive) : Filter :=
  ⟨if ds.isEmpty then [{ rank := 1 }] else ds⟩

/-- Reads a filter, if all its directives are well formed. -/
def read? (text : String) : Option Filter :=
  ((parts text).mapM Directive.read?).map ofDirectives

/-- Reads a filter without the directives that are not well formed. -/
def readLossy (text : String) : Filter :=
  ofDirectives ((parts text).filterMap Directive.read?)

/-- The filter of a program: the one of its environment if it is well formed, and otherwise a level
for its own areas. -/
def choose (environment : Option String) (level : String) : Filter :=
  match environment.bind read? with
  | some f => f
  | none => readLossy ("route_matcher=" ++ level)

/-- The rule that decides about an event. -/
def deciding? (f : Filter) (e : Event) : Option Directive :=
  (f.directives.filter fun d => d.concerns e).foldl
    (fun best d => match best with
      | some b => if d.isBelow b then some b else some d
      | none => some d) none

/-- Whether an event is shown. -/
def shows (f : Filter) (e : Event) : Bool :=
  (f.deciding? e).any fun d => e.level.rank ≤ d.rank

end Filter

end PathRouter
