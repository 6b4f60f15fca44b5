import PathRouter.Journal.Event

/-!
# Journals

Work that reports what it does gives its result together with its notes, in order. A note is an
event or an increment of a counter. `Logged` puts such pieces of work together one after the other;
their notes are appended.
-/

namespace PathRouter

/-- A counter. -/
inductive Counter where
  /-- Compilations of whole tables. -/
  | compilations
  /-- Requests that a route answered. -/
  | found
  /-- Requests that only routes for other methods recognised. -/
  | notAllowed
  /-- Requests that no route recognised. -/
  | notFound
deriving DecidableEq, Repr

namespace Counter

/-- All counters. -/
def all : List Counter := [compilations, found, notAllowed, notFound]

/-- The name. -/
def name : Counter → String
  | compilations => "route_compile_total"
  | found => "route_match_total\x7Bresult=found\x7D"
  | notAllowed => "route_match_total\x7Bresult=not_allowed\x7D"
  | notFound => "route_match_total\x7Bresult=not_found\x7D"

end Counter

/-- A note. -/
inductive Note where
  /-- Something happened. -/
  | event (e : Event)
  /-- A counter goes up by one. -/
  | count (c : Counter)
deriving DecidableEq

namespace Note

/-- The event, if the note is one. -/
def event? : Note → Option Event
  | event e => some e
  | count _ => none

/-- The events of some notes. -/
def events (notes : List Note) : List Event :=
  notes.filterMap event?

/-- How often a counter went up. -/
def total (c : Counter) (notes : List Note) : Nat :=
  notes.count (.count c)

/-- The counters that went up at all, with their values. -/
def totals (notes : List Note) : List (Counter × Nat) :=
  (Counter.all.map fun c => (c, total c notes)).filter fun t => t.2 ≠ 0

end Note

/-- A result and the notes taken on the way. -/
structure Logged (α : Type) where
  /-- The result. -/
  value : α
  /-- The notes, the first one first. -/
  notes : List Note

namespace Logged

variable {α β : Type}

/-- A result without notes. -/
def quiet (a : α) : Logged α := ⟨a, []⟩

/-- Takes notes. -/
def note (notes : List Note) : Logged Unit := ⟨(), notes⟩

/-- Goes on with a result. -/
def andThen (x : Logged α) (f : α → Logged β) : Logged β :=
  ⟨(f x.value).value, x.notes ++ (f x.value).notes⟩

instance : Monad Logged where
  pure := quiet
  bind := andThen

@[simp] theorem value_pure (a : α) : (pure a : Logged α).value = a := rfl

@[simp] theorem notes_pure (a : α) : (pure a : Logged α).notes = [] := rfl

@[simp] theorem value_bind (x : Logged α) (f : α → Logged β) :
    (x >>= f).value = (f x.value).value := rfl

@[simp] theorem notes_bind (x : Logged α) (f : α → Logged β) :
    (x >>= f).notes = x.notes ++ (f x.value).notes := rfl

end Logged

end PathRouter
