import PathRouter.Routing.Methods

/-!
# Methods from other values

Where methods are wanted, a name will do, a collection of names, or nothing where either may be
missing. The names of a collection are put into a set one after the other.
-/

namespace PathRouter

namespace Methods

/-- The names as a set. -/
def names : Methods → NameSet
  | any => .empty
  | only names _ _ => names

theorem mem_insert_names {m : Methods} {name n : String} :
    n ∈ m.names.insert name ↔ n = name ∨ n ∈ m.toList := by
  rw [NameSet.mem_insert]
  cases m <;> rfl

/-- The methods with one more name, unless it is empty. -/
def add (m : Methods) (name : String) : Methods :=
  if h : name = "" then m
  else only (m.names.insert name)
    (eq_false_of_ne_true fun hempty =>
      NameSet.isEmpty_iff.1 hempty name (mem_insert_names.2 (.inl rfl)))
    fun hempty => (mem_insert_names.1 hempty).elim (fun heq => h heq.symm) m.empty_not_mem_toList

theorem mem_toList_add {m : Methods} {name n : String} :
    n ∈ (m.add name).toList ↔ n ∈ m.toList ∨ n = name ∧ n ≠ "" := by
  rw [add]
  split
  next h =>
    subst h
    simp
  next h =>
    have hmem : n ∈ m.names.insert name ↔ n ∈ m.toList ∨ n = name := mem_insert_names.trans or_comm
    exact hmem.trans (or_congr_right ⟨fun heq => ⟨heq, heq ▸ h⟩, fun heq => heq.1⟩)

/-- The methods with the names in a collection. -/
def collect {ρ : Type} [ForIn Id ρ String] (collection : ρ) : Methods := Id.run do
  let mut m := any
  for name in collection do
    m := m.add name
  return m

end Methods

/-- Values that methods can be made from. -/
class ToMethods (α : Type) where
  /-- The methods. -/
  toMethods : α → Methods

export ToMethods (toMethods)

instance : ToMethods Methods := ⟨id⟩

instance : ToMethods String := ⟨Methods.single⟩

instance : ToMethods (List String) := ⟨Methods.collect⟩

instance : ToMethods (Array String) := ⟨Methods.collect⟩

instance {n : Nat} : ToMethods (Vector String n) := ⟨Methods.collect⟩

instance {α : Type} [ToMethods α] : ToMethods (Option α) where
  toMethods
    | none => .any
    | some a => toMethods a

end PathRouter
