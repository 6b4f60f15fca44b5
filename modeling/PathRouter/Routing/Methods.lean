import PathRouter.Routing.NameSet

/-!
# Methods

The methods a route accepts: any method, or those with a name in a set. The empty name is no method
name: lists of names are read without it, and a list of nothing else restricts nothing. So no route
is restricted to an empty set. Names are compared letter for letter.
-/

namespace PathRouter

/-- The methods a route accepts. No name stands for any method. -/
inductive Methods where
  /-- Any method. -/
  | any
  /-- The methods with a name in a set, which has a name in it, and not the empty one. -/
  | only (names : NameSet) (nonempty : names.isEmpty = false) (empty_not_mem : "" ∉ names)
deriving DecidableEq

namespace Methods

instance : Inhabited Methods := ⟨any⟩

/-- The methods with the names in a list, or any method if the list holds no name. -/
def ofList (l : List String) : Methods :=
  let names := NameSet.ofList (l.filter (· ≠ ""))
  if h : names.isEmpty = false then only names h (by simp [names]) else any

/-- One method, or any if its name is empty. -/
def single (name : String) : Methods :=
  ofList [name]

/-- The names, in increasing order. There are none if there is no restriction. -/
def toList : Methods → List String
  | any => []
  | only names _ _ => names.names

/-- Whether there is no restriction. -/
def isAny : Methods → Bool
  | any => true
  | only .. => false

/-- Whether a request with a method may pass. A request without a method always may. -/
def accepts (m : Methods) (method : String) : Bool :=
  method.isEmpty || match m with
    | any => true
    | only names _ _ => names.contains method

@[simp] theorem mem_toList_ofList {l : List String} {n : String} :
    n ∈ (ofList l).toList ↔ n ∈ l ∧ n ≠ "" := by
  have hmem (n : String) : n ∈ NameSet.ofList (l.filter (· ≠ "")) ↔ n ∈ l ∧ n ≠ "" := by simp
  rw [ofList]
  split
  · exact hmem n
  next hempty =>
    have hnone := NameSet.isEmpty_iff.1 (eq_true_of_ne_false hempty) n
    exact iff_of_false List.not_mem_nil (mt (hmem n).2 hnone)

/-- Only the lack of a restriction has no names. -/
theorem toList_eq_nil_iff {m : Methods} : m.toList = [] ↔ m = any := by
  cases m with
  | any => exact iff_of_true rfl rfl
  | only names hnonempty _ =>
    refine iff_of_false (fun h => ?_) nofun
    rw [NameSet.isEmpty, show names.names = [] from h] at hnonempty
    cases hnonempty

/-- A list restricts nothing if all its names are empty. -/
theorem ofList_eq_any_iff {l : List String} : ofList l = any ↔ ∀ n ∈ l, n = "" := by
  rw [← toList_eq_nil_iff, List.eq_nil_iff_forall_not_mem]
  simp

theorem empty_not_mem_toList (m : Methods) : "" ∉ m.toList := by
  cases m with
  | any => exact List.not_mem_nil
  | only _ _ hempty => exact hempty

theorem accepts_iff {m : Methods} {method : String} :
    m.accepts method = true ↔ method = "" ∨ m = any ∨ method ∈ m.toList := by
  cases m <;> simp [accepts, toList, NameSet.mem_iff]

theorem increasing_toList (m : Methods) : m.toList.Pairwise (· < ·) := by
  cases m with
  | any => exact .nil
  | only names _ _ => exact names.increasing

theorem eq_of_toList_eq {m m' : Methods} (h : m.toList = m'.toList) : m = m' := by
  cases m with
  | any => exact (toList_eq_nil_iff.1 h.symm).symm
  | only names _ _ =>
    cases m' with
    | any => exact toList_eq_nil_iff.1 h
    | only names' _ _ =>
      obtain ⟨l, _⟩ := names
      cases h
      rfl

/-- Methods are determined by their names. -/
theorem ext_mem {m m' : Methods} (h : ∀ n, n ∈ m.toList ↔ n ∈ m'.toList) : m = m' :=
  eq_of_toList_eq (NameSet.names_eq_of_mem m.increasing_toList m'.increasing_toList h)

@[simp] theorem ofList_toList (m : Methods) : ofList m.toList = m := by
  refine ext_mem fun n => ?_
  rw [mem_toList_ofList]
  exact ⟨fun h => h.1, fun h => ⟨h, fun e => m.empty_not_mem_toList (e ▸ h)⟩⟩

end Methods

end PathRouter
