/-!
# Tables of code point ranges

A Unicode property is stored as the list of its maximal runs of code points, in increasing order.
The property tables beside this module all have this form, and a character has the property when
one of the runs covers it.
-/

namespace PathRouter.Unicode

/-- Inclusive runs of code points, in increasing order. -/
abbrev RangeTable := Array (Nat × Nat)

/-- A table covers a character when one of its runs does. -/
def RangeTable.covers (table : RangeTable) (c : Char) : Bool :=
  table.any fun run => run.1 ≤ c.toNat && c.toNat ≤ run.2

theorem RangeTable.covers_eq_any_toList (table : RangeTable) (c : Char) :
    table.covers c = table.toList.any fun run => run.1 ≤ c.toNat && c.toNat ≤ run.2 :=
  Array.any_toList.symm

theorem RangeTable.covers_of_mem {table : RangeTable} {run : Nat × Nat} (h : run ∈ table.toList)
    {c : Char} (hlow : run.1 ≤ c.toNat) (hhigh : c.toNat ≤ run.2) : table.covers c = true := by
  rw [covers_eq_any_toList, List.any_eq_true]
  exact ⟨run, h, by simp [hlow, hhigh]⟩

end PathRouter.Unicode
