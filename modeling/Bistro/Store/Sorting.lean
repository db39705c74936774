/-!
# Bistro — the order of listed rows

Listings sort their rows by a key; rows with equal keys keep the order in which they were
stored, whichever way the key runs. Both sorts are stable merge sorts.
-/

namespace Bistro

/-- Rows by an integer key, smallest first. -/
def ascendingBy {α : Type} (key : α → Int) (rows : List α) : List α :=
  rows.mergeSort fun a b => decide (key a ≤ key b)

/-- Rows by an integer key, largest first. -/
def descendingBy {α : Type} (key : α → Int) (rows : List α) : List α :=
  rows.mergeSort fun a b => decide (key b ≤ key a)

/-- Rows by an integer position, then by name. -/
def byPositionName {α : Type} (position : α → Int) (name : α → String) (rows : List α) : List α :=
  rows.mergeSort fun a b =>
    decide (position a < position b) || (decide (position a = position b) && decide (name a ≤ name b))

end Bistro
