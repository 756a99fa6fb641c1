import Std.Data.ExtTreeMap

/-!
Finite tables. A table is determined by what it gives for each key, and lists
its keys in ascending order.
-/

namespace MultiWallet

/-- A finite table from keys to values. -/
abbrev Table (κ : Type) [Ord κ] (α : Type) := Std.ExtTreeMap κ α

namespace Table

/-- The table of some pairs; of two pairs with one key the later counts. -/
def ofPairs {κ α : Type} [Ord κ] [Std.TransOrd κ] (pairs : List (κ × α)) : Table κ α :=
  pairs.foldl (fun table (key, value) => table.insert key value) ∅

end Table

end MultiWallet
