import MultiWallet.Json.Reader
import MultiWallet.Table

/-!
JSON texts read without a format in mind. A reader that knows its format passes
over what it does not need; one that does not has to keep everything. So every
literal has to be a text, every number within the floating-point ones, and the
nesting is bounded. Of members with one name the last one counts, and members are
ordered by their names.
-/

namespace MultiWallet.Json

def deepestNesting : Nat := 127

mutual

/-- A value of which everything can be kept, with at most the given nesting. -/
def Value.kept? (nesting : Nat) : Value → Option Value
  | .string text => text.map (.string ∘ some)
  | .float x => x.map (.float ∘ some)
  | .array items =>
    if nesting = 0 then none else (keptItems? (nesting - 1) items).map .array
  | .object members =>
    if nesting = 0 then none
    else (keptMembers? (nesting - 1) members).map fun members =>
      .record (Table.ofPairs members).toList
  | value => some value

def keptItems? (nesting : Nat) : List Value → Option (List Value)
  | [] => some []
  | item :: rest => do
    let item ← item.kept? nesting
    return item :: (← keptItems? nesting rest)

def keptMembers? (nesting : Nat) :
    List (Option String × Value) → Option (List (String × Value))
  | [] => some []
  | (name, value) :: rest => do
    let name ← name
    let value ← value.kept? nesting
    return (name, value) :: (← keptMembers? nesting rest)

end

/-- The value that a whole text writes, if everything in it can be kept. -/
def generic? (bytes : Bytes) : Option Value := (parse bytes).bind (·.kept? deepestNesting)

end MultiWallet.Json
