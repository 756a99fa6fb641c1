import MultiWallet.Json.Value

/-!
Reading records from JSON values. A record is written as an object, whose
unknown members are passed over and whose known ones stand at most once, or as
an array of its fields in order, which may end early but not go on too long.
What is to be made of a missing field is for each field to say.
-/

namespace MultiWallet.Json

/-- The fields of a record that are present. -/
abbrev Fields := List (String × Value)

/-- The names of an object's members. A name that is no text makes the object
unreadable. -/
def named : List (Option String × Value) → Option Fields
  | [] => some []
  | (none, _) :: _ => none
  | (some name, value) :: rest => (named rest).map ((name, value) :: ·)

namespace Value

/-- The fields of a record with the given names. -/
def fields (names : List String) : Value → Option Fields
  | .object members => do
    let all ← named members
    let known := all.filter fun (name, _) => names.contains name
    guard (known.map (·.1)).Nodup
    return known
  | .array items => if items.length ≤ names.length then some (names.zip items) else none
  | _ => none

def asText : Value → Option String
  | .string text => text
  | _ => none

def asBool : Value → Option Bool
  | .bool b => some b
  | _ => none

def asBelow (bound : Nat) : Value → Option Nat
  | .natural n => if n < bound then some n else none
  | _ => none

def asUInt8 (value : Value) : Option UInt8 := (value.asBelow UInt8.size).map UInt8.ofNat

def asUInt32 (value : Value) : Option UInt32 := (value.asBelow UInt32.size).map UInt32.ofNat

/-- A number of 64 bits. -/
def asWord (value : Value) : Option Nat := value.asBelow UInt64.size

def asOption {α : Type} (read : Value → Option α) : Value → Option (Option α)
  | .null => some none
  | value => (read value).map some

def asList {α : Type} (read : Value → Option α) : Value → Option (List α)
  | .array items => items.mapM read
  | _ => none

/-- An object with arbitrary names and values of one kind, in the order of the
text. -/
def asEntries {α : Type} (read : Value → Option α) : Value → Option (List (String × α))
  | .object members => do
    let all ← named members
    all.mapM fun (name, value) => (read value).map (name, ·)
  | _ => none

end Value

namespace Fields

def required {α : Type} (fields : Fields) (name : String) (read : Value → Option α) :
    Option α :=
  (fields.lookup name).bind read

def optional {α : Type} (fields : Fields) (name : String) (read : Value → Option α)
    (missing : α) : Option α :=
  match fields.lookup name with
  | none => some missing
  | some value => read value

end Fields

end MultiWallet.Json
