import MultiWallet.Text.Quoted

/-!
The forms in which values are described in diagnostics: a name alone, a name with
one value in parentheses, a name with named parts in braces, or a row of values.
-/

namespace MultiWallet.Description

/-- A named value around another one. -/
def wrap (name content : String) : String := name ++ "(" ++ content ++ ")"

/-- A named value with named parts. -/
def record (name : String) (parts : List (String × String)) : String :=
  name ++ " \x7b " ++ Text.joined ", " (parts.map fun (part, content) => part ++ ": " ++ content)
    ++ " \x7d"

def row (contents : List String) : String := "[" ++ Text.joined ", " contents ++ "]"

def optional {α : Type} (describe : α → String) : Option α → String
  | none => "None"
  | some value => wrap "Some" (describe value)

def truth (value : Bool) : String := if value then "true" else "false"

end MultiWallet.Description
