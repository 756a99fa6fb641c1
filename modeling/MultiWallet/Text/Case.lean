import MultiWallet.Text.CaseTable

/-!
Lower and upper case of whole texts. Most characters are mapped one by one; a
capital sigma at the end of a word has a lower case of its own, and a few
characters are spelled out as several.
-/

namespace MultiWallet.Text

/-- The characters a table spells a character out as. -/
def spelled? (table : List (Nat × List Nat)) (c : Char) : Option (List Char) :=
  (table.find? (·.1 == c.toNat)).map fun row => row.2.map Char.ofNat

def upperOf (c : Char) : List Char :=
  if c.toNat < 128 then [c.toUpper]
  else ((spelled? upperSpelled c).or ((upperShifts.target? c).map ([·]))).getD [c]

/-- Lower case of one character, without a look at its neighbours. -/
def lowerOf (c : Char) : List Char :=
  if c.toNat < 128 then [c.toLower]
  else ((spelled? lowerSpelled c).or ((lowerShifts.target? c).map ([·]))).getD [c]

def capitalSigma : Char := 'Σ'

/-- Whether the first character that case rules do not look past is a letter. -/
def meetsCased (text : List Char) : Bool :=
  match text.dropWhile caseIgnorable.contains with
  | [] => false
  | c :: _ => cased.contains c

/-- Lower case of the characters `rest` that follow the characters `before`,
which come nearest first. A capital sigma with a letter before it and none after
it ends a word. -/
def lowerAfter (before : List Char) : List Char → List Char
  | [] => []
  | c :: rest =>
    let mapped :=
      if c == capitalSigma then
        if meetsCased before && !meetsCased rest then ['ς'] else ['σ']
      else lowerOf c
    mapped ++ lowerAfter (c :: before) rest

def lower (text : String) : String := String.ofList (lowerAfter [] text.toList)

def upper (text : String) : String := String.ofList (text.toList.flatMap upperOf)

end MultiWallet.Text
