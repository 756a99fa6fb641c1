/-!
Sets of characters given by the ranges of their code points, as the Unicode
property tables give them.
-/

namespace MultiWallet.Text

/-- Closed ranges of code points, in ascending order. -/
abbrev Ranges := List (Nat × Nat)

def Ranges.contains (ranges : Ranges) (c : Char) : Bool :=
  ranges.any fun (first, last) => first ≤ c.toNat && c.toNat ≤ last

/-- The characters with the property White_Space. -/
def whiteSpace : Ranges := [
  (0x9, 0xd), (0x20, 0x20), (0x85, 0x85), (0xa0, 0xa0), (0x1680, 0x1680), (0x2000, 0x200a),
  (0x2028, 0x2029), (0x202f, 0x202f), (0x205f, 0x205f), (0x3000, 0x3000)]

def isBlank (c : Char) : Bool := whiteSpace.contains c

/-- Characters with the blank ones at their head removed. -/
def dropBlanks (text : List Char) : List Char := text.dropWhile isBlank

end MultiWallet.Text
