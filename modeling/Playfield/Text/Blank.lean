/-!
# Blanks

The characters with the Unicode property `White_Space`, and texts without them at either end.
-/

namespace Playfield.Text

/-- The code points of blanks. -/
def blanks : List Nat :=
  [0x9, 0xA, 0xB, 0xC, 0xD, 0x20, 0x85, 0xA0, 0x1680, 0x2000, 0x2001, 0x2002, 0x2003, 0x2004,
    0x2005, 0x2006, 0x2007, 0x2008, 0x2009, 0x200A, 0x2028, 0x2029, 0x202F, 0x205F, 0x3000]

/-- The character is blank. -/
def isBlank (c : Char) : Bool := blanks.contains c.toNat

/-- Characters without the blanks at the start. -/
def trimStart (cs : List Char) : List Char := cs.dropWhile isBlank

/-- Characters without the blanks at either end. -/
def trimList (cs : List Char) : List Char := (trimStart (trimStart cs).reverse).reverse

/-- A text without the blanks at either end. -/
def trim (s : String) : String := String.ofList (trimList s.toList)

end Playfield.Text
