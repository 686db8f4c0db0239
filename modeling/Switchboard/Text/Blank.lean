import Switchboard.Text.Ranges

/-!
# White space

White space is the Unicode property `White_Space`: the ASCII blanks from tab
to carriage return, the space, and the wider spaces and separators. A zero
width space is not among them.
-/

namespace Switchboard.Text

/-- **`White_Space`.** -/
def whiteSpace : Ranges :=
  [(0x9, 0xd), (0x20, 0x20), (0x85, 0x85), (0xa0, 0xa0), (0x1680, 0x1680),
   (0x2000, 0x200a), (0x2028, 0x2029), (0x202f, 0x202f), (0x205f, 0x205f),
   (0x3000, 0x3000)]

/-- Whether a character is white space. -/
def isBlank (c : Char) : Bool := whiteSpace.contains c.toNat

/-- A text without the white space before it. -/
def trimStart (cs : List Char) : List Char := cs.dropWhile isBlank

/-- A text without the white space after it. -/
def trimEnd (cs : List Char) : List Char :=
  (cs.reverse.dropWhile isBlank).reverse

/-- A text without the white space around it. -/
def trim (cs : List Char) : List Char := trimEnd (trimStart cs)

/-- Whether a text is white space throughout. -/
def isBlankText (s : String) : Bool := s.toList.all isBlank

end Switchboard.Text
