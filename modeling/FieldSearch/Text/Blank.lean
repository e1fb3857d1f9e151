import FieldSearch.Text.Ranges

/-!
# Blank characters

The characters with the Unicode property White_Space: those that leave a gap, and those that end a
line, a paragraph or a page.
-/

namespace FieldSearch.Text

/-- The code points with the property White_Space. -/
def blanks : Ranges :=
  [(0x9, 0xd), (0x20, 0x20), (0x85, 0x85), (0xa0, 0xa0), (0x1680, 0x1680), (0x2000, 0x200a),
    (0x2028, 0x2029), (0x202f, 0x202f), (0x205f, 0x205f), (0x3000, 0x3000)]

/-- Whether a character is blank. -/
def isBlank (c : Char) : Bool := blanks.contains c.toNat

end FieldSearch.Text
