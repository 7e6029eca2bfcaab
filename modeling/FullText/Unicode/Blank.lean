/-
FullText/Unicode/Blank.lean

White space in the widest sense: the space separators, the ASCII controls that
move the carriage, the next line control, and the four information separators
U+001C to U+001F.
-/
import FullText.Unicode.Ranges

namespace FullText.Unicode

/-- The code points of white space in the widest sense. -/
def blank : Ranges :=
  ⟨[(0x0009, 0x000D), (0x001C, 0x0020), (0x0085, 0x0085), (0x00A0, 0x00A0), (0x1680, 0x1680),
    (0x2000, 0x200A), (0x2028, 0x2029), (0x202F, 0x202F), (0x205F, 0x205F), (0x3000, 0x3000)],
    by decide +kernel⟩

/-- Whether `c` is white space in the widest sense. -/
def isBlank (c : Char) : Bool := blank.contains c.toNat

end FullText.Unicode
