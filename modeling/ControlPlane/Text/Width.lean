import ControlPlane.Text.Ranges

/-!
# How wide characters are

A text that is shown takes columns. Most characters take one; those of East Asian scripts and many pictures take two; marks that
are put on another character take none.
-/

namespace ControlPlane.Text

/-- The characters that take two columns. -/
def wideRanges : Ranges :=
  [(0x1100, 0x115f), (0x231a, 0x231b), (0x2329, 0x232a), (0x23e9, 0x23ec), (0x25fd, 0x25fe), (0x2614, 0x2615),
    (0x2648, 0x2653), (0x26aa, 0x26ab), (0x26bd, 0x26be), (0x26c4, 0x26c5), (0x2e80, 0x303e), (0x3041, 0x33ff),
    (0x3400, 0x4dbf), (0x4e00, 0xa4cf), (0xa960, 0xa97c), (0xac00, 0xd7a3), (0xf900, 0xfaff), (0xfe10, 0xfe19),
    (0xfe30, 0xfe6b), (0xff01, 0xff60), (0xffe0, 0xffe6), (0x1f300, 0x1f320), (0x1f32d, 0x1f335), (0x1f337, 0x1f37c),
    (0x1f37e, 0x1f393), (0x1f3a0, 0x1f3ca), (0x1f3cf, 0x1f3d3), (0x1f3e0, 0x1f3f0), (0x1f3f8, 0x1f43e),
    (0x1f442, 0x1f4fc), (0x1f4ff, 0x1f53d), (0x1f54b, 0x1f54e), (0x1f550, 0x1f567), (0x1f5fb, 0x1f64f),
    (0x1f680, 0x1f6c5), (0x1f910, 0x1f9ff), (0x20000, 0x3fffd)]

/-- The characters that take no column. -/
def bareRanges : Ranges :=
  [(0x00, 0x1f), (0x7f, 0x9f), (0xad, 0xad), (0x300, 0x36f), (0x483, 0x489), (0x591, 0x5bd), (0x610, 0x61a),
    (0x64b, 0x65f), (0x1ab0, 0x1aff), (0x1dc0, 0x1dff), (0x200b, 0x200f), (0x202a, 0x202e), (0x2060, 0x2064),
    (0x20d0, 0x20ff), (0xfe00, 0xfe0f), (0xfe20, 0xfe2f), (0xfeff, 0xfeff), (0xe0100, 0xe01ef)]

/-- The columns that a character takes. -/
def charWidth (c : Char) : Nat := if bareRanges.holds c then 0 else if wideRanges.holds c then 2 else 1

/-- The columns that a text takes. -/
def width : List Char → Nat
  | [] => 0
  | c :: rest => charWidth c + width rest

end ControlPlane.Text
