import TypeLens.Text.Range

/-! Blank characters: the property White_Space. A zero-width space and a byte order mark
are no blanks. -/
namespace TypeLens.Text

def blankRanges : List (Nat × Nat) :=
  [(0x9, 0xD), (0x20, 0x20), (0x85, 0x85), (0xA0, 0xA0), (0x1680, 0x1680), (0x2000, 0x200A),
   (0x2028, 0x2029), (0x202F, 0x202F), (0x205F, 0x205F), (0x3000, 0x3000)]

def isBlank (c : Char) : Bool := inRanges blankRanges c

def trim (text : Text) : Text := strip isBlank text

end TypeLens.Text
