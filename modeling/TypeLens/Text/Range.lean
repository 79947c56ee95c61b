import TypeLens.Text.Basic

/-! Classes of characters as closed ranges of code points, ascending and apart.
The tables of this folder follow Unicode 17. -/
namespace TypeLens.Text

def inRanges (ranges : List (Nat × Nat)) (c : Char) : Bool :=
  ranges.any fun range => range.1 ≤ c.toNat && c.toNat ≤ range.2

end TypeLens.Text
