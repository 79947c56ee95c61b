import TypeLens.Text.Basic

/-! Keys of shape fields. An index and the name that spells it in decimal are one key; the
canonical form of a key is the index where there is one. -/
namespace TypeLens

inductive ShapeKey where
  | index (value : Int64)
  | name (text : Text)
  deriving DecidableEq

namespace ShapeKey

def display : ShapeKey → Text
  | .index value => Text.ofInt value.toInt
  | .name text => text

/-- The index that a text spells: it is read as a number, and taken if that number is written
as this very text. So signs, leading zeros and numbers beyond 64 bits spell no index. -/
def spelledIndex (text : Text) : Option Int64 :=
  let number : Int := match text with
    | '-' :: digits => -(Nat.ofDigitChars 10 digits 0 : Int)
    | digits => (Nat.ofDigitChars 10 digits 0 : Int)
  let value := Int64.ofInt number
  if Text.ofInt value.toInt = text then some value else none

def canonical : ShapeKey → ShapeKey
  | .index value => .index value
  | .name text => match spelledIndex text with
    | some value => .index value
    | none => .name text

end ShapeKey
end TypeLens
