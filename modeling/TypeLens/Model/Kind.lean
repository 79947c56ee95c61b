import TypeLens.Text.Basic

/-! The kinds of atomic types, as they are named in documents. -/
namespace TypeLens

inductive Kind where
  | list | array | iterable | closure | callable | classString | named | shape | templateParam | plain
  deriving DecidableEq

namespace Kind

def all : List Kind :=
  [.list, .array, .iterable, .closure, .callable, .classString, .named, .shape, .templateParam, .plain]

def tag : Kind → Text
  | .list => "list"
  | .array => "array"
  | .iterable => "iterable"
  | .closure => "closure"
  | .callable => "callable"
  | .classString => "class-string"
  | .named => "named"
  | .shape => "shape"
  | .templateParam => "template-param"
  | .plain => "opaque"

def ofTag? (tag : Text) : Option Kind := all.find? (·.tag = tag)

theorem ofTagTag (kind : Kind) : ofTag? kind.tag = some kind := by cases kind <;> rfl

end Kind
end TypeLens
