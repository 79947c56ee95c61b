import TypeLens.Text.Alphanumeric
import TypeLens.Text.LowerCase

/-! Class identifiers: the short name that is shown for one, and the normal form under which
all its spellings are known. -/
namespace TypeLens.ClassName

def short (id : Text) : Text :=
  let tail := (id.reverse.takeWhile Text.isIdentifier).reverse
  if tail.isEmpty then id else tail

def normalForm (id : Text) : Text := Text.lower (id.dropWhile (· == '\\'))

end TypeLens.ClassName
