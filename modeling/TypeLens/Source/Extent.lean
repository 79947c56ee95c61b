import TypeLens.Site.Basic

/-! Where a span lies in a source. A span may point anywhere, so it is cut to the source and
widened to whole characters, and to one character if it holds none. -/
namespace TypeLens.Source

def boundaryBelow : Text → Nat → Nat
  | [], _ => 0
  | c :: rest, byte => if byte < c.utf8Size then 0 else c.utf8Size + boundaryBelow rest (byte - c.utf8Size)

def boundaryAbove : Text → Nat → Nat
  | [], _ => 0
  | c :: rest, byte => if byte = 0 then 0 else c.utf8Size + boundaryAbove rest (byte - c.utf8Size)

def takeBytes : Nat → Text → Text
  | _, [] => []
  | bytes, c :: rest => if bytes < c.utf8Size then [] else c :: takeBytes (bytes - c.utf8Size) rest

structure Extent where
  start : Nat
  stop : Nat
  deriving DecidableEq

def Extent.ofSpan (source : Text) (span : Span) : Extent :=
  let start := boundaryBelow source span.start.toNat
  let stop := boundaryAbove source (max start span.stop.toNat)
  ⟨start, if stop = start then boundaryAbove source (start + 1) else stop⟩

end TypeLens.Source
