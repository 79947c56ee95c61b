import TypeLens.Model.Basic

/-! Sites: the places of a source whose types have been inferred. -/
namespace TypeLens

structure Span where
  start : UInt64
  stop : UInt64
  deriving DecidableEq

def Span.isEmpty (span : Span) : Bool := span.stop ≤ span.start

def Span.text (span : Span) : Text :=
  Text.ofNat span.start.toNat ++ ".." ++ Text.ofNat span.stop.toNat

inductive SiteKind where
  | assign | returned | other
  deriving DecidableEq

namespace SiteKind

def tag : SiteKind → Text
  | .assign => "assign"
  | .returned => "return"
  | .other => "other"

def ofText (tag : Text) : SiteKind :=
  if tag = SiteKind.assign.tag then .assign
  else if tag = SiteKind.returned.tag then .returned
  else .other

def isInspectable : SiteKind → Bool
  | .assign => true
  | .returned => true
  | .other => false

end SiteKind

structure Site where
  kind : SiteKind
  docComment : Option Text
  span : Span
  type : Option TypeUnion

end TypeLens
