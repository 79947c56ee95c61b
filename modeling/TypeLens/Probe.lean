import TypeLens.Diagnostic
import TypeLens.Rendering

/-! The probe looks at sites whose comments ask for it by a marker. -/
namespace TypeLens

structure Probe where
  lookup : Lookup
  marker : Text

namespace Probe

def defaultMarker : Text := "@show-type"

def hasMarker (marker : Text) : Option Text → Bool
  | none => false
  | some comment => !marker.isEmpty && marker.occursIn comment

def isMarked (probe : Probe) (site : Site) : Bool := hasMarker probe.marker site.docComment

def ignoredMessage (marker : Text) : Text :=
  "`" ++ marker ++ "` only applies to assignments and return statements"

def unknownMessage : Text := "Unable to determine type"

def typeMessage (lookup : Lookup) : Option TypeUnion → Text
  | some type => type.framed lookup
  | none => unknownMessage

def inspect (probe : Probe) (site : Site) : Option Diagnostic :=
  if probe.isMarked site then
    if site.kind.isInspectable then some ⟨.trace, site.span, typeMessage probe.lookup site.type⟩
    else some ⟨.ignoredMarker, site.span, ignoredMessage probe.marker⟩
  else none

def inspectAll (probe : Probe) (sites : List Site) : List Diagnostic := sites.filterMap probe.inspect

end Probe
end TypeLens
