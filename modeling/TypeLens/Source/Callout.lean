import TypeLens.Diagnostic
import TypeLens.Source.Drawing

/-! A report drawn under its headline: the place, and the lines of the source with the extent of the
report marked in them. -/
namespace TypeLens.Source

structure Callout where
  severity : Severity
  headline : Text
  label : Text
  extent : Extent

namespace Callout

def headRows (callout : Callout) : List Row :=
  let name := callout.severity.name
  match (Text.displayable callout.headline).piecesAt '\n' with
  | [] => []
  | first :: more =>
    (styled .mark name ++ styled .emphasis (": " ++ first)) ::
      more.map fun line => styled .plain (List.replicate (name.length + 2) ' ') ++ styled .emphasis line

def placeRow (gutter : Nat) (path : Text) (start : Position) : Row :=
  styled .plain (List.replicate gutter ' ') ++ styled .gutter "--> " ++
    styled .plain (path ++ ":" ++ Text.ofNat (start.line + 1) ++ ":" ++ Text.ofNat (start.characters + 1))

def rows (source : Text) (path : Option Text) (callout : Callout) : List Row :=
  let lines := Line.split source
  let start := Position.ofByte lines callout.extent.start
  let stop := if callout.extent.start = callout.extent.stop then start
    else Position.ofByte lines callout.extent.stop
  let shown := Excerpt.ofPositions lines start stop
  let gutter := (Text.ofNat (Line.split (takeBytes callout.extent.stop source)).length).length
  let frame := Frame.ofShown gutter (start.line ≠ stop.line) (Text.width callout.label) shown
  callout.headRows ++ (path.map fun path => placeRow gutter path start).toList ++
    [frame.bar []] ++ frame.drawAll lines callout.label shown

def color (severity : Severity) : Style → Text
  | .plain => ""
  | .gutter => "\x1b[1m\x1b[94m"
  | .emphasis => "\x1b[1m"
  | .mark => match severity with
    | .info => "\x1b[1m\x1b[94m"
    | .warning => "\x1b[1m\x1b[33m"

def render (source : Text) (path : Option Text) (colored : Bool) (callout : Callout) : Text :=
  let sequence := if colored then color callout.severity else fun _ => []
  Text.joined "\n" ((callout.rows source path).map (Row.painted sequence))

end Callout
end TypeLens.Source

namespace TypeLens.Diagnostic

def callout (source : Text) (diagnostic : Diagnostic) : Source.Callout where
  severity := diagnostic.kind.severity
  headline := diagnostic.headline
  label := diagnostic.kind.label
  extent := .ofSpan source diagnostic.span

def printed (source path : Option Text) (colored : Bool) (diagnostics : List Diagnostic) : Text :=
  match source with
  | none => plain diagnostics
  | some source =>
    Text.joined "\n" (diagnostics.map fun diagnostic => (diagnostic.callout source).render source path colored)

end TypeLens.Diagnostic
