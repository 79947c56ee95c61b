import TypeLens.Site.Basic

/-! What is reported about a site: its type, or that its marker has no effect there. -/
namespace TypeLens

inductive Severity where
  | info | warning
  deriving DecidableEq

def Severity.name : Severity → Text
  | .info => "info"
  | .warning => "warning"

inductive DiagnosticKind where
  | trace | ignoredMarker
  deriving DecidableEq

namespace DiagnosticKind

def severity : DiagnosticKind → Severity
  | .trace => .info
  | .ignoredMarker => .warning

def title : DiagnosticKind → Text
  | .trace => "Trace"
  | .ignoredMarker => "IgnoredMarker"

def label : DiagnosticKind → Text
  | .trace => "type shown for this node"
  | .ignoredMarker => "not an assignment or return"

end DiagnosticKind

structure Diagnostic where
  kind : DiagnosticKind
  span : Span
  message : Text
  deriving DecidableEq

namespace Diagnostic

def isWarning (diagnostic : Diagnostic) : Bool := diagnostic.kind.severity = .warning

def body (diagnostic : Diagnostic) : Text := diagnostic.message.strip (· = '\n')

def isBlock (diagnostic : Diagnostic) : Bool := diagnostic.message.head? = some '\n'

def header (diagnostic : Diagnostic) : Text :=
  diagnostic.kind.severity.name ++ "[" ++ diagnostic.kind.title ++ "] at " ++ diagnostic.span.text ++ ":"

def display (diagnostic : Diagnostic) : Text :=
  diagnostic.header ++ (if diagnostic.isBlock then "\n" else " ") ++ diagnostic.body

def headline (diagnostic : Diagnostic) : Text :=
  diagnostic.kind.title ++ (if diagnostic.isBlock then "\n" else ": ") ++ diagnostic.body

def warningCount (diagnostics : List Diagnostic) : Nat := diagnostics.countP isWarning

def plain (diagnostics : List Diagnostic) : Text := Text.joined "\n" (diagnostics.map display)

end Diagnostic
end TypeLens
