import TypeLens.Probe

/-! What can be said on a command line: the verbs, the operand of each, and their options. A setting
takes a value, a switch takes none. -/
namespace TypeLens.Command

inductive Verb where
  | render | trace
  deriving DecidableEq

inductive Setting where
  | catalog | source | marker | color
  deriving DecidableEq

inductive Switch where
  | inline | help
  deriving DecidableEq

inductive Argument where
  | operand (verb : Verb)
  | setting (setting : Setting)
  deriving DecidableEq

inductive ColorChoice where
  | auto | always | never
  deriving DecidableEq

namespace ColorChoice

def all : List ColorChoice := [.auto, .always, .never]

def name : ColorChoice → Text
  | .auto => "auto"
  | .always => "always"
  | .never => "never"

def ofText? (text : Text) : Option ColorChoice := all.find? (·.name = text)

end ColorChoice

namespace Setting

def long : Setting → Text
  | .catalog => "catalog"
  | .source => "source"
  | .marker => "marker"
  | .color => "color"

def short : Setting → Option Char
  | .catalog => some 'c'
  | .source => some 's'
  | _ => none

def placeholder : Setting → Text
  | .catalog => "FILE"
  | .source => "FILE"
  | .marker => "TEXT"
  | .color => "WHEN"

def choices : Setting → List Text
  | .color => ColorChoice.all.map (·.name)
  | _ => []

def initial : Setting → Option Text
  | .marker => some Probe.defaultMarker
  | .color => some ColorChoice.auto.name
  | _ => none

def about : Setting → Text
  | .catalog => "JSON class catalog used to shorten names and label generics"
  | .source => "Source file to annotate"
  | .marker => "Marker that requests a trace in a documentation comment"
  | .color => "Colorize output"

def display (setting : Setting) : Text := "--" ++ setting.long ++ " <" ++ setting.placeholder ++ ">"

end Setting

namespace Switch

def long : Switch → Text
  | .inline => "inline"
  | .help => "help"

def short : Switch → Option Char
  | .inline => none
  | .help => some 'h'

def about : Switch → Text
  | .inline => "Print the bare rendering without surrounding blank lines"
  | .help => "Print help"

def display (switch : Switch) : Text := "--" ++ switch.long

end Switch

namespace Verb

def all : List Verb := [.render, .trace]

def name : Verb → Text
  | .render => "render"
  | .trace => "trace"

def ofText? (text : Text) : Option Verb := all.find? (·.name = text)

def about : Verb → Text
  | .render => "Render a JSON type union"
  | .trace => "Report the types of sites marked with @show-type"

def operand : Verb → Text
  | .render => "TYPE"
  | .trace => "SITES"

def operandAbout : Verb → Text
  | .render => "JSON file holding a type union ('-' for stdin)"
  | .trace => "JSON file holding the analyzed sites ('-' for stdin)"

def settings : Verb → List Setting
  | .render => [.catalog]
  | .trace => [.catalog, .source, .marker, .color]

def switches : Verb → List Switch
  | .render => [.inline, .help]
  | .trace => [.help]

def longNames (verb : Verb) : List Text := verb.settings.map (·.long) ++ verb.switches.map (·.long)

end Verb

def Argument.display : Argument → Text
  | .operand verb => "<" ++ verb.operand ++ ">"
  | .setting named => named.display

def possibleValues (choices : List Text) : Text := "[possible values: " ++ Text.joined ", " choices ++ "]"

end TypeLens.Command
