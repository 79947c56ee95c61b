import TypeLens.Command.Arguments
import TypeLens.Command.Inputs
import TypeLens.Source.Callout

/-! What a command prints. Every input is read and decoded before anything is printed. It is assumed of what is
outside that no variable of the environment asks for a log, which would stand beside the errors, that standard
output is no terminal, so that the choice `auto` means no colors, and that each word of the command line is
valid Unicode. -/
namespace TypeLens.Command

structure Output where
  status : Nat
  standard : Text
  error : Text
  deriving DecidableEq

def ColorChoice.colored : ColorChoice → Bool
  | .always => true
  | _ => false

def RenderRequest.result (request : RenderRequest) (inputs : Inputs) : Except LoadError Text := do
  let (type, inputs) ← inputs.load TypeUnion.decode request.type
  let (catalog, _) ← inputs.loadCatalog request.catalog
  .ok (if request.inline then type.render catalog.resolve 1 ++ "\n" else type.framed catalog.resolve)

def TraceRequest.result (request : TraceRequest) (inputs : Inputs) : Except LoadError Text := do
  let (document, inputs) ← inputs.load TraceInput.decode request.sites
  let (catalog, inputs) ← inputs.loadCatalog request.catalog
  let (source, _) ← inputs.readSource request.source
  let reports := (Probe.mk catalog.resolve request.marker).inspectAll document.sites
  let text := Diagnostic.printed source (document.path <|> request.source) request.color.colored reports
  .ok (if text.isEmpty then text else text ++ "\n")

namespace Request

def result (inputs : Inputs) : Request → Except LoadError Text
  | .render request => request.result inputs
  | .trace request => request.result inputs

def run (inputs : Inputs) (request : Request) : Output :=
  match request.result inputs with
  | .ok text => ⟨0, text, []⟩
  | .error error => ⟨1, [], "error: " ++ error.message ++ "\n"⟩

def paths : Request → List Text
  | .render request => request.type :: request.catalog.toList
  | .trace request => request.sites :: (request.catalog.toList ++ request.source.toList)

end Request

def Order.run (inputs : Inputs) : Order → Output
  | .perform request => request.run inputs
  | .help topic => ⟨0, Help.text topic, []⟩
  | .nothing => ⟨2, [], Help.text .program⟩
  | .misuse error => ⟨2, [], error.text⟩

def run (inputs : Inputs) (words : List Text) : Output := (Order.read words).run inputs

end TypeLens.Command
