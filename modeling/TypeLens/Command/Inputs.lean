import TypeLens.Model.Reader
import TypeLens.Site.Document

/-! The inputs of a command: files by their paths, and standard input under the name of a dash. -/
namespace TypeLens.Command

inductive ReadFault where
  | system (description : Text) (number : Nat)
  | notUnicode
  deriving DecidableEq

namespace ReadFault

def notFound : ReadFault := .system "No such file or directory" 2

def notDirectory : ReadFault := .system "Not a directory" 20

def isDirectory : ReadFault := .system "Is a directory" 21

def message : ReadFault → Text
  | .system description number => description ++ " (os error " ++ Text.ofNat number ++ ")"
  | .notUnicode => "stream did not contain valid UTF-8"

end ReadFault

abbrev Content := Except ReadFault ByteArray

structure Inputs where
  file : Text → Content
  standard : Content

def dash : Text := "-"

def shownName (path : Text) : Text := if path = dash then "<stdin>" else path

inductive LoadError where
  | unreadable (path : Text) (fault : ReadFault)
  | undecodable (path : Text) (error : Json.ReadError)
  deriving DecidableEq

def LoadError.message : LoadError → Text
  | .unreadable path fault => "failed to read '" ++ shownName path ++ "': " ++ fault.message
  | .undecodable path error => "invalid JSON in '" ++ shownName path ++ "': " ++ error.message

namespace Inputs

def textOf (content : Content) : Except ReadFault Text := do
  match String.fromUTF8? (← content) with
  | some text => .ok text.toList
  | none => .error .notUnicode

def read (inputs : Inputs) (path : Text) : Except LoadError (Text × Inputs) :=
  if path = dash then do
    .ok (← (textOf inputs.standard).mapError (.unreadable path), { inputs with standard := .ok .empty })
  else do
    .ok (← (textOf (inputs.file path)).mapError (.unreadable path), inputs)

def load {α : Type} (inputs : Inputs) (decode : Text → Except Json.ReadError α) (path : Text) :
    Except LoadError (α × Inputs) := do
  let (text, inputs) ← inputs.read path
  .ok (← (decode text).mapError (.undecodable path), inputs)

def loadCatalog (inputs : Inputs) : Option Text → Except LoadError (Catalog × Inputs)
  | none => .ok (.empty, inputs)
  | some path => inputs.load Catalog.decode path

def readSource (inputs : Inputs) : Option Text → Except LoadError (Option Text × Inputs)
  | none => .ok (none, inputs)
  | some path => do
    let (text, inputs) ← inputs.read path
    .ok (some text, inputs)

end Inputs
end TypeLens.Command
