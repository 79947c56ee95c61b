import TypeLens.Command.Misuse

/-! Reading a command line. A value that stands in a word of its own is only checked when the next
option is met, or the next operand, or the end; so a word that is out of place is told before. -/
namespace TypeLens.Command

structure RenderRequest where
  type : Text
  catalog : Option Text
  inline : Bool
  deriving DecidableEq

structure TraceRequest where
  sites : Text
  catalog : Option Text
  source : Option Text
  marker : Text
  color : ColorChoice
  deriving DecidableEq

inductive Request where
  | render (request : RenderRequest)
  | trace (request : TraceRequest)
  deriving DecidableEq

inductive Order where
  | perform (request : Request)
  | help (topic : Topic)
  | nothing
  | misuse (error : UsageError)
  deriving DecidableEq

inductive Word where
  | dashes
  | long (name : Text) (value : Option Text)
  | short (letter : Char) (rest : Text)
  | plain (word : Text)
  deriving DecidableEq

def afterEquals (text : Text) : Option Text :=
  match text.dropWhile (· ≠ '=') with
  | [] => none
  | _ :: value => some value

def Word.of : Text → Word
  | ['-', '-'] => .dashes
  | '-' :: '-' :: text => .long (text.takeWhile (· ≠ '=')) (afterEquals text)
  | '-' :: letter :: rest => .short letter rest
  | word => .plain word

structure Given where
  operand : Option Text
  catalog : Option Text
  source : Option Text
  marker : Option Text
  color : Option ColorChoice
  inline : Bool
  deriving DecidableEq

namespace Given

def nothing : Given := ⟨none, none, none, none, none, false⟩

def has (given : Given) : Argument → Bool
  | .operand _ => given.operand.isSome
  | .setting .catalog => given.catalog.isSome
  | .setting .source => given.source.isSome
  | .setting .marker => given.marker.isSome
  | .setting .color => given.color.isSome

def check (given : Given) (argument : Argument) (value : Text) : Except Misuse Given :=
  if argument ≠ .setting .marker ∧ value = [] then .error (.noValue argument)
  else match argument with
    | .operand _ => .ok { given with operand := some value }
    | .setting .catalog => .ok { given with catalog := some value }
    | .setting .source => .ok { given with source := some value }
    | .setting .marker => .ok { given with marker := some value }
    | .setting .color => match ColorChoice.ofText? value with
      | some choice => .ok { given with color := some choice }
      | none => .error (.unknownColor value)

def put (given : Given) (argument : Argument) (value : Option Text) : Except Misuse Given :=
  match value, argument with
  | none, _ => .error (.noValue argument)
  | some value, .setting setting =>
    if given.has argument then .error (.repeatedSetting setting) else given.check argument value
  | some value, .operand _ => given.check argument value

end Given

structure Progress where
  given : Given
  pending : Option (Argument × Option Text)
  deriving DecidableEq

namespace Progress

def start : Progress := ⟨.nothing, none⟩

def settle (progress : Progress) : Except Misuse Given :=
  match progress.pending with
  | none => .ok progress.given
  | some (argument, value) => progress.given.put argument value

def hasOperand (verb : Verb) (progress : Progress) : Bool :=
  progress.given.operand.isSome || progress.pending.map (·.1) = some (.operand verb)

def takeOperand (verb : Verb) (progress : Progress) (word : Text) : Except Misuse Progress :=
  if progress.hasOperand verb then .error (.surplus word)
  else do .ok ⟨← progress.settle, some (.operand verb, some word)⟩

def takePlain (verb : Verb) (progress : Progress) (word : Text) : Except Misuse Progress :=
  match progress.pending with
  | some (argument, none) => .ok ⟨progress.given, some (argument, some word)⟩
  | _ => progress.takeOperand verb word

def takeSetting (progress : Progress) (setting : Setting) (value : Option Text) : Except Misuse Progress := do
  let given ← progress.settle
  match value with
  | none => .ok ⟨given, some (.setting setting, none)⟩
  | some value => .ok ⟨← given.put (.setting setting) (some value), none⟩

def shortValue : Text → Option Text
  | [] => none
  | '=' :: value => some value
  | value => some value

end Progress

inductive Halt where
  | help
  | misuse (misuse : Misuse)
  deriving DecidableEq

namespace Halt

def order (topic : Topic) : Halt → Order
  | .help => .help topic
  | .misuse what => .misuse ⟨topic, what⟩

def ofMisuse {α : Type} (result : Except Misuse α) : Except Halt α := result.mapError .misuse

end Halt

namespace Verb

open Progress

def takeSwitch (progress : Progress) : Switch → Except Halt Progress
  | .help => do
    let _ ← Halt.ofMisuse progress.settle
    .error .help
  | .inline => do
    let given ← Halt.ofMisuse progress.settle
    if given.inline then .error (.misuse (.repeatedSwitch .inline))
    else .ok ⟨{ given with inline := true }, none⟩

def takeLong (verb : Verb) (progress : Progress) (name : Text) (value : Option Text) : Except Halt Progress :=
  match verb.settings.find? (·.long = name), verb.switches.find? (·.long = name), value with
  | some setting, _, value => Halt.ofMisuse (progress.takeSetting setting value)
  | none, some switch, none => takeSwitch progress switch
  | none, some switch, some value => .error (.misuse (.valueForSwitch switch value))
  | none, none, _ => .error (.misuse (.unknownLong name))

def takeShort (verb : Verb) (progress : Progress) (letter : Char) (rest : Text) : Except Halt Progress :=
  match verb.settings.find? (·.short = some letter), verb.switches.find? (·.short = some letter) with
  | some setting, _ => Halt.ofMisuse (progress.takeSetting setting (shortValue rest))
  | none, some switch => takeSwitch progress switch
  | none, none => .error (.misuse (.unknownShort letter))

def readOperands (verb : Verb) (progress : Progress) : List Text → Except Halt Progress
  | [] => .ok progress
  | word :: words => do readOperands verb (← Halt.ofMisuse (progress.takeOperand verb word)) words

def readWords (verb : Verb) (progress : Progress) : List Text → Except Halt Progress
  | [] => .ok progress
  | word :: words => match Word.of word with
    | .dashes => readOperands verb progress words
    | .long name value => do readWords verb (← takeLong verb progress name value) words
    | .short letter rest => do readWords verb (← takeShort verb progress letter rest) words
    | .plain word => do readWords verb (← Halt.ofMisuse (progress.takePlain verb word)) words

def request (given : Given) (operand : Text) : Verb → Request
  | .render => .render ⟨operand, given.catalog, given.inline⟩
  | .trace => .trace
    ⟨operand, given.catalog, given.source, given.marker.getD Probe.defaultMarker, given.color.getD .auto⟩

def read (verb : Verb) (words : List Text) : Except Halt Request := do
  let progress ← readWords verb .start words
  let given ← Halt.ofMisuse progress.settle
  match given.operand with
  | none => .error (.misuse (.noOperand verb))
  | some operand => .ok (verb.request given operand)

end Verb

namespace Order

def ofVerb (verb : Verb) (words : List Text) : Order :=
  match verb.read words with
  | .ok request => .perform request
  | .error halt => halt.order (.verb verb)

def ofHelp : List Text → Order
  | [] => .help .program
  | word :: words =>
    let topic := if word = Help.helpName then some Topic.help else (Verb.ofText? word).map .verb
    match topic, words with
    | none, _ => .misuse ⟨.program, .unknownTopic word⟩
    | some topic, [] => .help topic
    | some topic, next :: _ => .misuse ⟨topic, .unknownTopic next⟩

def ofOperands : List Text → Order
  | [] => .nothing
  | word :: _ =>
    if word ∈ UsageError.commandNames then .misuse ⟨.program, .commandBehindDashes word⟩
    else .misuse ⟨.program, .unknownCommand word⟩

def read : List Text → Order
  | [] => .nothing
  | word :: words => match Word.of word with
    | .dashes => ofOperands words
    | .long name none =>
      if name = Switch.help.long then .help .program else .misuse ⟨.program, .longBeforeCommand name words⟩
    | .long name (some value) =>
      if name = Switch.help.long then .misuse ⟨.program, .valueForSwitch .help value⟩
      else .misuse ⟨.program, .longBeforeCommand name words⟩
    | .short letter _ =>
      if Switch.help.short = some letter then .help .program else .misuse ⟨.program, .unknownShort letter⟩
    | .plain word =>
      if word = Help.helpName then ofHelp words
      else match Verb.ofText? word with
        | some verb => ofVerb verb words
        | none => .misuse ⟨.program, .unknownCommand word⟩

end Order
end TypeLens.Command
