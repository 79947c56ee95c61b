import TypeLens.Command.Help
import TypeLens.Command.Similar
import TypeLens.Text.Plain

/-! Command lines that cannot be understood, and what is said about them. -/
namespace TypeLens.Command

inductive Misuse where
  | unknownCommand (word : Text)
  | unknownTopic (word : Text)
  | commandBehindDashes (word : Text)
  | unknownLong (name : Text)
  | longBeforeCommand (name : Text) (words : List Text)
  | unknownShort (letter : Char)
  | surplus (word : Text)
  | noOperand (verb : Verb)
  | noValue (argument : Argument)
  | unknownColor (value : Text)
  | repeatedSetting (setting : Setting)
  | repeatedSwitch (switch : Switch)
  | valueForSwitch (switch : Switch) (value : Text)
  deriving DecidableEq

structure UsageError where
  topic : Topic
  misuse : Misuse
  deriving DecidableEq

namespace UsageError

def commandNames : List Text := Verb.all.map (·.name) ++ [Help.helpName]

def quoted (text : Text) : Text := "'" ++ text.plain ++ "'"

def message : Misuse → List Text
  | .unknownCommand word => ["unrecognized subcommand " ++ quoted word]
  | .unknownTopic word => ["unrecognized subcommand " ++ quoted word]
  | .commandBehindDashes word => ["unexpected argument " ++ quoted word ++ " found"]
  | .unknownLong name => ["unexpected argument " ++ quoted ("--" ++ name) ++ " found"]
  | .longBeforeCommand name _ => ["unexpected argument " ++ quoted ("--" ++ name) ++ " found"]
  | .unknownShort letter => ["unexpected argument " ++ quoted ['-', letter] ++ " found"]
  | .surplus word => ["unexpected argument " ++ quoted word ++ " found"]
  | .noOperand verb =>
    ["the following required arguments were not provided:", "  " ++ (Argument.operand verb).display]
  | .noValue wanted =>
    ("a value is required for " ++ quoted wanted.display ++ " but none was supplied") ::
      match wanted with
      | .setting .color => ["  " ++ possibleValues Setting.color.choices]
      | _ => []
  | .unknownColor value =>
    ["invalid value " ++ quoted value ++ " for " ++ quoted Setting.color.display,
      "  " ++ possibleValues Setting.color.choices]
  | .repeatedSetting setting => ["the argument " ++ quoted setting.display ++ " cannot be used multiple times"]
  | .repeatedSwitch switch => ["the argument " ++ quoted switch.display ++ " cannot be used multiple times"]
  | .valueForSwitch switch value =>
    ["unexpected value " ++ quoted value ++ " for " ++ quoted switch.display ++ " found; no more were expected"]

def similarCommand : List Text → Option Text
  | [] => none
  | [name] => some ("a similar subcommand exists: " ++ quoted name)
  | names => some ("some similar subcommands exist: " ++ Text.joined ", " (names.map quoted))

def asValue (option : Text) : Text := "to pass " ++ quoted option ++ " as a value, use " ++ quoted ("-- " ++ option)

def similarOption (name : Text) : Text := "a similar argument exists: " ++ quoted ("--" ++ name)

def meansHelp (name : Text) : Bool := (mostSimilar name [Switch.help.long]).isSome

def commandWith (name : Text) (words : List Text) : Option (Verb × Text) :=
  words.findSome? fun word => do
    let verb ← Verb.ofText? word
    let near ← mostSimilar name verb.longNames
    some (verb, near)

def tip : Topic → Misuse → Option Text
  | .program, .unknownCommand word => similarCommand (similarWords word commandNames)
  | .program, .commandBehindDashes word =>
    some ("subcommand " ++ quoted word ++ " exists; to use it, remove the '--' before it")
  | .program, .longBeforeCommand name words =>
    if meansHelp name then some (similarOption Switch.help.long)
    else (commandWith name words).map fun (verb, near) => quoted (verb.name ++ " --" ++ near) ++ " exists"
  | .verb verb, .unknownLong name =>
    match mostSimilar name verb.longNames with
    | some near => some (similarOption near)
    | none => some (asValue ("--" ++ name))
  | .verb _, .unknownShort letter => some (asValue ['-', letter])
  | _, .unknownColor value =>
    (mostSimilar value Setting.color.choices).map fun near => "a similar value exists: " ++ quoted near
  | _, _ => none

def usage : Topic → Misuse → Text
  | .program, .longBeforeCommand name _ => if meansHelp name then Help.usageOfHelp else Help.usage .program
  | .program, .valueForSwitch .help _ => Help.usageOfHelp
  | topic, _ => Help.usage topic

def showsUsage : Misuse → Bool
  | .noValue _ => false
  | .unknownColor _ => false
  | _ => true

def pointer : Topic → List Text
  | .help => []
  | _ => ["For more information, try '--help'."]

def text (error : UsageError) : Text :=
  Text.joined "\n\n"
    (("error: " ++ Text.joined "\n" (message error.misuse)) ::
      ((tip error.topic error.misuse).map (("  tip: " : Text) ++ ·)).toList ++
      (if showsUsage error.misuse then ["Usage: " ++ usage error.topic error.misuse] else []) ++
      pointer error.topic) ++ "\n"

end UsageError
end TypeLens.Command
