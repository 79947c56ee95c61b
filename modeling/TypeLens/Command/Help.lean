import TypeLens.Command.Parameter

/-! The help texts. -/
namespace TypeLens.Command

inductive Topic where
  | program | help
  | verb (verb : Verb)
  deriving DecidableEq

namespace Help

def program : Text := "showtype"

def helpName : Text := "help"

def programAbout : Text := "Render inferred static types as readable annotations"

def helpAbout : Text := "Print this message or the help of the given subcommand(s)"

def usage : Topic → Text
  | .program => program ++ " <COMMAND>"
  | .help => program ++ " help [COMMAND]..."
  | .verb .render => Text.joined "\n  "
    ["showtype render <TYPE>", "showtype render <TYPE> -c <FILE>", "showtype render - --inline"]
  | .verb .trace => Text.joined "\n  "
    ["showtype trace <SITES>", "showtype trace <SITES> -s <FILE> [-c <FILE>]"]

def usageOfHelp : Text := program ++ " " ++ Switch.help.display ++ " <COMMAND>"

def examples : Verb → List Text
  | .render =>
    ["showtype render type.json                  # framed rendering",
     "showtype render type.json -c classes.json  # short names, labeled generics",
     "echo '[\x7b\"kind\":\"opaque\",\"id\":\"int\"\x7d]' | showtype render - --inline"]
  | .trace =>
    ["showtype trace sites.json                   # plain diagnostics",
     "showtype trace sites.json -s src/app.php    # annotated source snippets",
     "showtype trace sites.json --marker @dump    # custom marker"]

def shortColumn : Option Char → Text
  | some letter => ['-', letter] ++ ", "
  | none => "    "

def shownDefault (value : Text) : Text := "[default: " ++ value ++ "]"

def settingAbout (setting : Setting) : Text :=
  Text.joined " " ([setting.about] ++
    (setting.initial.map shownDefault).toList ++
    (if setting.choices.isEmpty then [] else [possibleValues setting.choices]))

def table (title : Text) (entries : List (Text × Text)) : Text :=
  let width := ((entries.map fun entry => entry.1.length).max?).getD 0
  Text.joined "\n" ((title ++ ":") ::
    entries.map fun (name, about) => "  " ++ name ++ List.replicate (width - name.length) ' ' ++ "  " ++ about)

def switchEntry (switch : Switch) : Text × Text := (shortColumn switch.short ++ switch.display, switch.about)

def settingEntry (setting : Setting) : Text × Text :=
  (shortColumn setting.short ++ setting.display, settingAbout setting)

def parts : Topic → List Text
  | .program => [programAbout, "Usage: " ++ usage .program,
      table "Commands" ((Verb.all.map fun verb => (verb.name, verb.about)) ++ [(helpName, helpAbout)]),
      table "Options" [switchEntry .help]]
  | .help => [helpAbout, "Usage: " ++ usage .help,
      table "Arguments" [("[COMMAND]...", "Print help for the subcommand(s)")]]
  | .verb verb => [verb.about, "Usage: " ++ usage (.verb verb),
      table "Arguments" [("<" ++ verb.operand ++ ">", verb.operandAbout)],
      table "Options" (verb.settings.map settingEntry ++ verb.switches.map switchEntry),
      Text.joined "\n  " ("EXAMPLES:" :: examples verb)]

def text (topic : Topic) : Text := Text.joined "\n\n" (parts topic) ++ "\n"

end Help
end TypeLens.Command
