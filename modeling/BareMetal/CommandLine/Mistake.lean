import BareMetal.Settings.Flag
import BareMetal.Text.Terminal

/-!
What can be wrong with a command line, and how the user is told.

* `Command`: the commands of the program;
* `Usage`: the line that shows how a command is used;
* `Misuse`, `Tip`: what is wrong, and what to try instead;
* `Mistake`, `Mistake.text`: a misuse with all that is said about it.
-/

namespace BareMetal

/-- The name of the program. -/
def programName : String := "metalclass-operator"

/-- The commands of the program. -/
inductive Command where
  /-- Prints the manifests of the definitions. -/
  | crds
  /-- Runs the operator. -/
  | run
  /-- Explains the program or a command. -/
  | help
  deriving DecidableEq

namespace Command

/-- All commands in the order in which they are listed. -/
def all : List Command := [.crds, .run, .help]

/-- The name of a command. -/
def name : Command → String
  | .crds => "crds"
  | .run => "run"
  | .help => "help"

/-- The command of a name. -/
def ofName? (s : String) : Option Command :=
  all.find? (fun c => c.name = s)

/-- What a command does. -/
def about : Command → String
  | .crds => "Print CRD manifests to stdout"
  | .run => "Run the operator"
  | .help => "Print this message or the help of the given subcommand(s)"

/-- The flags of a command. -/
def flags : Option Command → List Flag
  | some .run => Flag.all
  | _ => []

/-- Whether a command, or the program itself, has a flag that asks for help. -/
def offersHelp (c : Option Command) : Bool :=
  c != some .help

/-- The names of the flags that a command knows, the one that asks for help among them. -/
def flagNames (c : Option Command) : List String :=
  (flags c).map Flag.name ++ (if offersHelp c then ["help"] else [])

/-- The commands that can follow: they follow the program itself and nothing else. -/
def following : Option Command → List Command
  | none => all
  | some _ => []

end Command

/-- What a usage can show in particular. -/
inductive UsagePart where
  /-- A flag with a value. -/
  | flag (f : Flag)
  /-- The flag that asks for help. -/
  | help
  /-- The flags with values, as what to choose from. -/
  | choice

/-- The line that shows how a command, or the program itself, is used. -/
structure Usage where
  /-- The command, if one is reached. -/
  command : Option Command
  /-- What is to be shown in particular, in order. -/
  parts : List UsagePart := []

namespace Usage

/-- What follows the command when nothing in particular is to be shown. -/
def rest : Option Command → String
  | none => " <COMMAND>"
  | some .crds => ""
  | some .run => " [OPTIONS]"
  | some .help => " [COMMAND]..."

/-- A part of a usage. -/
def partText (c : Option Command) : UsagePart → String
  | .flag f => " " ++ f.text
  | .help => " --help"
  | .choice => " <" ++ "|".intercalate ((Command.flags c).map Flag.text) ++ ">"

/-- What follows the command when something in particular is to be shown. -/
def particular (u : Usage) : String :=
  String.join (u.parts.map (partText u.command)) ++
    (if u.command.isNone then " <COMMAND>" else "")

/-- The line. -/
def text (u : Usage) : String :=
  "Usage: " ++ programName ++ ((u.command.map (fun c => " " ++ c.name)).getD "") ++
    (if u.parts.isEmpty then rest u.command else u.particular)

end Usage

/-- What is wrong. -/
inductive Misuse where
  /-- Nothing like this can stand here. -/
  | unexpected (argument : String)
  /-- This is not a command. -/
  | unrecognized (command : String)
  /-- A flag was given twice. -/
  | repeated (flag : Flag)
  /-- A flag was given without a value. -/
  | valueMissing (flag : Flag)
  /-- A flag was given with a wrong value. -/
  | valueWrong (flag : Flag) (value : String) (problem : ValueProblem)
  /-- The flag that asks for help was given with a value. -/
  | valueUnneeded (value : String)

namespace Misuse

/-- The words that a value is chosen from, on a line of their own. -/
def choicesText (f : Flag) : String :=
  if f.choices.isEmpty then ""
  else "\n  [possible values: " ++ ", ".intercalate f.choices ++ "]"

/-- What the user has written, as far as it can be printed, in quotes. -/
def quote (s : String) : String :=
  "'" ++ Text.printable s ++ "'"

/-- The misuse in words. -/
def text : Misuse → String
  | .unexpected a => "unexpected argument " ++ quote a ++ " found"
  | .unrecognized c => "unrecognized subcommand " ++ quote c
  | .repeated f => "the argument '" ++ f.text ++ "' cannot be used multiple times"
  | .valueMissing f =>
    "a value is required for '" ++ f.text ++ "' but none was supplied" ++ choicesText f
  | .valueWrong f value .choice =>
    (if value.isEmpty then "a value is required for '" ++ f.text ++ "' but none was supplied"
      else "invalid value " ++ quote value ++ " for '" ++ f.text ++ "'") ++ choicesText f
  | .valueWrong f value problem =>
    "invalid value " ++ quote value ++ " for '" ++ f.text ++ "': " ++ problem.message
  | .valueUnneeded value =>
    "unexpected value " ++ quote value ++ " for '--help' found; no more were expected"

end Misuse

/-- What to try instead. -/
inductive Tip where
  /-- Another flag. -/
  | flag (name : String)
  /-- Another value. -/
  | value (text : String)
  /-- Other commands. -/
  | commands (names : List String)
  /-- A flag of a command that comes later. -/
  | flagOf (command : Command) (name : String)
  /-- The command without the dashes before it. -/
  | withoutDashes (command : String)

namespace Tip

/-- The tip in words. -/
def text : Tip → String
  | .flag name => "a similar argument exists: '--" ++ name ++ "'"
  | .value v => "a similar value exists: '" ++ v ++ "'"
  | .commands names =>
    (if names.length = 1 then "a similar subcommand exists: "
      else "some similar subcommands exist: ") ++
      ", ".intercalate (names.map (fun n => "'" ++ n ++ "'"))
  | .flagOf command name => "'" ++ command.name ++ " --" ++ name ++ "' exists"
  | .withoutDashes command =>
    "subcommand '" ++ command ++ "' exists; to use it, remove the '--' before it"

end Tip

/-- A misuse with all that is said about it. -/
structure Mistake where
  /-- What is wrong. -/
  misuse : Misuse
  /-- What to try instead. -/
  tip : Option Tip := none
  /-- How the command is used. -/
  usage : Option Usage := none
  /-- Whether the user can ask for help there. -/
  offersHelp : Bool := true

namespace Mistake

/-- All that the user is told. -/
def text (m : Mistake) : String :=
  "error: " ++ m.misuse.text ++
    ((m.tip.map (fun t => "\n\n  tip: " ++ t.text)).getD "") ++
    ((m.usage.map (fun u => "\n\n" ++ u.text)).getD "") ++
    (if m.offersHelp then "\n\nFor more information, try '--help'.\n" else "\n")

end Mistake

end BareMetal
