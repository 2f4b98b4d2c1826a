import BareMetal.CommandLine.Invocation

/-!
The help that the program prints, and how it ends when a command line is not read.

* `Command.helpText`: the help on a command, or on the program itself;
* `Ending`: what is printed, and the number that the program ends with;
* `Stop.ending`: how the program ends when reading its command line ended early.
-/

namespace BareMetal

/-- What the program does. -/
def programAbout : String :=
  "Kubernetes operator matching bare-metal machines against hardware classes"

namespace Flag

/-- What a flag does. -/
def about : Flag → String
  | .concurrency => "Maximum number of classes reconciled concurrently"
  | .storeTimeout => "Deadline for each Kubernetes API call made during a reconcile"
  | .resync => "Interval after which every class is reconciled again"
  | .errorRequeue => "Requeue delay after a failed reconcile"
  | .conflictRequeue => "Requeue delay after a status write lost an update race"
  | .metricsAddress => "Address for the Prometheus metrics endpoint (disabled when unset)"
  | .logFormat => "Log output format"

/-- How far the help on a flag is moved to the right. -/
def indentation : String := "          "

/-- A text in which all lines but the first are moved to the right. -/
def indent (s : String) : String :=
  String.ofList (s.toList.flatMap (fun c => if c = '\n' then c :: indentation.toList else [c]))

/-- The help on a flag: its variable with the value it has, the value that holds otherwise, and the
values to choose from. -/
def help (env : Environment) (f : Flag) : String :=
  f.about ++ " [env: " ++ f.variableName ++ "=" ++ (env f.variableName).getD "" ++ "]" ++
    (((f.value {}).map (fun v => " [default: " ++ v ++ "]")).getD "") ++
    (if f.choices.isEmpty then ""
      else " [possible values: " ++ ", ".intercalate f.choices ++ "]")

/-- The space in front of a flag with a value. -/
def margin : String := "      "

/-- The help on flags from the first one on, and on the one that asks for help. What does not show in
the value of a variable can take along what follows it, up to the next flag. -/
def listHelp (env : Environment) : List Flag → String
  | [] => "-h, --help\n" ++ indentation ++ "Print help\n"
  | f :: fs =>
    let next := if fs.isEmpty then "  " else margin
    f.text ++ Text.printable ("\n" ++ indentation ++ indent (help env f) ++ "\n" ++ next) ++
      listHelp env fs

end Flag

namespace Command

/-- A command in the list of all commands. -/
def line (c : Command) : String :=
  "  " ++ c.name ++ String.ofList (List.replicate (6 - c.name.length) ' ') ++ c.about ++ "\n"

/-- What can be given to a command, each on lines of its own. -/
def parts (env : Environment) : Option Command → String
  | none =>
    "\nCommands:\n" ++ String.join (all.map line) ++ "\nOptions:\n  -h, --help  Print help\n"
  | some .crds => "\nOptions:\n  -h, --help  Print help\n"
  | some .run => "\nOptions:\n" ++ Flag.margin ++ Flag.listHelp env Flag.all
  | some .help => "\nArguments:\n  [COMMAND]...  Print help for the subcommand(s)\n"

/-- The help on a command, or on the program itself. -/
def helpText (env : Environment) (c : Option Command) : String :=
  (c.map about).getD programAbout ++ "\n\n" ++ Usage.text { command := c } ++ "\n" ++ parts env c

end Command

/-- What is printed, and the number that the program ends with. -/
structure Ending where
  /-- The number. -/
  exit : Nat
  /-- What is printed as the result. -/
  output : String
  /-- What is printed as a complaint. -/
  complaint : String

/-- How the program ends when reading its command line ended early: help that was asked for is a
result, and all else a complaint. -/
def Stop.ending (env : Environment) : Stop → Ending
  | .help c => { exit := 0, output := Command.helpText env c, complaint := "" }
  | .noCommand => { exit := 2, output := "", complaint := Command.helpText env none }
  | .mistake m => { exit := 2, output := "", complaint := m.text }

end BareMetal
