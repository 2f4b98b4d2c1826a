import BareMetal.CommandLine.Mistake
import BareMetal.CommandLine.Similarity

/-!
Single arguments, and what happens to one that cannot stand where it stands.

* `Argument`, `Argument.of`: the forms of an argument;
* `Stop`: why reading a command line ends early: the user asked for help, or made a
  mistake;
* `Stop.unknownFlag`, `Stop.misplaced`, `Stop.refuse`: how arguments are refused.
-/

namespace BareMetal

/-- An argument by its form. -/
inductive Argument where
  /-- Two dashes: no flags follow. -/
  | dashes
  /-- A flag by its name, perhaps with a value behind an equals sign. -/
  | long (name : String) (value : Option String)
  /-- A flag by its first letter. -/
  | short (letter : Char)
  /-- Anything else. -/
  | plain

namespace Argument

/-- The part of a text in front of the first equals sign, and the part behind it. -/
def splitEquals : List Char → List Char × Option (List Char)
  | [] => ([], none)
  | '=' :: cs => ([], some cs)
  | c :: cs =>
    let (name, value) := splitEquals cs
    (c :: name, value)

/-- The form of an argument. A single dash is an ordinary text. -/
def of (s : String) : Argument :=
  match s.toList with
  | ['-', '-'] => .dashes
  | '-' :: '-' :: cs =>
    let (name, value) := splitEquals cs
    .long (String.ofList name) (value.map String.ofList)
  | '-' :: c :: _ => .short c
  | _ => .plain

end Argument

/-- Why reading a command line ends early. -/
inductive Stop where
  /-- The user asked for help on a command, or on the program. -/
  | help (command : Option Command)
  /-- The user gave no command. -/
  | noCommand
  /-- The user made a mistake. -/
  | mistake (m : Mistake)

namespace Stop

/-- An argument stands where none can. -/
def unexpected (c : Option Command) (argument : String) : Stop :=
  .mistake { misuse := .unexpected argument, usage := some { command := c } }

/-- Help was asked for with a value, after some flags were given. -/
def helpWithValue (c : Option Command) (given : List Flag) (value : String) : Stop :=
  .mistake {
    misuse := .valueUnneeded value
    usage := some {
      command := c
      parts := .help :: (if given.isEmpty then [] else [.choice]) } }

/-- The flag of a command that comes later which is similar to an unknown one. -/
def laterFlag (c : Option Command) (name : String) (later : List String) : Option Tip :=
  later.findSome? (fun word =>
    match (Command.following c).find? (fun k => k.name = word) with
    | some k => (Similarity.best? name (Command.flagNames (some k))).map (Tip.flagOf k)
    | none => none)

/-- The part of a usage that shows a flag by its name. -/
def shownFlag (name : String) : Option UsagePart :=
  match Flag.ofName? name with
  | some f => some (.flag f)
  | none => if name = "help" then some .help else none

/-- A flag is unknown. The usage shows the flags that were given, and the one that is similar if it
is not among them. -/
def unknownFlag (c : Option Command) (given : List Flag) (name : String) (later : List String) :
    Stop :=
  let similar := Similarity.best? name (Command.flagNames c)
  let tip := match similar with
    | some n => some (.flag n)
    | none => laterFlag c name later
  let meant := similar.filter (fun n => !(given.map Flag.name).contains n)
  .mistake {
    misuse := .unexpected ("--" ++ name)
    tip := tip
    usage := some {
      command := c
      parts := given.map .flag ++ (meant.bind shownFlag).toList } }

/-- A text stands where none can: an unknown command, if a command could follow. -/
def misplaced (c : Option Command) (argument : String) : Stop :=
  match Command.following c with
  | [] => unexpected c argument
  | ks =>
    let similar := Similarity.candidates argument (ks.map Command.name)
    .mistake {
      misuse := .unrecognized argument
      tip := if similar.isEmpty then none else some (.commands similar)
      usage := some { command := c } }

/-- A text stands behind two dashes, where no command can follow. -/
def behindDashes (c : Option Command) (argument : String) : Stop :=
  if (Command.following c).any (fun k => k.name = argument) then
    .mistake {
      misuse := .unexpected argument
      tip := some (.withoutDashes argument)
      usage := some { command := c } }
  else misplaced c argument

/-- An argument of a command without flags of its own. -/
def refuse (c : Option Command) (argument : String) (later : List String) : Stop :=
  match Argument.of argument with
  | .long "help" none => .help c
  | .long "help" (some value) => helpWithValue c [] value
  | .long name _ => unknownFlag c [] name later
  | .short 'h' => .help c
  | .short letter => unexpected c (String.ofList ['-', letter])
  | _ => misplaced c argument

end Stop

end BareMetal
