import BareMetal.CommandLine.Argument

/-!
What the user asks the program to do.

The arguments of a run are read one after the other. A flag without a value behind an
equals sign waits for the next argument; its value is looked at when the next flag
comes, or at the end. Flags that are not given are then taken from the environment.

* `RunReading`: how far the arguments of a run are read;
* `Settings.read`: the settings that the arguments and the environment give;
* `Invocation`, `Invocation.read`: the command of a command line.
-/

namespace BareMetal

/-- The variables of the environment by name. -/
abbrev Environment := String → Option String

/-- How far the arguments of a run are read. -/
structure RunReading where
  /-- The settings so far. -/
  settings : Settings := {}
  /-- The flags whose values were taken. -/
  given : List Flag := []
  /-- The flag that came last, perhaps with its value, if this was not taken yet. -/
  waiting : Option (Flag × Option String) := none
  /-- Whether two dashes have come. -/
  closed : Bool := false

namespace RunReading

/-- The settings with the value of a flag, or what is said about a wrong value. -/
def setValue (f : Flag) (value : String) (s : Settings) : Except Stop Settings :=
  match f.set value s with
  | .ok s => .ok s
  | .error p =>
    let similar := if p = .choice then Similarity.best? value f.choices else none
    .error (.mistake { misuse := .valueWrong f value p, tip := similar.map .value })

/-- Takes the value of a flag, which must not be given twice. -/
def assign (r : RunReading) (f : Flag) (value : String) : Except Stop RunReading :=
  if f ∈ r.given then
    .error (.mistake { misuse := .repeated f, usage := some { command := some .run } })
  else do
    let s ← setValue f value r.settings
    return { r with settings := s, given := r.given ++ [f] }

/-- Takes the value of the flag that waits. -/
def settle (r : RunReading) : Except Stop RunReading :=
  match r.waiting with
  | none => .ok r
  | some (f, none) => .error (.mistake { misuse := .valueMissing f })
  | some (f, some value) => { r with waiting := none }.assign f value

/-- The flags that were given, the one that waits among them if it has a value, be it a wrong one. A
flag that was given twice is left out. -/
def seen (r : RunReading) : List Flag :=
  match r.waiting with
  | some (f, some _) => if f ∈ r.given then r.given.erase f else r.given ++ [f]
  | _ => r.given

/-- Takes a flag by its name. -/
def takeFlag (r : RunReading) (name : String) (value : Option String) : Except Stop RunReading :=
  match Flag.ofName? name, value with
  | some f, some v => do (← r.settle).assign f v
  | some f, none => do return { ← r.settle with waiting := some (f, none) }
  | none, v =>
    if name = "help" then
      match v with
      | none => do
        let _ ← r.settle
        throw (.help (some .run))
      | some v => .error (.helpWithValue (some .run) r.given v)
    else .error (.unknownFlag (some .run) r.seen name [])

/-- Takes one argument. -/
def take (r : RunReading) (argument : String) : Except Stop RunReading :=
  if r.closed then .error (.unexpected (some .run) argument)
  else
    match Argument.of argument with
    | .dashes => .ok { r with closed := true }
    | .long name value => r.takeFlag name value
    | .short 'h' => do
      let _ ← r.settle
      throw (.help (some .run))
    | .short letter => .error (.unexpected (some .run) (String.ofList ['-', letter]))
    | .plain =>
      match r.waiting with
      | some (f, none) => .ok { r with waiting := some (f, some argument) }
      | _ => .error (.unexpected (some .run) argument)

/-- Takes what was not given from the environment. -/
def takeVariables (env : Environment) (given : List Flag) :
    List Flag → Settings → Except Stop Settings
  | [], s => .ok s
  | f :: fs, s =>
    match if f ∈ given then none else env f.variableName with
    | some value => do takeVariables env given fs (← setValue f value s)
    | none => takeVariables env given fs s

end RunReading

/-- The settings that the arguments of a run and the environment give. -/
def Settings.read (env : Environment) (arguments : List String) : Except Stop Settings := do
  let r ← (← arguments.foldlM RunReading.take {}).settle
  RunReading.takeVariables env r.given Flag.all r.settings

/-- What the program is asked to do. -/
inductive Invocation where
  /-- To print the manifests. -/
  | crds
  /-- To run the operator. -/
  | run (s : Settings)

namespace Invocation

/-- The arguments of a command that takes none, before or behind two dashes. -/
def readNothing (c : Option Command) : Bool → List String → Except Stop Unit
  | _, [] => .ok ()
  | true, a :: _ => .error (.behindDashes c a)
  | false, a :: rest => if a = "--" then readNothing c true rest else .error (.refuse c a rest)

/-- The help on what the words behind the command for help name. -/
def explain : Option Command → List String → Stop
  | c, [] => .help c
  | c, a :: rest =>
    match (Command.following c).find? (fun k => k.name = a) with
    | some k => explain (some k) rest
    | none =>
      .mistake {
        misuse := .unrecognized a
        usage := some { command := c }
        offersHelp := Command.offersHelp c }

/-- The command of a command line, before or behind two dashes. -/
def readFrom (env : Environment) : Bool → List String → Except Stop Invocation
  | _, [] => .error .noCommand
  | true, a :: _ => .error (.behindDashes none a)
  | false, a :: rest =>
    match Command.ofName? a with
    | some .crds => do
      readNothing (some .crds) false rest
      return .crds
    | some .run => .run <$> Settings.read env rest
    | some .help => .error (explain none rest)
    | none => if a = "--" then readFrom env true rest else .error (.refuse none a rest)

/-- The command of a command line. -/
def read (env : Environment) (arguments : List String) : Except Stop Invocation :=
  readFrom env false arguments

end Invocation

end BareMetal
