import BareMetal.MachineClass

/-!
Which machines belong to a class.

The inventory holds the accepted machines by name. Each category of qualifiers is a
stage that keeps some of the machines and drops the others; an empty category keeps
all of them. What is left is split into the machines that are available and those in
use.

* `Inventory`, `Inventory.ofMachines`: accepted machines by name;
* `byCpu`, `bySystem`, `byLabels`, `apply`: the stages and all of them together;
* `aggregate`: the status that lists the machines of an inventory;
* `statusOf`: the status of a class over given machines.
-/

namespace BareMetal

/-- Accepted machines by name. -/
abbrev Inventory := SortedMap String Machine

namespace Inventory

/-- The accepted machines of a list; of several with one name the last counts. -/
def ofMachines (machines : List Machine) : Inventory :=
  SortedMap.ofList ((machines.filter (fun m => m.spec.accepted)).map (fun m => (m.name, m)))

/-! ### Stages -/

/-- Whether some processor that is asked for is that of the machine. -/
def hasCpu (wanted : List CpuInformation) (m : Machine) : Bool :=
  match m.spec.cpu with
  | some cpu => wanted.any (fun w => w.partialMatches cpu)
  | none => false

/-- Whether some descriptor that is asked for is that of the machine. -/
def hasSystem (wanted : List SystemInformation) (m : Machine) : Bool :=
  match m.spec.systemInformation with
  | some info => wanted.any (fun w => w.partialMatches info)
  | none => false

/-- Whether some label of some selector is on the machine. -/
def hasLabel (selectors : List (SortedMap String String)) (m : Machine) : Bool :=
  selectors.any (fun s => s.entries.any (fun e => m.labels.get? e.1 == some e.2))

/-- Keeps the machines that pass the test, or all of them if nothing is asked for. -/
def retain {α : Type} (wanted : List α) (test : Machine → Bool) (inv : Inventory) : Inventory :=
  if wanted.isEmpty then inv else inv.filterValues test

/-- Keeps the machines with a processor that is asked for. -/
def byCpu (inv : Inventory) (wanted : List CpuInformation) : Inventory :=
  inv.retain wanted (hasCpu wanted)

/-- Keeps the machines with a descriptor that is asked for. -/
def bySystem (inv : Inventory) (wanted : List SystemInformation) : Inventory :=
  inv.retain wanted (hasSystem wanted)

/-- Keeps the machines with a label that is asked for. -/
def byLabels (inv : Inventory) (selectors : List (SortedMap String String)) : Inventory :=
  inv.retain selectors (hasLabel selectors)

/-- Keeps the machines that satisfy every category. -/
def apply (inv : Inventory) (q : Qualifiers) : Inventory :=
  ((inv.byCpu q.cpu).bySystem q.systemInformation).byLabels q.labelSelectors

/-- A step of the choice of machines. -/
inductive Stage where
  /-- By processor. -/
  | cpu
  /-- By the machine as a whole. -/
  | system
  /-- By labels. -/
  | labels
  /-- By all three. -/
  | all
  deriving DecidableEq

/-- The inventory after a step. -/
def runStage (q : Qualifiers) (inv : Inventory) : Stage → Inventory
  | .cpu => inv.byCpu q.cpu
  | .system => inv.bySystem q.systemInformation
  | .labels => inv.byLabels q.labelSelectors
  | .all => inv.apply q

/-- The inventories after each of the steps, each run on what the one before has left. -/
def runStages (q : Qualifiers) (inv : Inventory) : List Stage → List Inventory
  | [] => []
  | s :: ss =>
    let next := inv.runStage q s
    next :: next.runStages q ss

end Inventory

/-! ### Status -/

/-- Strings in ascending order. -/
def sortStrings (ss : List String) : List String :=
  ss.mergeSort (fun a b => (compare a b).isLE)

/-- The status that lists the given machines, each list in ascending order. -/
def aggregate (machines : List Machine) : MachineClassStatus :=
  { machinesAvailable := sortStrings ((machines.filter (fun m => !m.inUse)).map Machine.name)
    machinesInUse := sortStrings ((machines.filter Machine.inUse).map Machine.name) }

/-- The status of a class that asks for `q`, over all machines there are. -/
def statusOf (q : Qualifiers) (machines : List Machine) : MachineClassStatus :=
  aggregate ((Inventory.ofMachines machines).apply q).values

end BareMetal
