import BareMetal.Reconcile

/-!
A store of machines and classes in memory.

Every write is given the next number of one counter as the version of what it writes,
so no version is ever given twice, and a status can be written only over the version
that the writer has seen.

* `Store`: the machines, the classes and the counter;
* `putMachine`, `deleteMachine`, `updateMachine`: changes of machines, which tell the
  name that others are to be told;
* `putClass`, `deleteClass`, `touchClass`, `writeStatus`: changes of classes;
* `listMachines`, `listClasses`, `getClass`: reading;
* `Store.backend`: the three calls of a reconcile.
-/

namespace BareMetal

/-- The machines and classes there are. -/
structure Store where
  /-- The machines by name. -/
  machines : SortedMap String Machine := .empty
  /-- The classes by key. -/
  classes : SortedMap ClassKey MachineClass := .empty
  /-- The version given last. -/
  revision : UInt64 := 0
  /-- How often a status was to be written. -/
  writeAttempts : Nat := 0
  /-- Whether listing the machines fails. -/
  machineListFails : Bool := false
  /-- Whether listing the classes fails. -/
  classListFails : Bool := false

namespace Store

/-- The version the next write gives. -/
def nextVersion (s : Store) : String :=
  toString (s.revision + 1).toNat

/-- The store with one more version given. -/
def bump (s : Store) : Store :=
  { s with revision := s.revision + 1 }

/-! ### Machines -/

/-- Puts a machine in the place of the one with its name. Others are told its name. -/
def putMachine (s : Store) (m : Machine) : Store × Option String :=
  ({ s.bump with machines := s.machines.insert m.name (m.withVersion s.nextVersion) }, some m.name)

/-- Takes a machine away. Others are told if it was there. -/
def deleteMachine (s : Store) (name : String) : Store × Option String :=
  ({ s with machines := s.machines.erase name },
    if s.machines.contains name then some name else none)

/-- Changes the machine under a name. It stays under that name even if it is given another one. A
version is used up even if the machine is not there. -/
def updateMachine (s : Store) (name : String) (edit : Machine → Machine) :
    Store × Option String :=
  match s.machines.get? name with
  | some m =>
    ({ s.bump with machines := s.machines.insert name ((edit m).withVersion s.nextVersion) },
      some name)
  | none => (s.bump, none)

/-- All machines in order of their names, unless listing fails. -/
def listMachines (s : Store) : Except StoreError (List Machine) :=
  if s.machineListFails then .error (.unavailable "machine list failed") else .ok s.machines.values

/-! ### Classes -/

/-- Puts a class in the place of the one with its key. -/
def putClass (s : Store) (c : MachineClass) : Store :=
  { s.bump with classes := s.classes.insert c.key (c.withVersion s.nextVersion) }

/-- Takes a class away. -/
def deleteClass (s : Store) (key : ClassKey) : Store :=
  { s with classes := s.classes.erase key }

/-- Gives a class a new version, as if someone else had written it. A version is used up even if
the class is not there. -/
def touchClass (s : Store) (key : ClassKey) : Store :=
  match s.classes.get? key with
  | some c => { s.bump with classes := s.classes.insert key (c.withVersion s.nextVersion) }
  | none => s.bump

/-- A class. -/
def getClass (s : Store) (key : ClassKey) : Option MachineClass :=
  s.classes.get? key

/-- All classes in order of their keys, unless listing fails. -/
def listClasses (s : Store) : Except StoreError (List MachineClass) :=
  if s.classListFails then .error (.unavailable "class list failed") else .ok s.classes.values

/-- Writes the status of a class over a version. The attempt counts and uses up a version even if
the class is gone or has another version. -/
def writeStatus (s : Store) (key : ClassKey) (version : String) (status : MachineClassStatus) :
    Except StoreError Unit × Store :=
  let s' := { s.bump with writeAttempts := s.writeAttempts + 1 }
  match s.classes.get? key with
  | none => (.error (.notFound key), s')
  | some c =>
    if c.version ≠ some version then (.error (.conflict key), s')
    else
      let c' := { c with status := some status }.withVersion s.nextVersion
      (.ok (), { s' with classes := s.classes.insert key c' })

/-! ### Reconciling -/

/-- The calls of a reconcile to the store. -/
def backend : Backend Store where
  getClass key s := (.ok (s.getClass key), s)
  listMachines s := (s.listMachines, s)
  writeStatus key version status s := s.writeStatus key version status

end Store

end BareMetal
