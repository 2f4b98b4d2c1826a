import BareMetal.Faults
import BareMetal.Feed

/-!
A session with a store in memory: a list of steps, each of which is answered.

* `Session`: the store with the feeds of those who subscribed, the copies that were
  kept, the faults that reconciles meet, and the metrics;
* `Session.Step`, `Session.Answer`: what can be asked, and what is answered;
* `Session.step`: one step;
* `Session.run`: all steps, with the answer and the reports of each.
-/

namespace BareMetal

/-- A store in use. -/
structure Session where
  /-- The store. -/
  store : Store := {}
  /-- The feeds by name. -/
  feeds : SortedMap String Feed := .empty
  /-- Copies of classes by name. -/
  saved : SortedMap String MachineClass := .empty
  /-- What reconciles and commits meet. -/
  faults : Faults := {}
  /-- What was counted. -/
  metrics : Metrics := {}
  /-- Whether the store was given up. -/
  closed : Bool := false

namespace Session

/-- Which class to commit to. -/
inductive Target where
  /-- One that is given. -/
  | given (c : Json)
  /-- A copy that was kept. -/
  | saved (name : String)
  /-- The one in the store. -/
  | stored (key : ClassKey)

/-- What can be asked. Objects come as they are written and are decoded when they are needed. -/
inductive Step where
  /-- Puts a machine. -/
  | putMachine (m : Json)
  /-- Puts many machines, named by a number behind the same word. -/
  | putMachines (word : String) (count : Nat) (m : Json)
  /-- Takes a machine away. -/
  | deleteMachine (name : String)
  /-- Changes a machine. -/
  | updateMachine (name : String) (edit : Json)
  /-- Lists the machines. -/
  | listMachines
  /-- Puts a class. -/
  | putClass (c : Json)
  /-- Takes a class away. -/
  | deleteClass (key : ClassKey)
  /-- Gives a class a new version. -/
  | touchClass (key : ClassKey)
  /-- Reads a class. -/
  | getClass (key : ClassKey)
  /-- Lists the classes. -/
  | listClasses
  /-- Makes listing the machines fail, or work again. -/
  | failMachineList (on : Bool)
  /-- Makes listing the classes fail, or work again. -/
  | failClassList (on : Bool)
  /-- Writes a status. -/
  | writeStatus (key : ClassKey) (version : String) (status : Json)
  /-- Tells how often a status was to be written. -/
  | writeAttempts
  /-- Keeps a copy of a class. -/
  | save (key : ClassKey) (name : String)
  /-- Commits a status. -/
  | commit (target : Target) (status : Json)
  /-- Replaces the faults. -/
  | setFaults (f : Faults)
  /-- Reconciles a class, each call taking at most so many milliseconds. -/
  | reconcile (key : ClassKey) (limit : Nat)
  /-- Loads the inventory. -/
  | load
  /-- Tells the classes a change goes to. -/
  | fanOut
  /-- Subscribes to changes. -/
  | subscribe (name : String) (kind : FeedKind)
  /-- Gives a feed up. -/
  | unsubscribe (name : String)
  /-- Takes what a feed delivers, at most so much. -/
  | drain (name : String) (room : Option Nat)
  /-- Gives the store up. -/
  | close
  /-- Counts something. -/
  | record (m : Measurement)
  /-- Tells what was counted. -/
  | metrics

/-- What is answered. -/
inductive Answer where
  /-- Nothing. -/
  | nothing
  /-- Yes or no. -/
  | flag (b : Bool)
  /-- A number. -/
  | number (n : Nat)
  /-- Words. -/
  | names (ns : List String)
  /-- A key. -/
  | key (k : ClassKey)
  /-- Keys. -/
  | keys (ks : List ClassKey)
  /-- Machines. -/
  | machines (ms : List Machine)
  /-- Classes. -/
  | classes (cs : List MachineClass)
  /-- A class, if it is there. -/
  | class? (c : Option MachineClass)
  /-- A status was written. -/
  | written
  /-- A commit was made, or there was no need to. -/
  | committed (c : Commit)
  /-- A reconcile has ended. -/
  | outcome (o : Outcome)
  /-- Changes of machines, and whether none will follow. -/
  | changes (names : List String) (ended : Bool)
  /-- Classes to be reconciled; others may always follow. -/
  | triggers (keys : List ClassKey)
  /-- All series. -/
  | series (s : List (String × Metrics.Value))
  /-- The step failed. -/
  | failed (e : StoreError)
  /-- The step makes no sense. -/
  | refused (reason : String)
  /-- No answer will ever come. -/
  | silent

/-! ### Changes of a machine -/

/-- Applies the change under a name of an object, if it is there. -/
def editField {α : Type} (edit : Json) (name : String) (decode : Decoder α)
    (set : α → Machine → Machine) : Except Problem (Machine → Machine) :=
  match edit.member? name with
  | some v => set <$> Decode.ofJson decode v
  | none => .ok id

/-- The change of a machine that an object describes. -/
def decodeEdit (edit : Json) : Except Problem (Machine → Machine) := do
  let accepted ← editField edit "accepted" Decode.bool
    (fun x m => { m with spec := { m.spec with accepted := x } })
  let inUse ← editField edit "inUse" Decode.bool
    (fun x m => { m with status := some { inUse := x } })
  let cpu ← editField edit "cpu" (Decode.optional CpuInformation.decode)
    (fun x m => { m with spec := { m.spec with cpu := x } })
  let system ← editField edit "systemInformation" (Decode.optional SystemInformation.decode)
    (fun x m => { m with spec := { m.spec with systemInformation := x } })
  let labels ← editField edit "labels" (Decode.optional Decode.stringMap)
    (fun x m => { m with metadata := { m.metadata with labels := x } })
  let name ← editField edit "name" Decode.string
    (fun x m => { m with metadata := { m.metadata with name := some x } })
  return name ∘ labels ∘ system ∘ cpu ∘ inUse ∘ accepted

/-! ### Steps -/

/-- The store after a change of a machine, with all feeds told. -/
def changed (x : Session) (s : Store × Option String) : Session :=
  match s.2 with
  | none => { x with store := s.1 }
  | some name =>
    { x with
      store := s.1
      feeds := x.feeds.mapValues (fun f => f.notify name) }

/-- Puts machines named by a number behind the same word. -/
def putMachines (x : Session) (word : String) (m : Machine) : List Nat → Session
  | [] => x
  | n :: ns =>
    let named := { m with metadata := { m.metadata with name := some (word ++ toString n) } }
    (x.changed (x.store.putMachine named)).putMachines word m ns

/-- Whether a feed of triggers keeps the store in use. -/
def held (x : Session) : Bool :=
  x.feeds.values.any (fun f => f.kind == .triggers)

/-- Takes what a feed delivers. -/
def drain (x : Session) (name : String) (room : Option Nat) : Answer × List Report × Session :=
  match x.feeds.get? name with
  | none => (.refused "no such feed", [], x)
  | some f =>
    match f.kind with
    | .changes =>
      let (names, f) := f.drainChanges room
      let more := match room with
        | some n => names.length < n
        | none => true
      (.changes names (x.closed && !x.held && more), [],
        { x with feeds := x.feeds.insert name f })
    | .triggers =>
      let (keys, f, reports) := f.drainTriggers x.store.listClasses room
      (.triggers keys, reports, { x with feeds := x.feeds.insert name f })

/-- The longest wait that still counts as an answer where no other limit is set: ten days in
milliseconds. -/
def patience : Nat := 10 * 24 * 60 * 60 * 1000

/-- The class to commit to. -/
def target (x : Session) : Target → Except Answer MachineClass
  | .given c => (Decode.ofJson MachineClass.decode c).mapError (fun p => .failed (.undecodable p))
  | .saved name => ((x.saved.get? name).map .ok).getD (.error (.refused "no class to commit"))
  | .stored key => ((x.store.getClass key).map .ok).getD (.error (.refused "no class to commit"))

/-- Commits a status. -/
def commit (x : Session) (t : Target) (status : Json) : Answer × List Report × Session :=
  match x.target t with
  | .error a => (a, [], x)
  | .ok c =>
    match Decode.ofJson MachineClassStatus.decode status with
    | .error p => (.failed (.undecodable p), [], x)
    | .ok status =>
      let ((answer, reports), s) := (x.faults.backend patience).commit c status x.store
      let answer := match answer with
        | .ok c => .committed c
        | .error (.timeout _) => .silent
        | .error e => .failed e
      (answer, reports, { x with store := s })

/-- Answers with what was decoded. -/
def decoding {α : Type} (x : Session) (decode : Decoder α) (v : Json)
    (next : α → Answer × List Report × Session) : Answer × List Report × Session :=
  match Decode.ofJson decode v with
  | .ok a => next a
  | .error p => (.failed (.undecodable p), [], x)

/-- Answers with what was read, unless reading failed. -/
def reading {α : Type} (x : Session) (result : Except StoreError α) (tell : α → Answer) :
    Answer × List Report × Session :=
  match result with
  | .ok a => (tell a, [], x)
  | .error e => (.failed e, [], x)

/-- One step with a store that was not given up. -/
def stepOpen (x : Session) : Step → Answer × List Report × Session
  | .putMachine m =>
    x.decoding Machine.decode m (fun m => (.nothing, [], x.changed (x.store.putMachine m)))
  | .putMachines word count m =>
    x.decoding Machine.decode m
      (fun m => (.nothing, [], x.putMachines word m (List.range count)))
  | .deleteMachine name => (.nothing, [], x.changed (x.store.deleteMachine name))
  | .updateMachine name edit =>
    match decodeEdit edit with
    | .error p => (.failed (.undecodable p), [], x)
    | .ok edit =>
      let s := x.store.updateMachine name edit
      (.flag s.2.isSome, [], x.changed s)
  | .listMachines => x.reading x.store.listMachines .machines
  | .putClass c =>
    x.decoding MachineClass.decode c
      (fun c => (.key c.key, [], { x with store := x.store.putClass c }))
  | .deleteClass key => (.nothing, [], { x with store := x.store.deleteClass key })
  | .touchClass key => (.nothing, [], { x with store := x.store.touchClass key })
  | .getClass key => (.class? (x.store.getClass key), [], x)
  | .listClasses => x.reading x.store.listClasses .classes
  | .failMachineList on => (.nothing, [], { x with store := { x.store with machineListFails := on } })
  | .failClassList on => (.nothing, [], { x with store := { x.store with classListFails := on } })
  | .writeStatus key version status =>
    x.decoding MachineClassStatus.decode status (fun status =>
      let (answer, s) := x.store.writeStatus key version status
      { x with store := s }.reading answer (fun _ => .written))
  | .writeAttempts => (.number x.store.writeAttempts, [], x)
  | .save key name =>
    match x.store.getClass key with
    | some c => (.flag true, [], { x with saved := x.saved.insert name c })
    | none => (.flag false, [], x)
  | .commit target status => x.commit target status
  | .setFaults f => (.nothing, [], { x with faults := f })
  | .reconcile key limit =>
    let ((result, reports), s) := (x.faults.backend limit).reconcile key x.store
    let answer := match result with
      | .ok o => .outcome o
      | .error e => .failed e
    (answer, reports, { x with store := s })
  | .load => x.reading x.store.listMachines (fun ms => .names (Inventory.ofMachines ms).keys)
  | .fanOut =>
    let (keys, reports) := BareMetal.fanOut x.store.listClasses
    (.keys keys, reports, x)
  | .subscribe name kind => (.nothing, [], { x with feeds := x.feeds.insert name { kind := kind } })
  | .unsubscribe name => (.nothing, [], { x with feeds := x.feeds.erase name })
  | .drain name room => x.drain name room
  | .close => (.nothing, [], { x with closed := true })
  | .record m => (.nothing, [.count m], x)
  | .metrics => (.series (x.metrics.series.map (fun e => (e.1.text, e.2))), [], x)

/-- One step. Once the store was given up, feeds can be drained and nothing else. -/
def step (x : Session) (s : Step) : Answer × List Report × Session :=
  let (answer, reports, x) :=
    match x.closed, s with
    | true, .drain name room => x.drain name room
    | true, _ => (.refused "store closed", [], x)
    | false, s => x.stepOpen s
  (answer, reports, { x with metrics := x.metrics.recordAll reports })

/-- All steps, with the answer and the reports of each. -/
def run (x : Session) : List Step → List (Answer × List Report)
  | [] => []
  | s :: ss =>
    let (answer, reports, x) := x.step s
    (answer, reports) :: x.run ss

end Session

end BareMetal
