import BareMetal.Feed
import BareMetal.Operator.Server
import BareMetal.Settings

/-!
The operator at work on a server, by a clock that only moves when nothing is left to
do.

A class is reconciled when it appears or changes, and when any machine changes. After
that it is reconciled again in time: after a success, after a lost race and after any
other failure, each time with a delay of its own. A class that is gone is left alone
until something changes. For each class one reconcile at most is pending, at the
earliest time it was asked for. A class is known from the time the operator is told of
it until the operator is told that it is gone; only known classes are reconciled.

* `Delays`: the delays;
* `Change`: what others do on the server;
* `Operator`: the server with what the operator knows and has planned;
* `Operator.apply`, `Operator.machineChanged`, `Operator.reconcile`: a change, what
  follows from that of a machine, and a reconcile;
* `Operator.run`: all that happens before some time.
-/

namespace BareMetal

/-- After how many milliseconds a class is reconciled again. -/
structure Delays where
  /-- After a success. -/
  resync : Nat
  /-- After a failure. -/
  error : Nat
  /-- After a lost race. -/
  conflict : Nat

namespace Delays

/-- The delays that the settings give. -/
def ofSettings (s : Settings) : Delays where
  resync := s.resync.toNat * 1000
  error := s.errorRequeue.toNat * 1000
  conflict := s.conflictRequeue.toNat * 1000

/-- After how long a class is reconciled again, if at all. -/
def after (d : Delays) : Result → Option Nat
  | .ok .missing => none
  | .ok _ => some d.resync
  | .error e => some (if e.isConflict then d.conflict else d.error)

end Delays

/-- What others do on the server. -/
inductive Change where
  /-- A machine is put there. -/
  | putMachine (m : Machine)
  /-- A machine is taken away; the operator may not be told. -/
  | deleteMachine (name : String) (told : Bool)
  /-- A class is put there. -/
  | putClass (c : MachineClass)
  /-- A class is taken away; the operator may not be told. -/
  | deleteClass (key : ClassKey) (told : Bool)

/-- The server with what the operator knows and has planned. -/
structure Operator where
  /-- The server. -/
  server : Server
  /-- The classes that the operator knows. -/
  known : SortedMap ClassKey Unit := .empty
  /-- When a reconcile of a class is pending. -/
  due : SortedMap ClassKey Nat := .empty
  /-- What was counted. -/
  metrics : Metrics := {}
  /-- What was asked about each class, and when. -/
  asked : SortedMap ClassKey (List (Nat × Inquiry)) := .empty

namespace Operator

/-! ### Plans -/

/-- Asks for a reconcile of a class at a time. -/
def request (x : Operator) (time : Nat) (key : ClassKey) : Operator :=
  let time := match x.due.get? key with
    | some t => min t time
    | none => time
  { x with due := x.due.insert key time }

/-- Counts what was told. -/
def count (x : Operator) (reports : List Report) : Operator :=
  { x with metrics := x.metrics.recordAll reports }

/-- Takes up the change of a machine: every class on the server is to be reconciled. -/
def machineChanged (x : Operator) (time : Nat) (name : String) : Operator :=
  let (keys, reports) := takeUp x.server.store.listClasses name
  keys.foldl (fun x key => x.request time key) (x.count reports)

/-- Has the store on the server changed. -/
def withStore (x : Operator) (s : Store) : Operator :=
  { x with server := { x.server with store := s } }

/-- A change on the server, with what the operator makes of a class; the machine, if it is told of
one. -/
def apply (x : Operator) (time : Nat) : Change → Operator × Option String
  | .putMachine m => (x.withStore (x.server.store.putMachine m).1, some m.name)
  | .deleteMachine name told =>
    let (s, gone) := x.server.store.deleteMachine name
    (x.withStore s, if told && gone.isSome then some name else none)
  | .putClass c =>
    let x := x.withStore (x.server.store.putClass c)
    ({ x with known := x.known.insert c.key () }.request time c.key, none)
  | .deleteClass key told =>
    let x := x.withStore (x.server.store.deleteClass key)
    (if told then { x with known := x.known.erase key } else x, none)

/-! ### Reconciles -/

/-- Notes what was asked about a class. What was asked before at about the same time, to the tenth
of a second, is not noted again. -/
def note (time : Nat) (asked : SortedMap ClassKey (List (Nat × Inquiry)))
    (e : ClassKey × Inquiry) : SortedMap ClassKey (List (Nat × Inquiry)) :=
  let entry := (time / 100, e.2)
  let before := (asked.get? e.1).getD []
  if entry ∈ before then asked else asked.insert e.1 (before ++ [entry])

/-- Reconciles a class, if it is known, and plans the next time. -/
def reconcile (d : Delays) (time : Nat) (x : Operator) (key : ClassKey) : Operator :=
  let x := { x with due := x.due.erase key }
  if x.known.contains key then
    let ((result, reports), server) :=
      Server.backend.reconcile key { x.server with inquiries := [] }
    let x := { x with
      server := server
      asked := server.inquiries.foldl (note time) x.asked }.count reports
    match d.after result with
    | some delay => x.request (time + delay) key
    | none => x
  else x

/-- The classes whose reconcile is due at a time. -/
def dueAt (x : Operator) (time : Nat) : List ClassKey :=
  (x.due.entries.filter (fun e => e.2 ≤ time)).map (fun e => e.1)

/-- Reconciles all classes that are due at a time. -/
def reconcileDue (x : Operator) (d : Delays) (time : Nat) : Operator :=
  (x.dueAt time).foldl (reconcile d time) x

/-! ### A run -/

/-- The start: the operator is told of all classes. -/
def start (s : Server) : Operator :=
  s.store.classes.keys.foldl
    (fun x key => { x with known := x.known.insert key () }.request 0 key) { server := s }

/-- The first time at which something happens: a change or a reconcile. -/
def nextTime (x : Operator) (changes : List (Nat × Change)) : Option Nat :=
  let times := (changes.head?.map (fun c => c.1)).toList ++ x.due.values
  times.min?

/-- Applies the changes up to a time: the machines that the operator is told of, and the changes
that are left. -/
def applyUntil (time : Nat) :
    Operator → List (Nat × Change) → Operator × List String × List (Nat × Change)
  | x, [] => (x, [], [])
  | x, (t, c) :: cs =>
    if t ≤ time then
      let (x, machine) := x.apply time c
      let (x, machines, rest) := applyUntil time x cs
      (x, machine.toList ++ machines, rest)
    else (x, [], (t, c) :: cs)

/-- What happens at a time and later, but before `stop`. At each time all changes are on the server
before the operator takes up those of machines, and reconciles come last. -/
def runFrom (d : Delays) (stop : Nat) (x : Operator) (changes : List (Nat × Change))
    (time : Nat) : Operator :=
  let (x, machines, changes) := applyUntil time x changes
  let x := machines.foldl (fun x name => x.machineChanged time name) x
  let x := x.reconcileDue d time
  match x.nextTime changes with
  | none => x
  | some next =>
    if _h : time < next ∧ next < stop then runFrom d stop x changes next else x
termination_by stop - time

/-- What happens before `stop`. -/
def run (d : Delays) (stop : Nat) (s : Server) (changes : List (Nat × Change)) : Operator :=
  runFrom d stop (start s) changes 0

end Operator

end BareMetal
