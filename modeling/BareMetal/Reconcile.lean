import BareMetal.Inventory
import BareMetal.Metrics

/-!
Reconciling a class: its status is computed anew from the machines and written if it
has changed, guarded by the version at which the class was read.

A reconcile makes up to three calls to a store, in a fixed order: it reads the class,
lists the machines and writes the status. Between two calls it does nothing but
compute, so it is a state that waits for the answer of a call, and a function for each
answer that gives the next state.

* `Outcome`: what a reconcile that did not fail has found or done;
* `Commit`: what there is to do about a status, and `Commit.plan`, which decides it;
* `Progress`: where a reconcile stands; `start`, `onClass`, `onMachines`, `onWritten`
  take it a step further and tell what was logged and counted;
* `Backend`, `reconcile`: a store as three calls, and a reconcile without anything in
  between.
-/

namespace BareMetal

/-! ### Outcomes -/

/-- What a reconcile that did not fail has found or done. -/
inductive Outcome where
  /-- The class is gone. -/
  | missing
  /-- The status is what it should be. -/
  | unchanged (status : MachineClassStatus)
  /-- The status was written. -/
  | updated (status : MachineClassStatus)
  deriving DecidableEq

namespace Outcome

/-- The label under which an outcome is counted. -/
def kind : Outcome → String
  | .missing => "missing"
  | .unchanged _ => "unchanged"
  | .updated _ => "updated"

/-- The status of the class, if it is there. -/
def status? : Outcome → Option MachineClassStatus
  | .missing => none
  | .unchanged s => some s
  | .updated s => some s

end Outcome

/-- How a reconcile ends. -/
abbrev Result := Except StoreError Outcome

/-- The label under which the end of a reconcile is counted. -/
def resultKind : Result → String
  | .ok outcome => outcome.kind
  | .error e => e.kind

/-! ### Commits -/

/-- What there is to do about the status of a class. -/
inductive Commit where
  /-- Nothing: the copy of the class has this status. -/
  | skip
  /-- Nothing can be done, as the copy has no version. -/
  | refuse
  /-- The status is to be written over this version. -/
  | write (version : String)
  deriving DecidableEq

namespace Commit

/-- What there is to do to give the class, of which `c` is a copy, the status `s`. -/
def plan (c : MachineClass) (s : MachineClassStatus) : Commit :=
  if c.status = some s then .skip
  else match c.version with
    | none => .refuse
    | some v => .write v

/-- What is told before anything is written. -/
def reports (c : MachineClass) : Commit → List Report
  | .skip => [.log (.upToDate c.key)]
  | .refuse => []
  | .write _ => [.count .statusWrite]

/-- What is told after the status was written. -/
def written (c : MachineClass) (s : MachineClassStatus) : Report :=
  .log (.written c.key s.machinesAvailable.length s.machinesInUse.length)

end Commit

/-! ### The course of a reconcile -/

/-- Where a reconcile stands: the call whose answer it waits for, with what it knows by then. -/
inductive Progress where
  /-- It reads the class. -/
  | fetching
  /-- It lists the machines for a class. -/
  | loading (c : MachineClass)
  /-- It writes the status of a class over a version. -/
  | writing (c : MachineClass) (version : String) (s : MachineClassStatus)
  /-- It has ended. -/
  | finished (r : Result)

namespace Progress

/-- Entering a phase. -/
def enter (p : Phase) : Report := .log (.phase p)

/-- The beginning of a reconcile. -/
def start : Progress × List Report :=
  (.fetching, [enter .fetching])

/-- The sizes of a class's lists, for its gauges. -/
def sizes (key : ClassKey) (s : MachineClassStatus) : Report :=
  .count (.classMachines key.text s.machinesAvailable.length s.machinesInUse.length)

/-- The end of a reconcile that finds its class gone: the gauges of the class go to zero. -/
def missing (key : ClassKey) : Progress × List Report :=
  (.finished (.ok .missing),
    [.log .gone, .count (.classMachines key.text 0 0), .count (.reconcile Outcome.missing.kind)])

/-- The end of a reconcile that fails in a phase. -/
def fail (p : Phase) (e : StoreError) : Progress × List Report :=
  (.finished (.error e), [.log (.failed p e), .count (.reconcile e.kind)])

/-- The end of a reconcile that finds the status right. -/
def unchanged (key : ClassKey) (s : MachineClassStatus) : Progress × List Report :=
  (.finished (.ok (.unchanged s)),
    [sizes key s, enter .done, .count (.reconcile (Outcome.unchanged s).kind)])

/-- The end of a reconcile that has written the status. -/
def updated (key : ClassKey) (s : MachineClassStatus) : Progress × List Report :=
  (.finished (.ok (.updated s)),
    [sizes key s, enter .done,
      .log (.updated s.machinesAvailable.length s.machinesInUse.length),
      .count (.reconcile (Outcome.updated s).kind)])

/-- Reports in front of those of a step. -/
def telling (rs : List Report) (p : Progress × List Report) : Progress × List Report :=
  (p.1, rs ++ p.2)

/-- The class was read. -/
def onClass (key : ClassKey) : Except StoreError (Option MachineClass) → Progress × List Report
  | .error e => fail .fetching e
  | .ok none => missing key
  | .ok (some c) => (.loading c, [])

/-- The machines were listed: the status is computed, and what there is to do about it decided. -/
def onMachines (key : ClassKey) (c : MachineClass) :
    Except StoreError (List Machine) → Progress × List Report
  | .error e => fail .fetching e
  | .ok machines =>
    let inv := Inventory.ofMachines machines
    let s := aggregate (inv.apply c.spec.qualifiers).values
    let commit := Commit.plan c s
    telling
      ([.log (.loaded inv.size), enter .filtering, enter .aggregating, enter .committing] ++
        commit.reports c)
      (match commit with
      | .skip => unchanged key s
      | .refuse => fail .committing (.missingVersion c.key)
      | .write version => (.writing c version s, []))

/-- The status was written, or could not be. A class that is gone by then is no failure. -/
def onWritten (key : ClassKey) (c : MachineClass) (s : MachineClassStatus) :
    Except StoreError Unit → Progress × List Report
  | .ok () => telling [Commit.written c s] (updated key s)
  | .error (.notFound _) => missing key
  | .error e => fail .committing e

end Progress

/-! ### A reconcile over a store -/

/-- A store as the calls that can be made to it, each of which may change its state. -/
structure Backend (σ : Type) where
  /-- Reads a class. -/
  getClass : ClassKey → σ → Except StoreError (Option MachineClass) × σ
  /-- Lists all machines. -/
  listMachines : σ → Except StoreError (List Machine) × σ
  /-- Writes the status of a class, if it still has a version. -/
  writeStatus : ClassKey → String → MachineClassStatus → σ → Except StoreError Unit × σ

namespace Backend

variable {σ : Type}

/-- One step of a reconcile: makes the call it waits for. A reconcile that has ended stays. -/
def step (b : Backend σ) (key : ClassKey) (p : Progress) (x : σ) : (Progress × List Report) × σ :=
  match p with
  | .fetching =>
    let (answer, x) := b.getClass key x
    (Progress.onClass key answer, x)
  | .loading c =>
    let (answer, x) := b.listMachines x
    (Progress.onMachines key c answer, x)
  | .writing c version s =>
    let (answer, x) := b.writeStatus c.key version s x
    (Progress.onWritten key c s answer, x)
  | .finished r => ((.finished r, []), x)

/-- Takes a reconcile some steps further. -/
def advance (b : Backend σ) (key : ClassKey) :
    Nat → Progress → List Report → σ → (Progress × List Report) × σ
  | 0, p, rs, x => ((p, rs), x)
  | n + 1, p, rs, x =>
    let ((p, more), x) := b.step key p x
    b.advance key n p (rs ++ more) x

/-- A whole reconcile, without anything in between: three steps always end it. -/
def reconcile (b : Backend σ) (key : ClassKey) (x : σ) : (Result × List Report) × σ :=
  let ((p, rs), x) := b.advance key 3 Progress.start.1 Progress.start.2 x
  match p with
  | .finished r => ((r, rs), x)
  | _ => ((.ok .missing, rs), x)

/-- A commit on its own: gives the class, of which `c` is a copy, the status `s`. -/
def commit (b : Backend σ) (c : MachineClass) (s : MachineClassStatus) (x : σ) :
    (Except StoreError Commit × List Report) × σ :=
  match Commit.plan c s with
  | .skip => ((.ok .skip, Commit.reports c .skip), x)
  | .refuse => ((.error (.missingVersion c.key), Commit.reports c .refuse), x)
  | .write version =>
    let before := Commit.reports c (.write version)
    match b.writeStatus c.key version s x with
    | (.ok (), x) => ((.ok (.write version), before ++ [Commit.written c s]), x)
    | (.error e, x) => ((.error e, before), x)

end Backend

end BareMetal
