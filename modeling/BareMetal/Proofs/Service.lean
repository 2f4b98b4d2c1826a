import BareMetal.Proofs.Notice
import BareMetal.Proofs.Reconcile.Count
import BareMetal.Proofs.System

/-!
A store in service: others change it, feeds are told of the changes and drained, statuses
are committed and classes reconciled, all of this step by step and in any order, over calls
with any faults.

* `Faults.writeCalls`, `Faults.stepCalls`, `Faults.commitCalls`: the calls by which a write,
  a step of a reconcile and a commit change the store whatever their faults are;
* `Feed.drain`: what a feed delivers, whatever its kind is;
* `Service`, `Service.Move`, `Service.step`: the store with the changes that were not told
  yet, the feeds, the reconciles and the metrics, and a move;
* `Service.system`: the service as a system of parties that work on its store;
* `Service.reports`, `Service.metrics_run`: **the metrics are made of what the moves report, and of
  nothing else**.
-/

namespace BareMetal

/-! ### Calls with faults -/

namespace Faults

variable (f : Faults) (limit : ℕ) (key : ClassKey) (version : String)
  (status : MachineClassStatus) (s : Store)

/-- What others do to a class just before its status is written, as calls. -/
def interference : List Store.Call :=
  (if f.vanish then [.deleteClass key] else []) ++ if f.touch then [.touchClass key] else []

/-- The calls by which a write changes the store: none if it was cut off before, and no write if the
store cannot be reached by then. -/
def writeCalls : List Store.Call :=
  if f.writeDelay.exceeds limit then []
  else f.interference key ++
    if f.writeUnavailable.isSome then [] else [.writeStatus key version status]

/-- The calls by which the next step of a reconcile changes the store. -/
def stepCalls : Progress → List Store.Call
  | .writing c version status => f.writeCalls limit c.key version status
  | _ => []

/-- The calls by which a commit changes the store. -/
def commitCalls (c : MachineClass) : List Store.Call :=
  match Commit.plan c status with
  | .write version => f.writeCalls limit c.key version status
  | _ => []

/-- The store after others have interfered. -/
lemma interfere_eq : f.interfere key s = s.after (f.interference key) := by
  rw [interfere, interference, Store.after_append]
  cases f.vanish <;> cases f.touch <;> rfl

/-- The store after a write. -/
lemma writeStatus_store : ((f.backend limit).writeStatus key version status s).2 =
    s.after (f.writeCalls limit key version status) := by
  simp only [backend, writeCalls]
  split
  · rfl
  · rw [Store.after_append, ← interfere_eq]
    cases f.writeUnavailable with
    | some text => rfl
    | none =>
      change _ = ((f.interfere key s).writeStatus key version status).2
      rcases (f.interfere key s).writeStatus key version status with ⟨answer, s'⟩
      cases answer with
      | error e => rfl
      | ok u =>
        dsimp only
        split <;> rfl

/-- The store after a step of a reconcile. -/
lemma step_store (p : Progress) :
    ((f.backend limit).step key p s).2 = s.after (f.stepCalls limit p) := by
  cases p with
  | fetching =>
    change ((f.backend limit).getClass key s).2 = s
    simp only [backend]
    split <;> rfl
  | loading c =>
    change ((f.backend limit).listMachines s).2 = s
    simp only [backend]
    split <;> rfl
  | writing c version status => exact f.writeStatus_store limit c.key version status s
  | finished r => rfl

/-- The store after a commit. -/
lemma commit_store (c : MachineClass) :
    ((f.backend limit).commit c status s).2 = s.after (f.commitCalls limit status c) := by
  rw [Backend.commit, commitCalls]
  cases Commit.plan c status with
  | skip => rfl
  | refuse => rfl
  | write version =>
    dsimp only
    rw [← f.writeStatus_store limit c.key version status s]
    rcases (f.backend limit).writeStatus c.key version status s with ⟨answer, s'⟩
    cases answer <;> rfl

end Faults

/-! ### Feeds of both kinds -/

/-- What a feed delivers, at most so many items: names of machines or keys of classes, according to
its kind. -/
def Feed.drain (f : Feed) (classes : Except StoreError (List MachineClass)) (room : Option ℕ) :
    (List String × List ClassKey) × Feed × List Report :=
  match f.kind with
  | .changes => (((f.drainChanges room).1, []), (f.drainChanges room).2, [])
  | .triggers =>
    let (keys, f, reports) := f.drainTriggers classes room
    (([], keys), f, reports)

/-! ### The service -/

/-- A store in service. -/
structure Service where
  /-- The store. -/
  store : Store := {}
  /-- The changes of machines that were made, but of which nobody was told yet. -/
  untold : List String := []
  /-- The feeds by name. -/
  feeds : SortedMap String Feed := .empty
  /-- The reconciles in the order in which they were started. -/
  tasks : List (ClassKey × Progress) := []
  /-- What was counted. -/
  metrics : Metrics := {}

namespace Service

/-- A move of the service. -/
inductive Move where
  /-- Someone makes a call. Whoever changes a machine has then to tell of it. -/
  | call (a : Store.Call)
  /-- All feeds are told of one of the changes of which they were not told yet. -/
  | tell (i : ℕ)
  /-- Someone subscribes, in place of whoever has used the name before. -/
  | subscribe (name : String) (kind : FeedKind)
  /-- A feed is given up. -/
  | unsubscribe (name : String)
  /-- A feed delivers, at most so many items. -/
  | drain (name : String) (room : Option ℕ)
  /-- Someone asks for the classes that a change goes to. -/
  | fanOut
  /-- A status is committed, the call to the store having these faults. -/
  | commit (c : MachineClass) (status : MachineClassStatus) (f : Faults) (limit : ℕ)
  /-- A reconcile of a class is started. -/
  | start (key : ClassKey)
  /-- A reconcile takes its next step, the call to the store having these faults. -/
  | step (i : ℕ) (f : Faults) (limit : ℕ)

/-- What a move leads to. -/
def step (x : Service) : Move → Service
  | .call a =>
    { x with store := a.perform x.store, untold := x.untold ++ (a.told x.store).toList }
  | .tell i =>
    match x.untold[i]? with
    | none => x
    | some machine =>
      { x with
        untold := x.untold.eraseIdx i
        feeds := x.feeds.mapValues (fun feed => feed.notify machine) }
  | .subscribe name kind => { x with feeds := x.feeds.insert name { kind := kind } }
  | .unsubscribe name => { x with feeds := x.feeds.erase name }
  | .drain name room =>
    match x.feeds.get? name with
    | none => x
    | some feed =>
      let drained := feed.drain x.store.listClasses room
      { x with
        feeds := x.feeds.insert name drained.2.1
        metrics := x.metrics.recordAll drained.2.2 }
  | .fanOut => { x with metrics := x.metrics.recordAll (BareMetal.fanOut x.store.listClasses).2 }
  | .commit c status f limit =>
    let done := (f.backend limit).commit c status x.store
    { x with store := done.2, metrics := x.metrics.recordAll done.1.2 }
  | .start key =>
    { x with
      tasks := x.tasks ++ [(key, Progress.start.1)]
      metrics := x.metrics.recordAll Progress.start.2 }
  | .step i f limit =>
    match x.tasks[i]? with
    | none => x
    | some (key, p) =>
      let next := (f.backend limit).step key p x.store
      { x with
        store := next.2
        tasks := x.tasks.set i (key, next.1.1)
        metrics := x.metrics.recordAll next.1.2 }

/-- All feeds are told of a change. -/
lemma step_tell {x : Service} {i : ℕ} {machine : String} (h : x.untold[i]? = some machine) :
    x.step (.tell i) =
      { x with
        untold := x.untold.eraseIdx i
        feeds := x.feeds.mapValues (fun feed => feed.notify machine) } := by
  rw [step, h]

/-- A feed that is there is drained. -/
lemma step_drain {x : Service} {name : String} {feed : Feed} (h : x.feeds.get? name = some feed)
    (room : Option ℕ) :
    x.step (.drain name room) =
      { x with
        feeds := x.feeds.insert name (feed.drain x.store.listClasses room).2.1
        metrics := x.metrics.recordAll (feed.drain x.store.listClasses room).2.2 } := by
  rw [step, h]

/-- A reconcile that was started takes a step. -/
lemma step_task {x : Service} {i : ℕ} {key : ClassKey} {p : Progress}
    (h : x.tasks[i]? = some (key, p)) (f : Faults) (limit : ℕ) :
    x.step (.step i f limit) =
      { x with
        store := ((f.backend limit).step key p x.store).2
        tasks := x.tasks.set i (key, ((f.backend limit).step key p x.store).1.1)
        metrics := x.metrics.recordAll ((f.backend limit).step key p x.store).1.2 } := by
  rw [step, h]

/-- The calls by which a move changes the store. -/
def calls (x : Service) : Move → List Store.Call
  | .call a => [a]
  | .commit c status f limit => f.commitCalls limit status c
  | .step i f limit =>
    match x.tasks[i]? with
    | none => []
    | some (_, p) => f.stepCalls limit p
  | _ => []

/-- The service as a system. -/
def system : System Service Move where
  store := Service.store
  step := Service.step
  calls := Service.calls
  store_step x m := by
    cases m with
    | call a => rfl
    | tell i =>
      rw [step]
      split <;> rfl
    | subscribe name kind => rfl
    | unsubscribe name => rfl
    | drain name room =>
      rw [step]
      split <;> rfl
    | fanOut => rfl
    | commit c status f limit => exact f.commit_store limit status x.store c
    | start key => rfl
    | step i f limit =>
      simp only [step, calls]
      split
      · rfl
      · exact f.step_store limit _ _ _

/-! ### What is counted -/

/-- What a move reports. -/
def reports (x : Service) : Move → List Report
  | .drain name room =>
    match x.feeds.get? name with
    | none => []
    | some feed => (feed.drain x.store.listClasses room).2.2
  | .fanOut => (BareMetal.fanOut x.store.listClasses).2
  | .commit c status f limit => ((f.backend limit).commit c status x.store).1.2
  | .start _ => Progress.start.2
  | .step i f limit =>
    match x.tasks[i]? with
    | none => []
    | some (key, p) => ((f.backend limit).step key p x.store).1.2
  | _ => []

/-- The metrics change by what is reported and in no other way. -/
lemma metrics_step (x : Service) (m : Move) :
    (x.step m).metrics = x.metrics.recordAll (x.reports m) := by
  cases m with
  | call a => rfl
  | tell i =>
    rw [step]
    split <;> rfl
  | subscribe name kind => rfl
  | unsubscribe name => rfl
  | drain name room =>
    rw [step, reports]
    split <;> rfl
  | fanOut => rfl
  | commit c status f limit => rfl
  | start key => rfl
  | step i f limit =>
    rw [step, reports]
    split <;> rfl

/-- The metrics after a run are made of what is measured in it. -/
lemma metrics_run (x : Service) (moves : List Move) :
    (system.run x moves).metrics =
      (system.outputs (fun x m => Report.measurements (x.reports m)) x moves).foldl
        Metrics.record x.metrics := by
  induction moves generalizing x with
  | nil => rfl
  | cons m moves ih =>
    have hstep : (system.step x m).metrics = x.metrics.recordAll (x.reports m) :=
      metrics_step x m
    rw [System.run_cons, ih, hstep, System.outputs, List.foldl_append]
    rfl

end Service

end BareMetal
