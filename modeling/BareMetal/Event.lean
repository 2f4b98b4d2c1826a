import BareMetal.StoreError

/-!
What the operator tells about its work while it goes on.

* `Phase`: the steps of a reconcile;
* `Event`: the events that are logged, each with its level, message and fields.
-/

namespace BareMetal

/-- The steps of a reconcile. -/
inductive Phase where
  /-- The class and the machines are read. -/
  | fetching
  /-- The machines that satisfy the class are chosen. -/
  | filtering
  /-- They are split into available ones and those in use. -/
  | aggregating
  /-- The status is written, if it has changed. -/
  | committing
  /-- Nothing is left to do. -/
  | done
  deriving DecidableEq

namespace Phase

/-- The phases in order. -/
def all : List Phase := [.fetching, .filtering, .aggregating, .committing, .done]

/-- The name of a phase. -/
def text : Phase → String
  | .fetching => "fetching"
  | .filtering => "filtering"
  | .aggregating => "aggregating"
  | .committing => "committing"
  | .done => "done"

end Phase

/-- How important an event is. -/
inductive Level where
  /-- For following every step. -/
  | trace
  /-- For following the work in detail. -/
  | debug
  /-- For knowing that the work goes on. -/
  | info
  /-- Something did not work. -/
  | warn
  deriving DecidableEq

/-- The name of a level. -/
def Level.text : Level → String
  | .trace => "TRACE"
  | .debug => "DEBUG"
  | .info => "INFO"
  | .warn => "WARN"

/-- An event of the operator's work. -/
inductive Event where
  /-- A reconcile enters a phase. -/
  | phase (p : Phase)
  /-- The inventory was read. -/
  | loaded (accepted : Nat)
  /-- The class is gone. -/
  | gone
  /-- The status is what it should be. -/
  | upToDate (key : ClassKey)
  /-- The status was written. -/
  | written (key : ClassKey) (available inUse : Nat)
  /-- A reconcile has changed the status. -/
  | updated (available inUse : Nat)
  /-- A reconcile has failed in a phase. -/
  | failed (p : Phase) (error : StoreError)
  /-- A change of a machine goes to the classes. -/
  | machineChanged (machine : String) (classes : Nat)
  /-- A change of a machine goes nowhere. -/
  | changeDropped (error : StoreError)
  deriving DecidableEq

namespace Event

/-- The level of an event. -/
def level : Event → Level
  | .updated _ _ => .info
  | .failed _ _ => .warn
  | .changeDropped _ => .warn
  | _ => .debug

/-- The message of an event. -/
def message : Event → String
  | .phase _ => "Reconcile phase"
  | .loaded _ => "Loaded inventory"
  | .gone => "Class no longer exists, nothing to do"
  | .upToDate _ => "Status unchanged, skipping write"
  | .written _ _ _ => "Status written"
  | .updated _ _ => "Class status updated"
  | .failed _ _ => "Reconcile failed"
  | .machineChanged _ _ => "Machine changed"
  | .changeDropped _ => "Failed to list machine classes, dropping machine change"

/-- The fields of an event with their values as text. -/
def fields : Event → List (String × String)
  | .phase p => [("phase", p.text)]
  | .loaded n => [("accepted", toString n)]
  | .gone => []
  | .upToDate key => [("class", key.text)]
  | .written key a u => [("class", key.text), ("available", toString a), ("in_use", toString u)]
  | .updated a u => [("available", toString a), ("in_use", toString u)]
  | .failed p e => [("phase", p.text), ("error", e.message)]
  | .machineChanged m n => [("machine", m), ("classes", toString n)]
  | .changeDropped e => [("error", e.message)]

end Event

end BareMetal
