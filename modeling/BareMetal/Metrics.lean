import BareMetal.Event

/-!
What the operator counts.

* `Measurement`: a single thing to count;
* `Metrics`: the counters and gauges so far, and `Metrics.record`, which adds a
  measurement to them;
* `Series`: what a value is exported under;
* `Metrics.series`, `Metrics.value?`: all series with their values, and the value of one;
  a series is there once something was recorded in it, even if that was nothing;
* `Report`: an event or a measurement; the operator's work is told as a list of
  them.
-/

namespace BareMetal

/-- A single thing to count. -/
inductive Measurement where
  /-- A reconcile ended in a certain way. -/
  | reconcile (outcome : String)
  /-- A status is about to be written. -/
  | statusWrite
  /-- A change of a machine led to requests for reconciles. -/
  | fanOut (requests : Nat)
  /-- A change of a machine led nowhere. -/
  | fanOutFailure
  /-- A class lists so many machines. -/
  | classMachines (key : String) (available inUse : Nat)
  deriving DecidableEq

/-- What a value is exported under: a name, with labels that tell what of. -/
structure Series where
  /-- The name. -/
  name : String
  /-- The labels with their values. -/
  labels : List (String × String)
  deriving DecidableEq

/-- The name of a series with its labels in braces. -/
def Series.text (s : Series) : String :=
  s.name ++ "\x7b" ++ String.intercalate "," (s.labels.map (fun l => l.1 ++ "=" ++ l.2)) ++ "\x7d"

/-- The counters and gauges so far. -/
structure Metrics where
  /-- The reconciles, by how they ended. -/
  reconciles : SortedMap String UInt64 := .empty
  /-- The statuses about to be written. -/
  statusWrites : Option UInt64 := none
  /-- The reconciles that changes of machines led to. -/
  fanOutRequests : Option UInt64 := none
  /-- The changes of machines that led nowhere. -/
  fanOutFailures : Option UInt64 := none
  /-- The machines of the classes, available ones and those in use. -/
  classMachines : SortedMap String (Nat × Nat) := .empty

namespace Metrics

/-- A counter, which may not be there yet, after it has grown. -/
def grow (counter : Option UInt64) (n : Nat) : UInt64 :=
  counter.getD 0 + UInt64.ofNat n

/-- The metrics after a measurement. -/
def record (m : Metrics) : Measurement → Metrics
  | .reconcile outcome =>
    { m with reconciles := m.reconciles.insert outcome (grow (m.reconciles.get? outcome) 1) }
  | .statusWrite => { m with statusWrites := some (grow m.statusWrites 1) }
  | .fanOut n => { m with fanOutRequests := some (grow m.fanOutRequests n) }
  | .fanOutFailure => { m with fanOutFailures := some (grow m.fanOutFailures 1) }
  | .classMachines key a u => { m with classMachines := m.classMachines.insert key (a, u) }

/-- The value of a series. -/
inductive Value where
  /-- A number. -/
  | number (n : Nat)
  /-- A distribution, of which only the presence is told. -/
  | distribution
  deriving DecidableEq

/-- A number of machines as a gauge holds it. -/
def gauge (n : Nat) : Value :=
  .number (((Binary64.ofRatio n 1).map Binary64.toNat).getD n)

/-- The reconciles by how they ended. -/
def reconcileSeries (m : Metrics) : List (Series × Value) :=
  m.reconciles.entries.map (fun e =>
    (⟨"metalclass_reconcile_total", [("outcome", e.1)]⟩, .number e.2.toNat))

/-- How long the reconciles took, if there were any. -/
def durationSeries (m : Metrics) : List (Series × Value) :=
  if m.reconciles.entries.isEmpty then []
  else [(⟨"metalclass_reconcile_duration_seconds", []⟩, .distribution)]

/-- A counter without labels, if it is there. -/
def counterSeries (name : String) (counter : Option UInt64) : List (Series × Value) :=
  counter.toList.map (fun n => (⟨name, []⟩, .number n.toNat))

/-- The gauges of all classes for the machines in a state. -/
def gaugeSeries (m : Metrics) (state : String) (size : Nat × Nat → Nat) : List (Series × Value) :=
  m.classMachines.entries.map (fun e =>
    (⟨"metalclass_class_machines", [("class", e.1), ("state", state)]⟩, gauge (size e.2)))

/-- All series. -/
def series (m : Metrics) : List (Series × Value) :=
  m.reconcileSeries ++ m.durationSeries ++
    counterSeries "metalclass_status_patches_total" m.statusWrites ++
    counterSeries "metalclass_fanout_requests_total" m.fanOutRequests ++
    counterSeries "metalclass_fanout_failures_total" m.fanOutFailures ++
    m.gaugeSeries "available" Prod.fst ++ m.gaugeSeries "in_use" Prod.snd

/-- The value of a series, if it is there. -/
def value? (m : Metrics) (s : Series) : Option Value :=
  m.series.lookup s

end Metrics

/-! ### Reports -/

/-- What the operator tells and counts about its work, one thing at a time. -/
inductive Report where
  /-- An event to log. -/
  | log (e : Event)
  /-- A thing to count. -/
  | count (m : Measurement)
  deriving DecidableEq

namespace Report

/-- The events among the reports, in order. -/
def events (rs : List Report) : List Event :=
  rs.filterMap (fun r => match r with
    | .log e => some e
    | .count _ => none)

/-- The measurements among the reports, in order. -/
def measurements (rs : List Report) : List Measurement :=
  rs.filterMap (fun r => match r with
    | .log _ => none
    | .count m => some m)

end Report

/-- The metrics after the measurements of some reports. -/
def Metrics.recordAll (m : Metrics) (rs : List Report) : Metrics :=
  (Report.measurements rs).foldl Metrics.record m

end BareMetal
