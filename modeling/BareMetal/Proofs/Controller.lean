import BareMetal.Operator
import BareMetal.Proofs.Ledger
import BareMetal.Proofs.Reconcile.Course

/-!
The operator on a server of any kind, step by step and in any order.

* `Controller`, `Controller.Move`, `Controller.step`: the operator with the classes that it
  knows and the reconciles that are active, and a move;
* `Controller.ends`, `Controller.outcomes`: the reconciles that end in a run, and the
  outcomes of those of one class that do not fail;
* `Controller.gauges_run`: **the gauges of a class show the last of these outcomes, and
  before the first one what they showed at the beginning**;
* `Operator.controller`, `Operator.reaches_run`: **all that the operator does by its clock
  is such a run**.
-/

namespace BareMetal

/-- The operator on a server of any kind. -/
structure Controller (σ : Type) where
  /-- The server. -/
  server : σ
  /-- The classes that the operator knows. -/
  known : SortedMap ClassKey Unit := .empty
  /-- The active reconciles, by the keys of their classes. -/
  active : SortedMap ClassKey Progress := .empty
  /-- What was counted. -/
  metrics : Metrics := {}

namespace Controller

variable {σ : Type}

/-! ### Moves -/

/-- A move. What is told of a class, and what asks for a reconcile, is left open: the news may come
late or not at all, and a known class may be reconciled for any reason. -/
inductive Move (σ : Type) where
  /-- Others turn the server into this one. -/
  | change (s : σ)
  /-- The operator is told of a class. -/
  | learn (key : ClassKey)
  /-- The operator is told that a class is gone. -/
  | forget (key : ClassKey)
  /-- The operator takes up the change of a machine, these being the classes it is answered. -/
  | takeUp (classes : Except StoreError (List MachineClass)) (name : String)
  /-- A reconcile of a class begins, if the class is known and none of its reconciles is active. -/
  | start (key : ClassKey)
  /-- The active reconcile of a class takes its next step. -/
  | advance (key : ClassKey)

/-- What a move leads to. -/
def step (b : Backend σ) (x : Controller σ) : Move σ → Controller σ
  | .change s => { x with server := s }
  | .learn key => { x with known := x.known.insert key () }
  | .forget key => { x with known := x.known.erase key }
  | .takeUp classes name =>
    { x with metrics := x.metrics.recordAll (BareMetal.takeUp classes name).2 }
  | .start key =>
    if x.known.contains key ∧ x.active.get? key = none then
      { x with
        active := x.active.insert key Progress.start.1
        metrics := x.metrics.recordAll Progress.start.2 }
    else x
  | .advance key =>
    match x.active.get? key with
    | none => x
    | some p =>
      let next := b.step key p x.server
      { x with
        server := next.2
        active := x.active.assign key next.1.1.goesOn
        metrics := x.metrics.recordAll next.1.2 }

/-- What some moves lead to. -/
def run (b : Backend σ) (x : Controller σ) (moves : List (Move σ)) : Controller σ :=
  moves.foldl (step b) x

variable (b : Backend σ) {x : Controller σ} {key : ClassKey} {p : Progress}

@[simp] lemma run_cons (x : Controller σ) (m : Move σ) (moves : List (Move σ)) :
    run b x (m :: moves) = run b (x.step b m) moves := rfl

lemma run_append (x : Controller σ) (as bs : List (Move σ)) :
    run b x (as ++ bs) = run b (run b x as) bs :=
  List.foldl_append

/-- A reconcile begins. -/
lemma step_start (hknown : x.known.contains key) (hidle : x.active.get? key = none) :
    x.step b (.start key) =
      { x with
        active := x.active.insert key Progress.start.1
        metrics := x.metrics.recordAll Progress.start.2 } := by
  rw [step, if_pos ⟨hknown, hidle⟩]

/-- An active reconcile takes a step. -/
lemma step_advance (h : x.active.get? key = some p) :
    x.step b (.advance key) =
      { x with
        server := (b.step key p x.server).2
        active := x.active.assign key (b.step key p x.server).1.1.goesOn
        metrics := x.metrics.recordAll (b.step key p x.server).1.2 } := by
  rw [step, h]

/-- Where no reconcile is active there is none to take a step. -/
lemma step_advance_of_none (h : x.active.get? key = none) : x.step b (.advance key) = x := by
  rw [step, h]

/-- A step of the reconcile of a class is of no consequence for those of the others. -/
lemma active_advance {k : ClassKey} (h : k ≠ key) :
    (x.step b (.advance k)).active.get? key = x.active.get? key := by
  cases hp : x.active.get? k with
  | none => rw [step_advance_of_none b hp]
  | some p =>
    rw [step_advance b hp]
    change (x.active.assign k _).get? key = _
    rw [SortedMap.get?_assign, if_neg h]

/-- What the operator knows does not change by a step of a reconcile. -/
lemma known_advance (x : Controller σ) (key : ClassKey) :
    (x.step b (.advance key)).known = x.known := by
  rw [step]
  split <;> rfl

/-- A reconcile that has ended is not active any more. -/
lemma idle_of_finished {r : Result} (hp : x.active.get? key = some p)
    (h : (b.step key p x.server).1.1 = .finished r) :
    (x.step b (.advance key)).active.get? key = none := by
  rw [step_advance b hp, h]
  change (x.active.assign key none).get? key = none
  rw [SortedMap.get?_assign, if_pos rfl]

/-! ### The reconciles that end -/

/-- The result of the reconcile of a class, if it has ended. -/
def results (key : ClassKey) : Progress → List (ClassKey × Result)
  | .finished r => [(key, r)]
  | _ => []

/-- The reconcile that ends in a move, with the key of its class and its result. -/
def ended (x : Controller σ) : Move σ → List (ClassKey × Result)
  | .advance key =>
    match x.active.get? key with
    | none => []
    | some p => if p.left = 0 then [] else results key (b.step key p x.server).1.1
  | _ => []

/-- The reconciles that end in a run, one after the other. -/
def ends (x : Controller σ) : List (Move σ) → List (ClassKey × Result)
  | [] => []
  | m :: moves => x.ended b m ++ ends (x.step b m) moves

/-- The outcomes, in their order, of the reconciles of a class that end in a run and do not fail. -/
def outcomes (key : ClassKey) (x : Controller σ) (moves : List (Move σ)) : List Outcome :=
  Service.outcomesOf (fun k => k = key) (ends b x moves)

lemma ends_append (x : Controller σ) (as bs : List (Move σ)) :
    ends b x (as ++ bs) = ends b x as ++ ends b (run b x as) bs := by
  induction as generalizing x with
  | nil => rfl
  | cons m as ih => rw [List.cons_append, ends, ih, ends, List.append_assoc, run_cons]

/-- The outcomes among some results and others. -/
lemma outcomesOf_append (q : ClassKey → Bool) (as bs : List (ClassKey × Result)) :
    Service.outcomesOf q (as ++ bs) = Service.outcomesOf q as ++ Service.outcomesOf q bs := by
  rw [Service.outcomesOf, List.filter_append, List.filterMap_append]
  rfl

lemma outcomes_cons (x : Controller σ) (m : Move σ) (moves : List (Move σ)) :
    outcomes b key x (m :: moves) =
      Service.outcomesOf (fun k => k = key) (x.ended b m) ++ outcomes b key (x.step b m) moves :=
  outcomesOf_append _ _ _

/-- No reconcile, no end. -/
lemma ended_of_none (h : x.active.get? key = none) : x.ended b (.advance key) = [] := by
  rw [ended, h]

/-- A reconcile does not end twice. -/
lemma ended_of_finished (hp : x.active.get? key = some p) (hleft : p.left = 0) :
    x.ended b (.advance key) = [] := by
  rw [ended, hp]
  exact if_pos hleft

/-- The reconcile that ends in a step is the one that takes it. -/
lemma ended_advance (hp : x.active.get? key = some p) (hleft : p.left ≠ 0) :
    x.ended b (.advance key) = results key (b.step key p x.server).1.1 := by
  rw [ended, hp]
  exact if_neg hleft

/-- A result is one of the class of the reconcile. -/
lemma key_of_results {k : ClassKey} {e : ClassKey × Result} (h : e ∈ results k p) : e.1 = k := by
  cases p with
  | finished r => rw [List.mem_singleton.mp h]
  | _ => cases h

/-- The reconcile that ends in a step is one of the class whose reconcile takes it. -/
lemma key_of_ended {k : ClassKey} {e : ClassKey × Result} (h : e ∈ x.ended b (.advance k)) :
    e.1 = k := by
  rw [ended] at h
  split at h
  · cases h
  · split at h
    · cases h
    · exact key_of_results h

/-- The step of the reconcile of another class ends none of this one. -/
lemma outcomesOf_ended_of_ne {k : ClassKey} (h : k ≠ key) :
    Service.outcomesOf (fun k => k = key) (x.ended b (.advance k)) = [] := by
  rw [Service.outcomesOf, List.filterMap_eq_nil_iff]
  intro e he
  obtain ⟨hmem, hkey⟩ := List.mem_filter.mp he
  exact absurd ((key_of_ended b hmem).symm.trans (of_decide_eq_true hkey)) h

/-! ### Gauges -/

/-- Reports that say nothing of the sizes of classes leave the gauges as they are. -/
lemma gauges_recordAll_of_nil {rs : List Report} {text : String} (m : Metrics)
    (h : (Report.measurements rs).filterMap (Measurement.sizes? text) = []) :
    (m.recordAll rs).classMachines.get? text = m.classMachines.get? text := by
  rw [Metrics.recordAll, Metrics.foldl_record_classMachines, h]
  rfl

/-- Taking up the change of a machine measures a fan-out. -/
lemma sizes_takeUp (classes : Except StoreError (List MachineClass)) (name text : String) :
    (Report.measurements (takeUp classes name).2).filterMap (Measurement.sizes? text) = [] := by
  rw [takeUp, Report.measurements_append, List.filterMap_append,
    Service.filterMap_of_ofFanOut (ofFanOut_of_fanOut classes) fun y hy => hy.sizes?_eq text]
  rfl

/-- The sizes that a reconcile is about to show where it arrives: those of its outcome. -/
lemma sizes_tally (key : ClassKey) (q : Progress) (text : String) :
    (Progress.tally key q).filterMap (Measurement.sizes? text) =
      (Service.outcomesOf (fun k => k.text = text) (results key q)).map Outcome.sizes := by
  cases q with
  | fetching => rfl
  | loading c => rfl
  | writing c version status => rfl
  | finished r =>
    by_cases h : key.text = text
    · cases r <;> simp [Progress.tally, Measurement.sizes?, Service.outcomesOf, results, h,
        Except.toOption]
    · cases r <;> simp [Progress.tally, Measurement.sizes?, Service.outcomesOf, results, h]

/-- A move sets the gauges under a text to the sizes of the outcome of the reconcile that ends in
it. -/
lemma gauges_step (x : Controller σ) (m : Move σ) (text : String) :
    (x.step b m).metrics.classMachines.get? text =
      ((Service.outcomesOf (fun k => k.text = text) (x.ended b m)).map Outcome.sizes).getLast?.or
        (x.metrics.classMachines.get? text) := by
  cases m with
  | change s => rfl
  | learn key => rfl
  | forget key => rfl
  | takeUp classes name => exact gauges_recordAll_of_nil _ (sizes_takeUp classes name text)
  | start key =>
    rw [step]
    split <;> rfl
  | advance key =>
    cases hp : x.active.get? key with
    | none =>
      rw [step_advance_of_none b hp, ended_of_none b hp]
      rfl
    | some p =>
      rw [step_advance b hp]
      change (x.metrics.recordAll (b.step key p x.server).1.2).classMachines.get? text = _
      by_cases hleft : p.left = 0
      · rw [ended_of_finished b hp hleft]
        obtain ⟨r, rfl⟩ := Progress.finished_of_left hleft
        rfl
      · rw [Metrics.recordAll, Metrics.foldl_record_classMachines,
          b.measurements_step key p x.server hleft, sizes_tally, ended_advance b hp hleft]

/-- **The gauges under a text show the sizes of the last outcome of a reconcile of a class with this
text**, and before the first one what they showed at the beginning. -/
lemma gauges_run (x : Controller σ) (moves : List (Move σ)) (text : String) :
    (run b x moves).metrics.classMachines.get? text =
      ((Service.outcomesOf (fun k => k.text = text) (ends b x moves)).map Outcome.sizes).getLast?.or
        (x.metrics.classMachines.get? text) := by
  induction moves generalizing x with
  | nil => rfl
  | cons m moves ih =>
    rw [run_cons, ih, gauges_step, ends, outcomesOf_append, List.map_append, List.getLast?_append,
      Option.or_assoc]

end Controller

/-! ### The operator by its clock -/

namespace Operator

open Controller

/-- The operator between two reconciles. -/
def controller (x : Operator) : Controller Server where
  server := x.server
  known := x.known
  metrics := x.metrics

/-- **Reaches**: some moves lead from one moment to another. -/
def Reaches (x y : Controller Server) : Prop :=
  ∃ moves, Controller.run Server.backend x moves = y

variable {x y z : Controller Server}

lemma Reaches.refl (x : Controller Server) : Reaches x x := ⟨[], rfl⟩

lemma Reaches.trans (hxy : Reaches x y) (hyz : Reaches y z) : Reaches x z := by
  obtain ⟨as, rfl⟩ := hxy
  obtain ⟨bs, rfl⟩ := hyz
  exact ⟨as ++ bs, run_append _ x as bs⟩

/-- One move. -/
lemma Reaches.of_step (x : Controller Server) (m : Controller.Move Server) :
    Reaches x (x.step Server.backend m) := ⟨[m], rfl⟩

/-- What follows from the items of a list, one after the other. -/
lemma reaches_foldl {α : Type} {f : Operator → α → Operator}
    (hf : ∀ o a, Reaches o.controller (f o a).controller) (o : Operator) (as : List α) :
    Reaches o.controller (as.foldl f o).controller := by
  induction as generalizing o with
  | nil => exact Reaches.refl _
  | cons a as ih => exact (hf o a).trans (ih (f o a))

/-- A change on the server, of which the operator may be told. -/
lemma reaches_apply (o : Operator) (time : ℕ) (c : Change) :
    Reaches o.controller (o.apply time c).1.controller := by
  have hstore : ∀ s, Reaches o.controller (o.withStore s).controller :=
    fun s => Reaches.of_step _ (.change _)
  cases c with
  | putMachine m => exact hstore _
  | deleteMachine name told => exact hstore _
  | putClass c => exact (hstore _).trans (Reaches.of_step _ (.learn c.key))
  | deleteClass key told =>
    cases told with
    | false => exact hstore _
    | true => exact (hstore _).trans (Reaches.of_step _ (.forget key))

/-- The changes up to a time. -/
lemma reaches_applyUntil (time : ℕ) (o : Operator) (changes : List (ℕ × Change)) :
    Reaches o.controller (applyUntil time o changes).1.controller := by
  induction changes generalizing o with
  | nil => exact Reaches.refl _
  | cons c changes ih =>
    obtain ⟨t, c⟩ := c
    rw [applyUntil]
    split
    · exact (reaches_apply o time c).trans (ih _)
    · exact Reaches.refl _

/-- The change of a machine. -/
lemma reaches_machineChanged (o : Operator) (time : ℕ) (name : String) :
    Reaches o.controller (o.machineChanged time name).controller := by
  have hcount : Reaches o.controller
      (o.count (takeUp o.server.store.listClasses name).2).controller :=
    Reaches.of_step _ (.takeUp o.server.store.listClasses name)
  refine hcount.trans (reaches_foldl ?_ _ (takeUp o.server.store.listClasses name).1)
  -- requests are plans, which do not show
  intro o key
  exact Reaches.refl o.controller

/-- A reconcile takes some steps in a row. -/
lemma run_advance {σ : Type} (b : Backend σ) (key : ClassKey) {y : Controller σ} {p : Progress}
    {rs : List Report} {metrics : Metrics} (n : ℕ)
    (hactive : y.active = SortedMap.empty.assign key p.goesOn)
    (hmetrics : y.metrics = metrics.recordAll rs) :
    let done := b.advance key n p rs y.server
    Controller.run b y (List.replicate n (.advance key)) =
      { y with
        server := done.2
        active := SortedMap.empty.assign key done.1.1.goesOn
        metrics := metrics.recordAll done.1.2 } := by
  induction n generalizing y p rs with
  | zero =>
    obtain ⟨server, known, active, metrics'⟩ := y
    subst hactive hmetrics
    rfl
  | succ n ih =>
    have hfound : y.active.get? key = p.goesOn := by
      rw [hactive, SortedMap.get?_assign, if_pos rfl]
    rw [List.replicate_succ, run_cons]
    by_cases hleft : p.left = 0
    · -- a reconcile that has ended takes no more steps, and so reports no more
      obtain ⟨r, rfl⟩ := Progress.finished_of_left hleft
      rw [step_advance_of_none b hfound, ih hactive hmetrics, Backend.advance]
      simp only [Backend.step, List.append_nil]
    · have hp : y.active.get? key = some p := by
        rw [hfound]
        cases p with
        | finished r => exact absurd rfl hleft
        | _ => rfl
      rw [step_advance b hp]
      refine ih ?_ ?_
      · apply SortedMap.ext_get?
        intro k
        change (y.active.assign key _).get? k = _
        rw [SortedMap.get?_assign, SortedMap.get?_assign, hactive, SortedMap.get?_assign]
        split <;> rfl
      · rw [Metrics.recordAll_append, ← hmetrics]
        rfl

/-- A reconcile without anything in between begins and takes three steps, which always end it. -/
lemma run_reconcile {σ : Type} (b : Backend σ) {y : Controller σ} {key : ClassKey}
    (hknown : y.known.contains key) (hactive : y.active = .empty) :
    Controller.run b y (.start key :: List.replicate 3 (.advance key)) =
      { y with
        server := (b.reconcile key y.server).2
        metrics := y.metrics.recordAll (b.reconcile key y.server).1.2 } := by
  have hidle : y.active.get? key = none := by
    rw [hactive]
    rfl
  obtain ⟨r, hr⟩ := b.advance_finished_of_left key Progress.start.1 y.server (le_refl 3)
    Progress.start.2
  have hbegun : y.active.insert key Progress.start.1 =
      SortedMap.empty.assign key Progress.start.1.goesOn := by
    rw [hactive]
    rfl
  have hended : y.active = SortedMap.empty.assign key (Progress.finished r).goesOn := by
    rw [hactive]
    rfl
  rw [run_cons, step_start b hknown hidle, run_advance b key 3 hbegun rfl, hr, ← hended]
  simp only [Backend.reconcile, hr]

/-- What shows of a reconcile of a class that is known. -/
lemma controller_reconcile (d : Delays) (time : ℕ) {o : Operator} {key : ClassKey}
    (h : o.known.contains key) :
    let done := Server.backend.reconcile key { o.server with inquiries := [] }
    (reconcile d time o key).controller =
      { o.controller with
        server := done.2
        metrics := o.metrics.recordAll done.1.2 } := by
  simp only [reconcile]
  rw [if_pos h]
  split <;> rfl

/-- A reconcile of a class, if it is known. -/
lemma reaches_reconcile (d : Delays) (time : ℕ) (o : Operator) (key : ClassKey) :
    Reaches o.controller (reconcile d time o key).controller := by
  by_cases h : o.known.contains key
  · rw [controller_reconcile d time h]
    -- what was asked before is put aside, which is a change of the server
    refine (Reaches.of_step _ (.change { o.server with inquiries := [] })).trans ?_
    exact ⟨_, run_reconcile Server.backend h rfl⟩
  · simp only [reconcile]
    rw [if_neg h]
    exact Reaches.refl _

/-- What happens at a time: the changes up to it, then what follows from those of machines, and the
reconciles at the end. -/
lemma reaches_time (d : Delays) (time : ℕ) {o o' : Operator} {changes rest : List (ℕ × Change)}
    {machines : List String} (h : applyUntil time o changes = (o', machines, rest)) :
    Reaches o.controller ((machines.foldl (fun o name => o.machineChanged time name)
      o').reconcileDue d time).controller := by
  have happlied : Reaches o.controller o'.controller := by
    have happly := reaches_applyUntil time o changes
    rwa [h] at happly
  have hmachines := reaches_foldl (fun o name => reaches_machineChanged o time name) o' machines
  exact (happlied.trans hmachines).trans (reaches_foldl (reaches_reconcile d time) _ _)

/-- What happens from a time on. -/
lemma reaches_runFrom (d : Delays) (stop : ℕ) (o : Operator) (changes : List (ℕ × Change))
    (time : ℕ) : Reaches o.controller (runFrom d stop o changes time).controller := by
  fun_induction runFrom d stop o changes time with
  | case1 o changes time o' machines rest happlied x y hnext =>
    simp only [happlied]
    rw [hnext]
    exact reaches_time d time happlied
  | case2 o changes time o' machines rest happlied x y next hnext hlater ih =>
    simp only [happlied]
    rw [hnext]
    dsimp only
    rw [dif_pos hlater]
    exact (reaches_time d time happlied).trans ih
  | case3 o changes time o' machines rest happlied x y next hnext hover =>
    simp only [happlied]
    rw [hnext]
    dsimp only
    rw [dif_neg hover]
    exact reaches_time d time happlied

/-- **All that the operator does by its clock is a run**, from when it knows nothing. -/
lemma reaches_run (d : Delays) (stop : ℕ) (s : Server) (changes : List (ℕ × Change)) :
    Reaches { server := s } (Operator.run d stop s changes).controller := by
  have hstart : Reaches { server := s } (start s).controller :=
    reaches_foldl (fun o key => Reaches.of_step _ (.learn key)) { server := s } _
  exact hstart.trans (reaches_runFrom d stop _ changes 0)

end Operator

end BareMetal
