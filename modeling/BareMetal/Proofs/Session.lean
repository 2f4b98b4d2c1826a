import BareMetal.Session
import BareMetal.Proofs.Service

/-!
A session with a store in memory is a run of a service in which whoever changes a machine tells of
it at once, and a reconcile takes all of its steps in a row.

* `Session.Served`: a service stands where a session stands;
* `Session.Reached`: some moves of a service lead to where a session stands after a step;
* `reached_changed`, `reached_drain`, `reached_commit`, `reached_reconcile`: the moves of the steps
  that do something;
* `Session.served_after`: **whatever is asked in a session, some moves of the service lead to where
  the session then stands**;
* `Session.drain_delivers`: what a feed is answered to deliver is what it delivers in the service.
-/

namespace BareMetal

namespace Session

open Service (Move system)

/-- **Served**: a service stands where a session stands, and all changes were told. Its reconciles
do not matter, as those of a session have all ended. -/
structure Served (x : Session) (y : Service) : Prop where
  store : y.store = x.store
  feeds : y.feeds = x.feeds
  metrics : y.metrics = x.metrics
  untold : y.untold = []

/-- Some moves of a service lead to where a session stands. -/
def Reached (y : Service) (x : Session) : Prop :=
  ∃ moves, x.Served (system.run y moves)

/-- Where a session stands once it has counted what a step reports. -/
def counted (r : Answer × List Report × Session) : Session :=
  { r.2.2 with metrics := r.2.2.metrics.recordAll r.2.1 }

variable {x x' : Session} {y : Service}

/-- Nothing has to be done to get to where a service stands. -/
lemma Served.reached (h : x.Served y) : Reached y x := ⟨[], h⟩

/-- What is reached from where one gets is reached. -/
lemma Reached.trans (h : Reached y x) (hnext : ∀ y', x.Served y' → Reached y' x') :
    Reached y x' := by
  obtain ⟨moves, hserved⟩ := h
  obtain ⟨more, hserved'⟩ := hnext _ hserved
  refine ⟨moves ++ more, ?_⟩
  rwa [System.run_append]

/-! ### Changes -/

/-- A call is made, and if it changes a machine, this is told at once. -/
lemma reached_changed (h : x.Served y) (a : Store.Call) :
    Reached y (x.changed (a.perform x.store, a.told x.store)) := by
  have hstore : (y.step (.call a)).store = a.perform x.store := congrArg a.perform h.store
  have huntold : (y.step (.call a)).untold = (a.told x.store).toList := by
    change y.untold ++ (a.told y.store).toList = _
    rw [h.untold, h.store, List.nil_append]
  rw [changed]
  split
  next htold =>
    have htold : a.told x.store = none := htold
    rw [htold] at huntold
    exact ⟨[.call a], hstore, h.feeds, h.metrics, huntold⟩
  next name htold =>
    have htold : a.told x.store = some name := htold
    rw [htold] at huntold
    have hnext : (y.step (.call a)).untold[0]? = some name := by
      rw [huntold]
      rfl
    refine ⟨[.call a, .tell 0], ?_⟩
    change Served _ ((y.step (.call a)).step (.tell 0))
    rw [Service.step_tell hnext]
    refine ⟨hstore, ?_, h.metrics, ?_⟩
    · exact congrArg (fun feeds => feeds.mapValues (fun feed => feed.notify name)) h.feeds
    · change (y.step (.call a)).untold.eraseIdx 0 = []
      rw [huntold]
      rfl

/-- A call that changes no machine. -/
lemma reached_call (h : x.Served y) (a : Store.Call) (htold : a.told x.store = none) :
    Reached y { x with store := a.perform x.store } := by
  have hchanged := reached_changed h a
  rwa [htold] at hchanged

/-- Many machines are put one after the other. -/
lemma reached_putMachines (h : x.Served y) (word : String) (m : Machine) (ns : List ℕ) :
    Reached y (x.putMachines word m ns) := by
  induction ns generalizing x y with
  | nil => exact h.reached
  | cons n ns ih => exact (reached_changed h (.putMachine _)).trans fun _ hnext => ih hnext

/-! ### Feeds -/

/-- What a feed is answered to deliver is what it delivers in the service. -/
lemma drain_delivers {name : String} {f : Feed} (hf : x.feeds.get? name = some f)
    (room : Option ℕ) :
    let drained := f.drain x.store.listClasses room
    (x.drain name room).2 = (drained.2.2, { x with feeds := x.feeds.insert name drained.2.1 }) ∧
      ((∃ last, (x.drain name room).1 = .changes drained.1.1 last) ∨
        (x.drain name room).1 = .triggers drained.1.2) := by
  intro drained
  simp only [drain, hf, drained, Feed.drain]
  cases f.kind with
  | changes => exact ⟨rfl, Or.inl ⟨_, rfl⟩⟩
  | triggers => exact ⟨rfl, Or.inr rfl⟩

/-- A feed is drained. -/
lemma reached_drain (h : x.Served y) (name : String) (room : Option ℕ) :
    Reached y (counted (x.drain name room)) := by
  cases hf : x.feeds.get? name with
  | none =>
    rw [drain, hf]
    exact h.reached
  | some f =>
    have hfeed : y.feeds.get? name = some f := h.feeds ▸ hf
    refine ⟨[.drain name room], ?_⟩
    change Served _ (y.step (.drain name room))
    rw [Service.step_drain hfeed, counted, (drain_delivers hf room).1, h.store, h.feeds, h.metrics]
    exact ⟨rfl, rfl, rfl, h.untold⟩

/-! ### Commits and reconciles -/

/-- A status is committed. -/
lemma reached_commit (h : x.Served y) (t : Target) (status : Json) :
    Reached y (counted (x.commit t status)) := by
  rw [commit]
  split
  next => exact h.reached
  next c _ =>
    split
    next => exact h.reached
    next status _ =>
      refine ⟨[.commit c status x.faults patience], ?_, h.feeds, ?_, h.untold⟩
      · change ((x.faults.backend patience).commit c status y.store).2 = _
        rw [h.store]
        rfl
      · change y.metrics.recordAll ((x.faults.backend patience).commit c status y.store).1.2 = _
        rw [h.store, h.metrics]
        rfl

/-- A reconcile of the service takes some steps in a row. -/
lemma run_steps {i : ℕ} {key : ClassKey} {p : Progress} {rs : List Report} {metrics : Metrics}
    (f : Faults) (limit n : ℕ) (htask : y.tasks[i]? = some (key, p))
    (hmetrics : y.metrics = metrics.recordAll rs) :
    let done := (f.backend limit).advance key n p rs y.store
    let y' := system.run y (List.replicate n (.step i f limit))
    y'.store = done.2 ∧ y'.feeds = y.feeds ∧ y'.untold = y.untold ∧
      y'.metrics = metrics.recordAll done.1.2 := by
  induction n generalizing y p rs with
  | zero => exact ⟨rfl, rfl, rfl, hmetrics⟩
  | succ n ih =>
    have hlt : i < y.tasks.length := (List.getElem?_eq_some_iff.mp htask).1
    have hstep : system.step y (.step i f limit) = _ := Service.step_task htask f limit
    rw [List.replicate_succ, System.run_cons, hstep]
    refine ih (List.getElem?_set_self hlt) ?_
    rw [Metrics.recordAll_append, ← hmetrics]
    rfl

/-- A class is reconciled. -/
lemma reached_reconcile (h : x.Served y) (key : ClassKey) (limit : ℕ) (a : Answer) :
    let done := (x.faults.backend limit).reconcile key x.store
    Reached y (counted (a, done.1.2, { x with store := done.2 })) := by
  intro done
  have hdone : done.2 = ((x.faults.backend limit).advance key 3 Progress.start.1
      Progress.start.2 x.store).2 ∧ done.1.2 = ((x.faults.backend limit).advance key 3
        Progress.start.1 Progress.start.2 x.store).1.2 := by
    simp only [done, Backend.reconcile]
    split <;> exact ⟨rfl, rfl⟩
  have htask : (y.step (.start key)).tasks[y.tasks.length]? = some (key, Progress.start.1) :=
    List.getElem?_concat_length
  have hmetrics : (y.step (.start key)).metrics = x.metrics.recordAll Progress.start.2 := by
    change y.metrics.recordAll _ = _
    rw [h.metrics]
  have hstore : (y.step (.start key)).store = x.store := h.store
  obtain ⟨hstore', hfeeds', huntold', hmetrics'⟩ :=
    run_steps x.faults limit 3 htask hmetrics
  rw [hstore] at hstore' hmetrics'
  refine ⟨.start key :: List.replicate 3 (.step y.tasks.length x.faults limit), ?_⟩
  rw [System.run_cons]
  exact ⟨hstore'.trans hdone.1.symm, hfeeds'.trans h.feeds,
    hmetrics'.trans (congrArg _ hdone.2.symm), huntold'.trans h.untold⟩

/-! ### All steps -/

/-- What is decoded first leads where the rest of the step leads. -/
lemma reached_decoding {α : Type} (h : x.Served y) (decode : Decoder α) (v : Json)
    {next : α → Answer × List Report × Session}
    (hnext : ∀ a, Reached y (counted (next a))) :
    Reached y (counted (x.decoding decode v next)) := by
  rw [decoding]
  split
  next a _ => exact hnext a
  next => exact h.reached

/-- Reading changes nothing. -/
lemma counted_reading {α : Type} (x : Session) (result : Except StoreError α)
    (tell : α → Answer) : counted (x.reading result tell) = x := by
  cases result <;> rfl

/-- A step with a store that was not given up, other than one that counts something on its own. -/
lemma reached_stepOpen (h : x.Served y) {s : Step} (hs : ∀ m, s ≠ .record m) :
    Reached y (counted (x.stepOpen s)) := by
  cases s with
  | putMachine m =>
    exact reached_decoding h _ m fun m => reached_changed h (.putMachine m)
  | putMachines word count m =>
    exact reached_decoding h _ m fun m => reached_putMachines h word m _
  | deleteMachine name => exact reached_changed h (.deleteMachine name)
  | updateMachine name edit =>
    rw [stepOpen]
    split
    next => exact h.reached
    next edit _ => exact reached_changed h (.updateMachine name edit)
  | putClass c =>
    exact reached_decoding h _ c fun c => reached_call h (.putClass c) rfl
  | deleteClass key => exact reached_call h (.deleteClass key) rfl
  | touchClass key => exact reached_call h (.touchClass key) rfl
  | failMachineList on => exact reached_call h (.failMachineList on) rfl
  | failClassList on => exact reached_call h (.failClassList on) rfl
  | writeStatus key version status =>
    refine reached_decoding h _ status fun status => ?_
    rw [counted_reading]
    exact reached_call h (.writeStatus key version status) rfl
  | listMachines =>
    rw [stepOpen, counted_reading]
    exact h.reached
  | listClasses =>
    rw [stepOpen, counted_reading]
    exact h.reached
  | load =>
    rw [stepOpen, counted_reading]
    exact h.reached
  | save key name =>
    rw [stepOpen]
    split
    · exact ⟨[], h.store, h.feeds, h.metrics, h.untold⟩
    · exact h.reached
  | commit target status => exact reached_commit h target status
  | setFaults f => exact ⟨[], h.store, h.feeds, h.metrics, h.untold⟩
  | reconcile key limit => exact reached_reconcile h key limit _
  | fanOut =>
    refine ⟨[.fanOut], h.store, h.feeds, ?_, h.untold⟩
    change y.metrics.recordAll (fanOut y.store.listClasses).2 = _
    rw [h.store, h.metrics]
    rfl
  | subscribe name kind =>
    refine ⟨[.subscribe name kind], h.store, ?_, h.metrics, h.untold⟩
    exact congrArg (fun feeds => feeds.insert name { kind := kind }) h.feeds
  | unsubscribe name =>
    refine ⟨[.unsubscribe name], h.store, ?_, h.metrics, h.untold⟩
    exact congrArg (fun feeds => feeds.erase name) h.feeds
  | drain name room => exact reached_drain h name room
  | close => exact ⟨[], h.store, h.feeds, h.metrics, h.untold⟩
  | record m => exact absurd rfl (hs m)
  | getClass key => exact h.reached
  | writeAttempts => exact h.reached
  | metrics => exact h.reached

/-- A step, other than one that counts something on its own. -/
lemma reached_step (h : x.Served y) {s : Step} (hs : ∀ m, s ≠ .record m) :
    Reached y (x.step s).2.2 := by
  cases hclosed : x.closed with
  | false =>
    have hstep : (x.step s).2.2 = counted (x.stepOpen s) := by
      simp only [step, hclosed, counted]
    rw [hstep]
    exact reached_stepOpen h hs
  | true =>
    cases s with
    | drain name room =>
      have hstep : (x.step (.drain name room)).2.2 = counted (x.drain name room) := by
        simp only [step, hclosed, counted]
      rw [hstep]
      exact reached_drain h name room
    | _ =>
      simp only [step, hclosed]
      exact ⟨[], h.store, h.feeds, h.metrics, h.untold⟩

/-- Where a session stands after some steps. -/
def after (x : Session) (steps : List Step) : Session :=
  steps.foldl (fun x s => (x.step s).2.2) x

/-- **A session is a run of a service.** Whatever is asked in a session, unless something is counted
on its own, some moves of the service lead to where the session then stands. -/
theorem served_after {steps : List Step} (hsteps : ∀ s ∈ steps, ∀ m, s ≠ .record m) :
    ∃ moves, (({} : Session).after steps).Served (system.run {} moves) := by
  have hreached : ∀ {x : Session} {y}, x.Served y → Reached y (x.after steps) := by
    induction steps with
    | nil => exact fun h => h.reached
    | cons s steps ih =>
      intro x y h
      have hstep := reached_step h (hsteps s List.mem_cons_self)
      exact hstep.trans fun y' h' => ih (fun s' hs' => hsteps s' (List.mem_cons_of_mem s hs')) h'
  exact hreached ⟨rfl, rfl, rfl, rfl⟩

end Session

end BareMetal
