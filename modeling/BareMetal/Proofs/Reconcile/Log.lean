import BareMetal.Faults
import BareMetal.Proofs.Reconcile.Exits
import BareMetal.Proofs.Reconcile.Story

/-!
What the log of a reconcile says about its result, over every store.

* `Reaction`, `Behaviour`: how a store may react to the calls of a reconcile: with any answer, after
  any time or never; `Behaviour.backend`: the calls, each cut off after some time, and
  `Backend.backend_prompt`: every store is one that takes no time;
* `unloaded_iff`, `uncommitted_iff`: which reactions keep a class from being read or committed;
* `Behaviour.Truthful`: what the events have to do with the result and with the reactions, and
  `truthful_of_exits`: **every exit is truthful**;
* `Behaviour.log_truthful`: **the log tells the truth**.
-/

namespace BareMetal

/-! ### Stores that take their time -/

/-- How a store reacts to a call, which may be cut off before it answers. -/
structure Reaction (σ α : Type) where
  /-- After how long it answers, if it ever does. -/
  delay : Option Span
  /-- What it answers. -/
  answer : Except StoreError α
  /-- The store when it has answered. -/
  done : σ
  /-- The store when the call was cut off. -/
  cut : σ

namespace Reaction

variable {σ α : Type}

/-- Whether the answer is there in time; at the very end of the time it is. -/
def inTime (limit : Span) (r : Reaction σ α) : Bool :=
  match r.delay with
  | some d => d.nanoseconds ≤ limit.nanoseconds
  | none => false

/-- What becomes of a call that is cut off after some time. -/
def bounded (limit : Span) (r : Reaction σ α) : Except StoreError α × σ :=
  if r.inTime limit then (r.answer, r.done) else (.error (.timeout limit), r.cut)

/-- **Gives**: the answer is there in time, and it is no error. -/
def Gives (limit : Span) (r : Reaction σ α) (a : α) (y : σ) : Prop :=
  r.inTime limit = true ∧ r.answer = .ok a ∧ r.done = y

/-- **Fails**: the answer is not there in time, or it is an error. -/
def Fails (limit : Span) (r : Reaction σ α) : Prop :=
  r.inTime limit = false ∨ ∃ e, r.answer = .error e

variable {limit : Span} {r : Reaction σ α} {a : α} {y : σ}

lemma gives_iff : r.Gives limit a y ↔ r.bounded limit = (.ok a, y) := by
  rw [Gives, bounded]
  cases r.inTime limit with
  | true => simp
  | false => simp

lemma fails_iff : r.Fails limit ↔ ∃ e, (r.bounded limit).1 = .error e := by
  rw [Fails, bounded]
  cases r.inTime limit with
  | true => simp
  | false => simp

end Reaction

/-- How a store reacts to the calls of a reconcile. What others do to the store in between is part
of its reaction to the next call. -/
structure Behaviour (σ : Type) where
  /-- A class is read. -/
  getClass : ClassKey → σ → Reaction σ (Option MachineClass)
  /-- The machines are listed. -/
  listMachines : σ → Reaction σ (List Machine)
  /-- The status of a class is written. -/
  writeStatus : ClassKey → String → MachineClassStatus → σ → Reaction σ Unit

/-- The calls to a store that behaves in this way, each cut off after some time. -/
def Behaviour.backend {σ : Type} (store : Behaviour σ) (limit : Span) : Backend σ where
  getClass key x := (store.getClass key x).bounded limit
  listMachines x := (store.listMachines x).bounded limit
  writeStatus key version status x := (store.writeStatus key version status x).bounded limit

namespace Backend

variable {σ : Type}

/-- A store that answers its calls without any delay. -/
def prompt (b : Backend σ) : Behaviour σ where
  getClass key x := ⟨some ⟨0⟩, (b.getClass key x).1, (b.getClass key x).2, x⟩
  listMachines x := ⟨some ⟨0⟩, (b.listMachines x).1, (b.listMachines x).2, x⟩
  writeStatus key version status x :=
    ⟨some ⟨0⟩, (b.writeStatus key version status x).1, (b.writeStatus key version status x).2, x⟩

/-- Every store is one that answers without any delay. -/
lemma backend_prompt (b : Backend σ) (limit : Span) : b.prompt.backend limit = b := rfl

end Backend

/-! ### What goes wrong -/

namespace Backend

variable {σ : Type} {key : ClassKey} {x z : σ} {c : MachineClass} {status : MachineClassStatus}
  {store : Behaviour σ} {limit : Span}

/-- Something fails to load if and only if a call to read it does, or finds no class. -/
lemma unloaded_iff :
    (store.backend limit).Unloaded key x ↔ (store.getClass key x).Fails limit ∨
      (∃ y, (store.getClass key x).Gives limit none y) ∨
      ∃ c y, (store.getClass key x).Gives limit (some c) y ∧
        (store.listMachines y).Fails limit := by
  simp only [Unloaded, Behaviour.backend, Reaction.gives_iff, Reaction.fails_iff]

/-- A commit is an error if and only if there is something to write and it cannot be written: for
want of a version, or since the write fails. -/
lemma commit_error_iff :
    (∃ e, ((store.backend limit).commit c status z).1.1 = .error e) ↔
      c.status ≠ some status ∧ ∀ version, c.version = some version →
        (store.writeStatus c.key version status z).Fails limit := by
  by_cases hsame : c.status = some status
  · simp [commit_of_same z hsame, hsame]
  · cases hversion : c.version with
    | none => simp [commit_of_unversioned z hsame hversion, hsame]
    | some version =>
      obtain ⟨hanswer, -⟩ := commit_of_other (b := store.backend limit) z hsame hversion
      rw [hanswer]
      simp only [Behaviour.backend, ne_eq, hsame, not_false_eq_true, true_and, Option.some.injEq,
        forall_eq', Reaction.fails_iff]
      cases ((store.writeStatus c.key version status z).bounded limit).1 <;> simp [Except.map]

/-- Everything is loaded, but not committed, if and only if the calls to read it succeed and the
commit is an error. -/
lemma uncommitted_iff :
    (store.backend limit).Uncommitted key x ↔
      ∃ c y machines z, (store.getClass key x).Gives limit (some c) y ∧
        (store.listMachines y).Gives limit machines z ∧
        c.status ≠ some (statusOf c.spec.qualifiers machines) ∧
        ∀ version, c.version = some version →
          (store.writeStatus c.key version (statusOf c.spec.qualifiers machines) z).Fails
            limit := by
  simp only [← commit_error_iff, Reaction.gives_iff]
  constructor
  · rintro ⟨c, machines, z, e, ⟨y, hget, hlist⟩, hcommit⟩
    exact ⟨c, y, machines, z, hget, hlist, e, hcommit⟩
  · rintro ⟨c, y, machines, z, hget, hlist, e, hcommit⟩
    exact ⟨c, machines, z, e, ⟨y, hget, hlist⟩, hcommit⟩

end Backend

/-! ### The log and the result -/

namespace Behaviour

variable {σ : Type}

/-- **Truthful**: what the events of the reconcile of a class say about its result, and about what
the store does. -/
structure Truthful (store : Behaviour σ) (limit : Span) (key : ClassKey) (x : σ) (result : Result)
    (es : List Event) : Prop where
  /-- The lines about phases name the phases and nothing else. -/
  named : (es.filter (fun e => e.message = "Reconcile phase")).map Event.fields =
    (Event.phases es).map (fun p => [("phase", p.text)])
  /-- They are some first ones of five lines. -/
  worded : (es.filter (fun e => e.message = "Reconcile phase")).map Event.fields <+:
    [[("phase", "fetching")], [("phase", "filtering")], [("phase", "aggregating")],
      [("phase", "committing")], [("phase", "done")]]
  /-- They come in their order, and none is left out in between. -/
  ordered : Event.phases es <+: [.fetching, .filtering, .aggregating, .committing, .done]
  /-- None comes twice. -/
  once : (Event.phases es).Nodup
  /-- There are never two or three of them. -/
  counted : (Event.phases es).length = 1 ∨ (Event.phases es).length = 4 ∨
    (Event.phases es).length = 5
  /-- All phases are named if and only if the status was written or is what it should be. -/
  all_iff : Event.phases es = [.fetching, .filtering, .aggregating, .committing, .done] ↔
    ∃ status, result = .ok (.updated status) ∨ result = .ok (.unchanged status)
  /-- Only the first is named if and only if the class cannot be read or is absent, or the machines
  cannot be listed. -/
  first_iff : Event.phases es = [.fetching] ↔
    (store.getClass key x).Fails limit ∨ (∃ y, (store.getClass key x).Gives limit none y) ∨
      ∃ c y, (store.getClass key x).Gives limit (some c) y ∧ (store.listMachines y).Fails limit
  /-- The first four are named if and only if all is read, another status is to be written, and
  either there is no version or the write fails. -/
  four_iff : Event.phases es = [.fetching, .filtering, .aggregating, .committing] ↔
    ∃ c y machines z, (store.getClass key x).Gives limit (some c) y ∧
      (store.listMachines y).Gives limit machines z ∧
      c.status ≠ some (statusOf c.spec.qualifiers machines) ∧
      ∀ version, c.version = some version →
        (store.writeStatus c.key version (statusOf c.spec.qualifiers machines) z).Fails limit
  /-- An error is the one thing warned of, with the last phase and the text of the error. -/
  warned : ∀ e, result = .error e → ∃ p, (Event.phases es).getLast? = some p ∧
    Event.lines .warn es = [("Reconcile failed", [("phase", p.text), ("error", e.message)])]
  /-- Else nothing is warned of. -/
  unwarned : ∀ o, result = .ok o → Event.lines .warn es = []
  /-- An update is told with the lengths of the lists. -/
  told : ∀ status, result = .ok (.updated status) → Event.lines .info es =
    [("Class status updated", [("available", toString status.machinesAvailable.length),
      ("in_use", toString status.machinesInUse.length)])]
  /-- Else nothing of the kind is told. -/
  untold : (∀ status, result ≠ .ok (.updated status)) → Event.lines .info es = []

variable {store : Behaviour σ} {limit : Span} {key : ClassKey} {x : σ} {result : Result}
  {es : List Event}

/-- **Every exit is truthful.** -/
lemma truthful_of_exits (h : (store.backend limit).Exits key x result es) :
    store.Truthful limit key x result es := by
  have hphases := h.phases_cases
  simp only [Phase.all, Backend.unloaded_iff, Backend.uncommitted_iff] at hphases
  have hordered : Event.phases es <+: [.fetching, .filtering, .aggregating, .committing, .done] := by
    rcases hphases with ⟨hes, -⟩ | ⟨hes, -⟩ | ⟨hes, -⟩ <;> rw [hes]
    · exact ⟨_, rfl⟩
    · exact ⟨_, rfl⟩
  exact {
    named := Event.fields_phase es
    worded := by
      rw [Event.fields_phase]
      exact hordered.map _
    ordered := hordered
    once := hordered.sublist.nodup (by decide)
    counted := by
      rcases hphases with ⟨hes, -⟩ | ⟨hes, -⟩ | ⟨hes, -⟩ <;> simp [hes]
    all_iff := by
      rcases hphases with ⟨hes, -, -, hend⟩ | ⟨hes, -, -, hend⟩ | ⟨hes, -, -, hend⟩ <;>
        simp [hes, hend]
    first_iff := by
      rcases hphases with ⟨hes, hloaded, -⟩ | ⟨hes, hloaded, -⟩ | ⟨hes, hloaded, -⟩ <;>
        simp only [hes, hloaded] <;> simp
    four_iff := by
      rcases hphases with ⟨hes, -, hcommit, -⟩ | ⟨hes, -, hcommit, -⟩ | ⟨hes, -, hcommit, -⟩ <;>
        simp only [hes, hcommit] <;> simp
    warned := by
      rintro e rfl
      exact h.warned
    unwarned := by
      rintro o rfl
      exact h.unwarned
    told := by
      rintro status rfl
      exact h.told
    untold := h.untold }

/-- **The log tells the truth.** However a store reacts to the calls of a reconcile, with whatever
answers and delays, the events of the reconcile are truthful about its result; and in the story of
its calls and reports, which are those that the store notes and those that the reconcile gives, no
status is written before the commit is logged. -/
theorem log_truthful (store : Behaviour σ) (limit : Span) (key : ClassKey) (x : σ) :
    let b := store.backend limit
    let run := b.reconcile key x
    let story := b.story key x
    store.Truthful limit key x run.1.1 (Report.events run.1.2) ∧
      Occurrence.reports story = run.1.2 ∧
      Occurrence.queries story = (b.recording.reconcile key (x, [])).2.2 ∧
      ∀ before k version status after,
        story = before ++ .asked (.writeStatus k version status) :: after →
          .told (.log (.phase .committing)) ∈ before := by
  intro b run story
  exact ⟨truthful_of_exits (b.exits_reconcile key x), b.reports_story key x, b.queries_story key x,
    b.announced_story key x⟩

/-- A write that never ends is warned of when its time is over. -/
example :
    let s := ({} : Store).after Store.Call.samples
    let b := ({ writeDelay := .forever } : Faults).backend 5000
    Event.lines .warn (Report.events (b.reconcile MachineClass.sample.key s).1.2) =
      [("Reconcile failed",
        [("phase", "committing"), ("error", "store call timed out after 5s")])] := by
  decide

end Behaviour

end BareMetal
