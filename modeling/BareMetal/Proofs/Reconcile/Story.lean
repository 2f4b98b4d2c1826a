import BareMetal.Proofs.Reconcile.Step

/-!
The story of a reconcile: its calls and its reports, in one order.

* `Query`, `Progress.query`: the calls of a reconcile, and the one that it waits for;
* `Occurrence`, `Backend.chronicle`, `Backend.story`: a call or a report, and all of them in the
  order in which they happen;
* `reports_story`, `queries_story`: **the reports of the story are those that the reconcile gives,
  and its calls are those that the store gets** (`Backend.recording`);
* `Announced`, `announced_story`: **nothing is written before the commit is logged**.
-/

namespace BareMetal

/-! ### Calls and reports -/

/-- A call that a reconcile makes. -/
inductive Query where
  /-- A class is read. -/
  | getClass (key : ClassKey)
  /-- The machines are listed. -/
  | listMachines
  /-- The status of a class is written over a version. -/
  | writeStatus (key : ClassKey) (version : String) (status : MachineClassStatus)
  deriving DecidableEq

/-- The call whose answer a reconcile waits for. -/
def Progress.query (key : ClassKey) : Progress → Option Query
  | .fetching => some (.getClass key)
  | .loading _ => some .listMachines
  | .writing c version status => some (.writeStatus c.key version status)
  | .finished _ => none

/-- Something that happens in the course of a reconcile. -/
inductive Occurrence where
  /-- A call is made. -/
  | asked (q : Query)
  /-- Something is reported. -/
  | told (r : Report)
  deriving DecidableEq

namespace Occurrence

/-- The calls among the occurrences, in order. -/
def queries (ds : List Occurrence) : List Query :=
  ds.filterMap (fun d => match d with
    | .asked q => some q
    | .told _ => none)

/-- The reports among the occurrences, in order. -/
def reports (ds : List Occurrence) : List Report :=
  ds.filterMap (fun d => match d with
    | .asked _ => none
    | .told r => some r)

/-- The commit is logged. -/
def committing : Occurrence := .told (Progress.enter .committing)

variable {ds : List Occurrence}

lemma queries_append (qs : List Query) (rs : List Report) :
    queries (ds ++ qs.map .asked ++ rs.map .told) = queries ds ++ qs := by
  simp only [queries, List.filterMap_append, List.filterMap_map, Function.comp_def]
  simp

lemma reports_append (qs : List Query) (rs : List Report) :
    reports (ds ++ qs.map .asked ++ rs.map .told) = reports ds ++ rs := by
  simp only [reports, List.filterMap_append, List.filterMap_map, Function.comp_def]
  simp

end Occurrence

/-! ### Announced writes -/

/-- **Announced**: whenever a status is written, the commit has been logged before. -/
def Announced (ds : List Occurrence) : Prop :=
  ∀ before k version status after,
    ds = before ++ .asked (.writeStatus k version status) :: after → .committing ∈ before

variable {ds : List Occurrence}

/-- What happens next keeps the writes announced, if the commit has been logged before it writes. -/
lemma Announced.append {more : List Occurrence} (h : Announced ds)
    (hmore : ∀ k version status, .asked (.writeStatus k version status) ∈ more → .committing ∈ ds) :
    Announced (ds ++ more) := by
  intro before k version status after heq
  rcases List.append_eq_append_iff.mp heq with ⟨rest, rfl, hrest⟩ | ⟨rest, rfl, hrest⟩
  · exact List.mem_append_left _ (hmore k version status (by simp [hrest]))
  · cases rest with
    | nil =>
      rw [List.nil_append] at hrest
      subst hrest
      rw [List.append_nil] at hmore
      exact hmore k version status List.mem_cons_self
    | cons d rest =>
      obtain ⟨rfl, -⟩ := List.cons.inj hrest
      exact h _ k version status rest rfl

namespace Backend

variable {σ : Type} {b : Backend σ} {key : ClassKey} {p : Progress} {x : σ} {ds : List Occurrence}

/-! ### The order in which it happens -/

/-- What happens in some steps of a reconcile, after what happened before: in each of them the call
is made first, and what its answer leads to is reported then. -/
def chronicle (b : Backend σ) (key : ClassKey) :
    ℕ → Progress → List Occurrence → σ → List Occurrence
  | 0, _, ds, _ => ds
  | n + 1, p, ds, x =>
    let ((next, rs), y) := b.step key p x
    b.chronicle key n next (ds ++ (p.query key).toList.map .asked ++ rs.map .told) y

/-- All that happens in a reconcile. -/
def story (b : Backend σ) (key : ClassKey) (x : σ) : List Occurrence :=
  b.chronicle key 3 Progress.start.1 (Progress.start.2.map .told) x

/-- A store that notes the calls made to it. -/
def recording (b : Backend σ) : Backend (σ × List Query) where
  getClass key x :=
    ((b.getClass key x.1).1, ((b.getClass key x.1).2, x.2 ++ [.getClass key]))
  listMachines x :=
    ((b.listMachines x.1).1, ((b.listMachines x.1).2, x.2 ++ [.listMachines]))
  writeStatus key version status x :=
    ((b.writeStatus key version status x.1).1,
      ((b.writeStatus key version status x.1).2, x.2 ++ [.writeStatus key version status]))

/-- A step over a store that notes its calls is the same step, and the call is noted. -/
lemma step_recording (b : Backend σ) (key : ClassKey) (p : Progress) (x : σ) (qs : List Query) :
    b.recording.step key p (x, qs) =
      ((b.step key p x).1, ((b.step key p x).2, qs ++ (p.query key).toList)) := by
  cases p with
  | finished r => simp [step, Progress.query]
  | _ => rfl

/-- **The reports in a chronicle are those of the steps.** -/
lemma reports_chronicle (b : Backend σ) (key : ClassKey) (n : ℕ) (p : Progress)
    (ds : List Occurrence) (x : σ) :
    Occurrence.reports (b.chronicle key n p ds x) =
      (b.advance key n p (Occurrence.reports ds) x).1.2 := by
  induction n generalizing p ds x with
  | zero => rfl
  | succ n ih => rw [chronicle, ih, Occurrence.reports_append, advance]

/-- **The calls in a chronicle are those that the store notes.** -/
lemma queries_chronicle (b : Backend σ) (key : ClassKey) (n : ℕ) (p : Progress)
    (ds : List Occurrence) (rs : List Report) (x : σ) :
    b.recording.advance key n p rs (x, Occurrence.queries ds) =
      ((b.advance key n p rs x).1,
        ((b.advance key n p rs x).2, Occurrence.queries (b.chronicle key n p ds x))) := by
  induction n generalizing p ds rs x with
  | zero => rfl
  | succ n ih =>
    rw [advance, step_recording]
    simp only [← Occurrence.queries_append _ (b.step key p x).1.2]
    rw [ih, chronicle, advance]

/-- A reconcile reports what its steps report, and leaves the store as they do. -/
lemma reconcile_eq_advance (b : Backend σ) (key : ClassKey) (x : σ) :
    (b.reconcile key x).1.2 = (b.advance key 3 Progress.start.1 Progress.start.2 x).1.2 ∧
      (b.reconcile key x).2 = (b.advance key 3 Progress.start.1 Progress.start.2 x).2 := by
  rw [reconcile]
  rcases b.advance key 3 Progress.start.1 Progress.start.2 x with ⟨⟨p, rs⟩, y⟩
  cases p <;> exact ⟨rfl, rfl⟩

lemma reports_story (b : Backend σ) (key : ClassKey) (x : σ) :
    Occurrence.reports (b.story key x) = (b.reconcile key x).1.2 := by
  rw [story, reports_chronicle, (b.reconcile_eq_advance key x).1]
  rfl

lemma queries_story (b : Backend σ) (key : ClassKey) (x : σ) :
    Occurrence.queries (b.story key x) = (b.recording.reconcile key (x, [])).2.2 := by
  have hrun := b.queries_chronicle key 3 Progress.start.1 (Progress.start.2.map .told)
    Progress.start.2 x
  rw [(b.recording.reconcile_eq_advance key (x, [])).2]
  exact (congrArg (fun run => run.2.2) hrun).symm

/-! ### No write without notice -/

/-- A step after which a status is to be written logs the commit. -/
lemma committing_step {k : ClassKey} {version : String} {status : MachineClassStatus}
    (h : (b.step key p x).1.1.query key = some (.writeStatus k version status)) :
    Progress.enter .committing ∈ (b.step key p x).1.2 := by
  cases p with
  | fetching =>
    -- the next call is a listing, if there is any
    change (Progress.onClass key (b.getClass key x).1).1.query key = _ at h
    cases hget : (b.getClass key x).1 with
    | error e =>
      rw [hget] at h
      cases h
    | ok found =>
      rw [hget] at h
      cases found <;> cases h
  | loading c =>
    change (Progress.onMachines key c (b.listMachines x).1).1.query key = _ at h
    change _ ∈ (Progress.onMachines key c (b.listMachines x).1).2
    cases hlist : (b.listMachines x).1 with
    | error e =>
      rw [hlist] at h
      cases h
    | ok machines => simp [Progress.onMachines, Progress.telling]
  | writing c version' status' =>
    obtain ⟨r, hr⟩ :=
      Store.onWritten_finished key c status' (b.writeStatus c.key version' status' x).1
    change (Progress.onWritten key c status' _).1.query key = _ at h
    rw [hr] at h
    cases h
  | finished r => cases h

/-- **A step keeps the writes announced**, and if the next one writes, the commit has been logged
by then. -/
lemma announced_step (h : Announced ds)
    (hnext : ∀ k version status, p.query key = some (.writeStatus k version status) → .committing ∈ ds) :
    let ds' := ds ++ (p.query key).toList.map .asked ++ (b.step key p x).1.2.map .told
    Announced ds' ∧ ∀ k version status,
      (b.step key p x).1.1.query key = some (.writeStatus k version status) → .committing ∈ ds' := by
  intro ds'
  constructor
  · rw [show ds' = ds ++ (_ ++ _) from List.append_assoc _ _ _]
    refine h.append fun k version status hmem => hnext k version status ?_
    simpa using hmem
  · intro k version status hquery
    exact List.mem_append_right _ (List.mem_map_of_mem (committing_step hquery))

/-- **Steps keep the writes announced.** -/
lemma announced_chronicle (n : ℕ) (h : Announced ds)
    (hnext : ∀ k version status, p.query key = some (.writeStatus k version status) → .committing ∈ ds) :
    Announced (b.chronicle key n p ds x) := by
  induction n generalizing p ds x with
  | zero => exact h
  | succ n ih =>
    obtain ⟨hstep, hcommitting⟩ := announced_step (b := b) (x := x) h hnext
    exact ih hstep hcommitting

/-- Every write of a reconcile is announced. -/
lemma announced_story (b : Backend σ) (key : ClassKey) (x : σ) : Announced (b.story key x) := by
  refine announced_chronicle 3 (fun before k version status after heq => ?_) (by rintro _ _ _ ⟨⟩)
  -- nothing is asked before the start
  have hmem : Occurrence.asked (.writeStatus k version status) ∈
      Progress.start.2.map Occurrence.told := by simp [heq]
  simp at hmem

end Backend

end BareMetal
