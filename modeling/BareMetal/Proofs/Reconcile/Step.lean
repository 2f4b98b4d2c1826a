import BareMetal.Proofs.Store.Write

/-!
The steps of a reconcile over a store: each makes one call, and what it leads to depends
on the answer alone.

* `Progress.calls`: the call, if any, by which the next step changes the store, and
  `step_store`: the step makes that call and no other;
* `onMachines_of_same`, `onMachines_of_other`: what a listing leads to, according to the
  status that the class already has;
* `step_cases`: all that a step can lead to, and with it `eq_of_step_loading`,
  `eq_of_step_writing`: which step leads to a listing and which to a write;
* `Backend.reconcile_of_fetched`, `reconcile_of_listed`, `reconcile_of_written`: how a
  reconcile over any store ends, by the last call that it makes, and with them
  `reports_of_missing`: what it reports when its class is missing;
* `Backend.commit_of_same`, `commit_of_unversioned`, `commit_of_other`: what a commit on its
  own comes to, according to the status and the version of the copy.
-/

namespace BareMetal

namespace Progress

/-- The calls by which the next step changes the store: a write, or none. -/
def calls : Progress → List Store.Call
  | .writing c version status => [.writeStatus c.key version status]
  | _ => []

variable {key : ClassKey} {c : MachineClass} {machines : List Machine} {version : String}
  {status : MachineClassStatus}

/-- The reports of a listing: the phases up to the commit. -/
def listed (machines : List Machine) : List Report :=
  [.log (.loaded (Inventory.ofMachines machines).size), enter .filtering, enter .aggregating,
    enter .committing]

/-- A class that already has the status that its machines give is left as it is. -/
lemma onMachines_of_same (h : c.status = some (statusOf c.spec.qualifiers machines)) :
    onMachines key c (.ok machines) =
      telling (listed machines ++ [.log (.upToDate c.key)])
        (unchanged key (statusOf c.spec.qualifiers machines)) := by
  rw [statusOf] at h
  simp only [onMachines, Commit.plan, if_pos h]
  rfl

/-- A class with another status, or none, is to be written over the version of the copy. -/
lemma onMachines_of_other (h : c.status ≠ some (statusOf c.spec.qualifiers machines))
    (hversion : c.version = some version) :
    onMachines key c (.ok machines) =
      (.writing c version (statusOf c.spec.qualifiers machines),
        listed machines ++ [.count .statusWrite]) := by
  rw [statusOf] at h
  simp only [onMachines, Commit.plan, if_neg h, hversion]
  rfl

/-- A copy without a version cannot be written. -/
lemma onMachines_of_unversioned (h : c.status ≠ some (statusOf c.spec.qualifiers machines))
    (hversion : c.version = none) :
    onMachines key c (.ok machines) =
      telling (listed machines) (fail .committing (.missingVersion c.key)) := by
  rw [statusOf] at h
  simp only [onMachines, Commit.plan, if_neg h, hversion]
  rfl

end Progress

namespace Store

variable {s : Store} {key : ClassKey} {p : Progress} {c : MachineClass} {version : String}
  {status : MachineClassStatus}

/-! ### The call of a step -/

/-- The store after a step. -/
lemma step_store (s : Store) (key : ClassKey) (p : Progress) :
    (backend.step key p s).2 = s.after p.calls := by
  cases p <;> rfl

/-- What a listing that succeeds answers. -/
lemma listMachines_eq_ok (h : s.machineListFails = false) :
    s.listMachines = .ok s.machines.values := by
  rw [listMachines, h]
  rfl

/-- A listing that fails tells why. -/
lemma listMachines_eq_error (h : s.machineListFails = true) :
    s.listMachines = .error (.unavailable "machine list failed") := by
  rw [listMachines, h]
  rfl

/-! ### What a step leads to -/

/-- A listing leads to a write, or ends the reconcile. -/
lemma onMachines_cases (key : ClassKey) (c : MachineClass)
    (answer : Except StoreError (List Machine)) :
    (∃ r, (Progress.onMachines key c answer).1 = .finished r) ∨
      ∃ machines version, answer = .ok machines ∧ c.version = some version ∧
        (Progress.onMachines key c answer).1 =
          .writing c version (statusOf c.spec.qualifiers machines) := by
  cases answer with
  | error e => exact Or.inl ⟨_, rfl⟩
  | ok machines =>
    by_cases h : c.status = some (statusOf c.spec.qualifiers machines)
    · rw [Progress.onMachines_of_same h]
      exact Or.inl ⟨_, rfl⟩
    · cases hversion : c.version with
      | none =>
        rw [Progress.onMachines_of_unversioned h hversion]
        exact Or.inl ⟨_, rfl⟩
      | some version =>
        rw [Progress.onMachines_of_other h hversion]
        exact Or.inr ⟨machines, version, rfl, rfl, rfl⟩

/-- A write ends the reconcile. -/
lemma onWritten_finished (key : ClassKey) (c : MachineClass) (status : MachineClassStatus)
    (answer : Except StoreError Unit) :
    ∃ r, (Progress.onWritten key c status answer).1 = .finished r := by
  cases answer with
  | ok u => exact ⟨_, rfl⟩
  | error e => cases e <;> exact ⟨_, rfl⟩

/-- **The course of a reconcile**: a step has read the class that it found, or has computed the
status that is to be written over the version of the copy, or ends the reconcile. -/
lemma step_cases (key : ClassKey) (p : Progress) (s : Store) :
    (∃ c, p = .fetching ∧ s.getClass key = some c ∧ (backend.step key p s).1.1 = .loading c) ∨
      (∃ c machines version, p = .loading c ∧ s.listMachines = .ok machines ∧
        c.version = some version ∧ (backend.step key p s).1.1 =
          .writing c version (statusOf c.spec.qualifiers machines)) ∨
      ∃ r, (backend.step key p s).1.1 = .finished r := by
  cases p with
  | fetching =>
    cases h : s.getClass key with
    | none =>
      refine Or.inr (Or.inr ⟨.ok .missing, ?_⟩)
      change (Progress.onClass key (.ok (s.getClass key))).1 = _
      rw [h]
      rfl
    | some c =>
      refine Or.inl ⟨c, rfl, rfl, ?_⟩
      change (Progress.onClass key (.ok (s.getClass key))).1 = _
      rw [h]
      rfl
  | loading c =>
    rcases onMachines_cases key c s.listMachines with hend | ⟨machines, version, hwrite⟩
    · exact Or.inr (Or.inr hend)
    · exact Or.inr (Or.inl ⟨c, machines, version, rfl, hwrite⟩)
  | writing c version status => exact Or.inr (Or.inr (onWritten_finished key c status _))
  | finished r => exact Or.inr (Or.inr ⟨r, rfl⟩)

/-- A reconcile that is about to list the machines has just read its class. -/
lemma eq_of_step_loading (h : (backend.step key p s).1.1 = .loading c) :
    p = .fetching ∧ s.getClass key = some c := by
  rcases step_cases key p s with ⟨c', hp, hc, hnext⟩ | ⟨_, _, _, _, _, _, hnext⟩ | ⟨r, hnext⟩
  · rw [hnext] at h
    cases h
    exact ⟨hp, hc⟩
  · rw [hnext] at h
    cases h
  · rw [hnext] at h
    cases h

/-- A reconcile that is about to write has just listed the machines, and writes the status that
they give over the version of its copy. -/
lemma eq_of_step_writing (h : (backend.step key p s).1.1 = .writing c version status) :
    p = .loading c ∧ c.version = some version ∧ ∃ machines, s.listMachines = .ok machines ∧
      status = statusOf c.spec.qualifiers machines := by
  rcases step_cases key p s with ⟨_, _, _, hnext⟩ | ⟨c', ms, v, hp, hms, hv, hnext⟩ | ⟨r, hnext⟩
  · rw [hnext] at h
    cases h
  · rw [hnext] at h
    cases h
    exact ⟨hp, hv, ms, hms, rfl⟩
  · rw [hnext] at h
    cases h

end Store

/-! ### Whole reconciles -/

namespace Backend

variable {σ : Type} {b : Backend σ} {key : ClassKey} {c : MachineClass} {machines : List Machine}
  {version : String} {r : Result} {x y z t : σ}

/-- A reconcile that has ended does nothing more. -/
lemma advance_finished (b : Backend σ) (key : ClassKey) (n : ℕ) (r : Result) (rs : List Report)
    (x : σ) : b.advance key n (.finished r) rs x = ((.finished r, rs), x) := by
  induction n with
  | zero => rfl
  | succ n ih =>
    have hstep : b.step key (.finished r) x = ((.finished r, []), x) := rfl
    simp only [advance, hstep, List.append_nil, ih]

/-- A reconcile may end with reading its class. -/
lemma reconcile_of_fetched {answer : Except StoreError (Option MachineClass)}
    (hget : b.getClass key x = (answer, y)) (h : (Progress.onClass key answer).1 = .finished r) :
    b.reconcile key x = ((r, Progress.start.2 ++ (Progress.onClass key answer).2), y) := by
  have hadvance : b.advance key 3 Progress.start.1 Progress.start.2 x =
      b.advance key 2 (Progress.onClass key answer).1
        (Progress.start.2 ++ (Progress.onClass key answer).2) y := by
    rw [advance, Progress.start, step, hget]
  rw [reconcile, hadvance, h, advance_finished]

/-- A reconcile that finds its class may end with listing the machines. -/
lemma reconcile_of_listed {answer : Except StoreError (List Machine)}
    (hget : b.getClass key x = (.ok (some c), y)) (hlist : b.listMachines y = (answer, z))
    (h : (Progress.onMachines key c answer).1 = .finished r) :
    b.reconcile key x = ((r, Progress.start.2 ++ (Progress.onMachines key c answer).2), z) := by
  have hadvance : b.advance key 3 Progress.start.1 Progress.start.2 x =
      b.advance key 1 (Progress.onMachines key c answer).1
        (Progress.start.2 ++ (Progress.onMachines key c answer).2) z := by
    rw [advance, Progress.start, step, hget]
    simp only [Progress.onClass]
    rw [advance, step, hlist]
    rfl
  rw [reconcile, hadvance, h, advance_finished]

/-- A reconcile that finds another status than the right one ends as its write does. -/
lemma reconcile_of_written {answer : Except StoreError Unit}
    (hget : b.getClass key x = (.ok (some c), y)) (hlist : b.listMachines y = (.ok machines, z))
    (hversion : c.version = some version)
    (hother : c.status ≠ some (statusOf c.spec.qualifiers machines))
    (hwrite : b.writeStatus c.key version (statusOf c.spec.qualifiers machines) z = (answer, t))
    (h : (Progress.onWritten key c (statusOf c.spec.qualifiers machines) answer).1 = .finished r) :
    b.reconcile key x =
      ((r, Progress.start.2 ++ (Progress.listed machines ++ [.count .statusWrite]) ++
        (Progress.onWritten key c (statusOf c.spec.qualifiers machines) answer).2), t) := by
  have hmachines : Progress.onMachines key c (.ok machines) = _ :=
    Progress.onMachines_of_other hother hversion
  simp only [reconcile, advance, Progress.start, step, hget, Progress.onClass, hlist, hmachines,
    hwrite, h, List.append_nil]

/-- A listing does not find a class missing. -/
lemma ne_missing_of_listed {answer : Except StoreError (List Machine)}
    (h : (Progress.onMachines key c answer).1 = .finished r) : r ≠ .ok .missing := by
  rintro rfl
  cases answer with
  | error e => cases h
  | ok machines =>
    by_cases hsame : c.status = some (statusOf c.spec.qualifiers machines)
    · rw [Progress.onMachines_of_same hsame] at h
      cases h
    · cases hversion : c.version with
      | none =>
        rw [Progress.onMachines_of_unversioned hsame hversion] at h
        cases h
      | some version =>
        rw [Progress.onMachines_of_other hsame hversion] at h
        cases h

/-- A write that finds its class missing reports so. -/
lemma onWritten_missing {status : MachineClassStatus} {answer : Except StoreError Unit}
    (h : (Progress.onWritten key c status answer).1 = .finished (.ok .missing)) :
    (Progress.onWritten key c status answer).2 = (Progress.missing key).2 := by
  cases answer with
  | ok u => cases h
  | error e =>
    cases e with
    | notFound k => rfl
    | _ => cases h

/-- **A class that is found missing**, whenever that is, is reported so at the end. -/
lemma reports_of_missing (h : (b.reconcile key x).1.1 = .ok .missing) :
    ∃ rs, (b.reconcile key x).1.2 = rs ++ (Progress.missing key).2 := by
  rcases hget : b.getClass key x with ⟨answer, y⟩
  cases answer with
  | error e =>
    rw [reconcile_of_fetched hget rfl] at h
    cases h
  | ok found =>
    cases found with
    | none =>
      rw [reconcile_of_fetched hget rfl]
      exact ⟨_, rfl⟩
    | some c =>
      rcases hlist : b.listMachines y with ⟨answer, z⟩
      rcases Store.onMachines_cases key c answer with
        ⟨r, hr⟩ | ⟨machines, version, rfl, hversion, hwriting⟩
      · rw [reconcile_of_listed hget hlist hr] at h
        exact absurd h (ne_missing_of_listed hr)
      · have hother : c.status ≠ some (statusOf c.spec.qualifiers machines) := by
          intro hsame
          rw [Progress.onMachines_of_same hsame] at hwriting
          cases hwriting
        rcases hwrite : b.writeStatus c.key version (statusOf c.spec.qualifiers machines) z with
          ⟨answer, t⟩
        obtain ⟨r, hr⟩ :=
          Store.onWritten_finished key c (statusOf c.spec.qualifiers machines) answer
        rw [reconcile_of_written hget hlist hversion hother hwrite hr] at h ⊢
        have hmissing : r = .ok .missing := h
        exact ⟨_, by rw [onWritten_missing (hr.trans (congrArg _ hmissing))]⟩

/-! ### Commits on their own -/

variable {status : MachineClassStatus}

/-- A commit of the status that the copy has leaves the store alone. -/
lemma commit_of_same (x : σ) (h : c.status = some status) :
    b.commit c status x = ((.ok .skip, Commit.reports c .skip), x) := by
  have hplan : Commit.plan c status = .skip := if_pos h
  rw [commit, hplan]

/-- Without a version nothing is written. -/
lemma commit_of_unversioned (x : σ) (h : c.status ≠ some status) (hversion : c.version = none) :
    b.commit c status x = ((.error (.missingVersion c.key), Commit.reports c .refuse), x) := by
  have hplan : Commit.plan c status = .refuse := by
    rw [Commit.plan, if_neg h, hversion]
  rw [commit, hplan]

/-- A commit of another status is a write over the version of the copy, and counts as one whatever
becomes of it. -/
lemma commit_of_other (x : σ) (h : c.status ≠ some status) (hversion : c.version = some version) :
    (b.commit c status x).1.1 =
        (b.writeStatus c.key version status x).1.map (fun _ => .write version) ∧
      (b.commit c status x).2 = (b.writeStatus c.key version status x).2 ∧
      Report.measurements (b.commit c status x).1.2 = [.statusWrite] := by
  have hplan : Commit.plan c status = .write version := by
    rw [Commit.plan, if_neg h, hversion]
  simp only [commit, hplan]
  rcases b.writeStatus c.key version status x with ⟨answer, y⟩
  cases answer <;> exact ⟨rfl, rfl, rfl⟩

end Backend

end BareMetal
