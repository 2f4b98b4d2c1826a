import BareMetal.Proofs.Reconcile.Step
import BareMetal.Proofs.System

/-!
Reconciles that race on one store, in any number, each taking its steps when it likes,
among calls of others.

* `Race`, `Race.Move`, `Race.step`: the store with the reconciles that were started, and
  a move of a race;
* `Race.Reads`, `Race.Lists`, `Race.Writes`: a reconcile reads its class, lists the
  machines, and succeeds in writing the status, each at some moment of a run;
* `Race.traced`: **whoever writes has read before and listed in between**;
* `Race.no_stale_write`: **a write finds the class just as it was read, and no status
  computed from older machines replaces one computed from newer machines**.
-/

namespace BareMetal

/-- A store with the reconciles that work on it, each with the key of its class. -/
structure Race where
  /-- The store. -/
  store : Store := {}
  /-- The reconciles in the order in which they were started. -/
  tasks : List (ClassKey × Progress) := []

namespace Race

/-- A move of a race. -/
inductive Move where
  /-- Someone else makes a call. -/
  | call (a : Store.Call)
  /-- A reconcile of a class is started. -/
  | start (key : ClassKey)
  /-- A reconcile takes its next step. -/
  | step (i : ℕ)

/-- What a move leads to. -/
def step (x : Race) : Move → Race
  | .call a => { x with store := a.perform x.store }
  | .start key => { x with tasks := x.tasks ++ [(key, Progress.start.1)] }
  | .step i =>
    match x.tasks[i]? with
    | some (key, p) =>
      let next := Store.backend.step key p x.store
      { store := next.2, tasks := x.tasks.set i (key, next.1.1) }
    | none => x

/-- The calls by which a move changes the store. -/
def calls (x : Race) : Move → List Store.Call
  | .call a => [a]
  | .start _ => []
  | .step i =>
    match x.tasks[i]? with
    | some (_, p) => p.calls
    | none => []

/-- The race as a system. -/
def system : System Race Move where
  store := Race.store
  step := Race.step
  calls := Race.calls
  store_step x m := by
    cases m with
    | call a => rfl
    | start key => rfl
    | step i =>
      simp only [step, calls]
      split
      · exact Store.step_store _ _ _
      · rfl

/-- Where things stand before the `n`-th move of a run from the empty store. -/
abbrev moment (moves : List Move) (n : ℕ) : Race :=
  system.moment {} moves n

/-! ### What a reconcile does in a run -/

/-- The `n`-th move is the one by which the `i`-th reconcile reads the class `c`. -/
structure Reads (moves : List Move) (n i : ℕ) (key : ClassKey) (c : MachineClass) : Prop where
  move : moves[n]? = some (.step i)
  task : (moment moves n).tasks[i]? = some (key, .fetching)
  found : (moment moves n).store.getClass key = some c

/-- The `n`-th move is the one by which the `i`-th reconcile lists the machines, which give the
class `c` the status `status`. -/
structure Lists (moves : List Move) (n i : ℕ) (key : ClassKey) (c : MachineClass)
    (status : MachineClassStatus) : Prop where
  move : moves[n]? = some (.step i)
  task : (moment moves n).tasks[i]? = some (key, .loading c)
  machines : ∃ machines, (moment moves n).store.listMachines = .ok machines ∧
    status = statusOf c.spec.qualifiers machines

/-- The `n`-th move is the one by which the `i`-th reconcile succeeds in writing the status of the
class, of which `c` is its copy. -/
structure Writes (moves : List Move) (n i : ℕ) (key : ClassKey) (c : MachineClass)
    (status : MachineClassStatus) : Prop where
  move : moves[n]? = some (.step i)
  written : ∃ version, (moment moves n).tasks[i]? = some (key, .writing c version status) ∧
    ((moment moves n).store.writeStatus c.key version status).1 = .ok ()

/-! ### A reconcile goes its way -/

variable {x : Race} {moves : List Move} {m n i : ℕ} {key : ClassKey} {p : Progress}
  {c : MachineClass} {status : MachineClassStatus}

/-- Where a reconcile stands after a move: it has just been started, or stands where it stood, or
has taken a step. -/
lemma task_of_step {a : Move} (h : (x.step a).tasks[i]? = some (key, p)) :
    p = .fetching ∨ x.tasks[i]? = some (key, p) ∨
      a = .step i ∧ ∃ q, x.tasks[i]? = some (key, q) ∧
        p = (Store.backend.step key q x.store).1.1 := by
  cases a with
  | call a => exact Or.inr (Or.inl h)
  | start k =>
    rw [step, List.getElem?_append] at h
    split at h
    · exact Or.inr (Or.inl h)
    · rw [List.getElem?_singleton] at h
      split at h
      · cases h
        exact Or.inl rfl
      · cases h
  | step j =>
    rw [step] at h
    split at h
    next k q hj =>
      rw [List.getElem?_set] at h
      split at h
      next hji =>
        subst hji
        split at h
        · cases h
          exact Or.inr (Or.inr ⟨rfl, q, hj, rfl⟩)
        · cases h
      next => exact Or.inr (Or.inl h)
    next => exact Or.inr (Or.inl h)

/-- What lies behind a reconcile that stands where `p` says, before the `n`-th move: it has read
the class that it holds, and has listed the machines for the status that it is about to write. -/
def Trace (moves : List Move) (n i : ℕ) (key : ClassKey) : Progress → Prop
  | .loading c => ∃ f, f < n ∧ Reads moves f i key c
  | .writing c version status =>
    c.version = some version ∧
      ∃ f l, f < l ∧ l < n ∧ Reads moves f i key c ∧ Lists moves l i key c status
  | _ => True

/-- What lies behind a reconcile lies behind it later, too. -/
lemma Trace.mono (h : Trace moves m i key p) (hmn : m ≤ n) : Trace moves n i key p := by
  cases p with
  | fetching => trivial
  | loading c =>
    obtain ⟨f, hf, hread⟩ := h
    exact ⟨f, by omega, hread⟩
  | writing c version status =>
    obtain ⟨hversion, f, l, hfl, hl, hread, hlist⟩ := h
    exact ⟨hversion, f, l, hfl, by omega, hread, hlist⟩
  | finished r => trivial

/-- **Whoever writes has read before and listed in between.** -/
theorem traced (h : (moment moves n).tasks[i]? = some (key, p)) : Trace moves n i key p := by
  induction n generalizing p with
  | zero => cases h
  | succ n ih =>
    cases ha : moves[n]? with
    | none =>
      rw [moment, system.moment_of_none ha] at h
      exact (ih h).mono (Nat.le_succ n)
    | some a =>
      rw [moment, system.moment_succ ha] at h
      rcases task_of_step h with rfl | hsame | ⟨rfl, q, hq, hp⟩
      · trivial
      · exact (ih hsame).mono (Nat.le_succ n)
      · -- the reconcile has taken the step itself: what it needs is what it saw
        cases p with
        | fetching => trivial
        | finished r => trivial
        | loading c =>
          obtain ⟨rfl, hc⟩ := Store.eq_of_step_loading hp.symm
          exact ⟨n, Nat.lt_succ_self n, ha, hq, hc⟩
        | writing c version status =>
          obtain ⟨rfl, hversion, hmachines⟩ := Store.eq_of_step_writing hp.symm
          obtain ⟨f, hf, hread⟩ := ih hq
          exact ⟨hversion, f, n, hf, Nat.lt_succ_self n, hread, ha, hq, hmachines⟩

/-! ### Writes -/

/-- At every moment the classes are stored under their own keys. -/
lemma filed (moves : List Move) (n : ℕ) : (moment moves n).store.Filed := by
  have hempty : (system.store {}).Filed := Store.filed_empty
  exact system.filed_moment hempty n

/-- The store only moves on to later stores. -/
lemma later (hroom : Store.stamps (system.callsOf {} moves) < 2 ^ 64) (h : m ≤ n) :
    (moment moves m).store.Later (moment moves n).store := by
  have hempty : (system.store {}).Filed := Store.filed_empty
  refine system.later_moment hempty ?_ h
  change 0 + Store.stamps (system.callsOf {} moves) < 2 ^ 64
  omega

/-- A reconcile that succeeds in writing finds the class just as it read it, though the class may
have been deleted and put again in between, and changes its status and its version only. -/
lemma Writes.found (hroom : Store.stamps (system.callsOf {} moves) < 2 ^ 64)
    (h : Writes moves n i key c status) :
    (moment moves n).store.getClass key = some c ∧
      (moment moves n).store.Rewritten key c status (moment moves (n + 1)).store := by
  obtain ⟨version, htask, hok⟩ := h.written
  obtain ⟨hversion, f, l, hfl, hln, hread, -⟩ := traced htask
  have hkey : c.key = key := (filed moves f).key_eq hread.found
  rw [hkey] at hok
  obtain ⟨c', hfound, hversion'⟩ := Store.writeStatus_ok_iff.mp hok
  -- the stored class has the version of the copy, so it is the copy
  have hsame : c' = c :=
    Store.Later.eq_of_version (later hroom (Nat.zero_le f)) (later hroom (by omega)) hread.found
      hfound (hversion'.trans hversion.symm)
  subst hsame
  refine ⟨hfound, ?_⟩
  have hstep : (moment moves (n + 1)).store =
      ((moment moves n).store.writeStatus key version status).2 := by
    rw [moment, system.moment_succ h.move]
    change ((moment moves n).step (.step i)).store = _
    simp only [step, htask]
    rw [← hkey]
    rfl
  rw [hstep]
  exact (Store.writeStatus_of_current hfound hversion).2

/-- **No stale overwrite.** A reconcile that succeeds in writing has read its class and then listed
the machines from which it computed the status, and the class that is stored before the write is
the copy that it read, whatever happened to it in between; the write changes the status and the
version only. If another reconcile has written the status of the class before, it listed the
machines and wrote before this one even read the class. -/
theorem no_stale_write (hroom : Store.stamps (system.callsOf {} moves) < 2 ^ 64)
    (h : Writes moves n i key c status) :
    (moment moves n).store.getClass key = some c ∧
      (moment moves n).store.Rewritten key c status (moment moves (n + 1)).store ∧
      ∃ f l, f < l ∧ l < n ∧ Reads moves f i key c ∧ Lists moves l i key c status ∧
        ∀ {m j : ℕ} {c' : MachineClass} {status' : MachineClassStatus}, m < n → j ≠ i →
          Writes moves m j key c' status' →
          m < f ∧ ∃ l', l' < m ∧ Lists moves l' j key c' status' := by
  obtain ⟨version, htask, -⟩ := h.written
  obtain ⟨-, f, l, hfl, hln, hread, hlist⟩ := traced htask
  obtain ⟨hfound, hrewritten⟩ := h.found hroom
  refine ⟨hfound, hrewritten, f, l, hfl, hln, hread, hlist, ?_⟩
  intro m j c' status' hmn hji h'
  obtain ⟨version', htask', -⟩ := h'.written
  obtain ⟨-, -, l', -, hl'm, -, hlist'⟩ := traced htask'
  -- had the other one written after this one read, the class would not be the copy any more
  have hmf : m < f := by
    by_contra hfm
    have hne := (h'.found hroom).2.ne_of_later (later hroom (Nat.zero_le f))
      (later hroom (not_lt.mp hfm)) (later hroom (Nat.le_succ m)) (later hroom hmn) hread.found
    exact hne hfound
  exact ⟨hmf, l', hl'm, hlist'⟩

/-- Two reconciles of one class, the second of which is started after the class was deleted and put
again. -/
def rivals : List Move :=
  let key := MachineClass.sample.key
  [.call (.putMachine .sample), .call (.putClass .sample), .start key, .step 0, .step 0, .step 0,
    .call (.deleteClass key), .call (.putClass .sample), .start key, .step 1, .step 1, .step 1]

/-- Both of them succeed in writing, and the second one has read the class after the first one had
written. -/
theorem no_stale_write_rivals :
    Store.stamps (system.callsOf {} rivals) < 2 ^ 64 ∧
      ∃ c c' status status', Writes rivals 5 0 MachineClass.sample.key c status ∧
        Writes rivals 11 1 MachineClass.sample.key c' status' ∧
        (moment rivals 11).store.getClass MachineClass.sample.key = some c' ∧
        ∃ f, 5 < f ∧ Reads rivals f 1 MachineClass.sample.key c' := by
  have hroom : Store.stamps (system.callsOf {} rivals) < 2 ^ 64 := by
    have hcount : Store.stamps (system.callsOf {} rivals) = 5 := by decide
    omega
  have hfirst : ∃ c status, Writes rivals 5 0 MachineClass.sample.key c status :=
    ⟨_, _, rfl, _, rfl, rfl⟩
  have hsecond : ∃ c status, Writes rivals 11 1 MachineClass.sample.key c status :=
    ⟨_, _, rfl, _, rfl, rfl⟩
  obtain ⟨c, status, hfirst⟩ := hfirst
  obtain ⟨c', status', hsecond⟩ := hsecond
  obtain ⟨hfound, -, f, l, -, -, hread, -, hothers⟩ := no_stale_write hroom hsecond
  have hf : 5 < f := (hothers (by norm_num) (by norm_num) hfirst).1
  exact ⟨hroom, c, c', status, status', hfirst, hsecond, hfound, f, hf, hread⟩

end Race

end BareMetal
