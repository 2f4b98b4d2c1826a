import BareMetal.Proofs.Reconcile.Step

/-!
The ways in which a reconcile over a store can end, and what it logs on each of them.

* `Event.phases`, `Event.lines`: the phases that some events name, and the lines of a level as they
  are logged; `Event.fields_phase`: the lines about phases name nothing else;
* `Backend.Exits`: the ways to end, each with its result and its events, and `exits_reconcile`:
  **a reconcile takes one of them**;
* `Unloaded`, `Uncommitted`: the class or the machines cannot be read, and all is read but not
  committed, and `Exits.phases_cases`: **which of them holds, if any, is told by the phases**;
* `Exits.warned`, `unwarned`, `told`, `untold`: what an exit warns of, and what it tells.
-/

namespace BareMetal

/-! ### Lines of the log -/

namespace Event

/-- The phases that the events name, in order. -/
def phases (es : List Event) : List Phase :=
  es.filterMap (fun e => match e with
    | .phase p => some p
    | _ => none)

/-- The lines of a level among the events: the messages with their fields. -/
def lines (l : Level) (es : List Event) : List (String × List (String × String)) :=
  (es.filter (fun e => e.level = l)).map (fun e => (e.message, e.fields))

/-- **The lines about phases name the phases and nothing else.** -/
lemma fields_phase (es : List Event) :
    (es.filter (fun e => e.message = "Reconcile phase")).map fields =
      (phases es).map (fun p => [("phase", p.text)]) := by
  induction es with
  | nil => rfl
  | cons e es ih =>
    cases e with
    | phase p => simpa [phases, message, fields] using ih
    | _ => simpa [phases, message] using ih

end Event

/-! ### Ways to end -/

namespace Backend

variable {σ : Type} {b : Backend σ} {key : ClassKey} {x y z : σ} {c c' : MachineClass}
  {machines machines' : List Machine} {result : Result} {es : List Event}

/-- The class is read and the machines are listed. -/
def Loads (b : Backend σ) (key : ClassKey) (x : σ) (c : MachineClass) (machines : List Machine)
    (z : σ) : Prop :=
  ∃ y, b.getClass key x = (.ok (some c), y) ∧ b.listMachines y = (.ok machines, z)

/-- The events of a reconcile up to its commit. -/
def opening (machines : List Machine) : List Event :=
  [.phase .fetching, .loaded (Inventory.ofMachines machines).size, .phase .filtering,
    .phase .aggregating, .phase .committing]

/-- **Exits**: the ways in which a reconcile can end, each with its result and the events that it
logs. -/
inductive Exits (b : Backend σ) (key : ClassKey) (x : σ) : Result → List Event → Prop
  /-- The class cannot be read. -/
  | unread {e : StoreError} {y : σ} (hget : b.getClass key x = (.error e, y)) :
      Exits b key x (.error e) [.phase .fetching, .failed .fetching e]
  /-- The class is absent. -/
  | absent {y : σ} (hget : b.getClass key x = (.ok none, y)) :
      Exits b key x (.ok .missing) [.phase .fetching, .gone]
  /-- The machines cannot be listed. -/
  | unlisted {c : MachineClass} {y z : σ} {e : StoreError}
      (hget : b.getClass key x = (.ok (some c), y)) (hlist : b.listMachines y = (.error e, z)) :
      Exits b key x (.error e) [.phase .fetching, .failed .fetching e]
  /-- There is nothing to commit. -/
  | unchanged {c : MachineClass} {machines : List Machine} {z : σ}
      (hload : b.Loads key x c machines z)
      (hcommit : (b.commit c (statusOf c.spec.qualifiers machines) z).1.1 = .ok .skip) :
      Exits b key x (.ok (.unchanged (statusOf c.spec.qualifiers machines)))
        (opening machines ++ [.upToDate c.key, .phase .done])
  /-- The status is committed. -/
  | updated {c : MachineClass} {machines : List Machine} {z : σ} {version : String}
      {status : MachineClassStatus} (hload : b.Loads key x c machines z)
      (hstatus : status = statusOf c.spec.qualifiers machines)
      (hcommit : (b.commit c status z).1.1 = .ok (.write version)) :
      Exits b key x (.ok (.updated status))
        (opening machines ++
          [.written c.key status.machinesAvailable.length status.machinesInUse.length, .phase .done,
            .updated status.machinesAvailable.length status.machinesInUse.length])
  /-- The commit finds that the class is gone. -/
  | vanished {c : MachineClass} {machines : List Machine} {z : σ} {k : ClassKey}
      (hload : b.Loads key x c machines z)
      (hcommit : (b.commit c (statusOf c.spec.qualifiers machines) z).1.1 = .error (.notFound k)) :
      Exits b key x (.ok .missing) (opening machines ++ [.gone])
  /-- The commit fails. -/
  | uncommitted {c : MachineClass} {machines : List Machine} {z : σ} {e : StoreError}
      (hload : b.Loads key x c machines z)
      (hcommit : (b.commit c (statusOf c.spec.qualifiers machines) z).1.1 = .error e)
      (hfound : ∀ k, e ≠ .notFound k) :
      Exits b key x (.error e) (opening machines ++ [.failed .committing e])

/-- A reconcile that has loaded everything ends as its commit does. -/
lemma exits_of_loads (hget : b.getClass key x = (.ok (some c), y))
    (hlist : b.listMachines y = (.ok machines, z)) :
    b.Exits key x (b.reconcile key x).1.1 (Report.events (b.reconcile key x).1.2) := by
  have hload : b.Loads key x c machines z := ⟨y, hget, hlist⟩
  by_cases hsame : c.status = some (statusOf c.spec.qualifiers machines)
  · have hend : Progress.onMachines key c (.ok machines) = _ := Progress.onMachines_of_same hsame
    rw [reconcile_of_listed hget hlist (by rw [hend]; rfl), hend]
    exact .unchanged hload (by rw [commit_of_same z hsame])
  · cases hversion : c.version with
    | none =>
      have hend : Progress.onMachines key c (.ok machines) = _ :=
        Progress.onMachines_of_unversioned hsame hversion
      rw [reconcile_of_listed hget hlist (by rw [hend]; rfl), hend]
      exact .uncommitted hload (by rw [commit_of_unversioned z hsame hversion]) (by simp)
    | some version =>
      obtain ⟨hcommit, -⟩ := commit_of_other (b := b) z hsame hversion
      rcases hwrite : b.writeStatus c.key version (statusOf c.spec.qualifiers machines) z with
        ⟨answer, t⟩
      rw [hwrite] at hcommit
      obtain ⟨r, hr⟩ := Store.onWritten_finished key c (statusOf c.spec.qualifiers machines) answer
      rw [reconcile_of_written hget hlist hversion hsame hwrite hr]
      cases answer with
      | ok u =>
        cases hr
        exact .updated hload rfl hcommit
      | error e =>
        cases e with
        | notFound k =>
          cases hr
          exact .vanished hload hcommit
        | _ =>
          cases hr
          exact .uncommitted hload hcommit (by simp)

/-- **A reconcile takes one of its exits.** -/
lemma exits_reconcile (b : Backend σ) (key : ClassKey) (x : σ) :
    b.Exits key x (b.reconcile key x).1.1 (Report.events (b.reconcile key x).1.2) := by
  rcases hget : b.getClass key x with ⟨answer, y⟩
  cases answer with
  | error e =>
    rw [reconcile_of_fetched hget rfl]
    exact .unread hget
  | ok found =>
    cases found with
    | none =>
      rw [reconcile_of_fetched hget rfl]
      exact .absent hget
    | some c =>
      rcases hlist : b.listMachines y with ⟨answer, z⟩
      cases answer with
      | error e =>
        rw [reconcile_of_listed hget hlist rfl]
        exact .unlisted hget hlist
      | ok machines => exact exits_of_loads hget hlist

/-! ### What an exit shows -/

lemma Loads.unique {z' : σ} (h : b.Loads key x c machines z) (h' : b.Loads key x c' machines' z') :
    c = c' ∧ machines = machines' ∧ z = z' := by
  obtain ⟨y, hget, hlist⟩ := h
  obtain ⟨y', hget', hlist'⟩ := h'
  rw [hget, Prod.mk.injEq, Except.ok.injEq, Option.some.injEq] at hget'
  obtain ⟨rfl, rfl⟩ := hget'
  rw [hlist, Prod.mk.injEq, Except.ok.injEq] at hlist'
  exact ⟨rfl, hlist'⟩

/-- **Unloaded**: the class cannot be read, or it is absent, or the machines cannot be listed. -/
def Unloaded (b : Backend σ) (key : ClassKey) (x : σ) : Prop :=
  (∃ e, (b.getClass key x).1 = .error e) ∨ (∃ y, b.getClass key x = (.ok none, y)) ∨
    ∃ c y, b.getClass key x = (.ok (some c), y) ∧ ∃ e, (b.listMachines y).1 = .error e

/-- A reconcile that has loaded everything has not failed to. -/
lemma Loads.not_unloaded (h : b.Loads key x c machines z) : ¬ b.Unloaded key x := by
  obtain ⟨y, hget, hlist⟩ := h
  rintro (⟨e, he⟩ | ⟨y', hnone⟩ | ⟨c', y', hsome, e, he⟩)
  · rw [hget] at he
    cases he
  · rw [hget] at hnone
    cases hnone
  · rw [hget] at hsome
    cases hsome
    rw [hlist] at he
    cases he

/-- **Uncommitted**: everything is loaded, but the commit is an error, be it that the class is
gone. -/
def Uncommitted (b : Backend σ) (key : ClassKey) (x : σ) : Prop :=
  ∃ c machines z e, b.Loads key x c machines z ∧
    (b.commit c (statusOf c.spec.qualifiers machines) z).1.1 = .error e

/-- A commit that succeeds is no error. -/
lemma Loads.not_uncommitted {done : Commit} (h : b.Loads key x c machines z)
    (hcommit : (b.commit c (statusOf c.spec.qualifiers machines) z).1.1 = .ok done) :
    ¬ b.Uncommitted key x := by
  rintro ⟨c', machines', z', e, hload, herror⟩
  obtain ⟨rfl, rfl, rfl⟩ := h.unique hload
  rw [hcommit] at herror
  cases herror

namespace Exits

/-- **The phases of an exit**: the first one, or the first four, or all. -/
lemma phases_cases (h : b.Exits key x result es) :
    (Event.phases es = [.fetching] ∧ b.Unloaded key x ∧ ¬ b.Uncommitted key x ∧
        ∀ status, result ≠ .ok (.updated status) ∧ result ≠ .ok (.unchanged status)) ∨
      (Event.phases es = [.fetching, .filtering, .aggregating, .committing] ∧
        ¬ b.Unloaded key x ∧ b.Uncommitted key x ∧
        ∀ status, result ≠ .ok (.updated status) ∧ result ≠ .ok (.unchanged status)) ∨
      (Event.phases es = Phase.all ∧ ¬ b.Unloaded key x ∧ ¬ b.Uncommitted key x ∧
        ∃ status, result = .ok (.updated status) ∨ result = .ok (.unchanged status)) := by
  -- nothing that was not loaded is committed
  have hneither (hunloaded : b.Unloaded key x) : ¬ b.Uncommitted key x :=
    fun ⟨_, _, _, _, hload, _⟩ => hload.not_unloaded hunloaded
  cases h with
  | unread hget =>
    have hunloaded : b.Unloaded key x := Or.inl ⟨_, by rw [hget]⟩
    exact Or.inl ⟨rfl, hunloaded, hneither hunloaded, by simp⟩
  | absent hget =>
    have hunloaded : b.Unloaded key x := Or.inr (Or.inl ⟨_, hget⟩)
    exact Or.inl ⟨rfl, hunloaded, hneither hunloaded, by simp⟩
  | unlisted hget hlist =>
    have hunloaded : b.Unloaded key x := Or.inr (Or.inr ⟨_, _, hget, _, by rw [hlist]⟩)
    exact Or.inl ⟨rfl, hunloaded, hneither hunloaded, by simp⟩
  | unchanged hload hcommit =>
    exact Or.inr (Or.inr ⟨rfl, hload.not_unloaded, hload.not_uncommitted hcommit, _, Or.inr rfl⟩)
  | updated hload hstatus hcommit =>
    subst hstatus
    exact Or.inr (Or.inr ⟨rfl, hload.not_unloaded, hload.not_uncommitted hcommit, _, Or.inl rfl⟩)
  | vanished hload hcommit =>
    exact Or.inr (Or.inl ⟨rfl, hload.not_unloaded, ⟨_, _, _, _, hload, hcommit⟩, by simp⟩)
  | uncommitted hload hcommit hfound =>
    exact Or.inr (Or.inl ⟨rfl, hload.not_unloaded, ⟨_, _, _, _, hload, hcommit⟩, by simp⟩)

/-- An exit by an error warns of it once, and names the last phase. -/
lemma warned {e : StoreError} (h : b.Exits key x (.error e) es) :
    ∃ p, (Event.phases es).getLast? = some p ∧
      Event.lines .warn es = [("Reconcile failed", [("phase", p.text), ("error", e.message)])] := by
  cases h with
  | unread hget => exact ⟨.fetching, rfl, rfl⟩
  | unlisted hget hlist => exact ⟨.fetching, rfl, rfl⟩
  | uncommitted hload hcommit hfound => exact ⟨.committing, rfl, rfl⟩

/-- Any other exit warns of nothing. -/
lemma unwarned {o : Outcome} (h : b.Exits key x (.ok o) es) : Event.lines .warn es = [] := by
  cases h <;> rfl

/-- An exit after an update tells the lengths of the lists, once. -/
lemma told {status : MachineClassStatus} (h : b.Exits key x (.ok (.updated status)) es) :
    Event.lines .info es =
      [("Class status updated", [("available", toString status.machinesAvailable.length),
        ("in_use", toString status.machinesInUse.length)])] := by
  cases h with
  | updated hload hstatus hcommit => rfl

/-- Any other exit tells nothing of the kind. -/
lemma untold (h : b.Exits key x result es) (hother : ∀ status, result ≠ .ok (.updated status)) :
    Event.lines .info es = [] := by
  cases h with
  | updated hload hstatus hcommit => exact absurd rfl (hother _)
  | _ => rfl

end Exits

end Backend

end BareMetal
