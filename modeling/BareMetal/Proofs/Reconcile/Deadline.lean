import BareMetal.Proofs.Agreement
import BareMetal.Proofs.Reconcile.Count

/-!
Reconciles over a slow store, whose calls are cut off after some time.

* `Waits`, `Waits.faults`: how long each of the calls takes, as the only fault of a store;
* `Waits.reached`: the waits of the calls that a reconcile comes to;
* `Backend.reconcile_congr`: a reconcile depends on the answers of these calls alone;
* `reconcile_of_prompt`, `reconcile_of_late_get`, `reconcile_of_late_list`,
  `reconcile_of_late_write`: how a reconcile ends if no call is late, and if the first late
  one is the reading of the class, the listing or the write;
* `Store.reconcile_deadlines`: **when a reconcile is cut off, what it leaves behind, and
  what the next one makes of it**.
-/

namespace BareMetal

/-! ### Slow stores -/

/-- How long each of the calls of a reconcile takes; the write may take its time before it has an
effect and after that. -/
structure Waits where
  /-- The wait before the class is read. -/
  get : Wait
  /-- The wait before the machines are listed. -/
  list : Wait
  /-- The wait before the status is written. -/
  before : Wait
  /-- The wait after the status was written. -/
  after : Wait

/-- A call that takes too long. -/
def StoreError.late (limit : ℕ) : StoreError := .timeout (.ofMilliseconds limit)

namespace Waits

/-- The faults that consist of the waits alone. -/
def faults (w : Waits) : Faults :=
  { getDelay := w.get, listDelay := w.list, writeDelay := w.before, writeAfterDelay := w.after }

/-- The waits of the calls that the reconcile of a class comes to: the class is read, the machines
are listed if it is there, and its status is written if it is not the right one already. -/
def reached (w : Waits) (s : Store) (key : ClassKey) : List Wait :=
  match s.getClass key with
  | none => [w.get]
  | some c =>
    if c.status = some (s.rightStatus c) then [w.get, w.list]
    else [w.get, w.list, w.before.add w.after]

variable {w : Waits} {limit : ℕ} {s : Store} {key : ClassKey}

/-- The class is read in any case, the machines are listed if it is there, and the status is written
if it is not the right one. -/
lemma mem_reached_iff {wait : Wait} : wait ∈ w.reached s key ↔
    wait = w.get ∨ ∃ c, s.getClass key = some c ∧
      (wait = w.list ∨ c.status ≠ some (s.rightStatus c) ∧ wait = w.before.add w.after) := by
  rw [reached]
  cases s.getClass key with
  | none => simp
  | some c => by_cases hsame : c.status = some (s.rightStatus c) <;> simp [hsame]

/-- A wait with another one behind it takes no less time. -/
lemma exceeds_add {v v' : Wait} (h : (v.add v').exceeds limit = false) :
    v.exceeds limit = false := by
  cases v with
  | forever => exact absurd h (by simp [Wait.add, Wait.exceeds])
  | milliseconds m =>
    cases v' with
    | forever => exact absurd h (by simp [Wait.add, Wait.exceeds])
    | milliseconds n =>
      simp only [Wait.add, Wait.exceeds, decide_eq_false_iff_not, not_lt] at h ⊢
      omega

/-! ### Calls -/

/-- A class is read in time. -/
lemma getClass_of_prompt (h : w.get.exceeds limit = false) :
    (w.faults.backend limit).getClass key s = Store.backend.getClass key s := by
  simp only [faults, Faults.backend, h, Store.backend]
  cases s.getClass key <;> rfl

/-- A class is read too late. -/
lemma getClass_of_late (h : w.get.exceeds limit = true) :
    (w.faults.backend limit).getClass key s = (.error (.late limit), s) := by
  simp only [faults, Faults.backend, h]
  rfl

/-- The machines are listed in time. -/
lemma listMachines_of_prompt (h : w.list.exceeds limit = false) :
    (w.faults.backend limit).listMachines s = Store.backend.listMachines s := by
  simp only [faults, Faults.backend, h, Store.backend]
  cases s.listMachines <;> rfl

/-- The machines are listed too late. -/
lemma listMachines_of_late (h : w.list.exceeds limit = true) :
    (w.faults.backend limit).listMachines s = (.error (.late limit), s) := by
  simp only [faults, Faults.backend, h]
  rfl

variable {version : String} {status : MachineClassStatus}

/-- A status is written in time. -/
lemma writeStatus_of_prompt (h : (w.before.add w.after).exceeds limit = false) :
    (w.faults.backend limit).writeStatus key version status s =
      Store.backend.writeStatus key version status s := by
  have hbefore : w.faults.writeDelay.exceeds limit = false := exceeds_add h
  have hafter : (w.faults.writeDelay.add w.faults.writeAfterDelay).exceeds limit = false := h
  have hidle : w.faults.interfere key s = s := rfl
  simp only [Faults.backend, hbefore, hafter, hidle, Store.backend]
  rcases s.writeStatus key version status with ⟨answer, s'⟩
  cases answer <;> rfl

/-- A status is to be written too late. -/
lemma writeStatus_of_late (h : w.before.exceeds limit = true) :
    (w.faults.backend limit).writeStatus key version status s = (.error (.late limit), s) := by
  simp only [faults, Faults.backend, h]
  rfl

/-- A status was written in time, but that is told too late. -/
lemma writeStatus_of_late_answer (h : w.before.exceeds limit = false)
    (hlate : (w.before.add w.after).exceeds limit = true)
    (hok : (s.writeStatus key version status).1 = .ok ()) :
    (w.faults.backend limit).writeStatus key version status s =
      (.error (.late limit), (s.writeStatus key version status).2) := by
  have hbefore : w.faults.writeDelay.exceeds limit = false := h
  have hafter : (w.faults.writeDelay.add w.faults.writeAfterDelay).exceeds limit = true := hlate
  have hidle : w.faults.interfere key s = s := rfl
  simp only [Faults.backend, hbefore, hafter, hidle]
  rcases hwrite : s.writeStatus key version status with ⟨answer, s'⟩
  rw [hwrite] at hok
  subst hok
  rfl

end Waits

/-! ### Whole reconciles -/

namespace Backend

variable {σ : Type} {b b' : Backend σ} {key : ClassKey} {x y : σ} {c : MachineClass}

/-- Steps go the same way from where the first of them leads if it is the same. -/
lemma advance_congr {n : ℕ} {p : Progress} (hstep : b.step key p x = b'.step key p x)
    (hrest : ∀ rs, b.advance key n (b'.step key p x).1.1 rs (b'.step key p x).2 =
      b'.advance key n (b'.step key p x).1.1 rs (b'.step key p x).2) (rs : List Report) :
    b.advance key (n + 1) p rs x = b'.advance key (n + 1) p rs x := by
  simp only [advance, hstep, hrest]

/-- A reconcile that has found its class depends on the listing, and on the write that it may come
to. -/
lemma advance_congr_of_loading (hlist : b.listMachines y = b'.listMachines y)
    (hwrite : ∀ machines z version, b'.listMachines y = (.ok machines, z) →
      c.version = some version → c.status ≠ some (statusOf c.spec.qualifiers machines) →
      b.writeStatus c.key version (statusOf c.spec.qualifiers machines) z =
        b'.writeStatus c.key version (statusOf c.spec.qualifiers machines) z)
    (rs : List Report) :
    b.advance key 2 (.loading c) rs y = b'.advance key 2 (.loading c) rs y := by
  refine advance_congr (by simp only [step, hlist]) (fun rs => ?_) rs
  rcases hanswer : b'.listMachines y with ⟨answer, z⟩
  simp only [step, hanswer]
  rcases Store.onMachines_cases key c answer with
    ⟨r, hr⟩ | ⟨machines, version, rfl, hversion, hwriting⟩
  · rw [hr, advance_finished, advance_finished]
  · have hother : c.status ≠ some (statusOf c.spec.qualifiers machines) := by
      intro hsame
      rw [Progress.onMachines_of_same hsame] at hwriting
      cases hwriting
    rw [hwriting]
    refine advance_congr ?_ (fun rs => by rw [advance, advance]) rs
    simp only [step, hwrite machines z version hanswer hversion hother]

/-- **A reconcile depends on nothing but the answers of the calls that it makes.** -/
lemma reconcile_congr (hget : b.getClass key x = b'.getClass key x)
    (hlist : ∀ c y, b'.getClass key x = (.ok (some c), y) → b.listMachines y = b'.listMachines y)
    (hwrite : ∀ c y machines z version, b'.getClass key x = (.ok (some c), y) →
      b'.listMachines y = (.ok machines, z) → c.version = some version →
      c.status ≠ some (statusOf c.spec.qualifiers machines) →
      b.writeStatus c.key version (statusOf c.spec.qualifiers machines) z =
        b'.writeStatus c.key version (statusOf c.spec.qualifiers machines) z) :
    b.reconcile key x = b'.reconcile key x := by
  have hadvance : b.advance key 3 Progress.start.1 Progress.start.2 x =
      b'.advance key 3 Progress.start.1 Progress.start.2 x := by
    refine advance_congr (by simp only [Progress.start, step, hget]) (fun rs => ?_) _
    rcases hanswer : b'.getClass key x with ⟨answer, y⟩
    simp only [Progress.start, step, hanswer]
    cases answer with
    | error e => exact (advance_finished ..).trans (advance_finished ..).symm
    | ok found =>
      cases found with
      | none => exact (advance_finished ..).trans (advance_finished ..).symm
      | some c =>
        exact advance_congr_of_loading (hlist c y hanswer)
          (fun machines z version => hwrite c y machines z version hanswer) rs
  rw [reconcile, reconcile, hadvance]

end Backend

namespace Store

variable {s : Store} {key : ClassKey} {c : MachineClass} {w : Waits} {limit : ℕ}

/-- Nothing changes if every call that a reconcile comes to is in time. -/
lemma reconcile_of_prompt (hlist : s.machineListFails = false)
    (h : ∀ wait ∈ w.reached s key, wait.exceeds limit = false) :
    (w.faults.backend limit).reconcile key s = backend.reconcile key s := by
  have hcopy : ∀ {c y}, backend.getClass key s = (.ok (some c), y) →
      s.getClass key = some c ∧ y = s := by
    intro c y hfound
    have hanswer : (Except.ok (s.getClass key), s) = (.ok (some c), y) := hfound
    rw [Prod.mk.injEq, Except.ok.injEq] at hanswer
    exact ⟨hanswer.1, hanswer.2.symm⟩
  refine Backend.reconcile_congr (Waits.getClass_of_prompt (h _ ?_)) ?_ ?_
  · exact Waits.mem_reached_iff.mpr (Or.inl rfl)
  · intro c y hfound
    obtain ⟨hc, rfl⟩ := hcopy hfound
    exact Waits.listMachines_of_prompt
      (h _ (Waits.mem_reached_iff.mpr (Or.inr ⟨c, hc, Or.inl rfl⟩)))
  · intro c y machines z version hfound hlisted hversion hother
    obtain ⟨hc, rfl⟩ := hcopy hfound
    have hanswer : (y.listMachines, y) = (.ok machines, z) := hlisted
    rw [listMachines_eq_ok hlist, Prod.mk.injEq, Except.ok.injEq] at hanswer
    obtain ⟨rfl, rfl⟩ := hanswer
    exact Waits.writeStatus_of_prompt
      (h _ (Waits.mem_reached_iff.mpr (Or.inr ⟨c, hc, Or.inr ⟨hother, rfl⟩⟩)))

/-- A class that is read too late is not reconciled, and the store stays the same. -/
lemma reconcile_of_late_get (hlate : w.get.exceeds limit = true) :
    ((w.faults.backend limit).reconcile key s).1.1 = .error (.late limit) ∧
      ((w.faults.backend limit).reconcile key s).2 = s := by
  rw [Backend.reconcile_of_fetched (Waits.getClass_of_late hlate) rfl]
  exact ⟨rfl, rfl⟩

/-- A class that is read in time is found. -/
lemma getClass_of_found (hfound : s.getClass key = some c) (hget : w.get.exceeds limit = false) :
    (w.faults.backend limit).getClass key s = (.ok (some c), s) := by
  rw [Waits.getClass_of_prompt hget, ← hfound]
  rfl

/-- Nor is a class reconciled if the machines are listed too late. -/
lemma reconcile_of_late_list (hfound : s.getClass key = some c)
    (hget : w.get.exceeds limit = false) (hlate : w.list.exceeds limit = true) :
    ((w.faults.backend limit).reconcile key s).1.1 = .error (.late limit) ∧
      ((w.faults.backend limit).reconcile key s).2 = s := by
  rw [Backend.reconcile_of_listed (getClass_of_found hfound hget)
    (Waits.listMachines_of_late hlate) rfl]
  exact ⟨rfl, rfl⟩

/-- If the write takes too long it has had no effect, or all of its effect, according to when the
time was over. -/
lemma reconcile_of_late_write (hfiled : s.Filed) (hlist : s.machineListFails = false)
    (hfound : s.getClass key = some c) (hother : c.status ≠ some (s.rightStatus c))
    (hget : w.get.exceeds limit = false) (hlisted : w.list.exceeds limit = false)
    (hlate : (w.before.add w.after).exceeds limit = true) :
    ((w.faults.backend limit).reconcile key s).1.1 = .error (.late limit) ∧
      ((w.faults.backend limit).reconcile key s).2 =
        if w.before.exceeds limit then s else (backend.reconcile key s).2 := by
  obtain ⟨version, hversion⟩ := hfiled.version_some hfound
  have hmachines : backend.listMachines s = (.ok s.machines.values, s) := by
    rw [← listMachines_eq_ok hlist]
    rfl
  have hslow := (Waits.listMachines_of_prompt hlisted).trans hmachines
  cases hbefore : w.before.exceeds limit with
  | true =>
    have hend := Backend.reconcile_of_written (getClass_of_found hfound hget) hslow hversion
      hother (Waits.writeStatus_of_late hbefore) rfl
    rw [hend]
    exact ⟨rfl, rfl⟩
  | false =>
    have hkey : c.key = key := hfiled.key_eq hfound
    have hok : (s.writeStatus c.key version (s.rightStatus c)).1 = .ok () := by
      rw [hkey]
      exact (writeStatus_of_current hfound hversion).1
    have hend := Backend.reconcile_of_written (getClass_of_found hfound hget) hslow hversion
      hother (Waits.writeStatus_of_late_answer hbefore hlate hok) rfl
    -- without the delays the same write is made
    have hread : backend.getClass key s = (.ok (some c), s) := by
      rw [← hfound]
      rfl
    have hwrite : backend.writeStatus c.key version (s.rightStatus c) s =
        (.ok (), (s.writeStatus c.key version (s.rightStatus c)).2) := by
      rw [← hok]
      rfl
    have hprompt := Backend.reconcile_of_written hread hmachines hversion hother hwrite rfl
    rw [hend, hprompt]
    exact ⟨rfl, rfl⟩

/-- A reconcile that nothing delays does not fail as long as the machines can be listed. -/
lemma reconcile_ok (hfiled : s.Filed) (hlist : s.machineListFails = false) (key : ClassKey) :
    ∃ o, (backend.reconcile key s).1.1 = .ok o := by
  cases hfound : s.getClass key with
  | none =>
    rw [reconcile_eq (reconcileAmid_of_absent [] [] hfound)]
    exact ⟨.missing, rfl⟩
  | some c =>
    by_cases hsame : c.status = some (s.rightStatus c)
    · exact ⟨_, (reconcile_of_same hfound hlist rfl hsame).1⟩
    · exact ⟨_, (reconcile_of_other hfiled hfound hlist rfl hsame).1⟩

/-- A reconcile is cut off only if one of the calls that it comes to is late. -/
lemma exists_late (hfiled : s.Filed) (hlist : s.machineListFails = false)
    (h : ((w.faults.backend limit).reconcile key s).1.1 = .error (.late limit)) :
    ∃ wait ∈ w.reached s key, wait.exceeds limit = true := by
  by_contra hnone
  have hprompt : ∀ wait ∈ w.reached s key, wait.exceeds limit = false := by
    intro wait hwait
    by_contra hlate
    exact hnone ⟨wait, hwait, by simpa using hlate⟩
  obtain ⟨o, ho⟩ := reconcile_ok hfiled hlist key
  rw [reconcile_of_prompt hlist hprompt, ho] at h
  cases h

/-- A reconcile that was cut off by the reading or the listing leaves the store as it was. -/
lemma store_of_late_read (hfiled : s.Filed) (hlist : s.machineListFails = false)
    (hlate : w.get.exceeds limit = true ∨ w.list.exceeds limit = true)
    (h : ((w.faults.backend limit).reconcile key s).1.1 = .error (.late limit)) :
    ((w.faults.backend limit).reconcile key s).2 = s := by
  cases hget : w.get.exceeds limit with
  | true => exact (reconcile_of_late_get hget).2
  | false =>
    have hlisted : w.list.exceeds limit = true := hlate.resolve_left (by simp [hget])
    obtain ⟨wait, hwait, hwaited⟩ := exists_late hfiled hlist h
    rcases Waits.mem_reached_iff.mp hwait with rfl | ⟨c, hfound, -⟩
    · rw [hget] at hwaited
      cases hwaited
    · exact (reconcile_of_late_list hfound hget hlisted).2

/-- A reconcile that was cut off, but not by the reading or the listing, has come to the write,
which was due. -/
lemma due_of_late_write (hfiled : s.Filed) (hlist : s.machineListFails = false)
    (hget : w.get.exceeds limit = false) (hlisted : w.list.exceeds limit = false)
    (h : ((w.faults.backend limit).reconcile key s).1.1 = .error (.late limit)) :
    ∃ c, s.getClass key = some c ∧ c.status ≠ some (s.rightStatus c) ∧
      (w.before.add w.after).exceeds limit = true := by
  obtain ⟨wait, hwait, hlate⟩ := exists_late hfiled hlist h
  rcases Waits.mem_reached_iff.mp hwait with rfl | ⟨c, hfound, rfl | ⟨hother, rfl⟩⟩
  · rw [hget] at hlate
    cases hlate
  · rw [hlisted] at hlate
    cases hlate
  · exact ⟨c, hfound, hother, hlate⟩

/-- A reconcile is cut off if any call that it comes to is late. -/
lemma late_of_exists (hfiled : s.Filed) (hlist : s.machineListFails = false)
    (h : ∃ wait ∈ w.reached s key, wait.exceeds limit = true) :
    ((w.faults.backend limit).reconcile key s).1.1 = .error (.late limit) := by
  obtain ⟨wait, hwait, hlate⟩ := h
  cases hget : w.get.exceeds limit with
  | true => exact (reconcile_of_late_get hget).1
  | false =>
    rcases Waits.mem_reached_iff.mp hwait with rfl | ⟨c, hfound, hrest⟩
    · rw [hget] at hlate
      cases hlate
    · cases hlisted : w.list.exceeds limit with
      | true => exact (reconcile_of_late_list hfound hget hlisted).1
      | false =>
        rcases hrest with rfl | ⟨hother, rfl⟩
        · rw [hlisted] at hlate
          cases hlate
        · exact (reconcile_of_late_write hfiled hlist hfound hother hget hlisted hlate).1

/-- After a write that was due the class has the right status, so that the next reconcile finds
nothing to do. -/
lemma reconcile_again (hfiled : s.Filed) (hlist : s.machineListFails = false)
    (hfound : s.getClass key = some c) (hother : c.status ≠ some (s.rightStatus c)) :
    let prompt := (backend.reconcile key s).2
    (backend.reconcile key prompt).1.1 = .ok (.unchanged (s.rightStatus c)) ∧
      (backend.reconcile key prompt).2 = prompt := by
  intro prompt
  have hwritten : s.Rewritten key c (s.rightStatus c) prompt :=
    (reconcile_of_other hfiled hfound hlist rfl hother).2
  refine reconcile_of_same hwritten.found (hwritten.machineListFails.trans hlist) ?_ rfl
  rw [hwritten.machines]
  rfl

/-- **Deadlines and late writes.** Take any store that calls can lead to and in which the machines
can be listed, and let each call take its time. A reconcile is cut off exactly if one of the calls
that it comes to takes longer than the limit, each of them having the whole of it; otherwise it goes
as if there were no delays. When it is cut off no gauge of a class changes, and if that was before
the write, the store has not changed. If it was in the write, there was something to write: the
store is as before if the time was over before the write had its effect, and else as after the
write without delays. The next reconcile without delays finds the status unchanged if the write had
its effect, and writes it if not; in both cases it leaves the store as one reconcile without delays
would have. -/
theorem reconcile_deadlines (before : List Call) (key : ClassKey) (w : Waits) (limit : ℕ)
    (m : Metrics) (hlist : (({} : Store).after before).machineListFails = false) :
    let s := ({} : Store).after before
    let ended := (w.faults.backend limit).reconcile key s
    let prompt := backend.reconcile key s
    let again := backend.reconcile key ended.2
    (ended.1.1 = .error (.late limit) ↔ ∃ wait ∈ w.reached s key, wait.exceeds limit = true) ∧
      (ended.1.1 ≠ .error (.late limit) → ended = prompt) ∧
      (ended.1.1 = .error (.late limit) →
        (∀ text, (m.recordAll ended.1.2).gauges text = m.gauges text) ∧
        if w.get.exceeds limit ∨ w.list.exceeds limit then ended.2 = s
        else ∃ c status, s.getClass key = some c ∧ c.status ≠ some status ∧
          IsStatus c.spec.qualifiers s.machines.values status ∧
          s.Rewritten key c status prompt.2 ∧ again.2 = prompt.2 ∧
          if w.before.exceeds limit then
            ended.2 = s ∧ again.1.1 = .ok (.updated status)
          else ended.2 = prompt.2 ∧ again.1.1 = .ok (.unchanged status)) := by
  intro s ended prompt again
  have hfiled : s.Filed := filed_empty.after before
  refine ⟨⟨exists_late hfiled hlist, late_of_exists hfiled hlist⟩, ?_, ?_⟩
  · intro hintime
    refine reconcile_of_prompt hlist (fun wait hwait => ?_)
    by_contra hlate
    exact hintime (late_of_exists hfiled hlist ⟨wait, hwait, by simpa using hlate⟩)
  · intro hcut
    refine ⟨Backend.gauges_of_error _ key hcut m, ?_⟩
    split
    next hlate => exact store_of_late_read hfiled hlist hlate hcut
    next hintime =>
      rw [not_or, Bool.not_eq_true, Bool.not_eq_true] at hintime
      obtain ⟨hget, hlisted⟩ := hintime
      obtain ⟨c, hfound, hother, hlate⟩ := due_of_late_write hfiled hlist hget hlisted hcut
      have hend : ended.2 = if w.before.exceeds limit then s else prompt.2 :=
        (reconcile_of_late_write hfiled hlist hfound hother hget hlisted hlate).2
      have hprompt : prompt.1.1 = .ok (.updated (s.rightStatus c)) ∧
          s.Rewritten key c (s.rightStatus c) prompt.2 :=
        reconcile_of_other hfiled hfound hlist rfl hother
      refine ⟨c, s.rightStatus c, hfound, hother, isStatus_statusOf _ _, hprompt.2, ?_⟩
      cases hbefore : w.before.exceeds limit with
      | true =>
        have hsame : ended.2 = s := by rw [hend, hbefore, if_pos rfl]
        have hagain : again = prompt := congrArg (backend.reconcile key) hsame
        rw [hagain]
        exact ⟨rfl, hsame, hprompt.1⟩
      | false =>
        have hwritten : ended.2 = prompt.2 := by
          simp only [hend, hbefore, Bool.false_eq_true, if_false]
        have hagain : again = backend.reconcile key prompt.2 :=
          congrArg (backend.reconcile key) hwritten
        obtain ⟨hunchanged, hstays⟩ := reconcile_again hfiled hlist hfound hother
        rw [hagain]
        exact ⟨hstays, hwritten, hunchanged⟩

/-- A write that takes three milliseconds before its effect and five after that is cut off after
five, when it has had its effect, and the next reconcile finds nothing to do. -/
theorem reconcile_deadlines_landed :
    let s := ({} : Store).after Call.samples
    let key := MachineClass.sample.key
    let w : Waits := { get := .none, list := .none, before := .milliseconds 3,
                       after := .milliseconds 5 }
    let ended := (w.faults.backend 5).reconcile key s
    s.machineListFails = false ∧ ended.1.1 = .error (.late 5) ∧
      ∃ c status, s.getClass key = some c ∧ IsStatus c.spec.qualifiers s.machines.values status ∧
        s.Rewritten key c status ended.2 ∧
        (backend.reconcile key ended.2).1.1 = .ok (.unchanged status) ∧
        (backend.reconcile key ended.2).2 = ended.2 := by
  intro s key w ended
  have hlist : s.machineListFails = false := rfl
  obtain ⟨hlate, -, hcut⟩ := reconcile_deadlines Call.samples key w 5 {} hlist
  have hreached : w.reached s key = [.none, .none, .milliseconds 8] := by cbv
  have hwaits : ∃ wait ∈ w.reached s key, wait.exceeds 5 = true := by
    rw [hreached]
    exact ⟨.milliseconds 8, by decide, by decide⟩
  have hend : ended.1.1 = .error (.late 5) := hlate.mpr hwaits
  obtain ⟨-, hleft⟩ := hcut hend
  rw [if_neg (by decide)] at hleft
  obtain ⟨c, status, hfound, -, hstatus, hwritten, hstays, hrest⟩ := hleft
  rw [if_neg (by decide)] at hrest
  obtain ⟨hsame, hunchanged⟩ := hrest
  refine ⟨hlist, hend, c, status, hfound, hstatus, ?_, ?_, hstays.trans hsame.symm⟩
  · rw [← hsame] at hwritten
    exact hwritten
  · rw [← hunchanged]

end Store

end BareMetal
