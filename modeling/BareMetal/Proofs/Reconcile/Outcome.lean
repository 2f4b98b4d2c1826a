import BareMetal.Faults
import BareMetal.Proofs.Reconcile.Step
import BareMetal.Proofs.Reference
import BareMetal.Proofs.Series

/-!
How a reconcile ends.

* `Store.reconcileAmid`: a reconcile with calls of others between its steps, and what
  becomes of it if the class is absent (`reconcileAmid_of_absent`), if the machines
  cannot be listed (`reconcileAmid_of_unlisted`), if the class has the right status
  (`reconcileAmid_of_same`) and if it has another one (`reconcileAmid_of_other`);
* `Store.reconcile_exact`: **what a reconcile does if nothing comes in between**, in every
  store;
* `Store.missing_iff_of_gone`: **a class deleted meanwhile is found missing exactly if
  there was something to write**, and `gone_unnoticed`, where there was not.
-/

namespace BareMetal

/-- Calls without faults are just the calls, however little time they have. -/
lemma Faults.backend_none (limit : ℕ) : ({} : Faults).backend limit = Store.backend := by
  rw [Store.backend, backend, Backend.mk.injEq]
  refine ⟨?_, ?_, ?_⟩
  · funext key s
    change (Except.ok ((s.getClass key).map ({} : Faults).read), s) = _
    cases s.getClass key <;> rfl
  · funext s
    change (s.listMachines.map ({} : Faults).listed, s) = _
    cases s.listMachines <;> rfl
  · funext key version status s
    -- no wait exceeds the limit, and nobody interferes
    have hbefore : ({} : Faults).writeDelay.exceeds limit = false := by
      simp [Wait.none, Wait.exceeds]
    have hafter :
        (({} : Faults).writeDelay.add ({} : Faults).writeAfterDelay).exceeds limit = false := by
      simp [Wait.none, Wait.add, Wait.exceeds]
    have hidle : ({} : Faults).interfere key s = s := rfl
    simp only [hbefore, hafter, hidle]
    rcases s.writeStatus key version status with ⟨answer, s'⟩
    cases answer <;> rfl

/-! ### Gauges -/

namespace Metrics

/-- Reports are recorded one after the other. -/
lemma recordAll_append (m : Metrics) (as bs : List Report) :
    m.recordAll (as ++ bs) = (m.recordAll as).recordAll bs := by
  rw [recordAll, recordAll, recordAll, Report.measurements, List.filterMap_append,
    List.foldl_append]
  rfl

/-- The sizes of a class that were recorded last are what its gauges show. -/
lemma gauges_record_classMachines (m : Metrics) (text : String) (available inUse : ℕ) :
    (m.record (.classMachines text available inUse)).gauges text =
      shown (some (available, inUse)) := by
  rw [gauges_eq]
  exact congrArg shown (SortedMap.get?_insert_self _ _ _)

/-- The end of a reconcile shows nothing else of the sizes. -/
lemma gauges_record_reconcile (m : Metrics) (outcome text : String) :
    (m.record (.reconcile outcome)).gauges text = m.gauges text := by
  rw [gauges_eq, gauges_eq]
  rfl

end Metrics

namespace Progress

/-- The end of a reconcile that finds its class gone sets the gauges of the class to zero. -/
lemma gauges_missing (m : Metrics) (key : ClassKey) (rs : List Report) :
    (m.recordAll (rs ++ (missing key).2)).gauges key.text =
      (some (.number 0), some (.number 0)) := by
  rw [Metrics.recordAll_append, ← Metrics.shown_zero]
  exact (Metrics.gauges_record_reconcile _ _ _).trans
    (Metrics.gauges_record_classMachines _ key.text 0 0)

/-- The end of a reconcile that finds the status right sets them to the sizes of its lists. -/
lemma gauges_unchanged (m : Metrics) (key : ClassKey) (status : MachineClassStatus)
    (rs : List Report) :
    (m.recordAll (rs ++ (unchanged key status).2)).gauges key.text =
      Metrics.shown (some (status.machinesAvailable.length, status.machinesInUse.length)) := by
  rw [Metrics.recordAll_append]
  exact (Metrics.gauges_record_reconcile _ _ _).trans
    (Metrics.gauges_record_classMachines _ key.text _ _)

end Progress

namespace Store

/-! ### A reconcile among other calls -/

/-- A reconcile of a class, with calls of others before it lists the machines and before it writes
the status: where it stands after its three steps, what it has reported, and the store. -/
def reconcileAmid (s : Store) (key : ClassKey) (beforeList beforeWrite : List Call) :
    (Progress × List Report) × Store :=
  let first := backend.step key Progress.start.1 s
  let second := backend.step key first.1.1 (first.2.after beforeList)
  let third := backend.step key second.1.1 (second.2.after beforeWrite)
  ((third.1.1, Progress.start.2 ++ first.1.2 ++ second.1.2 ++ third.1.2), third.2)

variable {s : Store} {key : ClassKey} {c : MachineClass} {status : MachineClassStatus}
  {version : String} (beforeList beforeWrite : List Call)

/-- A reconcile ends at once if its class is absent. -/
lemma reconcileAmid_of_absent (h : s.getClass key = none) :
    s.reconcileAmid key beforeList beforeWrite =
      ((.finished (.ok .missing), Progress.start.2 ++ (Progress.missing key).2),
        (s.after beforeList).after beforeWrite) := by
  have hfirst : backend.step key Progress.start.1 s = (Progress.missing key, s) := by
    change (Progress.onClass key (.ok (s.getClass key)), s) = _
    rw [h]
    rfl
  simp only [reconcileAmid, hfirst]
  rfl

/-- What becomes of a reconcile that has found its class is up to what the listing leads to. -/
lemma reconcileAmid_of_found (h : s.getClass key = some c) :
    s.reconcileAmid key beforeList beforeWrite =
      let second := Progress.onMachines key c (s.after beforeList).listMachines
      let third := backend.step key second.1 ((s.after beforeList).after beforeWrite)
      ((third.1.1, Progress.start.2 ++ second.2 ++ third.1.2), third.2) := by
  have hfirst : backend.step key Progress.start.1 s = ((.loading c, []), s) := by
    change (Progress.onClass key (.ok (s.getClass key)), s) = _
    rw [h]
    rfl
  simp only [reconcileAmid, hfirst]
  rfl

/-- A reconcile fails if the machines cannot be listed. -/
lemma reconcileAmid_of_unlisted (h : s.getClass key = some c)
    (hlist : (s.after beforeList).machineListFails = true) :
    s.reconcileAmid key beforeList beforeWrite =
      ((.finished (.error (.unavailable "machine list failed")),
        Progress.start.2 ++ (Progress.fail .fetching (.unavailable "machine list failed")).2),
        (s.after beforeList).after beforeWrite) := by
  rw [reconcileAmid_of_found beforeList beforeWrite h, listMachines_eq_error hlist]
  rfl

/-- A reconcile of a class that has the right status already leaves the store alone. -/
lemma reconcileAmid_of_same (h : s.getClass key = some c)
    (hlist : (s.after beforeList).machineListFails = false)
    (hstatus : statusOf c.spec.qualifiers (s.after beforeList).machines.values = status)
    (hsame : c.status = some status) :
    ∃ rs, s.reconcileAmid key beforeList beforeWrite =
      ((.finished (.ok (.unchanged status)), rs ++ (Progress.unchanged key status).2),
        (s.after beforeList).after beforeWrite) := by
  subst hstatus
  rw [reconcileAmid_of_found beforeList beforeWrite h, listMachines_eq_ok hlist,
    Progress.onMachines_of_same hsame]
  refine ⟨Progress.start.2 ++ (Progress.listed (s.after beforeList).machines.values ++
    [.log (.upToDate c.key)]), ?_⟩
  rfl

/-- A reconcile of a class with another status ends as the write over the version that it has read
ends. -/
lemma reconcileAmid_of_other (h : s.getClass key = some c)
    (hlist : (s.after beforeList).machineListFails = false)
    (hstatus : statusOf c.spec.qualifiers (s.after beforeList).machines.values = status)
    (hother : c.status ≠ some status) (hversion : c.version = some version) :
    let last := ((s.after beforeList).after beforeWrite).writeStatus c.key version status
    ∃ rs, s.reconcileAmid key beforeList beforeWrite =
      (((Progress.onWritten key c status last.1).1,
        rs ++ (Progress.onWritten key c status last.1).2), last.2) := by
  subst hstatus
  intro last
  rw [reconcileAmid_of_found beforeList beforeWrite h, listMachines_eq_ok hlist,
    Progress.onMachines_of_other hother hversion]
  exact ⟨Progress.start.2 ++ (Progress.listed (s.after beforeList).machines.values ++
    [.count .statusWrite]), rfl⟩

/-! ### Nothing in between -/

/-- A reconcile without anything in between is one without calls in between. -/
lemma reconcile_eq {r : Result} {rs : List Report} {s' : Store}
    (h : s.reconcileAmid key [] [] = ((.finished r, rs), s')) :
    backend.reconcile key s = ((r, rs), s') := by
  have hadvance : backend.advance key 3 Progress.start.1 Progress.start.2 s =
      s.reconcileAmid key [] [] := rfl
  rw [Backend.reconcile, hadvance, h]

/-- A reconcile of a class that has the right status finds it unchanged. -/
lemma reconcile_of_same (h : s.getClass key = some c) (hlist : s.machineListFails = false)
    (hstatus : statusOf c.spec.qualifiers s.machines.values = status)
    (hsame : c.status = some status) :
    (backend.reconcile key s).1.1 = .ok (.unchanged status) ∧
      (backend.reconcile key s).2 = s := by
  obtain ⟨rs, hamid⟩ := reconcileAmid_of_same [] [] h hlist hstatus hsame
  rw [reconcile_eq hamid]
  exact ⟨rfl, rfl⟩

/-- A reconcile of a class that has another status, or none, writes the right one. -/
lemma reconcile_of_other (hfiled : s.Filed) (h : s.getClass key = some c)
    (hlist : s.machineListFails = false)
    (hstatus : statusOf c.spec.qualifiers s.machines.values = status)
    (hother : c.status ≠ some status) :
    (backend.reconcile key s).1.1 = .ok (.updated status) ∧
      s.Rewritten key c status (backend.reconcile key s).2 := by
  obtain ⟨version, hversion⟩ := hfiled.version_some h
  obtain ⟨hok, hrewritten⟩ := writeStatus_of_current h hversion
  obtain ⟨rs, hamid⟩ := reconcileAmid_of_other [] [] h hlist hstatus hother hversion
  rw [hfiled.key_eq h, after_nil, after_nil, hok] at hamid
  rw [reconcile_eq hamid]
  exact ⟨rfl, hrewritten⟩

/-- **Exactness of a reconcile.** In every store that calls can lead to, a reconcile of an absent
class finds it missing, and one that cannot list the machines fails as unavailable; neither changes
the store. Otherwise the class has afterwards the one status that its qualifiers and the machines
determine: if it had it before, nothing is written and the store stays the same, and if not, this
status is written once and nothing else changes. -/
theorem reconcile_exact (before : List Call) (key : ClassKey) (limit : ℕ) :
    let s := ({} : Store).after before
    let ended := (({} : Faults).backend limit).reconcile key s
    match s.getClass key with
    | none => ended.1.1 = .ok .missing ∧ ended.2 = s
    | some c =>
      if s.machineListFails then
        (∃ text, ended.1.1 = .error (.unavailable text)) ∧ ended.2 = s
      else
        ∃ status, (∀ other, IsStatus c.spec.qualifiers s.machines.values other ↔ other = status) ∧
          (∃ c', ended.2.getClass key = some c' ∧ c'.status = some status) ∧
          if c.status = some status then
            ended.1.1 = .ok (.unchanged status) ∧ ended.2 = s
          else
            ended.1.1 = .ok (.updated status) ∧ s.Rewritten key c status ended.2 := by
  intro s
  rw [Faults.backend_none]
  intro ended
  have hfiled : s.Filed := filed_empty.after before
  cases hfound : s.getClass key with
  | none =>
    have hend := reconcile_eq (reconcileAmid_of_absent [] [] hfound)
    exact ⟨congrArg (fun x => x.1.1) hend, congrArg Prod.snd hend⟩
  | some c =>
    cases hlist : s.machineListFails with
    | true =>
      have hend := reconcile_eq (reconcileAmid_of_unlisted [] [] hfound hlist)
      exact ⟨⟨_, congrArg (fun x => x.1.1) hend⟩, congrArg Prod.snd hend⟩
    | false =>
      refine ⟨statusOf c.spec.qualifiers s.machines.values, fun other => isStatus_iff, ?_⟩
      by_cases hsame : c.status = some (statusOf c.spec.qualifiers s.machines.values)
      · obtain ⟨hresult, hstore⟩ := reconcile_of_same hfound hlist rfl hsame
        have hend : ended.2 = s := hstore
        rw [if_pos hsame]
        exact ⟨⟨c, by rw [hend, hfound], hsame⟩, hresult, hend⟩
      · obtain ⟨hresult, hrewritten⟩ := reconcile_of_other hfiled hfound hlist rfl hsame
        rw [if_neg hsame]
        exact ⟨⟨_, hrewritten.found, rfl⟩, hresult, hrewritten⟩

/-! ### A class deleted meanwhile -/

/-- A class that is gone when its status is to be written is found missing, and its gauges go to
zero. -/
lemma missing_of_gone (hfiled : s.Filed) (m : Metrics) (h : s.getClass key = some c)
    (hlist : (s.after beforeList).machineListFails = false)
    (hgone : ((s.after beforeList).after beforeWrite).getClass key = none)
    (hother : c.status ≠ some (statusOf c.spec.qualifiers (s.after beforeList).machines.values)) :
    (s.reconcileAmid key beforeList beforeWrite).1.1 = .finished (.ok .missing) ∧
      (m.recordAll (s.reconcileAmid key beforeList beforeWrite).1.2).gauges key.text =
        (some (.number 0), some (.number 0)) := by
  obtain ⟨version, hversion⟩ := hfiled.version_some h
  obtain ⟨rs, hamid⟩ := reconcileAmid_of_other beforeList beforeWrite h hlist rfl hother hversion
  rw [hfiled.key_eq h, writeStatus_of_absent hgone] at hamid
  rw [hamid]
  exact ⟨rfl, Progress.gauges_missing m key rs⟩

/-- A class that has the right status already counts as unchanged, whether it is still there or
not, and its gauges are set to the sizes of its lists. -/
lemma unchanged_of_same (m : Metrics) (h : s.getClass key = some c)
    (hlist : (s.after beforeList).machineListFails = false)
    (hstatus : statusOf c.spec.qualifiers (s.after beforeList).machines.values = status)
    (hsame : c.status = some status) :
    (s.reconcileAmid key beforeList beforeWrite).1.1 = .finished (.ok (.unchanged status)) ∧
      (m.recordAll (s.reconcileAmid key beforeList beforeWrite).1.2).gauges key.text =
        Metrics.shown (some (status.machinesAvailable.length, status.machinesInUse.length)) := by
  obtain ⟨rs, hamid⟩ := reconcileAmid_of_same beforeList beforeWrite h hlist hstatus hsame
  rw [hamid]
  exact ⟨rfl, Progress.gauges_unchanged m key status rs⟩

/-- **A class deleted meanwhile.** A reconcile that has found its class and has listed the machines,
while the class is absent when its status is to be written, finds the class missing and sets its
gauges to zero exactly if the class, as it was read, had another status than the one that its
qualifiers and the machines give. If it had this one, there is nothing to write, and so the absence
goes unnoticed: the class counts as unchanged, and its gauges keep the sizes of the lists. -/
theorem missing_iff_of_gone (before beforeList beforeWrite : List Call) (m : Metrics)
    {key : ClassKey} {c : MachineClass}
    (hfound : (({} : Store).after before).getClass key = some c)
    (hlist : ((({} : Store).after before).after beforeList).machineListFails = false)
    (hgone : (((({} : Store).after before).after beforeList).after beforeWrite).getClass key =
      none) :
    let amid := (({} : Store).after before).reconcileAmid key beforeList beforeWrite
    let gauges := (m.recordAll amid.1.2).gauges key.text
    let status := statusOf c.spec.qualifiers
      ((({} : Store).after before).after beforeList).machines.values
    ((amid.1.1 = .finished (.ok .missing) ∧ gauges = (some (.number 0), some (.number 0))) ↔
        c.status ≠ some status) ∧
      (c.status = some status →
        amid.1.1 = .finished (.ok (.unchanged status)) ∧
          gauges = Metrics.shown
            (some (status.machinesAvailable.length, status.machinesInUse.length))) := by
  intro amid gauges status
  have hfiled : (({} : Store).after before).Filed := filed_empty.after before
  have hsame : c.status = some status →
      amid.1.1 = .finished (.ok (.unchanged status)) ∧
        gauges = Metrics.shown
          (some (status.machinesAvailable.length, status.machinesInUse.length)) :=
    unchanged_of_same beforeList beforeWrite m hfound hlist rfl
  refine ⟨⟨?_, missing_of_gone beforeList beforeWrite hfiled m hfound hlist hgone⟩, hsame⟩
  rintro ⟨hmissing, -⟩ hc
  have hunchanged := (hsame hc).1
  rw [hmissing] at hunchanged
  cases hunchanged

/-- A class without a status is found missing when it is deleted before its status is written. -/
theorem missing_sample :
    let s := ({} : Store).after Call.samples
    let key := MachineClass.sample.key
    let amid := s.reconcileAmid key [] [.deleteClass key]
    (∃ c, s.getClass key = some c ∧ c.status = none) ∧
      s.machineListFails = false ∧
      (s.after [.deleteClass key]).getClass key = none ∧
      amid.1.1 = .finished (.ok .missing) ∧
      (({} : Metrics).recordAll amid.1.2).gauges key.text =
        (some (.number 0), some (.number 0)) := by
  have hfound : ∃ c, (({} : Store).after Call.samples).getClass MachineClass.sample.key = some c ∧
      c.status = none :=
    ⟨MachineClass.sample.withVersion _, rfl, rfl⟩
  have hgone : ((({} : Store).after Call.samples).after
      [.deleteClass MachineClass.sample.key]).getClass MachineClass.sample.key = none := rfl
  obtain ⟨c, hc, hstatus⟩ := hfound
  have hother : ∀ status, c.status ≠ some status := by
    intro status hsome
    rw [hstatus] at hsome
    cases hsome
  have hend := (missing_iff_of_gone Call.samples [] [.deleteClass MachineClass.sample.key] {} hc
    rfl hgone).1.mpr (hother _)
  exact ⟨⟨c, hc, hstatus⟩, rfl, hgone, hend.1, hend.2⟩

/-- A class that has its status already counts as unchanged when it is deleted before the machines
are listed, and its gauge still shows the one machine that it had. -/
theorem gone_unnoticed :
    let status : MachineClassStatus := { machinesAvailable := ["m1"] }
    let s := ({} : Store).after
      [.putMachine .sample, .putClass { MachineClass.sample with status := some status }]
    let key := MachineClass.sample.key
    let amid := s.reconcileAmid key [.deleteClass key] []
    (s.getClass key).isSome ∧
      (s.after [.deleteClass key]).machineListFails = false ∧
      (s.after [.deleteClass key]).getClass key = none ∧
      amid.1.1 = .finished (.ok (.unchanged status)) ∧
      (({} : Metrics).recordAll amid.1.2).gauges key.text =
        (some (.number 1), some (.number 0)) := by
  intro status s key amid
  have hset : (({} : Metrics).recordAll amid.1.2).classMachines.get? key.text = some (1, 0) := by
    cbv
  refine ⟨by cbv, by cbv, by cbv, by cbv, ?_⟩
  rw [Metrics.gauges_eq, hset]
  exact Metrics.shown_of_lt (by norm_num) (by norm_num)

end Store

end BareMetal
