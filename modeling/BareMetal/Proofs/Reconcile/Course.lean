import BareMetal.Proofs.Notice
import BareMetal.Proofs.Reconcile.Step
import BareMetal.Proofs.Reference

/-!
A reconcile on course to the right status.

* `Store.InSync`: a class has the status that its qualifiers and the machines give;
* `Progress.goesOn`: a reconcile as long as it has not ended;
* `Progress.HasKey`: the copy of a reconcile has the key under which it was read, and
  `hasKey_step`: it keeps it;
* `Store.OnCourse`: what a reconcile knows of its class is right, and
  `onCourse_step`: **a reconcile on course stays on course, and leaves its class in sync
  unless it fails**;
* `getClass_of_step`: a step leaves the other classes alone.
-/

namespace BareMetal

namespace Progress

/-- A reconcile as long as it has not ended. -/
def goesOn : Progress → Option Progress
  | .finished _ => none
  | p => some p

/-- A reconcile that goes on stands where it stands. -/
lemma eq_of_goesOn {p q : Progress} (h : p.goesOn = some q) : q = p := by
  cases p with
  | finished r => cases h
  | fetching => exact (Option.some.inj h).symm
  | loading c => exact (Option.some.inj h).symm
  | writing c version status => exact (Option.some.inj h).symm

/-- The copy of a reconcile has the key under which it was read. -/
def HasKey (key : ClassKey) : Progress → Prop
  | .loading c => c.key = key
  | .writing c _ _ => c.key = key
  | _ => True

end Progress

namespace Store

variable {s s' : Store} {key k : ClassKey} {p : Progress} {c c' : MachineClass}

/-- **In sync**: a class has the status that its qualifiers and the machines give. -/
def InSync (s : Store) (c : MachineClass) : Prop :=
  ∃ status, c.status = some status ∧ IsStatus c.spec.qualifiers s.machines.values status

lemma inSync_iff : s.InSync c ↔ c.status = some (statusOf c.spec.qualifiers s.machines.values) := by
  constructor
  · rintro ⟨status, hc, hstatus⟩
    rw [hc, isStatus_iff.mp hstatus]
  · intro hc
    exact ⟨_, hc, isStatus_statusOf _ _⟩

/-- **On course**: what the reconcile of a class knows is right, so that the class will be in sync
if nothing changes. Without a reconcile the class is in sync already. -/
def OnCourse (s : Store) (c : MachineClass) : Option Progress → Prop
  | none => s.InSync c
  | some .fetching => True
  | some (.loading c') => c' = c
  | some (.writing c' version status) => c' = c ∧ c.version = some version ∧
      status = statusOf c.spec.qualifiers s.machines.values
  | some (.finished _) => False

/-- Only the machines matter to the course of a reconcile. -/
lemma OnCourse.of_machines {o : Option Progress} (h : s.OnCourse c o)
    (hmachines : s'.machines = s.machines) : s'.OnCourse c o := by
  cases o with
  | none =>
    obtain ⟨status, hc, hstatus⟩ := h
    exact ⟨status, hc, by rwa [hmachines]⟩
  | some p =>
    cases p with
    | fetching => trivial
    | loading c' => exact h
    | writing c' version status =>
      obtain ⟨hc, hversion, hstatus⟩ := h
      exact ⟨hc, hversion, by rwa [hmachines]⟩
    | finished r => exact h

/-! ### Steps -/

/-- A step leaves the machines alone. -/
lemma step_machines (s : Store) (key : ClassKey) (p : Progress) :
    (backend.step key p s).2.machines = s.machines := by
  rw [step_store]
  cases p with
  | writing c version status => exact writeStatus_machines c.key version status
  | fetching => rfl
  | loading c => rfl
  | finished r => rfl

/-- A step does not make listing the classes fail. -/
lemma step_classListFails (hlist : s.classListFails = false) (key : ClassKey) (p : Progress) :
    (backend.step key p s).2.classListFails = false := by
  rw [step_store]
  cases p with
  | writing c version status =>
    exact (writeStatus_classListFails c.key version status).trans hlist
  | fetching => exact hlist
  | loading c => exact hlist
  | finished r => exact hlist

/-- The only class that a write gives a new version is the one that is written. -/
lemma eq_of_mem_renewed {version : String} {status : MachineClassStatus}
    (h : k ∈ (Call.writeStatus key version status).renewed s) : k = key := by
  rw [Call.renewed] at h
  split at h
  · exact List.mem_singleton.mp h
  · cases h

/-- A step leaves the other classes alone. -/
lemma getClass_of_step (hkey : p.HasKey key) (hk : k ≠ key)
    (h : (backend.step key p s).2.getClass k = some c) : s.getClass k = some c := by
  rw [step_store] at h
  cases p with
  | writing c' version status =>
    have hwrite : ((Call.writeStatus c'.key version status).perform s).getClass k = some c := h
    rcases getClass_of_perform hwrite with hnew | hold
    · exact absurd ((eq_of_mem_renewed hnew).trans hkey) hk
    · exact hold
  | fetching => exact h
  | loading c' => exact h
  | finished r => exact h

/-- The copy of a reconcile keeps its key. -/
lemma hasKey_step (hfiled : s.Filed) (hkey : p.HasKey key) :
    (backend.step key p s).1.1.HasKey key := by
  cases hnext : (backend.step key p s).1.1 with
  | fetching => trivial
  | loading c => exact hfiled.key_eq (eq_of_step_loading hnext).2
  | writing c version status =>
    obtain ⟨rfl, -, -⟩ := eq_of_step_writing hnext
    exact hkey
  | finished r => trivial

/-- What a listing leads to is on course if the class is as it was read, or the reconcile fails. -/
lemma onCourse_onMachines (hfiled : s.Filed) (hfound : s.getClass key = some c) :
    (∃ e, (Progress.onMachines key c s.listMachines).1 = .finished (.error e)) ∨
      s.OnCourse c (Progress.onMachines key c s.listMachines).1.goesOn := by
  cases hlist : s.machineListFails with
  | true =>
    rw [listMachines_eq_error hlist]
    exact Or.inl ⟨_, rfl⟩
  | false =>
    rw [listMachines_eq_ok hlist]
    right
    by_cases hsame : c.status = some (statusOf c.spec.qualifiers s.machines.values)
    · rw [Progress.onMachines_of_same hsame]
      exact inSync_iff.mpr hsame
    · obtain ⟨version, hversion⟩ := hfiled.version_some hfound
      rw [Progress.onMachines_of_other hsame hversion]
      exact ⟨rfl, hversion, rfl⟩

/-- A write of the right status leaves the class in sync. -/
lemma inSync_of_rewritten {status : MachineClassStatus} (h : s.Rewritten key c status s')
    (hstatus : IsStatus c.spec.qualifiers s.machines.values status)
    (hc : s'.getClass key = some c') : s'.InSync c' := by
  have hnew : c' = { c with status := some status }.withVersion s.nextVersion :=
    Option.some.inj (hc.symm.trans h.found)
  rw [hnew]
  refine ⟨status, rfl, ?_⟩
  rw [h.machines]
  exact hstatus

/-- **A reconcile on course stays on course.** After the step it fails, or it goes on knowing what
is right, or it has ended and the class is in sync. -/
lemma onCourse_step (hfiled : s.Filed) (hkey : p.HasKey key)
    (hcourse : ∀ c, s.getClass key = some c → s.OnCourse c (some p))
    (h : (backend.step key p s).2.getClass key = some c) :
    (∃ e, (backend.step key p s).1.1 = .finished (.error e)) ∨
      (backend.step key p s).2.OnCourse c (backend.step key p s).1.1.goesOn := by
  cases p with
  | fetching =>
    have hfound : s.getClass key = some c := h
    have hnext : (backend.step key .fetching s).1.1 = .loading c := by
      change (Progress.onClass key (.ok (s.getClass key))).1 = _
      rw [hfound]
      rfl
    rw [hnext]
    exact Or.inr rfl
  | loading c' =>
    have hfound : s.getClass key = some c := h
    have hcopy : c' = c := hcourse c hfound
    subst hcopy
    exact onCourse_onMachines hfiled hfound
  | writing c' version status =>
    have hc' : c'.key = key := hkey
    change (s.writeStatus c'.key version status).2.getClass key = some c at h
    rw [hc'] at h
    cases hfound : s.getClass key with
    | none =>
      -- a write does not bring a class back
      rw [writeStatus_of_absent hfound] at h
      have hgone : s.getClass key = some c := h
      rw [hfound] at hgone
      cases hgone
    | some c₀ =>
      obtain ⟨rfl, hversion, hstatus⟩ := hcourse c₀ hfound
      obtain ⟨hok, hrewritten⟩ := writeStatus_of_current hfound hversion
      right
      change (s.writeStatus c'.key version status).2.OnCourse c
        (Progress.onWritten key c' status (s.writeStatus c'.key version status).1).1.goesOn
      rw [hc', hok]
      exact inSync_of_rewritten hrewritten (isStatus_iff.mpr hstatus) h
  | finished r =>
    have hfound : s.getClass key = some c := h
    exact absurd (hcourse c hfound) id

end Store

end BareMetal
