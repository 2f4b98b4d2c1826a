import BareMetal.Proofs.Reconcile.Step
import BareMetal.Proofs.Store.History

/-!
Commits: a status given to a class by way of a copy of it.

* `Store.Commits`: the five ends of a commit in memory, and `commits_commit`: **a commit takes one
  of them**; `Commits.others`: none of them touches another class;
* `Store.CommitLaw`: which of them it takes, in the order in which they are told apart, and what
  each leaves behind; `Commits.law`: **every end obeys the law**;
* `Store.version_ne_of_rewritten`: a class that was written never again has the version over which
  it was written, and `commit_of_outdated`: a commit over such a version loses the race;
* `Store.commit_exact`: **commits are exact and atomic, and a copy can be written only once**, in
  every store that calls can lead to and whatever the copy is.
-/

namespace BareMetal

namespace Store

/-! ### The ends of a commit -/

variable {s s' : Store} {c : MachineClass} {status : MachineClassStatus} {version : String}
  {answer : Except StoreError Commit} {counted : List Measurement}

/-- **The ends of a commit** of a status to the class of which `c` is a copy: the answer, what is
counted, and the store that it leaves behind. -/
inductive Commits (s : Store) (c : MachineClass) (status : MachineClassStatus) :
    Except StoreError Commit → List Measurement → Store → Prop
  /-- The copy has the status already. -/
  | same (h : c.status = some status) : Commits s c status (.ok .skip) [] s
  /-- The copy has no version to guard the write with. -/
  | unversioned (h : c.status ≠ some status) (hversion : c.version = none) :
      Commits s c status (.error (.missingVersion c.key)) [] s
  /-- There is no class to write. -/
  | absent {version : String} (h : c.status ≠ some status) (hversion : c.version = some version)
      (hfound : s.getClass c.key = none) :
      Commits s c status (.error (.notFound c.key)) [.statusWrite] s.wasted
  /-- The class has another version than the copy. -/
  | outdated {version : String} {stored : MachineClass} (h : c.status ≠ some status)
      (hversion : c.version = some version) (hfound : s.getClass c.key = some stored)
      (hother : stored.version ≠ some version) :
      Commits s c status (.error (.conflict c.key)) [.statusWrite] s.wasted
  /-- The status is written. -/
  | current {version : String} {stored : MachineClass} {s' : Store} (h : c.status ≠ some status)
      (hversion : c.version = some version) (hfound : s.getClass c.key = some stored)
      (hsame : stored.version = some version) (hwrite : s.Rewritten c.key stored status s') :
      Commits s c status (.ok (.write version)) [.statusWrite] s'

/-- A write ends a commit as it ends itself. -/
lemma commits_writeStatus (h : c.status ≠ some status) (hversion : c.version = some version) :
    s.Commits c status ((s.writeStatus c.key version status).1.map (fun _ => .write version))
      [.statusWrite] (s.writeStatus c.key version status).2 := by
  cases hfound : s.getClass c.key with
  | none =>
    rw [writeStatus_of_absent hfound]
    exact .absent h hversion hfound
  | some stored =>
    by_cases hsame : stored.version = some version
    · obtain ⟨hok, hwrite⟩ : (s.writeStatus c.key version status).1 = .ok () ∧ _ :=
        writeStatus_of_current hfound hsame
      rw [hok]
      exact .current h hversion hfound hsame hwrite
    · rw [writeStatus_of_outdated hfound hsame]
      exact .outdated h hversion hfound hsame

/-- **A commit takes one of its ends.** -/
lemma commits_commit (s : Store) (c : MachineClass) (status : MachineClassStatus) :
    s.Commits c status (backend.commit c status s).1.1
      (Report.measurements (backend.commit c status s).1.2) (backend.commit c status s).2 := by
  by_cases h : c.status = some status
  · rw [Backend.commit_of_same s h]
    exact .same h
  · cases hversion : c.version with
    | none =>
      rw [Backend.commit_of_unversioned s h hversion]
      exact .unversioned h hversion
    | some version =>
      obtain ⟨hanswer, hstore, hcounted⟩ := Backend.commit_of_other (b := backend) s h hversion
      rw [hanswer, hstore, hcounted]
      exact commits_writeStatus h hversion

/-- No end of a commit touches a class with another key than the copy has. -/
lemma Commits.others {k : ClassKey} (h : s.Commits c status answer counted s') (hk : k ≠ c.key) :
    s'.getClass k = s.getClass k := by
  cases h with
  | current h hversion hfound hsame hwrite => exact hwrite.others k hk
  | _ => rfl

/-- **The law of a commit** of a status to the class of which `c` is a copy, for the answer, what is
counted, and the store that it leaves behind. -/
structure CommitLaw (s : Store) (c : MachineClass) (status : MachineClassStatus)
    (answer : Except StoreError Commit) (counted : List Measurement) (s' : Store) : Prop where
  /-- There is nothing to do if and only if the copy has the status. -/
  skip_iff : answer = .ok .skip ↔ c.status = some status
  /-- Else it is refused if and only if the copy has no version. -/
  missingVersion_iff : answer = .error (.missingVersion c.key) ↔
    c.status ≠ some status ∧ c.version = none
  /-- Else the class is missing if and only if none is stored under the key of the copy. -/
  notFound_iff : answer = .error (.notFound c.key) ↔
    c.status ≠ some status ∧ c.version ≠ none ∧ s.getClass c.key = none
  /-- Else a race is lost if and only if the class has another version than the copy. -/
  conflict_iff : answer = .error (.conflict c.key) ↔
    c.status ≠ some status ∧ c.version ≠ none ∧
      ∃ stored, s.getClass c.key = some stored ∧ stored.version ≠ c.version
  /-- Else the status is written over the version of the copy. -/
  write_iff : ∀ version, answer = .ok (.write version) ↔
    c.status ≠ some status ∧ c.version = some version ∧
      ∃ stored, s.getClass c.key = some stored ∧ stored.version = c.version
  /-- Without a call to the store nothing is touched and nothing is counted. -/
  untouched : answer = .ok .skip ∨ answer = .error (.missingVersion c.key) → s' = s ∧ counted = []
  /-- A write that fails uses up a version and counts as an attempt, and that is all. -/
  wasted : answer = .error (.notFound c.key) ∨ answer = .error (.conflict c.key) →
    s' = { s with revision := s.revision + 1, writeAttempts := s.writeAttempts + 1 } ∧
      counted = [.statusWrite]
  /-- A write that succeeds gives the class that is stored the status and the next version, and
  changes nothing else. -/
  rewritten : ∀ version, answer = .ok (.write version) →
    (∃ stored, s.getClass c.key = some stored ∧ stored.version = c.version ∧
      s.Rewritten c.key stored status s') ∧ counted = [.statusWrite]

/-- **Every end obeys the law.** -/
lemma Commits.law (h : s.Commits c status answer counted s') :
    s.CommitLaw c status answer counted s' := by
  cases h with
  | same h =>
    constructor <;> simp [h]
  | unversioned h hversion =>
    constructor <;> simp [h, hversion]
  | absent h hversion hfound =>
    constructor <;> simp [h, hversion, hfound, Store.wasted, bump]
  | outdated h hversion hfound hother =>
    constructor <;> simp [h, hversion, hfound, hother, Store.wasted, bump]
  | current h hversion hfound hsame hwrite =>
    constructor <;> simp [h, hversion, hfound, hsame, hwrite]

/-! ### A copy is spent by its write -/

/-- A commit by way of a copy whose version the class no longer has loses the race, if the class is
there at all. -/
lemma commit_of_outdated (h : c.status ≠ some status) (hsome : c.version ≠ none)
    (hother : ∀ stored, s.getClass c.key = some stored → stored.version ≠ c.version) :
    (backend.commit c status s).1.1 =
      if (s.getClass c.key).isSome then .error (.conflict c.key)
      else .error (.notFound c.key) := by
  have hlaw := (commits_commit s c status).law
  cases hfound : s.getClass c.key with
  | none => exact hlaw.notFound_iff.mpr ⟨h, hsome, hfound⟩
  | some stored => exact hlaw.conflict_iff.mpr ⟨h, hsome, stored, hfound, hother stored hfound⟩

/-- **A class that was written never again has the version over which it was written**, as long as
the counter does not overflow. -/
lemma version_ne_of_rewritten {s'' : Store} {key : ClassKey} {stored c' : MachineClass}
    (h : ({} : Store).Later s) (hfound : s.getClass key = some stored)
    (hwrite : s.Rewritten key stored status s') (hs' : s.Later s') (hs'' : s'.Later s'')
    (hc' : s''.getClass key = some c') : c'.version ≠ stored.version := by
  intro hversion
  have hback : c' = stored := Later.eq_of_version h (hs'.trans hs'') hfound hc' hversion
  rw [hback] at hc'
  exact hwrite.ne_of_later h (Later.refl s) hs' hs'' hfound hc'

/-- A commit that has written the status is the write over the version of its copy. -/
lemma store_of_written (h : (backend.commit c status s).1.1 = .ok (.write version)) :
    (backend.commit c status s).2 = s.after [.writeStatus c.key version status] := by
  obtain ⟨hother, hversion, -⟩ := ((commits_commit s c status).law.write_iff version).mp h
  exact (Backend.commit_of_other (b := backend) s hother hversion).2.1

/-- Every moment of a history leads up to its end. -/
lemma later_after {calls : List Call} (hroom : stamps calls < 2 ^ 64) (n : ℕ) :
    (moment calls n).Later (({} : Store).after calls) := by
  have hend : moment calls (max n calls.length) = ({} : Store).after calls := by
    rw [moment, List.take_of_length_le (le_max_right n calls.length)]
  rw [← hend]
  exact later_moment hroom (le_max_left n calls.length)

/-- The counter tells how many versions were used up. -/
lemma revision_after {calls : List Call} (hroom : stamps calls < 2 ^ 64) :
    (({} : Store).after calls).revision.toNat = stamps calls := by
  have hzero : ({} : Store).revision.toNat = 0 := rfl
  rw [toNat_after_revision (by omega), hzero, Nat.zero_add]

/-- **Commits are exact and atomic, and a copy can be written only once.** In every store that calls
can lead to, as long as the counter does not overflow on the way, a commit obeys the law, whatever
its copy and its status are. If it writes the status, the class gets a version that no object has
ever had, and a commit of any other status by way of the same copy loses the race at once; later it
does so too, unless it finds the class missing. -/
theorem commit_exact {calls : List Call} (hroom : stamps calls < 2 ^ 64) (c : MachineClass)
    (status : MachineClassStatus) :
    let s := ({} : Store).after calls
    let answer := (backend.commit c status s).1.1
    let counted := Report.measurements (backend.commit c status s).1.2
    let s' := (backend.commit c status s).2
    s.CommitLaw c status answer counted s' ∧
      ∀ version, answer = .ok (.write version) →
        (∀ n p o, (moment calls n).find p = some o → o.version ≠ some s.nextVersion) ∧
          (∀ next, c.status ≠ some next →
            (backend.commit c next s').1.1 = .error (.conflict c.key)) ∧
          ∀ later next, stamps calls + 1 + stamps later < 2 ^ 64 → c.status ≠ some next →
            (backend.commit c next (s'.after later)).1.1 =
              if ((s'.after later).getClass c.key).isSome then .error (.conflict c.key)
              else .error (.notFound c.key) := by
  intro s answer counted s'
  have hlaw : s.CommitLaw c status answer counted s' := (commits_commit s c status).law
  have hgrown : ({} : Store).Later s := later_after hroom 0
  refine ⟨hlaw, fun version hwritten => ?_⟩
  obtain ⟨-, hversion, -⟩ := (hlaw.write_iff version).mp hwritten
  have hsome : c.version ≠ none := by simp [hversion]
  obtain ⟨⟨stored, hfound, hsame, hwrite⟩, -⟩ := hlaw.rewritten version hwritten
  refine ⟨fun n p o ho => ?_, fun next hnext => ?_, fun later next hlater hnext => ?_⟩
  · exact version_ne_next (grown_moment hroom n) (later_after hroom n) ho
  · -- the class has the next version now, which is new even if the counter overflows with it
    have hold : s.find (.machineClass c.key) = some (.machineClass stored) :=
      find_machineClass_iff.mpr ⟨stored, hfound, rfl⟩
    have hnew : some s.nextVersion ≠ stored.version :=
      (version_ne_next hgrown (Later.refl s) hold).symm
    have hlaw' := (commits_commit s' c next).law
    exact hlaw'.conflict_iff.mpr ⟨hnext, hsome, _, hwrite.found, hsame ▸ hnew⟩
  · have hfiled : s.Filed := filed_empty.after calls
    have hrevision : s.revision.toNat = stamps calls := revision_after hroom
    have hstore : s' = s.after [.writeStatus c.key version status] := store_of_written hwritten
    have hstep : s.Later s' := by
      rw [hstore]
      exact Later.after hfiled (by simp only [stamps_cons, stamps_nil, Call.stamps]; omega)
    have hrest : s'.Later (s'.after later) := by
      refine Later.after (hstore ▸ hfiled.after _) ?_
      rw [hwrite.revision, UInt64.toNat_add, UInt64.toNat_one]
      omega
    refine commit_of_outdated hnext hsome fun c' hc' => ?_
    rw [← hsame]
    exact version_ne_of_rewritten hgrown hfound hwrite hstep hrest hc'

/-- A class is written by way of a copy that was read. The same copy then loses the race, and finds
the class missing once that is deleted. -/
theorem commit_exact_spent :
    let s := ({} : Store).after Call.samples
    let c := MachineClass.sample.withVersion "2"
    let status : MachineClassStatus := { machinesAvailable := ["m1"] }
    let s' := (backend.commit c status s).2
    let later : List Call := [.deleteClass c.key]
    stamps Call.samples < 2 ^ 64 ∧ s.getClass c.key = some c ∧
      (backend.commit c status s).1.1 = .ok (.write "2") ∧
      s'.getClass c.key = some ({ c with status := some status }.withVersion "3") ∧
      c.status ≠ some {} ∧ (backend.commit c {} s').1.1 = .error (.conflict c.key) ∧
      stamps Call.samples + 1 + stamps later < 2 ^ 64 ∧
      (backend.commit c {} (s'.after later)).1.1 = .error (.notFound c.key) := by
  intro s c status s' later
  have hroom : stamps Call.samples < 2 ^ 64 := by decide
  have hlater : stamps Call.samples + 1 + stamps later < 2 ^ 64 := by decide
  have hfound : s.getClass c.key = some c := by cbv
  have hnext : c.status ≠ some {} := by decide
  obtain ⟨hlaw, hspent⟩ := commit_exact hroom c status
  have hwritten : (backend.commit c status s).1.1 = .ok (.write "2") :=
    (hlaw.write_iff "2").mpr ⟨by decide, rfl, c, hfound, rfl⟩
  obtain ⟨⟨stored, hstored, -, hwrite⟩, -⟩ := hlaw.rewritten "2" hwritten
  have hcopy : stored = c := Option.some.inj (hstored.symm.trans hfound)
  have hversion : s.nextVersion = "3" := by cbv
  have hnow : s'.getClass c.key = some ({ c with status := some status }.withVersion "3") := by
    rw [← hversion, hwrite.found, hcopy]
  have hgone : (s'.after later).getClass c.key = none := by
    have herase : (s'.after later).classes = s'.classes.erase c.key := rfl
    rw [getClass, herase, SortedMap.get?_erase, if_pos (by simp)]
  obtain ⟨-, honce, hagain⟩ := hspent "2" hwritten
  have hend := hagain later {} hlater hnext
  rw [hgone, Option.isSome_none, if_neg Bool.false_ne_true] at hend
  refine ⟨hroom, hfound, hwritten, hnow, hnext, ?_, hlater, ?_⟩
  -- compared as written, as the values of the stores are long to compute
  · simp only [s', s, honce {} hnext]
  · simp only [s', s, hend]

end Store

end BareMetal
