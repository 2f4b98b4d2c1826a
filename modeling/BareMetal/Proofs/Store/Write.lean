import BareMetal.Proofs.Store.Version

/-!
Writing a status: when a write succeeds, and what it changes.

* `Store.Rewritten`: a store in which one class has a new status and a new version, all
  else being as before;
* `writeStatus_of_absent`, `writeStatus_of_outdated`, `writeStatus_of_current`: the
  three ways in which a write can end;
* `writeStatus_ok_iff`: **a write succeeds exactly over the version that is stored**;
* `Rewritten.ne_of_later`: after a write no older copy of the class comes back.
-/

namespace BareMetal

namespace Store

/-- **Rewritten**: the class under the key, of which `c` is the copy before, has a new status and
the next version; the other classes, the machines and the failures are those of before, and one
write more was tried. -/
structure Rewritten (s : Store) (key : ClassKey) (c : MachineClass) (status : MachineClassStatus)
    (s' : Store) : Prop where
  found : s'.getClass key = some ({ c with status := some status }.withVersion s.nextVersion)
  others : ∀ k, k ≠ key → s'.getClass k = s.getClass k
  machines : s'.machines = s.machines
  revision : s'.revision = s.revision + 1
  writeAttempts : s'.writeAttempts = s.writeAttempts + 1
  machineListFails : s'.machineListFails = s.machineListFails
  classListFails : s'.classListFails = s.classListFails

/-- The store after a write that failed: a version is used up, and the attempt counts. -/
def wasted (s : Store) : Store :=
  { s.bump with writeAttempts := s.writeAttempts + 1 }

variable {s : Store} {key : ClassKey} {c : MachineClass} {version : String}
  {status : MachineClassStatus}

/-- Where there is no class nothing is written. -/
lemma writeStatus_of_absent (h : s.getClass key = none) :
    s.writeStatus key version status = (.error (.notFound key), s.wasted) := by
  rw [getClass] at h
  rw [writeStatus, h]
  rfl

/-- Over another version nothing is written. -/
lemma writeStatus_of_outdated (h : s.getClass key = some c) (hversion : c.version ≠ some version) :
    s.writeStatus key version status = (.error (.conflict key), s.wasted) := by
  rw [getClass] at h
  rw [writeStatus, h]
  simp only [if_pos hversion]
  rfl

/-- Over the version that is stored the status is written. -/
lemma writeStatus_of_current (h : s.getClass key = some c) (hversion : c.version = some version) :
    (s.writeStatus key version status).1 = .ok () ∧
      s.Rewritten key c status (s.writeStatus key version status).2 := by
  rw [getClass] at h
  simp only [writeStatus, h, hversion, ne_eq, not_true_eq_false, if_false, true_and]
  refine ⟨?_, fun k hk => ?_, rfl, rfl, rfl, rfl, rfl⟩
  · exact SortedMap.get?_insert_self _ _ _
  · rw [getClass, getClass, SortedMap.get?_insert, if_neg (Ne.symm hk)]

/-- **A write succeeds exactly over the version that is stored.** -/
lemma writeStatus_ok_iff :
    (s.writeStatus key version status).1 = .ok () ↔
      ∃ c, s.getClass key = some c ∧ c.version = some version := by
  constructor
  · intro hok
    cases h : s.getClass key with
    | none =>
      rw [writeStatus_of_absent h] at hok
      cases hok
    | some c =>
      refine ⟨c, rfl, ?_⟩
      by_contra hversion
      rw [writeStatus_of_outdated h hversion] at hok
      cases hok
  · rintro ⟨c, h, hversion⟩
    exact (writeStatus_of_current h hversion).1

/-- After a write no older copy of the class comes back. -/
lemma Rewritten.ne_of_later {s₀ s' s'' : Store} {c₀ : MachineClass}
    (hwrite : s.Rewritten key c status s') (hempty : ({} : Store).Later s₀) (hs : s₀.Later s)
    (hs' : s.Later s') (hs'' : s'.Later s'') (hc₀ : s₀.getClass key = some c₀) :
    s''.getClass key ≠ some c₀ := by
  intro hfound
  have hlow := hs.revision_le
  -- the counter did not overflow, as it did not go down
  have hrev : s'.revision.toNat = s.revision.toNat + 1 := by
    have hle := hs'.revision_le
    have hlt := s.revision.toNat_lt
    rw [hwrite.revision, UInt64.toNat_add, UInt64.toNat_one] at hle ⊢
    omega
  rcases hs''.classes key c₀ hfound with hold | ⟨n, hn, -, hversion⟩
  · have hnew : c₀.version = some s.nextVersion := by
      have heq := Option.some.inj (hold.symm.trans hwrite.found)
      rw [heq]
      rfl
    rw [nextVersion_eq (by have hlt := s'.revision.toNat_lt; omega)] at hnew
    exact Later.version_ne hempty hc₀ (by omega) hnew
  · exact Later.version_ne hempty hc₀ (by omega) hversion

end Store

end BareMetal
