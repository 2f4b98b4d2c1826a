import BareMetal.Proofs.Store.Call

/-!
Versions: an object that is stored later was there before, or has a later version.

* `Renewed`: a map whose objects were there before or carry a version from a range of
  numbers;
* `Store.Later`: a store that another one can turn into, as far as versions tell; it is
  reflexive and transitive, and `Later.after` is its run lemma: **calls lead to a later
  store** as long as the counter does not overflow;
* `Later.eq_of_version`: a class with the version of an earlier one under the same key is
  that class, whatever happened in between;
* `Later.version_ne`: once a class was written, nothing older comes back.
-/

namespace BareMetal

/-- **Renewed**: every object of the second map stands under the same key in the first one, or
its version is the text of a number above `low` and up to `high`. -/
def Renewed {κ ν : Type} [Ord κ] (version : ν → Option String) (low high : ℕ)
    (m m' : SortedMap κ ν) : Prop :=
  ∀ k x, m'.get? k = some x →
    m.get? k = some x ∨ ∃ n, low < n ∧ n ≤ high ∧ version x = some (toString n)

namespace Renewed

variable {κ ν : Type} [Ord κ] {version : ν → Option String} {a b c : ℕ}
  {m m' m'' : SortedMap κ ν}

/-- The second range continues the first one. -/
lemma trans (h : Renewed version a b m m') (h' : Renewed version b c m' m'') (hab : a ≤ b)
    (hbc : b ≤ c) : Renewed version a c m m'' := by
  intro k x hx
  rcases h' k x hx with hx | ⟨n, hlow, hhigh, hn⟩
  · rcases h k x hx with hx | ⟨n, hlow, hhigh, hn⟩
    · exact Or.inl hx
    · exact Or.inr ⟨n, hlow, by omega, hn⟩
  · exact Or.inr ⟨n, by omega, hhigh, hn⟩

/-- An edit that gives new objects the next number renews a map. -/
lemma of_edit [Std.TransOrd κ] [Std.LawfulEqOrd κ] [DecidableEq κ] {new : κ → ν → Prop}
    (h : SortedMap.Edit new m m')
    (hnew : ∀ k x, new k x → a + 1 = b ∧ version x = some (toString b)) :
    Renewed version a b m m' := by
  intro k x hx
  rcases h.cases_get? hx with hx | hx
  · exact Or.inl hx
  · obtain ⟨hab, hversion⟩ := hnew k x hx
    exact Or.inr ⟨b, by omega, le_refl b, hversion⟩

end Renewed

namespace Store

/-! ### The counter -/

/-- The next version is the text of the next number. -/
lemma nextVersion_eq {s : Store} (h : s.revision.toNat + 1 < 2 ^ 64) :
    s.nextVersion = toString (s.revision.toNat + 1) := by
  rw [nextVersion, UInt64.toNat_add, UInt64.toNat_one, Nat.mod_eq_of_lt h]

/-- A call raises the counter by the versions that it uses up. -/
lemma perform_revision (s : Store) (a : Call) :
    (a.perform s).revision = s.revision + UInt64.ofNat a.stamps := by
  cases a with
  | updateMachine name edit => exact updateMachine_revision name edit
  | touchClass key => exact touchClass_revision key
  | writeStatus key version status => exact writeStatus_revision key version status
  | putMachine m => rfl
  | deleteMachine name => exact (UInt64.add_zero _).symm
  | putClass c => rfl
  | deleteClass key => exact (UInt64.add_zero _).symm
  | failMachineList on => exact (UInt64.add_zero _).symm
  | failClassList on => exact (UInt64.add_zero _).symm

/-- No call uses up more than one version. -/
lemma Call.stamps_le_one (a : Call) : a.stamps ≤ 1 := by
  cases a <;> simp [Call.stamps]

lemma toNat_perform_revision {s : Store} {a : Call}
    (h : s.revision.toNat + a.stamps < 2 ^ 64) :
    (a.perform s).revision.toNat = s.revision.toNat + a.stamps := by
  have ha := a.stamps_le_one
  rw [perform_revision, UInt64.toNat_add, UInt64.toNat_ofNat', Nat.mod_eq_of_lt (by omega),
    Nat.mod_eq_of_lt (by omega)]

/-- Calls raise the counter by the versions that they use up. -/
lemma toNat_after_revision {s : Store} {calls : List Call}
    (h : s.revision.toNat + stamps calls < 2 ^ 64) :
    (s.after calls).revision.toNat = s.revision.toNat + stamps calls := by
  induction calls generalizing s with
  | nil => rfl
  | cons a calls ih =>
    rw [stamps_cons] at h
    have ha := toNat_perform_revision (s := s) (a := a) (by omega)
    rw [after_cons, ih (by omega), ha, stamps_cons]
    omega

/-! ### Later stores -/

/-- **Later**: the counter is no lower, and every object was there before under its key or has a
version given since. -/
structure Later (s s' : Store) : Prop where
  revision_le : s.revision.toNat ≤ s'.revision.toNat
  machines : Renewed (fun m => m.metadata.resourceVersion) s.revision.toNat s'.revision.toNat
    s.machines s'.machines
  classes : Renewed MachineClass.version s.revision.toNat s'.revision.toNat s.classes s'.classes

namespace Later

lemma refl (s : Store) : s.Later s where
  revision_le := le_refl _
  machines _ _ := Or.inl
  classes _ _ := Or.inl

lemma trans {s s' s'' : Store} (h : s.Later s') (h' : s'.Later s'') : s.Later s'' where
  revision_le := le_trans h.revision_le h'.revision_le
  machines := h.machines.trans h'.machines h.revision_le h'.revision_le
  classes := h.classes.trans h'.classes h.revision_le h'.revision_le

/-- A call leads to a later store. -/
lemma perform {s : Store} (hs : s.Filed) {a : Call}
    (h : s.revision.toNat + a.stamps < 2 ^ 64) : s.Later (a.perform s) := by
  have hrev := toNat_perform_revision h
  -- a new object has the number that the counter has reached
  have hnew : a.stamps = 1 → s.revision.toNat + 1 = (a.perform s).revision.toNat ∧
      some s.nextVersion = some (toString (a.perform s).revision.toNat) := by
    intro ha
    have hversion := nextVersion_eq (s := s) (by omega)
    rw [hversion, hrev, ha]
    exact ⟨rfl, rfl⟩
  refine ⟨by omega, Renewed.of_edit (perform_machines s a) ?_,
    Renewed.of_edit (perform_classes hs a) ?_⟩
  · rintro k m ⟨ha, hversion⟩
    rw [hversion]
    exact hnew ha
  · rintro k c ⟨ha, hversion, -⟩
    rw [hversion]
    exact hnew ha

/-- **Calls lead to a later store**, as long as the counter does not overflow. -/
theorem after {s : Store} (hs : s.Filed) {calls : List Call}
    (h : s.revision.toNat + stamps calls < 2 ^ 64) : s.Later (s.after calls) := by
  induction calls generalizing s with
  | nil => exact refl s
  | cons a calls ih =>
    rw [stamps_cons] at h
    have hrev := toNat_perform_revision (s := s) (a := a) (by omega)
    exact (perform hs (by omega)).trans (ih (hs.perform a) (by omega))

variable {s s' : Store} {k : ClassKey} {c c' : MachineClass}

/-- In a store that has grown from the empty one, the version of a class is the text of a number
up to the counter. -/
lemma version_le (h : ({} : Store).Later s) (hc : s.classes.get? k = some c) :
    ∃ n, n ≤ s.revision.toNat ∧ c.version = some (toString n) := by
  rcases h.classes _ _ hc with hnone | ⟨n, -, hhigh, hn⟩
  · cases hnone
  · exact ⟨n, hhigh, hn⟩

/-- No class that is stored now has the version of one that is written later. -/
lemma version_ne (h₀ : ({} : Store).Later s) (hc : s.classes.get? k = some c) {n : ℕ}
    (hn : s.revision.toNat < n) : c.version ≠ some (toString n) := by
  obtain ⟨m, hm, hversion⟩ := version_le h₀ hc
  rw [hversion]
  intro heq
  have hmn : m = n := Nat.repr_injective (Option.some.inj heq)
  omega

/-- **No version comes back**: a class with the version of an earlier one under the same key is
that class. -/
theorem eq_of_version (h₀ : ({} : Store).Later s) (h : s.Later s')
    (hc : s.classes.get? k = some c) (hc' : s'.classes.get? k = some c')
    (hversion : c'.version = c.version) : c' = c := by
  rcases h.classes _ _ hc' with hold | ⟨n, hlow, -, hn⟩
  · exact Option.some.inj (hold.symm.trans hc)
  · exact absurd (hversion.symm.trans hn) (version_ne h₀ hc hlow)

end Later

end Store

end BareMetal
