import BareMetal.Proofs.Notice
import BareMetal.Proofs.System

/-!
The history of a store: which versions its objects were given, and when.

* `Place`, `Stored`, `Store.find`: machines and classes alike, as objects at their places;
* `Store.Call.target`: the place at which a call stores an object; `find_target` and
  `find_of_perform`: **the object that is stored is given the next version, and no other
  object is touched**;
* `Store.moment`: the store after the first calls of a history, and `later_moment`: it only
  moves on to later stores;
* `Store.Separate`: no two objects share a version, which every call keeps
  (`Separate.perform`);
* `Store.Disciplined`, `Store.disciplined`: **in every history versions are numbers that are
  given once, grow, and tell objects apart**.
-/

namespace BareMetal

/-- Where an object is stored. -/
inductive Place where
  /-- The place of the machine under a name. -/
  | machine (name : String)
  /-- The place of the class under a key. -/
  | machineClass (key : ClassKey)
  deriving DecidableEq

/-- An object that is stored. -/
inductive Stored where
  /-- A machine. -/
  | machine (m : Machine)
  /-- A class. -/
  | machineClass (c : MachineClass)

/-- The version that an object carries. -/
def Stored.version : Stored → Option String
  | .machine m => m.metadata.resourceVersion
  | .machineClass c => c.version

namespace Store

/-- The object at a place. -/
def find (s : Store) : Place → Option Stored
  | .machine name => (s.machines.get? name).map .machine
  | .machineClass key => (s.getClass key).map .machineClass

/-- The place at which a call stores an object, if it stores one. -/
def Call.target (s : Store) : Call → Option Place
  | .putMachine m => some (.machine m.name)
  | .updateMachine name _ => if s.machines.contains name then some (.machine name) else none
  | .putClass c => some (.machineClass c.key)
  | .touchClass key => if (s.getClass key).isSome then some (.machineClass key) else none
  | .writeStatus key version status =>
    match (s.writeStatus key version status).1 with
    | .ok () => some (.machineClass key)
    | .error _ => none
  | _ => none

variable {s s' : Store} {a : Call} {p q : Place} {o o' : Stored} {name : String} {m : Machine}
  {key : ClassKey} {c : MachineClass}

lemma find_machine_iff : s.find (.machine name) = some o ↔
    ∃ m, s.machines.get? name = some m ∧ Stored.machine m = o :=
  Option.map_eq_some_iff

lemma find_machineClass_iff : s.find (.machineClass key) = some o ↔
    ∃ c, s.getClass key = some c ∧ Stored.machineClass c = o :=
  Option.map_eq_some_iff

/-! ### What a call stores -/

/-- A call that stores an object uses up one version. -/
lemma stamps_of_target (h : a.target s = some p) : a.stamps = 1 := by
  cases a with
  | putMachine m => rfl
  | updateMachine name edit => rfl
  | putClass c => rfl
  | touchClass key => rfl
  | writeStatus key version status => rfl
  | deleteMachine name => cases h
  | deleteClass key => cases h
  | failMachineList on => cases h
  | failClassList on => cases h

/-- A class that a call gives a new version is what the call stores. -/
lemma target_of_mem_renewed (h : key ∈ a.renewed s) :
    a.target s = some (.machineClass key) := by
  cases a with
  | putClass c =>
    rw [Call.renewed, List.mem_singleton] at h
    rw [h, Call.target]
  | touchClass k =>
    rw [Call.renewed] at h
    rw [Call.target]
    split at h
    next hfound =>
      rw [if_pos hfound, List.mem_singleton.mp h]
    next => cases h
  | writeStatus k version status =>
    rw [Call.renewed] at h
    rw [Call.target]
    cases hanswer : (s.writeStatus k version status).1 with
    | ok u =>
      rw [hanswer] at h
      have hkey : key ∈ [k] := h
      rw [List.mem_singleton.mp hkey]
    | error e =>
      rw [hanswer] at h
      cases h
  | putMachine m => cases h
  | deleteMachine name => cases h
  | updateMachine name edit => cases h
  | deleteClass k => cases h
  | failMachineList on => cases h
  | failClassList on => cases h

/-- A machine is found as before unless a call has stored it. -/
lemma target_or_get?_machines (h : (a.perform s).machines.get? name = some m) :
    a.target s = some (.machine name) ∨ s.machines.get? name = some m := by
  cases a with
  | putMachine m' =>
    rcases SortedMap.get?_of_insert h with ⟨hname, -⟩ | ⟨-, hold⟩
    · rw [Call.target, hname]
      exact Or.inl rfl
    · exact Or.inr hold
  | deleteMachine n => exact Or.inr (SortedMap.get?_of_erase h).2
  | updateMachine n edit =>
    rw [Call.perform, updateMachine] at h
    split at h
    next m' hm' =>
      rcases SortedMap.get?_of_insert h with ⟨hname, -⟩ | ⟨-, hold⟩
      · rw [Call.target, SortedMap.contains, hm', Option.isSome_some, if_pos rfl, hname]
        exact Or.inl rfl
      · exact Or.inr hold
    next => exact Or.inr h
  | touchClass k =>
    rw [Call.perform, touchClass_machines] at h
    exact Or.inr h
  | writeStatus k version status =>
    rw [Call.perform, writeStatus_machines] at h
    exact Or.inr h
  | putClass c => exact Or.inr h
  | deleteClass k => exact Or.inr h
  | failMachineList on => exact Or.inr h
  | failClassList on => exact Or.inr h

/-- **No other object is touched**: what is found after a call is what the call has stored, with
the next version, or was found before. -/
lemma find_of_perform (hfiled : s.Filed) (h : (a.perform s).find p = some o) :
    (a.target s = some p ∧ o.version = some s.nextVersion) ∨ s.find p = some o := by
  cases p with
  | machine name =>
    obtain ⟨m, hm, rfl⟩ := find_machine_iff.mp h
    have hold : s.machines.get? name = some m →
        s.find (.machine name) = some (.machine m) := fun hm => find_machine_iff.mpr ⟨m, hm, rfl⟩
    rcases (perform_machines s a).cases_get? hm with hm' | ⟨-, hversion⟩
    · exact Or.inr (hold hm')
    · rcases target_or_get?_machines hm with htarget | hm'
      · exact Or.inl ⟨htarget, hversion⟩
      · exact Or.inr (hold hm')
  | machineClass key =>
    obtain ⟨c, hc, rfl⟩ := find_machineClass_iff.mp h
    have hold : s.getClass key = some c →
        s.find (.machineClass key) = some (.machineClass c) :=
      fun hc => find_machineClass_iff.mpr ⟨c, hc, rfl⟩
    rcases (perform_classes hfiled a).cases_get? hc with hc' | ⟨-, hversion, -⟩
    · exact Or.inr (hold hc')
    · rcases getClass_of_perform hc with hnew | hc'
      · exact Or.inl ⟨target_of_mem_renewed hnew, hversion⟩
      · exact Or.inr (hold hc')

/-- The object that a call stores is found at its place, with the next version. -/
lemma find_target (h : a.target s = some p) :
    ∃ o, (a.perform s).find p = some o ∧ o.version = some s.nextVersion := by
  cases a with
  | putMachine m =>
    cases h
    refine ⟨.machine (m.withVersion s.nextVersion), find_machine_iff.mpr ⟨_, ?_, rfl⟩, rfl⟩
    exact SortedMap.get?_insert_self _ _ _
  | updateMachine name edit =>
    rw [Call.target] at h
    split at h
    next hname =>
      cases h
      obtain ⟨m, hm⟩ := Option.isSome_iff_exists.mp hname
      refine ⟨.machine ((edit m).withVersion s.nextVersion), find_machine_iff.mpr ⟨_, ?_, rfl⟩,
        rfl⟩
      rw [Call.perform, updateMachine, hm]
      exact SortedMap.get?_insert_self _ _ _
    next => cases h
  | putClass c =>
    cases h
    refine ⟨.machineClass (c.withVersion s.nextVersion), find_machineClass_iff.mpr ⟨_, ?_, rfl⟩,
      rfl⟩
    exact SortedMap.get?_insert_self _ _ _
  | touchClass key =>
    rw [Call.target] at h
    split at h
    next hkey =>
      cases h
      obtain ⟨c, hc⟩ := Option.isSome_iff_exists.mp hkey
      rw [getClass] at hc
      refine ⟨.machineClass (c.withVersion s.nextVersion),
        find_machineClass_iff.mpr ⟨_, ?_, rfl⟩, rfl⟩
      rw [Call.perform, touchClass, hc]
      exact SortedMap.get?_insert_self _ _ _
    next => cases h
  | writeStatus key version status =>
    rw [Call.target] at h
    split at h
    next hok =>
      cases h
      obtain ⟨c, hc, hversion⟩ := writeStatus_ok_iff.mp hok
      exact ⟨_, find_machineClass_iff.mpr ⟨_, (writeStatus_of_current hc hversion).2.found, rfl⟩,
        rfl⟩
    next => cases h
  | deleteMachine name => cases h
  | deleteClass key => cases h
  | failMachineList on => cases h
  | failClassList on => cases h

/-! ### Later stores -/

/-- What is found in a later store was found before at the same place, or has a later version. -/
lemma Later.find (h : s.Later s') (ho : s'.find p = some o) :
    s.find p = some o ∨ ∃ n : ℕ, s.revision.toNat < n ∧ n ≤ s'.revision.toNat ∧
      o.version = some (toString n) := by
  cases p with
  | machine name =>
    obtain ⟨m, hm, rfl⟩ := find_machine_iff.mp ho
    rcases h.machines name m hm with hm' | hnew
    · exact Or.inl (find_machine_iff.mpr ⟨m, hm', rfl⟩)
    · exact Or.inr hnew
  | machineClass key =>
    obtain ⟨c, hc, rfl⟩ := find_machineClass_iff.mp ho
    rcases h.classes key c hc with hc' | hnew
    · exact Or.inl (find_machineClass_iff.mpr ⟨c, hc', rfl⟩)
    · exact Or.inr hnew

/-- Nothing is found in the empty store. -/
lemma find_empty (p : Place) : ({} : Store).find p = none := by
  cases p <;> rfl

/-- In a store that has grown from the empty one, every object carries a number between one and
the counter. -/
lemma version_of_found (h : ({} : Store).Later s) (ho : s.find p = some o) :
    ∃ n : ℕ, 1 ≤ n ∧ n ≤ s.revision.toNat ∧ o.version = some (toString n) := by
  rcases h.find ho with hnone | ⟨n, hlow, hhigh, hn⟩
  · rw [find_empty] at hnone
    cases hnone
  · exact ⟨n, Nat.succ_le_of_lt (Nat.zero_lt_of_lt hlow), hhigh, hn⟩

/-- Different numbers are different versions. -/
lemma toString_inj {m n : ℕ} (h : some (toString m) = some (toString n)) : m = n :=
  Nat.repr_injective (Option.some.inj h)

/-- **Separate**: no two objects share a version. -/
def Separate (s : Store) : Prop :=
  ∀ ⦃p q : Place⦄ ⦃o o' : Stored⦄, s.find p = some o → s.find q = some o' →
    o.version = o'.version → p = q

/-- No object that was found up to now carries the next version, which is zero at worst, if the
counter overflows. -/
lemma version_ne_next (h : ({} : Store).Later s) (hs : s.Later s') (ho : s.find p = some o) :
    o.version ≠ some s'.nextVersion := by
  obtain ⟨n, hlow, hhigh, hversion⟩ := version_of_found h ho
  have hle := hs.revision_le
  have hlt := s'.revision.toNat_lt
  rw [hversion, nextVersion]
  intro heq
  have hnext : n = (s'.revision + 1).toNat := toString_inj heq
  rw [UInt64.toNat_add, UInt64.toNat_one] at hnext
  omega

/-- A call keeps the objects separate, as the one that it stores is given a version that no other
one carries. -/
lemma Separate.perform (hsep : s.Separate) (hfiled : s.Filed) (h : ({} : Store).Later s) :
    (a.perform s).Separate := by
  have hfresh : ∀ {q x}, s.find q = some x → x.version ≠ some s.nextVersion :=
    fun hx => version_ne_next h (Later.refl s) hx
  intro p q o o' ho ho' hsame
  rcases find_of_perform hfiled ho with ⟨hp, hversion⟩ | hold
  · rcases find_of_perform hfiled ho' with ⟨hq, -⟩ | hold'
    · exact Option.some.inj (hp.symm.trans hq)
    · exact absurd (hsame.symm.trans hversion) (hfresh hold')
  · rcases find_of_perform hfiled ho' with ⟨hq, hversion'⟩ | hold'
    · exact absurd (hsame.trans hversion') (hfresh hold)
    · exact hsep hold hold' hsame

/-! ### Histories -/

/-- A store as a system of one party, which makes the calls. -/
def solo : System Store Call where
  store s := s
  step := Call.perform
  calls _ a := [a]
  store_step _ _ := rfl

lemma callsOf_solo (s : Store) (calls : List Call) : solo.callsOf s calls = calls := by
  induction calls generalizing s with
  | nil => rfl
  | cons a calls ih => rw [System.callsOf, ih, solo, List.singleton_append]

/-- The store after the first `n` calls of a history, which begins with the empty store. -/
def moment (calls : List Call) (n : ℕ) : Store :=
  ({} : Store).after (calls.take n)

variable {calls : List Call} {k n : ℕ}

/-- The next call leads from one moment to the next. -/
lemma moment_succ (h : calls[n]? = some a) :
    moment calls (n + 1) = a.perform (moment calls n) :=
  solo.moment_succ h

/-- At every moment the classes are stored under their own keys. -/
lemma filed_moment (calls : List Call) (n : ℕ) : (moment calls n).Filed :=
  filed_empty.after _

/-- A history only moves on to later stores. -/
lemma later_moment (hroom : stamps calls < 2 ^ 64) (h : k ≤ n) :
    (moment calls k).Later (moment calls n) := by
  have hempty : (solo.store {}).Filed := filed_empty
  refine solo.later_moment hempty ?_ h
  rw [callsOf_solo]
  change 0 + stamps calls < 2 ^ 64
  omega

/-- Every moment of a history has grown from the empty store. -/
lemma grown_moment (hroom : stamps calls < 2 ^ 64) (n : ℕ) :
    ({} : Store).Later (moment calls n) :=
  later_moment hroom (Nat.zero_le n)

/-- There is a version left for every call of a history. -/
lemma room_moment (hroom : stamps calls < 2 ^ 64) (h : calls[n]? = some a) :
    (moment calls n).revision.toNat + a.stamps < 2 ^ 64 := by
  have hparts : calls = calls.take n ++ a :: calls.drop (n + 1) := by
    obtain ⟨hn, rfl⟩ := List.getElem?_eq_some_iff.mp h
    rw [List.getElem_cons_drop, List.take_append_drop]
  have hsum : stamps calls = stamps (calls.take n) + (a.stamps + stamps (calls.drop (n + 1))) := by
    rw [← stamps_cons, ← stamps_append, ← hparts]
  have hzero : ({} : Store).revision.toNat = 0 := rfl
  have hrev : (moment calls n).revision.toNat = 0 + stamps (calls.take n) :=
    toNat_after_revision (by omega)
  omega

/-- At every moment of a history the objects are separate. -/
lemma separate_moment (hroom : stamps calls < 2 ^ 64) (n : ℕ) : (moment calls n).Separate := by
  induction n with
  | zero =>
    intro p q o o' ho
    rw [moment, List.take_zero, after_nil, find_empty] at ho
    cases ho
  | succ n ih =>
    cases ha : calls[n]? with
    | none =>
      have hend : moment calls (n + 1) = moment calls n := solo.moment_of_none ha
      rw [hend]
      exact ih
    | some a =>
      rw [moment_succ ha]
      exact ih.perform (filed_moment calls n) (grown_moment hroom n)

/-- **Disciplined**: what holds of the versions in a history. -/
structure Disciplined (calls : List Call) : Prop where
  /-- Every object carries a number between one and the counter. -/
  numbered : ∀ {n p o}, (moment calls n).find p = some o →
    ∃ v : ℕ, 1 ≤ v ∧ v ≤ (moment calls n).revision.toNat ∧ o.version = some (toString v)
  /-- No two objects share a version. -/
  separate : ∀ n, (moment calls n).Separate
  /-- After a call an object is the one that was there before, unless the call has stored it. -/
  given : ∀ {n a p o}, calls[n]? = some a → (moment calls (n + 1)).find p = some o →
    a.target (moment calls n) = some p ∨ (moment calls n).find p = some o
  /-- The object that a call stores is given a version that no object, wherever and whenever it was
  stored, has carried before. -/
  fresh : ∀ {n a p}, calls[n]? = some a → a.target (moment calls n) = some p →
    ∃ o v, (moment calls (n + 1)).find p = some o ∧ o.version = some v ∧
      ∀ {k q o'}, k ≤ n → (moment calls k).find q = some o' → o'.version ≠ some v
  /-- The version at a place grows if it changes, also if the place was empty in between. -/
  grows : ∀ {k n p o o'}, k ≤ n → (moment calls k).find p = some o →
    (moment calls n).find p = some o' → o.version ≠ o'.version →
    ∃ u v : ℕ, u < v ∧ o.version = some (toString u) ∧ o'.version = some (toString v)
  /-- An object with the same version at the same place is the same object. -/
  same : ∀ {k n p o o'}, (moment calls k).find p = some o → (moment calls n).find p = some o' →
    o.version = o'.version → o = o'

/-- An object that is found later at the same place is the same, or has a greater number. -/
lemma eq_or_lt_of_find (hroom : stamps calls < 2 ^ 64) (h : k ≤ n)
    (ho : (moment calls k).find p = some o) (ho' : (moment calls n).find p = some o') :
    o = o' ∨ ∃ u v : ℕ, u < v ∧ o.version = some (toString u) ∧ o'.version = some (toString v) := by
  rcases (later_moment hroom h).find ho' with hold | ⟨v, hlow, -, hv⟩
  · exact Or.inl (Option.some.inj (ho.symm.trans hold))
  · obtain ⟨u, -, hu, hversion⟩ := version_of_found (grown_moment hroom k) ho
    exact Or.inr ⟨u, v, by omega, hversion, hv⟩

/-- **Versions are given once, grow, and tell objects apart**, whatever calls are made, as long as
the counter does not overflow. -/
theorem disciplined (hroom : stamps calls < 2 ^ 64) : Disciplined calls where
  numbered ho := version_of_found (grown_moment hroom _) ho
  separate := separate_moment hroom
  given := by
    intro n a p o ha ho
    rw [moment_succ ha] at ho
    exact (find_of_perform (filed_moment calls n) ho).imp_left And.left
  fresh := by
    intro n a p ha htarget
    obtain ⟨o, ho, hversion⟩ := find_target htarget
    rw [← moment_succ ha] at ho
    refine ⟨o, _, ho, hversion, ?_⟩
    intro k q o' hk ho' heq
    have hone := room_moment hroom ha
    rw [stamps_of_target htarget] at hone
    rw [nextVersion_eq hone] at heq
    obtain ⟨u, -, hu, hversion'⟩ := version_of_found (grown_moment hroom k) ho'
    have hle := (later_moment hroom hk).revision_le
    have hnext : u = (moment calls n).revision.toNat + 1 := toString_inj (hversion'.symm.trans heq)
    omega
  grows := by
    intro k n p o o' hkn ho ho' hne
    rcases eq_or_lt_of_find hroom hkn ho ho' with rfl | hgrown
    · exact absurd rfl hne
    · exact hgrown
  same := by
    -- of two moments one is the earlier one
    have hordered : ∀ {k n p o o'}, k ≤ n → (moment calls k).find p = some o →
        (moment calls n).find p = some o' → o.version = o'.version → o = o' := by
      intro k n p o o' hkn ho ho' hsame
      rcases eq_or_lt_of_find hroom hkn ho ho' with heq | ⟨u, v, huv, hu, hv⟩
      · exact heq
      · have hnum : u = v := toString_inj (hu.symm.trans (hsame.trans hv))
        omega
    intro k n p o o' ho ho' hsame
    rcases le_total k n with hkn | hnk
    · exact hordered hkn ho ho' hsame
    · exact (hordered hnk ho' ho hsame.symm).symm

/-- A machine is renamed and given a version of someone else's choice, a write fails, and a class
that comes with a version is deleted and put again. -/
def revival : List Call :=
  [.putMachine .sample, .putClass (MachineClass.sample.withVersion "7"),
    .updateMachine "m1" (fun m =>
      { m with metadata := { m.metadata with name := some "m2", resourceVersion := some "2" } }),
    .writeStatus MachineClass.sample.key "7" {}, .deleteClass MachineClass.sample.key,
    .putClass (MachineClass.sample.withVersion "2")]

/-- The class put again carries a greater number than the one deleted, and neither has the version
that it came with. -/
theorem disciplined_revival :
    stamps revival < 2 ^ 64 ∧ ∃ o o',
      (moment revival 2).find (.machineClass MachineClass.sample.key) = some o ∧
      (moment revival 6).find (.machineClass MachineClass.sample.key) = some o' ∧
      o.version = some "2" ∧ o'.version = some "5" ∧
      ∃ u v : ℕ, u < v ∧ o.version = some (toString u) ∧ o'.version = some (toString v) := by
  have hroom : stamps revival < 2 ^ 64 := by
    have hcount : stamps revival = 5 := by decide
    omega
  have hfirst : (moment revival 2).find (.machineClass MachineClass.sample.key) =
      some (.machineClass (MachineClass.sample.withVersion "2")) := by cbv
  have hsecond : (moment revival 6).find (.machineClass MachineClass.sample.key) =
      some (.machineClass (MachineClass.sample.withVersion "5")) := by cbv
  have hne : (Stored.machineClass (MachineClass.sample.withVersion "2")).version ≠
      (Stored.machineClass (MachineClass.sample.withVersion "5")).version := by decide
  exact ⟨hroom, _, _, hfirst, hsecond, rfl, rfl,
    (disciplined hroom).grows (by norm_num) hfirst hsecond hne⟩

end Store

end BareMetal
