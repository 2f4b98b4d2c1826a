import Mathlib
import BareMetal.Store
import BareMetal.Proofs.Lookup

/-!
The calls that change a store, one at a time and in a row.

* `Store.Call`, `Store.Call.perform`, `Store.after`: a call, what it makes of a store,
  and what a list of calls makes of it; `Store.Call.stamps` and `Store.stamps` count
  the versions that the calls use up;
* `updateMachine_classes`, `touchClass_machines`, `writeStatus_machines` and their like:
  what an operation leaves alone, whether it finds its object or not;
* `SortedMap.Edit`: what a single call can make of the machines or of the classes, and
  `perform_machines`, `perform_classes`: that no call does more;
* `Store.Filed`: **every class is stored under its own key and has a version**, which
  holds of the empty store and is kept by every call (`Filed.after`);
* `Call.samples`: how a small store comes about.
-/

namespace BareMetal

/-! ### Edits of a map -/

/-- A map after at most one change: nothing happened to it, a key was erased, or an object
that satisfies a condition was inserted. -/
inductive SortedMap.Edit {κ ν : Type} [Ord κ] [Std.TransOrd κ] (new : κ → ν → Prop)
    (m : SortedMap κ ν) : SortedMap κ ν → Prop
  /-- Nothing happened. -/
  | same : Edit new m m
  /-- A key was erased. -/
  | erase (k : κ) : Edit new m (m.erase k)
  /-- An object was inserted. -/
  | insert (k : κ) (x : ν) (h : new k x) : Edit new m (m.insert k x)

/-- What is found after an edit was found before, or is new. -/
lemma SortedMap.Edit.cases_get? {κ ν : Type} [Ord κ] [Std.TransOrd κ] [Std.LawfulEqOrd κ]
    [DecidableEq κ] {new : κ → ν → Prop} {m m' : SortedMap κ ν} (h : SortedMap.Edit new m m')
    {k : κ} {x : ν} (hx : m'.get? k = some x) : m.get? k = some x ∨ new k x := by
  cases h with
  | same => exact Or.inl hx
  | erase l => exact Or.inl (SortedMap.get?_of_erase hx).2
  | insert l y hy =>
    rcases SortedMap.get?_of_insert hx with ⟨rfl, rfl⟩ | ⟨-, hx⟩
    · exact Or.inr hy
    · exact Or.inl hx

namespace Store

/-! ### Calls -/

/-- A call that may change a store. -/
inductive Call where
  /-- Puts a machine. -/
  | putMachine (m : Machine)
  /-- Takes a machine away. -/
  | deleteMachine (name : String)
  /-- Changes a machine. -/
  | updateMachine (name : String) (edit : Machine → Machine)
  /-- Puts a class. -/
  | putClass (c : MachineClass)
  /-- Takes a class away. -/
  | deleteClass (key : ClassKey)
  /-- Gives a class a new version. -/
  | touchClass (key : ClassKey)
  /-- Writes the status of a class over a version. -/
  | writeStatus (key : ClassKey) (version : String) (status : MachineClassStatus)
  /-- Makes listing the machines fail, or work again. -/
  | failMachineList (on : Bool)
  /-- Makes listing the classes fail, or work again. -/
  | failClassList (on : Bool)

/-- The store after a call. -/
def Call.perform (s : Store) : Call → Store
  | .putMachine m => (s.putMachine m).1
  | .deleteMachine name => (s.deleteMachine name).1
  | .updateMachine name edit => (s.updateMachine name edit).1
  | .putClass c => s.putClass c
  | .deleteClass key => s.deleteClass key
  | .touchClass key => s.touchClass key
  | .writeStatus key version status => (s.writeStatus key version status).2
  | .failMachineList on => { s with machineListFails := on }
  | .failClassList on => { s with classListFails := on }

/-- How many versions a call uses up. -/
def Call.stamps : Call → Nat
  | .putMachine _ => 1
  | .deleteMachine _ => 0
  | .updateMachine _ _ => 1
  | .putClass _ => 1
  | .deleteClass _ => 0
  | .touchClass _ => 1
  | .writeStatus _ _ _ => 1
  | .failMachineList _ => 0
  | .failClassList _ => 0

/-- The store after some calls. -/
def after (s : Store) (calls : List Call) : Store :=
  calls.foldl Call.perform s

/-- How many versions some calls use up. -/
def stamps (calls : List Call) : Nat :=
  (calls.map Call.stamps).sum

@[simp] lemma after_nil (s : Store) : s.after [] = s := rfl

@[simp] lemma after_cons (s : Store) (a : Call) (calls : List Call) :
    s.after (a :: calls) = (a.perform s).after calls := rfl

lemma after_append (s : Store) (as bs : List Call) :
    s.after (as ++ bs) = (s.after as).after bs :=
  List.foldl_append

@[simp] lemma stamps_nil : stamps [] = 0 := rfl

@[simp] lemma stamps_cons (a : Call) (calls : List Call) :
    stamps (a :: calls) = a.stamps + stamps calls := rfl

@[simp] lemma stamps_append (as bs : List Call) :
    stamps (as ++ bs) = stamps as + stamps bs := by
  simp [stamps]

/-! ### What an operation leaves alone -/

section Frames

variable {s : Store}

@[simp] lemma updateMachine_classes (name : String) (edit : Machine → Machine) :
    (s.updateMachine name edit).1.classes = s.classes := by
  rw [updateMachine]
  split <;> rfl

@[simp] lemma updateMachine_revision (name : String) (edit : Machine → Machine) :
    (s.updateMachine name edit).1.revision = s.revision + 1 := by
  rw [updateMachine]
  split <;> rfl

@[simp] lemma updateMachine_classListFails (name : String) (edit : Machine → Machine) :
    (s.updateMachine name edit).1.classListFails = s.classListFails := by
  rw [updateMachine]
  split <;> rfl

@[simp] lemma touchClass_machines (key : ClassKey) :
    (s.touchClass key).machines = s.machines := by
  rw [touchClass]
  split <;> rfl

@[simp] lemma touchClass_revision (key : ClassKey) :
    (s.touchClass key).revision = s.revision + 1 := by
  rw [touchClass]
  split <;> rfl

@[simp] lemma touchClass_classListFails (key : ClassKey) :
    (s.touchClass key).classListFails = s.classListFails := by
  rw [touchClass]
  split <;> rfl

variable (key : ClassKey) (version : String) (status : MachineClassStatus)

@[simp] lemma writeStatus_machines :
    (s.writeStatus key version status).2.machines = s.machines := by
  rw [writeStatus]
  split
  · rfl
  · dsimp only
    split <;> rfl

@[simp] lemma writeStatus_revision :
    (s.writeStatus key version status).2.revision = s.revision + 1 := by
  rw [writeStatus]
  split
  · rfl
  · dsimp only
    split <;> rfl

@[simp] lemma writeStatus_classListFails :
    (s.writeStatus key version status).2.classListFails = s.classListFails := by
  rw [writeStatus]
  split
  · rfl
  · dsimp only
    split <;> rfl

end Frames

/-! ### What one call can do -/

/-- Every call that changes a machine gives it the next version. -/
lemma perform_machines (s : Store) (a : Call) :
    SortedMap.Edit (fun _ m => a.stamps = 1 ∧ m.metadata.resourceVersion = some s.nextVersion)
      s.machines (a.perform s).machines := by
  cases a with
  | putMachine m => exact .insert _ _ ⟨rfl, rfl⟩
  | deleteMachine name => exact .erase name
  | updateMachine name edit =>
    rw [Call.perform, updateMachine]
    split
    · exact .insert _ _ ⟨rfl, rfl⟩
    · exact .same
  | touchClass key =>
    rw [Call.perform, touchClass_machines]
    exact .same
  | writeStatus key version status =>
    rw [Call.perform, writeStatus_machines]
    exact .same
  | putClass c => exact .same
  | deleteClass key => exact .same
  | failMachineList on => exact .same
  | failClassList on => exact .same

/-- **Filed**: every class is stored under its own key, and it has a version. -/
structure Filed (s : Store) : Prop where
  key_eq : ∀ {k : ClassKey} {c : MachineClass}, s.classes.get? k = some c → c.key = k
  version_some : ∀ {k : ClassKey} {c : MachineClass}, s.classes.get? k = some c →
    ∃ v, c.version = some v

/-- Every call that changes a class gives it the next version and leaves it under its key. -/
lemma perform_classes {s : Store} (h : s.Filed) (a : Call) :
    SortedMap.Edit (fun k c => a.stamps = 1 ∧ c.version = some s.nextVersion ∧ c.key = k)
      s.classes (a.perform s).classes := by
  cases a with
  | putClass c => exact .insert _ _ ⟨rfl, rfl, rfl⟩
  | deleteClass key => exact .erase key
  | touchClass key =>
    rw [Call.perform, touchClass]
    split
    next c hc =>
      have hkey : c.key = key := h.key_eq hc
      exact .insert _ _ ⟨rfl, rfl, hkey⟩
    next => exact .same
  | writeStatus key version status =>
    simp only [Call.perform, writeStatus]
    split
    next => exact .same
    next c hc =>
      have hkey : c.key = key := h.key_eq hc
      split
      · exact .same
      · exact .insert _ _ ⟨rfl, rfl, hkey⟩
  | updateMachine name edit =>
    rw [Call.perform, updateMachine_classes]
    exact .same
  | putMachine m => exact .same
  | deleteMachine name => exact .same
  | failMachineList on => exact .same
  | failClassList on => exact .same

lemma filed_empty : ({} : Store).Filed where
  key_eq h := by cases h
  version_some h := by cases h

/-- A call keeps every class under its key. -/
lemma Filed.perform {s : Store} (h : s.Filed) (a : Call) : (a.perform s).Filed where
  key_eq hc := by
    rcases (perform_classes h a).cases_get? hc with hc | ⟨-, -, hkey⟩
    · exact h.key_eq hc
    · exact hkey
  version_some hc := by
    rcases (perform_classes h a).cases_get? hc with hc | ⟨-, hversion, -⟩
    · exact h.version_some hc
    · exact ⟨_, hversion⟩

/-- Calls keep every class under its key. -/
lemma Filed.after {s : Store} (h : s.Filed) (calls : List Call) : (s.after calls).Filed := by
  induction calls generalizing s with
  | nil => exact h
  | cons a calls ih => exact ih (h.perform a)

end Store

/-! ### A small store -/

/-- An accepted machine. -/
def Machine.sample : Machine where
  metadata := { name := some "m1" }
  spec := { accepted := true }

/-- A class that all accepted machines belong to. -/
def MachineClass.sample : MachineClass where
  metadata := { name := some "any", scope := some "lab" }

/-- How a store with one machine and one class comes about. -/
def Store.Call.samples : List Store.Call :=
  [.putMachine .sample, .putClass .sample]

end BareMetal
