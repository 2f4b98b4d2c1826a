import BareMetal.Feed
import BareMetal.Proofs.Store.Write

/-!
Who is told of a change.

* `Store.Call.told`, `Store.Call.renewed`: the machine whose change a call tells, and the
  classes that it gives a new version;
* `machines_of_untold`: **a call that tells nothing leaves the machines as they were**;
* `getClass_of_perform`: **a class is found as before unless it has a new version**;
* `Feed.Owes`: a feed is going to deliver a key; `Feed.owes_notify`, `Feed.owes_drain`:
  after a change every key is owed, and **a key that is owed is delivered or remains owed**.
-/

namespace BareMetal

namespace Store

/-! ### Calls -/

/-- The machine whose change a call tells. -/
def Call.told (s : Store) : Call → Option String
  | .putMachine m => (s.putMachine m).2
  | .deleteMachine name => (s.deleteMachine name).2
  | .updateMachine name edit => (s.updateMachine name edit).2
  | _ => none

/-- The classes that a call gives a new version. -/
def Call.renewed (s : Store) : Call → List ClassKey
  | .putClass c => [c.key]
  | .touchClass key => if (s.getClass key).isSome then [key] else []
  | .writeStatus key version status =>
    match (s.writeStatus key version status).1 with
    | .ok () => [key]
    | .error _ => []
  | _ => []

variable {s : Store} {a : Call} {k : ClassKey} {c : MachineClass}

/-- **A call that tells nothing leaves the machines as they were.** -/
lemma machines_of_untold (h : a.told s = none) : (a.perform s).machines = s.machines := by
  cases a with
  | putMachine m => cases h
  | deleteMachine name =>
    rw [Call.told, deleteMachine] at h
    split at h
    · cases h
    next hname =>
      rw [SortedMap.contains, Option.isSome_iff_ne_none, not_not] at hname
      exact SortedMap.erase_of_get?_eq_none hname
  | updateMachine name edit =>
    rw [Call.told, updateMachine] at h
    rw [Call.perform, updateMachine]
    split at h
    · cases h
    · rfl
  | touchClass key => exact touchClass_machines key
  | writeStatus key version status => exact writeStatus_machines key version status
  | putClass c => rfl
  | deleteClass key => rfl
  | failMachineList on => rfl
  | failClassList on => rfl

/-- **A class is found as before unless it has a new version.** -/
lemma getClass_of_perform (h : (a.perform s).getClass k = some c) :
    k ∈ a.renewed s ∨ s.getClass k = some c := by
  cases a with
  | putClass c' =>
    rcases SortedMap.get?_of_insert h with ⟨hk, -⟩ | ⟨-, hold⟩
    · rw [Call.renewed, List.mem_singleton]
      exact Or.inl hk.symm
    · exact Or.inr hold
  | deleteClass key => exact Or.inr (SortedMap.get?_of_erase h).2
  | touchClass key =>
    rw [Call.perform, touchClass] at h
    split at h
    next c' hc' =>
      rcases SortedMap.get?_of_insert h with ⟨rfl, -⟩ | ⟨-, hold⟩
      · left
        rw [Call.renewed, getClass, hc', Option.isSome_some, if_pos rfl]
        exact List.mem_singleton_self key
      · exact Or.inr hold
    next => exact Or.inr h
  | writeStatus key version status =>
    change (s.writeStatus key version status).2.getClass k = some c at h
    cases hfound : s.getClass key with
    | none =>
      rw [writeStatus_of_absent hfound] at h
      exact Or.inr h
    | some c' =>
      by_cases hversion : c'.version = some version
      · have hwrite : (s.writeStatus key version status).1 = .ok () ∧
            s.Rewritten key c' status (s.writeStatus key version status).2 :=
          writeStatus_of_current hfound hversion
        obtain ⟨hok, hrewritten⟩ := hwrite
        by_cases hk : k = key
        · left
          rw [Call.renewed, hok, hk]
          exact List.mem_singleton_self key
        · right
          rw [← hrewritten.others k hk]
          exact h
      · rw [writeStatus_of_outdated hfound hversion] at h
        exact Or.inr h
  | updateMachine name edit =>
    rw [Call.perform, getClass, updateMachine_classes] at h
    exact Or.inr h
  | putMachine m => exact Or.inr h
  | deleteMachine name => exact Or.inr h
  | failMachineList on => exact Or.inr h
  | failClassList on => exact Or.inr h

/-- Only one call makes listing the classes fail. -/
lemma classListFails_of_perform (h : s.classListFails = false) (ha : a ≠ .failClassList true) :
    (a.perform s).classListFails = false := by
  cases a with
  | failClassList on =>
    cases on with
    | true => exact absurd rfl ha
    | false => rfl
  | updateMachine name edit => exact (updateMachine_classListFails name edit).trans h
  | touchClass key => exact (touchClass_classListFails key).trans h
  | writeStatus key version status => exact (writeStatus_classListFails key version status).trans h
  | putMachine m => exact h
  | deleteMachine name => exact h
  | putClass c => exact h
  | deleteClass key => exact h
  | failMachineList on => exact h

/-- A change goes to every class. -/
lemma mem_fanOut (hfiled : s.Filed) (hlist : s.classListFails = false)
    (h : s.getClass k = some c) : k ∈ (fanOut s.listClasses).1 := by
  rw [listClasses, hlist]
  change k ∈ s.classes.values.map MachineClass.key
  rw [List.mem_map]
  exact ⟨c, SortedMap.mem_values_iff.mpr ⟨k, h⟩, hfiled.key_eq h⟩

end Store

/-! ### Feeds -/

namespace Feed

variable {f : Feed} {k : ClassKey} {classes : Except StoreError (List MachineClass)}
  {room : Option ℕ} {ready : List ClassKey} {pending : List String}

/-- **Owes**: a feed is going to deliver a key, as that of a change that it has taken up or of one
that it has not. -/
def Owes (f : Feed) (k : ClassKey) : Prop :=
  f.pending ≠ [] ∨ k ∈ f.ready

/-- After a change every key is owed, even if older changes are lost. -/
lemma owes_notify (f : Feed) (name : String) (k : ClassKey) : (f.notify name).Owes k := by
  left
  intro hnil
  have hlength := congrArg List.length hnil
  simp only [notify, newest, capacity, List.length_drop, List.length_append, List.length_cons,
    List.length_nil] at hlength
  omega

/-- The items off the front and those behind them are all there are. -/
lemma mem_takeRoom_or_mem_dropRoom {α : Type} {x : α} {xs : List α} (h : x ∈ xs) :
    x ∈ takeRoom room xs ∨ x ∈ dropRoom room xs := by
  cases room with
  | none => exact Or.inl h
  | some n =>
    rw [← List.mem_append, takeRoom, dropRoom, List.take_append_drop]
    exact h

/-- A key that is ready is delivered or remains ready. -/
lemma mem_deliver_of_mem_ready (h : k ∈ ready) :
    k ∈ (deliver classes room ready pending).1 ∨ k ∈ (deliver classes room ready pending).2.1 := by
  cases pending with
  | nil => exact mem_takeRoom_or_mem_dropRoom h
  | cons m ms =>
    rw [deliver]
    split
    · exact mem_takeRoom_or_mem_dropRoom h
    · exact Or.inl (List.mem_append_left _ h)

/-- A key of a change that was not taken up is delivered or becomes ready, or the change remains
where it is. -/
lemma mem_deliver_of_pending (hpending : pending ≠ []) (h : k ∈ (fanOut classes).1) :
    (deliver classes room ready pending).2.2.1 ≠ [] ∨
      k ∈ (deliver classes room ready pending).1 ∨
      k ∈ (deliver classes room ready pending).2.1 := by
  cases pending with
  | nil => exact absurd rfl hpending
  | cons m ms =>
    rw [deliver]
    split
    · exact Or.inl (List.cons_ne_nil m ms)
    · -- the keys of the change are ready once it is taken up
      right
      have hready : k ∈ (takeUp classes m).1 := h
      rcases mem_deliver_of_mem_ready hready with hitems | hrest
      · exact Or.inl (List.mem_append_right _ hitems)
      · exact Or.inr hrest

/-- **A key that is owed is delivered or remains owed.** -/
lemma owes_drain (howes : f.Owes k) (h : k ∈ (fanOut classes).1) :
    k ∈ (f.drainTriggers classes room).1 ∨ (f.drainTriggers classes room).2.1.Owes k := by
  rcases howes with hpending | hready
  · rcases mem_deliver_of_pending hpending h with hpending' | hitems | hready'
    · exact Or.inr (Or.inl hpending')
    · exact Or.inl hitems
    · exact Or.inr (Or.inr hready')
  · rcases mem_deliver_of_mem_ready hready with hitems | hready'
    · exact Or.inl hitems
    · exact Or.inr (Or.inr hready')

end Feed

end BareMetal
