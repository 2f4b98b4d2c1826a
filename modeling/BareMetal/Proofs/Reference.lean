import BareMetal.Inventory
import BareMetal.Proofs.Lookup

/-!
The status of a class, said of the machines one by one and without the way in which it is
computed.

* `bearer`: the machine that stands for a name;
* `Qualifiers.Meets`: a machine satisfies every category that is not empty;
* `IsStatus`: a status that lists, in ascending order, the names whose bearers meet the
  qualifiers, each as available or in use;
* `isStatus_iff`: **the computed status is the one and only such status**, put together
  from `get?_ofMachines`, `get?_apply` and `aggregate_values`.
-/

namespace BareMetal

/-! ### What is to be listed -/

/-- The machine that stands for a name: of the accepted machines with this name the last one. -/
def bearer (machines : List Machine) (n : String) : Option Machine :=
  (machines.filter (fun m => m.spec.accepted && m.name == n)).getLast?

/-- **Meets**: the machine satisfies every category that is not empty. It has a descriptor which
one of those that are asked for matches, and it carries a label of one of the selectors. -/
structure Qualifiers.Meets (q : Qualifiers) (m : Machine) : Prop where
  cpu : q.cpu ≠ [] → ∃ cpu, m.spec.cpu = some cpu ∧ ∃ w ∈ q.cpu, w.partialMatches cpu = true
  system : q.systemInformation ≠ [] → ∃ info, m.spec.systemInformation = some info ∧
    ∃ w ∈ q.systemInformation, w.partialMatches info = true
  labels : q.labelSelectors ≠ [] → ∃ selector ∈ q.labelSelectors, ∃ name value,
    selector.get? name = some value ∧ m.labels.get? name = some value

/-- **The status of a class**: a name is listed if its bearer meets the qualifiers, as in use or as
available as the bearer says, and both lists are strictly ascending and share no name. -/
structure IsStatus (q : Qualifiers) (machines : List Machine) (status : MachineClassStatus) :
    Prop where
  mem_available : ∀ n, n ∈ status.machinesAvailable ↔
    ∃ m, bearer machines n = some m ∧ q.Meets m ∧ m.inUse = false
  mem_inUse : ∀ n, n ∈ status.machinesInUse ↔
    ∃ m, bearer machines n = some m ∧ q.Meets m ∧ m.inUse = true
  available_ascending : status.machinesAvailable.Pairwise (· < ·)
  inUse_ascending : status.machinesInUse.Pairwise (· < ·)
  disjoint : ∀ n ∈ status.machinesAvailable, n ∉ status.machinesInUse

/-- There is only one status of a class. -/
lemma IsStatus.eq {q : Qualifiers} {machines : List Machine} {a b : MachineClassStatus}
    (ha : IsStatus q machines a) (hb : IsStatus q machines b) : a = b := by
  have havailable : a.machinesAvailable = b.machinesAvailable :=
    ha.available_ascending.eq_of_mem_iff hb.available_ascending fun n => by
      rw [ha.mem_available, hb.mem_available]
  have hinUse : a.machinesInUse = b.machinesInUse :=
    ha.inUse_ascending.eq_of_mem_iff hb.inUse_ascending fun n => by
      rw [ha.mem_inUse, hb.mem_inUse]
  cases a
  cases b
  rw [MachineClassStatus.mk.injEq]
  exact ⟨havailable, hinUse⟩

namespace Inventory

/-! ### The inventory -/

/-- Under a name the inventory holds its bearer. -/
lemma get?_ofMachines (machines : List Machine) (n : String) :
    (ofMachines machines).get? n = bearer machines n := by
  rw [ofMachines, SortedMap.get?_ofList, bearer, List.filter_map, List.getLast?_map,
    Option.map_map, List.filter_filter]
  have htest : ∀ m : Machine, (decide (m.name = n) && m.spec.accepted) =
      (m.spec.accepted && m.name == n) := by
    intro m
    rw [Bool.and_comm]
    rfl
  simp only [Function.comp_def, htest, Option.map_id']

/-- The bearer of a name has the name. -/
lemma name_of_bearer {machines : List Machine} {n : String} {m : Machine}
    (h : bearer machines n = some m) : m.name = n := by
  have hmem := List.mem_of_getLast? h
  rw [List.mem_filter, Bool.and_eq_true, beq_iff_eq] at hmem
  exact hmem.2.2

/-! ### The stages -/

/-- A machine has a processor that is asked for. -/
lemma hasCpu_iff {wanted : List CpuInformation} {m : Machine} :
    hasCpu wanted m = true ↔
      ∃ cpu, m.spec.cpu = some cpu ∧ ∃ w ∈ wanted, w.partialMatches cpu = true := by
  rw [hasCpu]
  split
  next cpu h => simp [h]
  next h => simp [h]

/-- A machine has a descriptor that is asked for. -/
lemma hasSystem_iff {wanted : List SystemInformation} {m : Machine} :
    hasSystem wanted m = true ↔
      ∃ info, m.spec.systemInformation = some info ∧
        ∃ w ∈ wanted, w.partialMatches info = true := by
  rw [hasSystem]
  split
  next info h => simp [h]
  next h => simp [h]

/-- A machine has a label that is asked for. -/
lemma hasLabel_iff {selectors : List (SortedMap String String)} {m : Machine} :
    hasLabel selectors m = true ↔
      ∃ selector ∈ selectors, ∃ name value,
        selector.get? name = some value ∧ m.labels.get? name = some value := by
  simp only [hasLabel, List.any_eq_true, beq_iff_eq, Prod.exists, SortedMap.mem_entries_iff]

/-- A stage keeps the machines that pass its test, and all of them if nothing is asked for. -/
lemma get?_retain {α : Type} {wanted : List α} {test : Machine → Bool} {inv : Inventory}
    {n : String} {m : Machine} :
    (inv.retain wanted test).get? n = some m ↔
      inv.get? n = some m ∧ (wanted ≠ [] → test m = true) := by
  rw [retain]
  cases wanted with
  | nil => simp
  | cons w ws =>
    rw [List.isEmpty_cons, if_neg Bool.false_ne_true, SortedMap.get?_filterValues]
    simp

/-- All stages together keep the machines that meet the qualifiers. -/
lemma get?_apply {inv : Inventory} {q : Qualifiers} {n : String} {m : Machine} :
    (inv.apply q).get? n = some m ↔ inv.get? n = some m ∧ q.Meets m := by
  rw [apply, byLabels, get?_retain, bySystem, get?_retain, byCpu, get?_retain, hasCpu_iff,
    hasSystem_iff, hasLabel_iff]
  constructor
  · rintro ⟨⟨⟨hm, hcpu⟩, hsystem⟩, hlabels⟩
    exact ⟨hm, hcpu, hsystem, hlabels⟩
  · rintro ⟨hm, hcpu, hsystem, hlabels⟩
    exact ⟨⟨⟨hm, hcpu⟩, hsystem⟩, hlabels⟩

end Inventory

/-! ### The lists -/

/-- Strictly ascending strings are sorted already. -/
lemma sortStrings_of_ascending {ss : List String} (h : ss.Pairwise (fun a b => compare a b = .lt)) :
    sortStrings ss = ss := by
  apply List.mergeSort_of_pairwise
  exact h.imp fun hab => by rw [hab]; rfl

/-- The names of some machines of an inventory are the keys under which it holds them. -/
lemma map_name_filter_values {inv : Inventory} (h : ∀ n m, inv.get? n = some m → m.name = n)
    (test : Machine → Bool) :
    (inv.values.filter test).map Machine.name = (inv.filterValues test).keys := by
  rw [SortedMap.values, List.filter_map, List.map_map]
  apply List.map_congr_left
  rintro ⟨n, m⟩ hmem
  rw [List.mem_filter, SortedMap.mem_entries_iff] at hmem
  exact h n m hmem.1

/-- The status of an inventory lists keys, in their order. -/
lemma aggregate_values {inv : Inventory} (h : ∀ n m, inv.get? n = some m → m.name = n) :
    aggregate inv.values =
      { machinesAvailable := (inv.filterValues (fun m => !m.inUse)).keys
        machinesInUse := (inv.filterValues Machine.inUse).keys } := by
  rw [aggregate, map_name_filter_values h, map_name_filter_values h,
    sortStrings_of_ascending (SortedMap.keys_ascending _),
    sortStrings_of_ascending (SortedMap.keys_ascending _)]

/-- The keys of an inventory are strictly ascending strings. -/
lemma keys_pairwise_lt (inv : Inventory) : inv.keys.Pairwise (· < ·) :=
  inv.keys_ascending.imp compare_lt_iff_lt.mp

/-- The computed status is a status of the class. -/
lemma isStatus_statusOf (q : Qualifiers) (machines : List Machine) :
    IsStatus q machines (statusOf q machines) := by
  have hget : ∀ n m, ((Inventory.ofMachines machines).apply q).get? n = some m ↔
      bearer machines n = some m ∧ q.Meets m := by
    intro n m
    rw [Inventory.get?_apply, Inventory.get?_ofMachines]
  have hname : ∀ n m, ((Inventory.ofMachines machines).apply q).get? n = some m → m.name = n :=
    fun n m h => Inventory.name_of_bearer ((hget n m).mp h).1
  rw [statusOf, aggregate_values hname]
  refine ⟨fun n => ?_, fun n => ?_, keys_pairwise_lt _, keys_pairwise_lt _, ?_⟩
  · simp only [SortedMap.mem_keys_iff, SortedMap.get?_filterValues, hget, and_assoc,
      Bool.not_eq_true']
  · simp only [SortedMap.mem_keys_iff, SortedMap.get?_filterValues, hget, and_assoc]
  · -- a name has only one bearer, which is either in use or not
    intro n havailable hinUse
    simp only [SortedMap.mem_keys_iff, SortedMap.get?_filterValues] at havailable hinUse
    obtain ⟨m, hm, hfree⟩ := havailable
    obtain ⟨m', hm', hused⟩ := hinUse
    rw [hm] at hm'
    cases hm'
    rw [hused] at hfree
    cases hfree

/-- **The computed status is the one and only status of the class.** -/
theorem isStatus_iff {q : Qualifiers} {machines : List Machine} {status : MachineClassStatus} :
    IsStatus q machines status ↔ status = statusOf q machines := by
  constructor
  · intro h
    exact h.eq (isStatus_statusOf q machines)
  · rintro rfl
    exact isStatus_statusOf q machines

end BareMetal
