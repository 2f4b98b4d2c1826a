import BareMetal.Proofs.Commit

/-!
Which classes a change goes to.

* `ClassKey.Below`: the order of keys, and `below_iff_compare`: it is the one by which classes are
  listed;
* `Store.keys_fanOut`: **a change goes to the keys under which classes are stored**, as each class
  is stored under its own key;
* `Store.getClass_commit`: **a commit leaves all classes alone but the one with the key of its
  copy**;
* `Store.fanOut_exact`: all of this for every store that calls can lead to.
-/

namespace BareMetal

/-! ### The order of keys -/

namespace ClassKey

/-- **Below**: keys without a namespace come first, then those of one namespace after the other, and
among these one name after the other. -/
inductive Below : ClassKey → ClassKey → Prop
  /-- No namespace comes before any namespace. -/
  | unscoped (name ns name' : String) : Below ⟨none, name⟩ ⟨some ns, name'⟩
  /-- The namespaces are in order. -/
  | scope {ns ns' : String} (h : ns < ns') (name name' : String) :
      Below ⟨some ns, name⟩ ⟨some ns', name'⟩
  /-- The names in a namespace, or in none, are in order. -/
  | name (scope : Option String) {name name' : String} (h : name < name') :
      Below ⟨scope, name⟩ ⟨scope, name'⟩

/-- The comparison looks at the namespaces first and then at the names. -/
lemma compare_eq_lt_iff {k l : ClassKey} : compare k l = .lt ↔
    compare k.scope l.scope = .lt ∨ k.scope = l.scope ∧ k.name < l.name := by
  have hcompare : compare k l = (compare k.scope l.scope).then (compare k.name l.name) := rfl
  rw [hcompare, Ordering.then_eq_lt, Std.LawfulEqOrd.compare_eq_iff_eq, compare_lt_iff_lt]

/-- **Below is the order in which classes are listed.** -/
lemma below_iff_compare {k l : ClassKey} : k.Below l ↔ compare k l = .lt := by
  rw [compare_eq_lt_iff]
  constructor
  · intro h
    cases h with
    | unscoped name ns name' => exact .inl rfl
    | scope h name name' => exact .inl (compare_lt_iff_lt.mpr h)
    | name scope h => exact .inr ⟨rfl, h⟩
  · obtain ⟨scope, name⟩ := k
    obtain ⟨scope', name'⟩ := l
    rintro (h | ⟨rfl, h⟩)
    · cases scope with
      | none =>
        cases scope' with
        | none => cases h
        | some ns' => exact .unscoped name ns' name'
      | some ns =>
        cases scope' with
        | none => cases h
        | some ns' => exact .scope (compare_lt_iff_lt.mp h) name name'
    · exact .name scope h

end ClassKey

namespace Store

variable {s : Store} {k : ClassKey} {c : MachineClass} {version : String}
  {status : MachineClassStatus}

/-! ### Fan-outs -/

/-- The keys of the classes are the keys under which they are stored. -/
lemma map_key_values (h : s.Filed) : s.classes.values.map MachineClass.key = s.classes.keys := by
  rw [SortedMap.values, SortedMap.keys, List.map_map]
  refine List.map_congr_left fun e he => ?_
  exact h.key_eq (SortedMap.mem_entries_iff.mp he)

/-- **A change goes to the keys under which classes are stored.** -/
lemma keys_fanOut (h : s.Filed) (hlist : s.classListFails = false) :
    (fanOut s.listClasses).1 = s.classes.keys := by
  have hlisted : s.listClasses = .ok s.classes.values := by
    rw [listClasses, hlist]
    rfl
  rw [hlisted]
  exact map_key_values h

/-! ### Commits -/

/-- A write leaves the other classes alone. -/
lemma getClass_writeStatus {key : ClassKey} (s : Store) (hk : k ≠ key) :
    (s.writeStatus key version status).2.getClass k = s.getClass k := by
  cases hfound : s.getClass key with
  | none =>
    rw [writeStatus_of_absent hfound]
    rfl
  | some c =>
    by_cases hversion : c.version = some version
    · exact (writeStatus_of_current hfound hversion).2.others k hk
    · rw [writeStatus_of_outdated hfound hversion]
      rfl

/-- **A commit leaves all classes alone but the one with the key of its copy.** -/
lemma getClass_commit (s : Store) (hk : k ≠ c.key) :
    (backend.commit c status s).2.getClass k = s.getClass k :=
  (commits_commit s c status).others hk

/-- A commit of a copy that was just read leaves the store alone or rewrites the class that was
read. -/
lemma commit_of_read (hfiled : s.Filed) (hc : s.getClass k = some c)
    (h : c.status ≠ some status) :
    ∃ version, c.version = some version ∧
      (backend.commit c status s).1.1 = .ok (.write version) ∧
      s.Rewritten k c status (backend.commit c status s).2 := by
  obtain ⟨version, hversion⟩ := hfiled.version_some hc
  obtain rfl : c.key = k := hfiled.key_eq hc
  have hlaw := (commits_commit s c status).law
  have hwritten : (backend.commit c status s).1.1 = .ok (.write version) :=
    (hlaw.write_iff version).mpr ⟨h, hversion, c, hc, rfl⟩
  obtain ⟨⟨stored, hstored, -, hrewritten⟩, -⟩ := hlaw.rewritten version hwritten
  obtain rfl : stored = c := Option.some.inj (hstored.symm.trans hc)
  exact ⟨version, hversion, hwritten, hrewritten⟩

/-! ### Every store -/

/-- **A change goes to the classes that are stored.** In every store that calls can lead to, each
class is stored under its own key. So, if listing the classes does not fail, a change goes to keys
in strictly ascending order, those without a namespace first, then by namespace and then by name,
none of them twice, and it goes to a key exactly if reading it finds a class. A commit of a copy
that was just read leaves the store as it is if the copy has the status, and otherwise it rewrites
the class that was read and nothing else; committed at any later time it still leaves the classes
with other keys alone. -/
theorem fanOut_exact (calls : List Call) :
    let s := ({} : Store).after calls
    (∀ k c, s.getClass k = some c → c.key = k) ∧
      (s.classListFails = false →
        let keys := (fanOut s.listClasses).1
        keys.Pairwise ClassKey.Below ∧ keys.Nodup ∧
          ∀ k, k ∈ keys ↔ ∃ c, s.getClass k = some c) ∧
      ∀ k c status, s.getClass k = some c →
        let committed := backend.commit c status s
        (c.status = some status → committed.1.1 = .ok .skip ∧ committed.2 = s) ∧
          (c.status ≠ some status → ∃ version, c.version = some version ∧
            committed.1.1 = .ok (.write version) ∧ s.Rewritten k c status committed.2) ∧
          ∀ later other, other ≠ k →
            (backend.commit c status (s.after later)).2.getClass other =
              (s.after later).getClass other := by
  intro s
  have hfiled : s.Filed := filed_empty.after calls
  refine ⟨fun k c hc => hfiled.key_eq hc, fun hlist => ?_, fun k c status hc => ⟨?_, ?_, ?_⟩⟩
  · rw [keys_fanOut hfiled hlist]
    refine ⟨?_, s.classes.keys_nodup, fun k => SortedMap.mem_keys_iff⟩
    exact s.classes.keys_ascending.imp ClassKey.below_iff_compare.mpr
  · intro h
    rw [Backend.commit_of_same s h]
    exact ⟨rfl, rfl⟩
  · exact commit_of_read hfiled hc
  · intro later other hother
    exact getClass_commit _ (hfiled.key_eq hc ▸ hother)

/-- A class of a namespace, one without a namespace whose name is still to be generated, and one in
another namespace; the first one is touched and the second one put again. -/
def scattered : List Call :=
  let unnamed : MachineClass := { metadata := { generateName := some "gpu-" } }
  let edge : MachineClass := { metadata := { name := some "any", scope := some "edge" } }
  [.putClass .sample, .putClass unnamed, .putClass edge, .touchClass MachineClass.sample.key,
    .deleteClass unnamed.key, .putClass unnamed]

/-- A change goes to all three in order, and a commit of a copy of the first one rewrites it. -/
theorem fanOut_exact_scattered :
    let s := ({} : Store).after scattered
    let key := MachineClass.sample.key
    let status : MachineClassStatus := { machinesAvailable := ["m1"] }
    s.classListFails = false ∧
      (fanOut s.listClasses).1 = [⟨none, "gpu-"⟩, ⟨some "edge", "any"⟩, ⟨some "lab", "any"⟩] ∧
      (fanOut s.listClasses).1.Pairwise ClassKey.Below ∧
      ∃ c, s.getClass key = some c ∧ c.status ≠ some status ∧
        s.Rewritten key c status (backend.commit c status s).2 := by
  have hkeys : (fanOut (({} : Store).after scattered).listClasses).1 =
      [⟨none, "gpu-"⟩, ⟨some "edge", "any"⟩, ⟨some "lab", "any"⟩] := by cbv
  have hc : (({} : Store).after scattered).getClass MachineClass.sample.key =
      some (MachineClass.sample.withVersion "4") := by cbv
  intro s key status
  obtain ⟨-, hlisted, hcommitted⟩ := fanOut_exact scattered
  have hlist : s.classListFails = false := rfl
  have hother : (MachineClass.sample.withVersion "4").status ≠ some status := by decide
  obtain ⟨version, -, -, hrewritten⟩ := (hcommitted key _ status hc).2.1 hother
  exact ⟨hlist, hkeys, (hlisted hlist).1, _, hc, hother, hrewritten⟩

end Store

end BareMetal
