import Mathlib
import BareMetal.SortedMap

/-!
What a sorted map holds, read off its look-ups: a map is known by what it finds under
each key.

* `mem_entries_iff`, `mem_values_iff`, `mem_keys_iff`: the entries are what look-ups find;
* `get?_insert`, `get?_assign`, `get?_filterValues`, `get?_mapValues`, `get?_ofList`: what is
  found after an insertion, after an assignment, after a choice or a change of values, and
  in a map made of a list of bindings;
* `ext_get?`: maps with the same look-ups are the same;
* `erase_of_get?_eq_none`: erasing a key that is not bound changes nothing;
* `keys_ascending`, `keys_nodup`: the keys are strictly ascending, so that none is repeated.
-/

namespace BareMetal

namespace SortedMap

universe u v

variable {κ : Type u} {ν : Type v} [Ord κ]

/-! ### Entries and values -/

/-- The keys are strictly ascending. -/
lemma keys_ascending (m : SortedMap κ ν) :
    m.keys.Pairwise (fun k l => compare k l = .lt) := by
  rw [keys, List.pairwise_map]
  exact m.ascending

/-- A change of all values is found in each. -/
lemma get?_mapValues {μ : Type v} (m : SortedMap κ ν) (f : ν → μ) (k : κ) :
    (m.mapValues f).get? k = (m.get? k).map f := by
  rw [get?, get?, mapValues, List.find?_map, Option.map_map, Option.map_map]
  rfl

variable [Std.LawfulEqOrd κ]

/-- No key is repeated. -/
lemma keys_nodup (m : SortedMap κ ν) : m.keys.Nodup :=
  m.keys_ascending.imp fun hlt heq => by simp [heq] at hlt

/-- The entries are the pairs of a key and what is found under it. -/
lemma mem_entries_iff {m : SortedMap κ ν} {k : κ} {x : ν} :
    (k, x) ∈ m.entries ↔ m.get? k = some x := by
  obtain ⟨es, hasc⟩ := m
  rw [get?]
  induction es with
  | nil => simp
  | cons e es ih =>
    obtain ⟨hlow, hrest⟩ := List.pairwise_cons.mp hasc
    rw [List.mem_cons, List.find?_cons]
    by_cases he : e.1 = k
    · -- the key is that of the first entry, and no later entry has it
      have hbeq : (compare e.1 k == .eq) = true := by simp [he]
      have hnot : (k, x) ∉ es := by
        intro hmem
        have hlt : compare e.1 k = .lt := hlow (k, x) hmem
        simp [he] at hlt
      rw [hbeq]
      simp only [hnot, or_false, Option.map_some, Option.some.injEq]
      constructor
      · rintro rfl
        rfl
      · rintro rfl
        rw [← he]
    · have hbeq : (compare e.1 k == .eq) = false := by simp [he]
      have hne : (k, x) ≠ e := fun h => he (h ▸ rfl)
      rw [hbeq]
      simpa [hne] using ih hrest

/-- The values are what is found under some key. -/
lemma mem_values_iff {m : SortedMap κ ν} {x : ν} :
    x ∈ m.values ↔ ∃ k, m.get? k = some x := by
  rw [values, List.mem_map]
  constructor
  · rintro ⟨⟨k, y⟩, hmem, rfl⟩
    exact ⟨k, mem_entries_iff.mp hmem⟩
  · rintro ⟨k, hk⟩
    exact ⟨(k, x), mem_entries_iff.mpr hk, rfl⟩

/-- The keys are those under which something is found. -/
lemma mem_keys_iff {m : SortedMap κ ν} {k : κ} :
    k ∈ m.keys ↔ ∃ x, m.get? k = some x := by
  rw [keys, List.mem_map]
  constructor
  · rintro ⟨⟨l, x⟩, hmem, rfl⟩
    exact ⟨x, mem_entries_iff.mp hmem⟩
  · rintro ⟨x, hx⟩
    exact ⟨(k, x), mem_entries_iff.mpr hx, rfl⟩

/-- **Maps with the same look-ups are the same.** -/
lemma ext_get? {m n : SortedMap κ ν} [Std.TransOrd κ] (h : ∀ k, m.get? k = n.get? k) : m = n := by
  let below : κ × ν → κ × ν → Prop := fun a b => compare a.1 b.1 = .lt
  have : Std.Irrefl below := ⟨fun a ha => by simp [below] at ha⟩
  have : Std.Antisymm below := ⟨fun a b hab hba =>
    absurd (hab.symm.trans (Std.OrientedCmp.gt_of_lt hba)) (by decide)⟩
  apply ext
  refine m.ascending.eq_of_mem_iff (r := below) n.ascending ?_
  rintro ⟨k, x⟩
  rw [mem_entries_iff, mem_entries_iff, h]

/-! ### Operations -/

/-- A choice of values is found where the value found before is chosen. -/
lemma get?_filterValues {m : SortedMap κ ν} {p : ν → Bool} {k : κ} {x : ν} :
    (m.filterValues p).get? k = some x ↔ m.get? k = some x ∧ p x = true := by
  rw [← mem_entries_iff, ← mem_entries_iff, filterValues, List.mem_filter]

/-- Erasing a key that is not bound changes nothing. -/
lemma erase_of_get?_eq_none {m : SortedMap κ ν} {k : κ} (h : m.get? k = none) :
    m.erase k = m := by
  apply ext
  rw [erase, List.filter_eq_self]
  rintro ⟨l, x⟩ hmem
  rw [bne_iff_ne]
  intro hlk
  have hkey : l = k := Std.LawfulEqOrd.eq_of_compare hlk
  rw [mem_entries_iff, hkey, h] at hmem
  cases hmem

variable [Std.TransOrd κ]

/-- What is found after an erasure was found before, under another key than the erased one. -/
lemma get?_of_erase {m : SortedMap κ ν} {k l : κ} {x : ν}
    (h : (m.erase k).get? l = some x) : k ≠ l ∧ m.get? l = some x := by
  rw [get?_erase] at h
  split at h
  · cases h
  · next hkl => exact ⟨fun hk => hkl (by simp [hk]), h⟩

variable [DecidableEq κ]

/-- An insertion is found under its key, and nothing else changes. -/
lemma get?_insert (m : SortedMap κ ν) (k l : κ) (x : ν) :
    (m.insert k x).get? l = if k = l then some x else m.get? l := by
  by_cases h : k = l
  · subst h
    rw [get?_insert_self, if_pos rfl]
  · rw [get?_insert_of_ne m x (fun hkl => h (Std.LawfulEqOrd.eq_of_compare hkl)), if_neg h]

/-- Of two insertions under one key the second one counts. -/
lemma insert_insert (m : SortedMap κ ν) (k : κ) (x y : ν) :
    (m.insert k x).insert k y = m.insert k y := by
  refine ext_get? fun l => ?_
  rw [get?_insert, get?_insert, get?_insert]
  split <;> rfl

/-- What is found after an insertion is the insertion, or was found before under another key. -/
lemma get?_of_insert {m : SortedMap κ ν} {k l : κ} {x y : ν}
    (h : (m.insert k x).get? l = some y) : (k = l ∧ x = y) ∨ (k ≠ l ∧ m.get? l = some y) := by
  rw [get?_insert] at h
  split at h
  next hkl => exact Or.inl ⟨hkl, Option.some.inj h⟩
  next hkl => exact Or.inr ⟨hkl, h⟩

/-- Binds a key to an object, or leaves it without one. -/
def assign (m : SortedMap κ ν) (k : κ) : Option ν → SortedMap κ ν
  | some x => m.insert k x
  | none => m.erase k

/-- What is assigned is found under its key, and nothing else changes. -/
lemma get?_assign (m : SortedMap κ ν) (k l : κ) (o : Option ν) :
    (m.assign k o).get? l = if k = l then o else m.get? l := by
  cases o with
  | some x => exact get?_insert m k l x
  | none =>
    rw [assign, get?_erase]
    by_cases h : k = l
    · rw [if_pos (Std.LawfulEqCmp.compare_eq_iff_eq.mpr h), if_pos h]
    · rw [if_neg (fun hkl => h (Std.LawfulEqCmp.compare_eq_iff_eq.mp hkl)), if_neg h]

/-- Of the bindings of a key in a list, the last one is found. -/
lemma get?_ofList (es : List (κ × ν)) (k : κ) :
    (ofList es).get? k = ((es.filter (fun e => e.1 = k)).getLast?).map Prod.snd := by
  induction es using List.reverseRecOn with
  | nil => rfl
  | append_singleton es e ih =>
    have hstep : ofList (es ++ [e]) = (ofList es).insert e.1 e.2 := by
      simp [ofList]
    rw [hstep, get?_insert, List.filter_append]
    by_cases he : e.1 = k
    · simp [he]
    · simp [he, ih]

end SortedMap

end BareMetal
