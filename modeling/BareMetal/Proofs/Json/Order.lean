import BareMetal.Proofs.Decode.Record

/-!
Values up to the order of their members.

* `Json.induction`: what holds of a value if it holds of its parts holds of every value;
* `Json.sorted_sorted`: members in order stay as they are;
* `Json.Distinct`: no object in a value has two members with one name;
* `Json.Writes`: **one way to write a value**: each object has its members in some order, each name
  once, the last member of a name being the one that counts.
-/

namespace BareMetal

open Json (Document)

namespace Json

/-! ### Parts of values -/

/-- What holds of an array or an object if it holds of its parts holds of every value. -/
@[elab_as_elim]
lemma induction {P : Json → Prop} (null : P .null) (bool : ∀ b, P (.bool b))
    (num : ∀ n, P (.num n)) (str : ∀ s, P (.str s))
    (arr : ∀ items, (∀ v ∈ items, P v) → P (.arr items))
    (obj : ∀ members, (∀ m ∈ members, P m.2) → P (.obj members)) (v : Json) : P v := by
  -- the recursor has cases for lists of values, for lists of members and for single members too
  refine Json.rec (motive_1 := P) (motive_2 := fun vs => ∀ v ∈ vs, P v)
    (motive_3 := fun ms => ∀ m ∈ ms, P m.2) (motive_4 := fun m => P m.2)
    null bool num str arr obj ?_ ?_ ?_ ?_ ?_ v
  · exact fun v hv => nomatch hv
  · exact fun v vs hv hvs => List.forall_mem_cons.mpr ⟨hv, hvs⟩
  · exact fun m hm => nomatch hm
  · exact fun m ms hm hms => List.forall_mem_cons.mpr ⟨hm, hms⟩
  · exact fun k v hv => hv

lemma sortedItems_eq_map (vs : List Json) : sortedItems vs = vs.map sorted := by
  induction vs with
  | nil => rfl
  | cons v vs ih => rw [sortedItems, ih, List.map_cons]

lemma sorted_arr (vs : List Json) : (Json.arr vs).sorted = .arr (vs.map sorted) := by
  rw [sorted, sortedItems_eq_map]

lemma sorted_obj (ms : List (String × Json)) : (Json.obj ms).sorted = .obj (table ms).entries := by
  rw [sorted, table]

/-- Objects in which the same is found under each name have the same table. -/
lemma table_congr {ms ns : List (String × Json)}
    (h : ∀ k, ((obj ms).member? k).map sorted = ((obj ns).member? k).map sorted) :
    table ms = table ns := by
  apply SortedMap.ext_get?
  intro k
  rw [get?_table, get?_table, h]

/-- **Members in order stay as they are.** -/
lemma sorted_sorted (v : Json) : v.sorted.sorted = v.sorted := by
  induction v using Json.induction with
  | arr items ih =>
    rw [sorted_arr, sorted_arr, List.map_map]
    exact congrArg Json.arr (List.map_congr_left ih)
  | obj members ih =>
    rw [sorted_obj, sorted_obj]
    refine congrArg (Json.obj ·.entries) (table_congr fun k => ?_)
    rw [member?_table, Option.map_map]
    refine Option.map_congr fun v hv => ?_
    exact ih _ (mem_of_member? hv)
  | _ => rfl

/-! ### Values without repeated names -/

/-- **Distinct**: no object in the value has two members with one name. -/
inductive Distinct : Json → Prop
  /-- The absent value has no members. -/
  | null : Distinct .null
  /-- Nor has a truth value. -/
  | bool (b : Bool) : Distinct (.bool b)
  /-- Nor has a number. -/
  | num (n : Json.Number) : Distinct (.num n)
  /-- Nor has a string. -/
  | str (s : String) : Distinct (.str s)
  /-- An array with such items. -/
  | arr {items : List Json} (h : ∀ v ∈ items, Distinct v) : Distinct (.arr items)
  /-- An object with such members, no two of which have one name. -/
  | obj {members : List (String × Json)} (hnodup : (members.map Prod.fst).Nodup)
      (h : ∀ m ∈ members, Distinct m.2) : Distinct (.obj members)

variable {v w : Json} {vs : List Json} {ms : List (String × Json)} {k : String}

lemma Distinct.of_mem_arr (h : Distinct (.arr vs)) (hv : v ∈ vs) : Distinct v := by
  cases h with
  | arr h => exact h v hv

lemma Distinct.nodup (h : Distinct (.obj ms)) : (ms.map Prod.fst).Nodup := by
  cases h with
  | obj hnodup _ => exact hnodup

/-- What is found under a name is such a value. -/
lemma Distinct.of_member? (h : Distinct (.obj ms)) (hv : (Json.obj ms).member? k = some v) :
    Distinct v := by
  cases h with
  | obj _ h => exact h _ (mem_of_member? hv)

/-- A value whose members are in order is such a value. -/
lemma distinct_sorted (v : Json) : v.sorted.Distinct := by
  induction v using Json.induction with
  | null => exact .null
  | bool b => exact .bool b
  | num n => exact .num n
  | str s => exact .str s
  | arr items ih =>
    rw [sorted_arr]
    refine .arr fun v hv => ?_
    obtain ⟨w, hw, rfl⟩ := List.mem_map.mp hv
    exact ih w hw
  | obj members ih =>
    rw [sorted_obj]
    refine .obj (table members).keys_nodup fun m hm => ?_
    obtain ⟨k, v⟩ := m
    rw [SortedMap.mem_entries_iff, get?_table] at hm
    obtain ⟨w, hw, rfl⟩ := Option.map_eq_some_iff.mp hm
    exact ih _ (mem_of_member? hw)

/-! ### Ways to write a value -/

/-- **Writes**: one way to write a value: no name is repeated in an object, and the members of each
are those that count, in any order. -/
def Writes (w v : Json) : Prop := w.Distinct ∧ w.sorted = v.sorted

/-- To write its members in order is a way to write a value. -/
lemma writes_sorted (v : Json) : v.sorted.Writes v := ⟨distinct_sorted v, sorted_sorted v⟩

end Json

end BareMetal
