import BareMetal.Json
import BareMetal.Proofs.Lookup

/-!
Merge patches: a value that says what to change in another one.

* `Json.table`: the members of an object as they are decoded, by their names, and `get?_table`: the
  last one of a name counts;
* `Json.merge`: what a patch makes of a value; objects are merged member by member, null takes
  a member away, and anything else takes the place of what was there;
* `table_setMember`: **to set a member is to bind its name**, whatever else there is.
-/

namespace BareMetal

namespace Json

/-! ### Members by name -/

/-- The members of an object in order of their names, each of them sorted. -/
def table (members : List (String × Json)) : SortedMap String Json :=
  SortedMap.ofList (sortedMembers members)

lemma sortedMembers_eq_map (members : List (String × Json)) :
    sortedMembers members = members.map (fun m => (m.1, m.2.sorted)) := by
  induction members with
  | nil => rfl
  | cons m rest ih => rw [sortedMembers, ih, List.map_cons]

/-- Under a name the table holds the last member with this name. -/
lemma get?_table (members : List (String × Json)) (name : String) :
    (table members).get? name = ((Json.obj members).member? name).map sorted := by
  rw [table, SortedMap.get?_ofList, sortedMembers_eq_map, member?, List.filter_map,
    List.getLast?_map, List.getLast?_eq_head?_reverse, ← List.filter_reverse,
    List.head?_filter, Option.map_map, Option.map_map]
  congr 1

/-! ### Patches -/

/-- The members of an object; nothing else has any. -/
def members : Json → List (String × Json)
  | .obj ms => ms
  | _ => []

/-- Whether a value is the absent one. -/
def isNull : Json → Bool
  | .null => true
  | _ => false

/-- The members without those of a name. -/
def dropMember (ms : List (String × Json)) (name : String) : List (String × Json) :=
  ms.filter (fun m => m.1 != name)

/-- The members with a value under a name, in the place of any other one. -/
def setMember (ms : List (String × Json)) (name : String) (v : Json) : List (String × Json) :=
  dropMember ms name ++ [(name, v)]

mutual

/-- What a patch makes of a value. -/
def merge (target : Json) : Json → Json
  | .obj patch => .obj (mergeMembers target.members patch)
  | v => v

/-- What the members of a patch, one after the other, make of those of an object. -/
def mergeMembers (ms : List (String × Json)) : List (String × Json) → List (String × Json)
  | [] => ms
  | (name, v) :: rest =>
    let merged := merge (((Json.obj ms).member? name).getD .null) v
    mergeMembers (if v.isNull then dropMember ms name else setMember ms name merged) rest

end

/-- **To set a member is to bind its name.** -/
lemma table_setMember (ms : List (String × Json)) (name : String) (v : Json) :
    table (setMember ms name v) = (table ms).insert name v.sorted := by
  apply SortedMap.ext_get?
  intro k
  rw [SortedMap.get?_insert, table, table, SortedMap.get?_ofList, SortedMap.get?_ofList]
  simp only [sortedMembers_eq_map, setMember, dropMember, List.map_append, List.filter_append,
    List.filter_map, List.filter_filter]
  by_cases hk : name = k
  · subst hk
    simp
  · have hkeep : ∀ m : String × Json, (decide (m.1 = k) && m.1 != name) = decide (m.1 = k) := by
      intro m
      by_cases hm : m.1 = k
      · simp [hm, Ne.symm hk]
      · simp [hm]
    simp [hk, hkeep]

/-- Under another name the same is found. -/
lemma member?_setMember_of_ne {ms : List (String × Json)} {name k : String} {v : Json}
    (h : name ≠ k) : (Json.obj (setMember ms name v)).member? k = (Json.obj ms).member? k := by
  have hkeep : ∀ m : String × Json, decide ((m.1 != name) = true ∧ (m.1 == k) = true) =
      (m.1 == k) := by
    intro m
    by_cases hm : m.1 = k
    · simp [hm, Ne.symm h]
    · simp [hm]
  simp only [member?, setMember, dropMember, List.reverse_append, List.reverse_singleton,
    List.singleton_append, List.find?_cons, beq_false_of_ne h, ← List.filter_reverse,
    List.find?_filter, hkeep]

end Json

end BareMetal
