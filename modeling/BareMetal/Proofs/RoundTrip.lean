import BareMetal.Proofs.Decode.Order
import BareMetal.Proofs.Json.Printed

/-!
What is printed can be read back.

* `Reads`, `Slot.settles_cons`: a field whose printed value is decoded to what it was;
* `fillObject_ofFields`: **an object that is printed field by field is decoded field by field**;
* `decode_toJson` and `numberless_toJson` beside each type: its JSON form is decoded to the value,
  and has no numbers in it;
* `ObjectMeta.Plain`: metadata that set nothing but strings, maps of strings and lists of strings;
* `Decode.Faithful`: what it means for a printer and a decoder to be inverse; `Decode.faithful`:
  **those of machines, of classes and of all their parts are**.
-/

namespace BareMetal

open Json (Document)

variable {σ α β : Type}

namespace Json

/-! ### Printed fields -/

/-- The value of a field. -/
def fieldAt : List (String × Option Json) → String → Option Json
  | [], _ => none
  | (l, o) :: fields, k => if l = k then o else fieldAt fields k

variable {fields : List (String × Option Json)} {k : String}

lemma fieldAt_eq_none (h : k ∉ fields.map Prod.fst) : fieldAt fields k = none := by
  induction fields with
  | nil => rfl
  | cons f fields ih =>
    obtain ⟨hne, h⟩ : k ≠ f.1 ∧ k ∉ fields.map Prod.fst := by simpa using h
    rw [fieldAt, if_neg (Ne.symm hne), ih h]

/-- The members for the fields that have a value. -/
def present (fields : List (String × Option Json)) : List (String × Json) :=
  fields.filterMap (fun f => f.2.map (fun v => (f.1, v)))

@[simp]
lemma present_cons_none : present ((k, none) :: fields) = present fields := rfl

@[simp]
lemma present_cons_some {v : Json} : present ((k, some v) :: fields) = (k, v) :: present fields :=
  rfl

/-- Under the name of a field there is its value. -/
lemma member?_present (hnodup : (fields.map Prod.fst).Nodup) :
    (Json.obj (present fields)).member? k = fieldAt fields k := by
  induction fields with
  | nil => rfl
  | cons f fields ih =>
    obtain ⟨l, o⟩ := f
    obtain ⟨hl, hrest⟩ : l ∉ fields.map Prod.fst ∧ _ := List.nodup_cons.mp hnodup
    rw [fieldAt]
    cases o with
    | none =>
      rw [present_cons_none, ih hrest]
      split
      next hlk => exact fieldAt_eq_none (hlk ▸ hl)
      next => rfl
    | some v =>
      rw [present_cons_some, member?_cons, ih hrest]
      split
      next hlk => rw [fieldAt_eq_none (hlk ▸ hl), Option.none_or]
      next => rw [Option.or_none]

/-- No name is repeated in what is printed for fields with different names. -/
lemma nodup_present (hnodup : (fields.map Prod.fst).Nodup) :
    ((present fields).map Prod.fst).Nodup := by
  refine hnodup.sublist ?_
  induction fields with
  | nil => exact .slnil
  | cons f fields ih =>
    obtain ⟨l, o⟩ := f
    obtain ⟨-, hrest⟩ := List.nodup_cons.mp hnodup
    cases o with
    | none => exact (ih hrest).cons l
    | some v => exact (ih hrest).cons_cons l

lemma numberless_arr {toJson : α → Json} (h : ∀ a, (toJson a).Numberless) (xs : List α) :
    (Json.arr (xs.map toJson)).Numberless :=
  .arr (List.forall_mem_map.mpr fun a _ => h a)

lemma numberless_ofStringMap (m : SortedMap String String) : (Json.ofStringMap m).Numberless :=
  .obj (List.forall_mem_map.mpr fun _ _ => .str _)

/-- What is printed for fields without numbers has none. -/
lemma numberless_ofFields (h : ∀ f ∈ fields, ∀ v, f.2 = some v → v.Numberless) :
    (Json.ofFields fields).Numberless := by
  refine .obj fun m hm => ?_
  obtain ⟨f, hf, hm⟩ := List.mem_filterMap.mp hm
  obtain ⟨v, hv, rfl⟩ := Option.map_eq_some_iff.mp hm
  exact h f hf v hv

end Json

namespace Decode

open Slot

variable {dec : Decoder α} {origin : Origin} {fields : List (String × Option Json)}
  {slots : List (Slot σ)} {start x y : σ} {name : String}

/-! ### Fields that are read back -/

/-- **Reads**: a field that holds one value where it is absent holds another one after it was
decoded. -/
def Reads (dec : Decoder α) (origin : Origin) (absent : α) : Option Json → α → Prop
  | none, a => a = absent
  | some v, a => dec origin (.ofJson v) = .ok a

/-- A field that is read back is set to what it was. -/
lemma Slot.settles_cons {look : String → Option Json} {set : α → σ → σ} {n : String} {c q : Bool}
    {absent a : α} (habsent : set absent x = x) (hreads : Reads dec origin absent (look n) a)
    (hrest : Settles origin look slots (set a x) y) :
    Settles origin look (⟨n, fun origin d => set <$> dec origin d, c, q⟩ :: slots) x y := by
  rw [Settles]
  cases hv : look n with
  | none =>
    rw [hv] at hreads
    cases hreads
    exact ⟨id, rfl, by rwa [habsent] at hrest⟩
  | some v =>
    rw [hv] at hreads
    exact ⟨set a, map_eq_ok_iff.mpr ⟨a, hreads, rfl⟩, hrest⟩

/-- So is a field that is always there. -/
lemma Slot.settles_cons_some {look : String → Option Json} {set : α → σ → σ} {n : String}
    {c q : Bool} {v : Json} {a : α} (hlook : look n = some v) (ha : dec origin (.ofJson v) = .ok a)
    (hrest : Settles origin look slots (set a x) y) :
    Settles origin look (⟨n, fun origin d => set <$> dec origin d, c, q⟩ :: slots) x y := by
  rw [Settles, hlook]
  exact ⟨set a, map_eq_ok_iff.mpr ⟨a, ha, rfl⟩, hrest⟩

/-- A part that may be absent is read back if it is when it is there. -/
lemma Reads.optional {toJson : α → Json} (hne : ∀ a, toJson a ≠ .null)
    (h : ∀ a, dec origin (.ofJson (toJson a)) = .ok a) (o : Option α) :
    Reads (optional dec) origin none (o.map toJson) o := by
  cases o with
  | none => rfl
  | some a =>
    rw [Option.map_some, Reads, optional_eq_map (hne a)]
    exact map_eq_ok_iff.mpr ⟨a, h a, rfl⟩

/-- A string that may be absent is read back. -/
lemma Reads.text (o : Option String) : Reads (Decode.optional string) origin none (o.map .str) o :=
  .optional (by simp) (fun _ => rfl) o

/-- An object that may be absent is read back if it is when it is there. -/
lemma Reads.object {toJson : α → Json} {members : α → List (String × Json)}
    (hobj : ∀ a, toJson a = .obj (members a))
    (h : ∀ a, dec origin (.ofJson (toJson a)) = .ok a) (o : Option α) :
    Reads (Decode.optional dec) origin none (o.map toJson) o :=
  .optional (by simp [hobj]) h o

/-- A part that is absent is read back whatever would be printed for it. -/
lemma Reads.absent {toJson : α → Json} {o : Option α} (h : o = none) :
    Reads (Decode.optional dec) origin none (o.map toJson) o := by
  rw [h]
  rfl

/-- A list is read back if its items are. -/
lemma list_toJson {toJson : α → Json} (h : ∀ origin a, dec origin (.ofJson (toJson a)) = .ok a)
    (origin : Origin) (xs : List α) :
    list dec origin (.ofJson (.arr (xs.map toJson))) = .ok xs := by
  rw [list_arr_eq_ok_iff, List.forall₂_map_left_iff, List.forall₂_same]
  exact fun x _ => h _ x

/-- So is one that is printed only if it has items. -/
lemma Reads.nonEmpty {toJson : α → Json} (h : ∀ origin a, dec origin (.ofJson (toJson a)) = .ok a)
    (xs : List α) : Reads (list dec) origin [] (Qualifiers.nonEmpty toJson xs) xs := by
  cases xs with
  | nil => rfl
  | cons x xs => exact list_toJson h origin (x :: xs)

/-- A map of strings is read back. -/
lemma stringMap_ofStringMap (origin : Origin) (m : SortedMap String String) :
    stringMap origin (.ofJson (Json.ofStringMap m)) = .ok m := by
  refine (stringMap_obj_eq_ok_iff (m.mapValues Json.str).keys_nodup).mpr fun k => ?_
  rw [Json.member?_entries, SortedMap.get?_mapValues]

/-- **An object that is printed field by field is decoded field by field.** -/
lemma fillObject_ofFields (hind : Independent slots) (hnodup : (fields.map Prod.fst).Nodup)
    {once : Bool} (hneeded : ∀ slot ∈ slots, slot.required = true →
      (Json.fieldAt fields slot.name).isSome = true)
    (h : Settles origin.inner (Json.fieldAt fields) slots start y) :
    fillObject slots once ignored origin (Document.ofMembers (Json.present fields)) none start =
      .ok y := by
  have hlook : (Json.obj (Json.present fields)).member? = Json.fieldAt fields :=
    funext fun k => Json.member?_present hnodup
  rw [fillObject_iff_settles hind (Json.nodup_present hnodup), hlook]
  exact ⟨h, hneeded⟩

end Decode

/-! ### The parts of machines and classes -/

open Decode Decode.Slot Json

namespace CpuInformation

lemma decode_toJson (origin : Origin) (c : CpuInformation) :
    decode origin (.ofJson c.toJson) = .ok c := by
  refine fillObject_ofFields independent (by simp) (by simp [slots, Slot.optional]) ?_
  refine settles_cons rfl (.text c.manufacturer) ?_
  exact settles_cons rfl (.text c.version) rfl

lemma numberless_toJson (c : CpuInformation) : c.toJson.Numberless :=
  Json.numberless_ofFields (by simp [Json.Numberless.str])

end CpuInformation

namespace SystemInformation

lemma decode_toJson (origin : Origin) (i : SystemInformation) :
    decode origin (.ofJson i.toJson) = .ok i := by
  refine fillObject_ofFields independent (by simp) (by simp [slots, Slot.optional]) ?_
  refine settles_cons rfl (.text i.manufacturer) ?_
  refine settles_cons rfl (.text i.productName) ?_
  refine settles_cons rfl (.text i.version) ?_
  refine settles_cons rfl (.text i.serialNumber) ?_
  refine settles_cons rfl (.text i.skuNumber) ?_
  exact settles_cons rfl (.text i.family) rfl

lemma numberless_toJson (i : SystemInformation) : i.toJson.Numberless :=
  Json.numberless_ofFields (by simp [Json.Numberless.str])

end SystemInformation

namespace MachineSpec

lemma decode_toJson (origin : Origin) (s : MachineSpec) :
    decode origin (.ofJson s.toJson) = .ok s := by
  refine fillObject_ofFields independent (by simp) (by simp [slots, Slot.optional]) ?_
  refine settles_cons_some rfl rfl ?_
  refine settles_cons rfl (.object (fun _ => rfl) (CpuInformation.decode_toJson _) s.cpu) ?_
  exact settles_cons rfl
    (.object (fun _ => rfl) (SystemInformation.decode_toJson _) s.systemInformation) rfl

lemma numberless_toJson (s : MachineSpec) : s.toJson.Numberless :=
  Json.numberless_ofFields (by
    simp [Json.Numberless.bool, CpuInformation.numberless_toJson,
      SystemInformation.numberless_toJson])

end MachineSpec

namespace MachineStatus

lemma decode_toJson (origin : Origin) (s : MachineStatus) :
    decode origin (.ofJson s.toJson) = .ok s := by
  refine fillObject_ofFields independent (by simp) (by simp [slots, Slot.optional]) ?_
  exact settles_cons_some rfl rfl rfl

lemma numberless_toJson (s : MachineStatus) : s.toJson.Numberless :=
  Json.numberless_ofFields (by simp [Json.Numberless.bool])

end MachineStatus

namespace Qualifiers

lemma decode_toJson (origin : Origin) (q : Qualifiers) :
    decode origin (.ofJson q.toJson) = .ok q := by
  refine fillObject_ofFields independent (by simp) (by simp [slots, Slot.optional]) ?_
  refine settles_cons rfl (.nonEmpty CpuInformation.decode_toJson q.cpu) ?_
  refine settles_cons rfl (.nonEmpty SystemInformation.decode_toJson q.systemInformation) ?_
  exact settles_cons rfl (.nonEmpty stringMap_ofStringMap q.labelSelectors) rfl

lemma numberless_toJson (q : Qualifiers) : q.toJson.Numberless :=
  Json.numberless_ofFields (by
    simp [nonEmpty, numberless_arr CpuInformation.numberless_toJson,
      numberless_arr SystemInformation.numberless_toJson, numberless_arr numberless_ofStringMap])

end Qualifiers

namespace MachineClassSpec

lemma decode_toJson (origin : Origin) (s : MachineClassSpec) :
    decode origin (.ofJson s.toJson) = .ok s := by
  refine fillObject_ofFields independent (by simp) (by simp [slots, Slot.optional]) ?_
  exact settles_cons_some rfl (Qualifiers.decode_toJson _ s.qualifiers) rfl

lemma numberless_toJson (s : MachineClassSpec) : s.toJson.Numberless :=
  Json.numberless_ofFields (by simp [Qualifiers.numberless_toJson])

end MachineClassSpec

namespace MachineClassStatus

lemma decode_toJson (origin : Origin) (s : MachineClassStatus) :
    decode origin (.ofJson s.toJson) = .ok s := by
  have hlist : ∀ ss : List String,
      list string origin.inner (.ofJson (Json.ofStrings ss)) = .ok ss :=
    list_toJson (fun _ _ => rfl) _
  refine fillObject_ofFields independent (by simp) (by simp [slots, Slot.optional]) ?_
  refine settles_cons_some rfl (hlist s.machinesAvailable) ?_
  exact settles_cons_some rfl (hlist s.machinesInUse) rfl

lemma numberless_toJson (s : MachineClassStatus) : s.toJson.Numberless :=
  Json.numberless_ofFields (by simp [Json.ofStrings, numberless_arr Json.Numberless.str])

end MachineClassStatus

/-! ### Metadata and whole objects -/

/-- **Plain**: metadata that set nothing but strings, maps of strings and lists of strings. -/
structure ObjectMeta.Plain (m : ObjectMeta) : Prop where
  creationTimestamp : m.creationTimestamp = none
  deletionGracePeriodSeconds : m.deletionGracePeriodSeconds = none
  deletionTimestamp : m.deletionTimestamp = none
  generation : m.generation = none
  managedFields : m.managedFields = none
  ownerReferences : m.ownerReferences = none

namespace ObjectMeta

lemma Plain.decode_toJson {m : ObjectMeta} (hm : m.Plain) (origin : Origin) :
    decode origin (.ofJson m.toJson) = .ok m := by
  refine fillObject_ofFields independent (by simp) (by simp [slots, Slot.optional]) ?_
  refine settles_cons rfl (.object (fun _ => rfl) (stringMap_ofStringMap _) m.annotations) ?_
  refine settles_cons rfl (.absent hm.creationTimestamp) ?_
  refine settles_cons rfl (.absent hm.deletionGracePeriodSeconds) ?_
  refine settles_cons rfl (.absent hm.deletionTimestamp) ?_
  refine settles_cons rfl (.optional (by simp) (list_toJson (fun _ _ => rfl) _) m.finalizers) ?_
  refine settles_cons rfl (.text m.generateName) ?_
  refine settles_cons rfl (.absent hm.generation) ?_
  refine settles_cons rfl (.object (fun _ => rfl) (stringMap_ofStringMap _) m.labels) ?_
  refine settles_cons rfl (.absent hm.managedFields) ?_
  refine settles_cons rfl (.text m.name) ?_
  refine settles_cons rfl (.text m.scope) ?_
  refine settles_cons rfl (.absent hm.ownerReferences) ?_
  refine settles_cons rfl (.text m.resourceVersion) ?_
  refine settles_cons rfl (.text m.selfLink) ?_
  exact settles_cons rfl (.text m.uid) rfl

lemma Plain.numberless_toJson {m : ObjectMeta} (hm : m.Plain) : m.toJson.Numberless :=
  Json.numberless_ofFields (by
    simp [hm.creationTimestamp, hm.deletionGracePeriodSeconds, hm.deletionTimestamp, hm.generation,
      hm.managedFields, hm.ownerReferences, Json.Numberless.str, numberless_ofStringMap,
      Json.ofStrings, numberless_arr Json.Numberless.str])

end ObjectMeta

namespace Machine

lemma decode_toJson {m : Machine} (hm : m.metadata.Plain) (origin : Origin) :
    decode origin (.ofJson m.toJson) = .ok m := by
  refine fillObject_ofFields independent (by simp)
    (by simp [slots, Slot.mandatory, Slot.positional, fieldAt]) ?_
  refine settles_cons_some rfl (hm.decode_toJson _) ?_
  refine settles_cons_some rfl (MachineSpec.decode_toJson _ m.spec) ?_
  exact settles_cons rfl (.object (fun _ => rfl) (MachineStatus.decode_toJson _) m.status) rfl

lemma numberless_toJson {m : Machine} (hm : m.metadata.Plain) : m.toJson.Numberless :=
  Json.numberless_ofFields (by
    simp [Json.Numberless.str, hm.numberless_toJson, MachineSpec.numberless_toJson,
      MachineStatus.numberless_toJson])

end Machine

namespace MachineClass

lemma decode_toJson {c : MachineClass} (hc : c.metadata.Plain) (origin : Origin) :
    decode origin (.ofJson c.toJson) = .ok c := by
  refine fillObject_ofFields independent (by simp)
    (by simp [slots, Slot.mandatory, Slot.positional, fieldAt]) ?_
  refine settles_cons_some rfl (hc.decode_toJson _) ?_
  refine settles_cons_some rfl (MachineClassSpec.decode_toJson _ c.spec) ?_
  exact settles_cons rfl (.object (fun _ => rfl) (MachineClassStatus.decode_toJson _) c.status) rfl

lemma numberless_toJson {c : MachineClass} (hc : c.metadata.Plain) : c.toJson.Numberless :=
  Json.numberless_ofFields (by
    simp [Json.Numberless.str, hc.numberless_toJson, MachineClassSpec.numberless_toJson,
      MachineClassStatus.numberless_toJson])

end MachineClass

/-! ### Printing and reading -/

namespace Decode

/-- What is printed for what is read from a text. -/
def reprint (dec : Decoder α) (toJson : α → Json) (text : String) : Except Problem String :=
  (fun x => (toJson x).text) <$> ofText dec text

/-- **Faithful**: a printer and a decoder are inverse on the values of a kind. -/
structure Faithful (dec : Decoder α) (toJson : α → Json) (kind : α → Prop) : Prop where
  /-- What is printed is read back. -/
  read_print : ∀ x, kind x → ofText dec (toJson x).text = .ok x
  /-- What is read from any text is read from what is printed for it. -/
  reread : ∀ text x, ofText dec text = .ok x → kind x → ofText dec (toJson x).text = .ok x
  /-- To read and to print a second time changes nothing. -/
  reprint_reprint : ∀ text x, ofText dec text = .ok x → kind x →
    ∀ printed, reprint dec toJson text = .ok printed → reprint dec toJson printed = .ok printed
  /-- Different values are printed differently. -/
  print_injective : ∀ x y, kind x → kind y → (toJson x).text = (toJson y).text → x = y

/-- A printer and a decoder are inverse if they are on values, and no number is printed. -/
lemma Faithful.of_json {dec : Decoder α} {toJson : α → Json} {kind : α → Prop}
    (hdecode : ∀ x, kind x → ∀ origin, dec origin (.ofJson (toJson x)) = .ok x)
    (hnumberless : ∀ x, kind x → (toJson x).Numberless) : Faithful dec toJson kind := by
  have hread : ∀ x, kind x → ofText dec (toJson x).text = .ok x := by
    intro x hx
    rw [ofText, (hnumberless x hx).read_text]
    exact bind_eq_ok_iff.mpr ⟨x, hdecode x hx _, rfl⟩
  refine ⟨hread, fun _ x _ hx => hread x hx, ?_, ?_⟩
  · intro text x htext hx printed hprinted
    obtain ⟨x', hx', rfl⟩ := map_eq_ok_iff.mp hprinted
    cases htext.symm.trans hx'
    exact map_eq_ok_iff.mpr ⟨x, hread x hx, rfl⟩
  · intro x y hx hy htext
    have hy' := hread y hy
    rw [← htext, hread x hx] at hy'
    exact Except.ok.inj hy'

/-- **Printing and reading are inverse** for each part of a machine and of a class, and for the
machines and classes whose metadata set nothing but strings, maps of strings and lists of
strings. -/
theorem faithful :
    Faithful MachineSpec.decode MachineSpec.toJson (fun _ => True) ∧
      Faithful MachineStatus.decode MachineStatus.toJson (fun _ => True) ∧
      Faithful CpuInformation.decode CpuInformation.toJson (fun _ => True) ∧
      Faithful SystemInformation.decode SystemInformation.toJson (fun _ => True) ∧
      Faithful Qualifiers.decode Qualifiers.toJson (fun _ => True) ∧
      Faithful MachineClassSpec.decode MachineClassSpec.toJson (fun _ => True) ∧
      Faithful MachineClassStatus.decode MachineClassStatus.toJson (fun _ => True) ∧
      Faithful Machine.decode Machine.toJson (fun m => m.metadata.Plain) ∧
      Faithful MachineClass.decode MachineClass.toJson (fun c => c.metadata.Plain) := by
  refine ⟨?_, ?_, ?_, ?_, ?_, ?_, ?_, ?_, ?_⟩
  · exact .of_json (fun s _ origin => s.decode_toJson origin) fun s _ => s.numberless_toJson
  · exact .of_json (fun s _ origin => s.decode_toJson origin) fun s _ => s.numberless_toJson
  · exact .of_json (fun c _ origin => c.decode_toJson origin) fun c _ => c.numberless_toJson
  · exact .of_json (fun i _ origin => i.decode_toJson origin) fun i _ => i.numberless_toJson
  · exact .of_json (fun q _ origin => q.decode_toJson origin) fun q _ => q.numberless_toJson
  · exact .of_json (fun s _ origin => s.decode_toJson origin) fun s _ => s.numberless_toJson
  · exact .of_json (fun s _ origin => s.decode_toJson origin) fun s _ => s.numberless_toJson
  · exact .of_json (fun _ hm => Machine.decode_toJson hm) fun _ hm => Machine.numberless_toJson hm
  · exact .of_json (fun _ hc => MachineClass.decode_toJson hc)
      fun _ hc => MachineClass.numberless_toJson hc

/-- A machine with a quote, a line end and a character beyond the basic plane in its descriptors. -/
def oddlyNamed : Machine where
  metadata := { name := some "m1", labels := some .empty }
  spec := { cpu := some { manufacturer := some "A\"B\n", version := some "𝄞" } }

/-- It is read back from its text. So are qualifiers whose only selector is empty, which are not
printed as those without any. -/
theorem faithful_oddlyNamed : oddlyNamed.metadata.Plain ∧
    ofText Machine.decode oddlyNamed.toJson.text = .ok oddlyNamed ∧
    ofText Qualifiers.decode ({ labelSelectors := [.empty] } : Qualifiers).toJson.text =
      .ok { labelSelectors := [.empty] } ∧
    ({ labelSelectors := [.empty] } : Qualifiers).toJson.text ≠ ({} : Qualifiers).toJson.text := by
  have hplain : oddlyNamed.metadata.Plain := ⟨rfl, rfl, rfl, rfl, rfl, rfl⟩
  obtain ⟨-, -, -, -, hqualifiers, -, -, hmachine, -⟩ := faithful
  refine ⟨hplain, hmachine.read_print _ hplain, hqualifiers.read_print _ trivial, fun htext => ?_⟩
  exact absurd (hqualifiers.print_injective _ _ trivial trivial htext) (by decide)

end Decode

end BareMetal
