import BareMetal.Proofs.Manifest.Schema
import BareMetal.Proofs.Decode.Order

/-!
The published schemas and the decoders agree.

* `Schema.Kept`: a value that is decoded, and to the same with its defaults and without what is not
  named; `Schema.Fits`, `Schema.Agrees`: all values of a schema are;
* `Slot.Backed`: a field for which a schema has a property with which it agrees;
* `Fits.record`: **a record agrees with a schema if each of its fields does**; the parts of machines
  and classes follow one by one;
* `Schema.Conforms`: what it means for a schema of whole objects to agree with the decoder and the
  printer of the objects; `Definition.conforms`: **those of machines and of classes do**.
-/

namespace BareMetal

open Json (Document)
open Decode

variable {σ α β : Type} {origin : Origin} {v w : Json} {vs : List Json} {ms : List (String × Json)}

namespace Schema

variable {s : Schema} {r : Remarks} {dec : Decoder α} {x : α}

/-! ### Agreement -/

/-- **Kept**: a value is decoded, and to the same with its defaults and without the members that are
not named. -/
structure Kept (s : Schema) (dec : Decoder α) (origin : Origin) (v : Json) (x : α) : Prop where
  plain : dec origin (.ofJson v.sorted) = .ok x
  fill : dec origin (.ofJson (s.fill v).sorted) = .ok x
  prune : dec origin (.ofJson (s.prune v).sorted) = .ok x

/-- **Fits**: whatever has the shape is decoded and kept. -/
def Fits (s : Schema) (dec : Decoder α) : Prop :=
  ∀ origin v, s.hasShape v = true → ∃ x, s.Kept dec origin v x

/-- **Agrees**: so is whatever is admitted. -/
def Agrees (s : Schema) (dec : Decoder α) : Prop :=
  ∀ origin v, s.admits v = true → ∃ x, s.Kept dec origin v x

/-- Where null is not admitted there is nothing but the shape. -/
lemma Fits.agrees (h : s.Fits dec) (hnull : s.remarks.nullable = false) : s.Agrees dec := by
  intro origin v hv
  rcases admits_iff.mp hv with ⟨hnullable, -⟩ | hshape
  · rw [hnull] at hnullable
    cases hnullable
  · exact h origin v hshape

/-- What is kept is kept when it is changed afterwards. -/
lemma Kept.map (h : s.Kept dec origin v x) (f : α → β) :
    s.Kept (fun origin d => f <$> dec origin d) origin v (f x) :=
  ⟨map_eq_ok_iff.mpr ⟨x, h.plain, rfl⟩, map_eq_ok_iff.mpr ⟨x, h.fill, rfl⟩,
    map_eq_ok_iff.mpr ⟨x, h.prune, rfl⟩⟩

lemma Agrees.map (h : s.Agrees dec) (f : α → β) :
    s.Agrees (fun origin d => f <$> dec origin d) := by
  intro origin v hv
  obtain ⟨x, hx⟩ := h origin v hv
  exact ⟨f x, hx.map f⟩

lemma sorted_ne_null (hv : v ≠ .null) : v.sorted ≠ .null := by
  cases v with
  | null => exact absurd rfl hv
  | _ => nofun

lemma fill_ne_null (hv : v ≠ .null) : s.fill v ≠ .null := by
  cases v with
  | null => exact absurd rfl hv
  | _ => cases s <;> nofun

lemma prune_ne_null (hv : v ≠ .null) : s.prune v ≠ .null := by
  cases v with
  | null => exact absurd rfl hv
  | _ => cases s <;> nofun

/-- **A value that may be absent may be null.** -/
lemma Fits.optional (h : s.Fits dec) : s.Agrees (Decode.optional dec) := by
  intro origin v hv
  rcases admits_iff.mp hv with ⟨-, rfl⟩ | hshape
  · refine ⟨none, rfl, ?_, ?_⟩
    · rw [fill_null]
      rfl
    · rw [prune_null]
      rfl
  · have hv : v ≠ .null := by
      rintro rfl
      cases s <;> cases hshape
    obtain ⟨x, hx⟩ := h origin v hshape
    have hsome := hx.map some
    refine ⟨some x, ?_, ?_, ?_⟩
    · rw [optional_eq_map (sorted_ne_null hv)]
      exact hsome.plain
    · rw [optional_eq_map (sorted_ne_null (fill_ne_null hv))]
      exact hsome.fill
    · rw [optional_eq_map (sorted_ne_null (prune_ne_null hv))]
      exact hsome.prune

/-! ### Values with one kind of parts -/

lemma Fits.bool : (flag r).Fits Decode.bool := by
  intro origin v hv
  cases v with
  | bool b => exact ⟨b, rfl, rfl, rfl⟩
  | _ => cases hv

lemma Fits.string : (text r).Fits Decode.string := by
  intro origin v hv
  cases v with
  | str t => exact ⟨t, rfl, rfl, rfl⟩
  | _ => cases hv

/-- A list agrees with the schema of arrays if its items do. -/
lemma Fits.list (h : s.Agrees dec) : (list r s).Fits (Decode.list dec) := by
  intro origin v hv
  cases v with
  | arr vs =>
    have hitems : ∃ xs, List.Forall₂ (s.Kept dec origin.inner) vs xs := by
      have hall := hasShape_list.mp hv
      clear hv
      induction vs with
      | nil => exact ⟨[], .nil⟩
      | cons v vs ih =>
        obtain ⟨hv, hvs⟩ := List.forall_mem_cons.mp hall
        obtain ⟨x, hx⟩ := h origin.inner v hv
        obtain ⟨xs, hxs⟩ := ih hvs
        exact ⟨x :: xs, .cons hx hxs⟩
    obtain ⟨xs, hxs⟩ := hitems
    refine ⟨xs, ?_, ?_, ?_⟩
    · rw [Json.sorted_arr, list_arr_eq_ok_iff, List.forall₂_map_left_iff]
      exact hxs.imp fun _ _ hx => hx.plain
    · rw [Schema.fill, Json.sorted_arr, list_arr_eq_ok_iff, List.map_map, List.forall₂_map_left_iff]
      exact hxs.imp fun _ _ hx => hx.fill
    · rw [Schema.prune, Json.sorted_arr, list_arr_eq_ok_iff, List.map_map,
        List.forall₂_map_left_iff]
      exact hxs.imp fun _ _ hx => hx.prune
  | _ => cases hv

/-- A map agrees with the schema of objects with strings in them. -/
lemma Fits.stringMap {t : Remarks} (ht : t.nullable = false) :
    (dictionary r (text t)).Fits Decode.stringMap := by
  intro origin v hv
  cases v with
  | obj ms =>
    have hstrings : ∀ k v, (Json.obj ms).member? k = some v → ∃ s, v = .str s := by
      intro k v hk
      rcases admits_iff.mp (hasShape_dictionary.mp hv k v hk) with ⟨hnull, -⟩ | hshape
      · exact absurd hnull (by simp [remarks, ht])
      · cases v with
        | str s => exact ⟨s, rfl⟩
        | _ => cases hshape
    let m := (Json.table ms).mapValues (fun v => v.string?.getD "")
    have hplain : Decode.stringMap origin (.ofJson (Json.obj ms).sorted) = .ok m := by
      rw [Json.sorted_obj, stringMap_obj_eq_ok_iff (Json.table ms).keys_nodup]
      intro k
      rw [Json.member?_table, SortedMap.get?_mapValues, Json.get?_table]
      cases hk : (Json.obj ms).member? k with
      | none => rfl
      | some v =>
        obtain ⟨s, rfl⟩ := hstrings k v hk
        rfl
    -- strings are neither filled nor pruned
    have hfill : (text t).fill = id := funext fun v => by cases v <;> rfl
    have hprune : (text t).prune = id := funext fun v => by cases v <;> rfl
    refine ⟨m, hplain, ?_, ?_⟩
    · rw [Schema.fill, hfill]
      simpa using hplain
    · rw [Schema.prune, hprune]
      simpa using hplain
  | _ => cases hv

end Schema

/-! ### Objects with known fields -/

namespace Decode.Slot

open Schema

variable {props : List (String × Schema)} {start : σ} {slot : Slot σ} {slots : List (Slot σ)}

/-- What is found of an object whose members are in order. -/
def lookup (ms : List (String × Json)) (k : String) : Option Json :=
  ((Json.obj ms).member? k).map Json.sorted

/-- **Backed**: a schema has a property with the name of a field which agrees with it, and whose
default is what the object holds before anything is decoded. -/
def Backed (props : List (String × Schema)) (start : σ) (slot : Slot σ) : Prop :=
  ∃ s, (slot.name, s) ∈ props ∧ s.Agrees slot.fill ∧ ∀ d, s.remarks.default = some d →
    ∀ origin, ∃ g, slot.fill origin (.ofJson (s.fill d).sorted) = .ok g ∧ g start = start

/-- **Admitted**: each member that is named is as its schema admits it. -/
def Admitted (props : List (String × Schema)) (ms : List (String × Json)) : Prop :=
  ∀ p ∈ props, ∀ v, (Json.obj ms).member? p.1 = some v → p.2.admits v = true

lemma Backed.exists_take (h : slot.Backed props start) (hms : Admitted props ms) :
    ∃ g, slot.take origin (lookup ms slot.name) = .ok g := by
  obtain ⟨s, hs, hagrees, -⟩ := h
  rw [lookup]
  cases hv : (Json.obj ms).member? slot.name with
  | none => exact ⟨id, rfl⟩
  | some v =>
    obtain ⟨g, hg⟩ := hagrees origin v (hms _ hs v hv)
    exact ⟨g, hg.plain⟩

/-- A field takes the same when defaults are filled in. -/
lemma Backed.alike_fill (h : slot.Backed props start) (hms : Admitted props ms)
    (hnames : (props.map Prod.fst).Nodup) : Alike slot origin start (lookup ms slot.name)
      (lookup (Schema.fillMembers props ms) slot.name) := by
  obtain ⟨s, hs, hagrees, hdefault⟩ := h
  rw [lookup, lookup, (member?_fillMembers hnames).1 _ hs]
  cases hv : (Json.obj ms).member? slot.name with
  | none =>
    cases hd : s.remarks.default with
    | none => exact .inl fun g hg => hg
    | some d => exact .inr ⟨rfl, hdefault d hd origin⟩
  | some v =>
    obtain ⟨g, hg⟩ := hagrees origin v (hms _ hs v hv)
    refine .inl fun f hf => ?_
    cases hg.plain.symm.trans hf
    exact hg.fill

/-- A field takes the same when members that are not named are removed. -/
lemma Backed.alike_prune (h : slot.Backed props start) (hms : Admitted props ms)
    (hnames : (props.map Prod.fst).Nodup) {ns : List (String × Json)}
    (hns : ∀ k ∈ props.map Prod.fst, (Json.obj ns).member? k = (Json.obj ms).member? k) :
    Alike slot origin start (lookup ms slot.name) (lookup (pruneMembers props ns) slot.name) := by
  obtain ⟨s, hs, hagrees, -⟩ := h
  rw [lookup, lookup, (member?_pruneMembers hnames).1 _ hs, hns _ (List.mem_map_of_mem hs)]
  cases hv : (Json.obj ms).member? slot.name with
  | none => exact .inl fun g hg => hg
  | some v =>
    obtain ⟨g, hg⟩ := hagrees origin v (hms _ hs v hv)
    refine .inl fun f hf => ?_
    cases hg.plain.symm.trans hf
    exact hg.prune

/-- What an object is decoded to is what its slots take. -/
lemma record_sorted_eq_ok_iff (hind : Independent slots) {name : String} {y : σ} :
    Decode.record name slots start origin (.ofJson (Json.obj ms).sorted) = .ok y ↔
      Settles origin.inner (lookup ms) slots start y ∧
        ∀ slot ∈ slots, slot.required = true → ((Json.obj ms).member? slot.name).isSome = true := by
  rw [Json.sorted_obj]
  refine (fillObject_iff_settles hind (Json.table ms).keys_nodup).trans ?_
  have hlook : (Json.obj (Json.table ms).entries).member? = lookup ms :=
    funext fun k => Json.member?_table ms k
  simp only [hlook, lookup, Option.isSome_map]

end Decode.Slot

namespace Schema

open Decode.Slot

variable {r : Remarks} {required : List String} {props : List (String × Schema)} {start : σ}
  {slots : List (Slot σ)} {name : String}

/-- **A record agrees with a schema if each of its fields does.** -/
lemma Fits.record (hind : Independent slots) (hnames : (props.map Prod.fst).Nodup)
    (hslots : ∀ slot ∈ slots, slot.Backed props start)
    (hrequired : ∀ slot ∈ slots, slot.required = false) :
    (record r required props).Fits (Decode.record name slots start) := by
  intro origin v hv
  cases v with
  | obj ms =>
    have hms : Admitted props ms := (hasShape_record.mp hv).2
    have hnone : ∀ ns : List (String × Json), ∀ slot ∈ slots, slot.required = true →
        ((Json.obj ns).member? slot.name).isSome = true := by
      intro ns slot hslot hreq
      rw [hrequired slot hslot] at hreq
      cases hreq
    obtain ⟨y, hy⟩ : ∃ y, Settles origin.inner (lookup ms) slots start y :=
      exists_settles fun slot hslot => (hslots slot hslot).exists_take hms
    refine ⟨y, ?_, ?_, ?_⟩
    · exact (record_sorted_eq_ok_iff hind).mpr ⟨hy, hnone ms⟩
    · refine (record_sorted_eq_ok_iff hind).mpr ⟨settles_of_alike hind ?_ hy, hnone _⟩
      exact fun slot hslot => (hslots slot hslot).alike_fill hms hnames
    · refine (record_sorted_eq_ok_iff hind).mpr ⟨settles_of_alike hind ?_ hy, hnone _⟩
      exact fun slot hslot => (hslots slot hslot).alike_prune hms hnames
        fun k hk => member?_listed hk
  | _ => cases hv

/-! ### Whole objects -/

/-- **Legible**: a document has metadata that can be decoded. -/
def Legible (origin : Origin) (v : Json) : Prop :=
  ∃ md m, v.member? "metadata" = some md ∧
    ObjectMeta.decode origin.inner (.ofJson md.sorted) = .ok m

/-- The properties of whole objects. -/
def objectProperties (spec status : Schema) : List (String × Schema) :=
  [("spec", spec), ("status", status)]

/-- **Describes**: the schema of whole objects with such specifications and states makes sense, and
of a record of them every field but the metadata is backed by it. -/
structure Describes (kind : Resource) (spec status : Schema) (slots : List (Slot σ)) (start : σ) :
    Prop where
  sound : (Definition.objectSchema kind spec status).sound = true
  independent : Independent slots
  fields : ∀ slot ∈ slots, slot.Backed (objectProperties spec status) start ∨
    slot.name = "metadata" ∧
      ∃ f : ObjectMeta → σ → σ, slot.fill = fun origin d => f <$> ObjectMeta.decode origin d
  needed : ∀ slot ∈ slots, slot.required = true → slot.name = "metadata" ∨ slot.name = "spec"

namespace Describes

variable {kind : Resource} {spec status : Schema} (h : Describes kind spec status slots start)

include h

/-- **A document is decoded**, to the same with the defaults or without what is not named -/
lemma kept (name : String) (hv : (Definition.objectSchema kind spec status).admits v = true)
    (hl : Legible origin v) :
    ∃ y, Decode.record name slots start origin (.ofJson v.sorted) = .ok y ∧
      Decode.record name slots start origin
        (.ofJson ((Definition.objectSchema kind spec status).fill v).sorted) = .ok y ∧
      Decode.record name slots start origin
        (.ofJson ((Definition.objectSchema kind spec status).pruneInside v).sorted) = .ok y := by
  obtain ⟨hnames, -, -⟩ := sound_record.mp h.sound
  have hout : "metadata" ∉ (objectProperties spec status).map Prod.fst := by
    simp [objectProperties]
  have hshape : (Definition.objectSchema kind spec status).hasShape v = true := by
    rcases admits_iff.mp hv with ⟨hnullable, -⟩ | hshape
    · cases hnullable
    · exact hshape
  cases v with
  | obj ms =>
    obtain ⟨hthere, hms⟩ := hasShape_record.mp hshape
    obtain ⟨md, m, hmd, hm⟩ := hl
    have hneeded : ∀ slot ∈ slots, slot.required = true →
        ((Json.obj ms).member? slot.name).isSome = true := by
      intro slot hslot hreq
      rcases h.needed slot hslot hreq with hname | hname
      · rw [hname, hmd, Option.isSome_some]
      · exact hthere _ (hname ▸ .head _)
    obtain ⟨y, hy⟩ : ∃ y, Settles origin.inner (lookup ms) slots start y := by
      refine exists_settles fun slot hslot => ?_
      rcases h.fields slot hslot with hbacked | ⟨hname, f, hfill⟩
      · exact hbacked.exists_take hms
      · refine ⟨f m, ?_⟩
        rw [lookup, hname, hmd, Option.map_some, take, hfill]
        exact map_eq_ok_iff.mpr ⟨m, hm, rfl⟩
    refine ⟨y, (record_sorted_eq_ok_iff h.independent).mpr ⟨hy, hneeded⟩, ?_, ?_⟩
    · refine (record_sorted_eq_ok_iff h.independent).mpr
        ⟨settles_of_alike h.independent (fun slot hslot => ?_) hy,
          fun slot hslot hreq => isSome_fillMembers hnames (hneeded slot hslot hreq)⟩
      rcases h.fields slot hslot with hbacked | ⟨hname, -⟩
      · exact hbacked.alike_fill hms hnames
      · rw [lookup, lookup, hname, (member?_fillMembers hnames).2 _ hout]
        exact .inl fun g hg => hg
    · refine (record_sorted_eq_ok_iff h.independent).mpr
        ⟨settles_of_alike h.independent (fun slot hslot => ?_) hy,
          fun slot hslot hreq => isSome_pruneMembers hnames (hneeded slot hslot hreq)⟩
      rcases h.fields slot hslot with hbacked | ⟨hname, -⟩
      · exact hbacked.alike_prune hms hnames fun _ _ => rfl
      · rw [lookup, lookup, hname, (member?_pruneMembers hnames).2 _ hout]
        exact .inl fun g hg => hg
  | _ => cases hshape

/-- Its metadata stay as they are. -/
lemma legible_of_tidied (hl : Legible origin v)
    (hw : Tidied (Definition.objectSchema kind spec status) v w) :
    Legible origin w := by
  obtain ⟨hnames, -, -⟩ := sound_record.mp h.sound
  have hout : "metadata" ∉ (objectProperties spec status).map Prod.fst := by
    simp [objectProperties]
  induction hw with
  | refl => exact hl
  | @fill w _ ih =>
    cases w with
    | obj ms =>
      obtain ⟨md, m, hmd, hm⟩ := ih
      exact ⟨md, m, ((member?_fillMembers hnames).2 _ hout).trans hmd, hm⟩
    | _ => exact ih
  | @prune w _ ih =>
    cases w with
    | obj ms =>
      obtain ⟨md, m, hmd, hm⟩ := ih
      exact ⟨md, m, ((member?_pruneMembers hnames).2 _ hout).trans hmd, hm⟩
    | _ => exact ih

/-- **Whatever a server makes of a document, it is decoded to the same.** -/
lemma exists_decoded (name : String)
    (hv : (Definition.objectSchema kind spec status).admits v = true) (hl : Legible origin v) :
    ∃ y, ∀ w, Tidied (Definition.objectSchema kind spec status) v w →
      Decode.record name slots start origin (.ofJson w.sorted) = .ok y := by
  obtain ⟨y, hy, -, -⟩ := h.kept name hv hl
  refine ⟨y, fun w hw => ?_⟩
  induction hw with
  | refl => exact hy
  | fill hw ih =>
    obtain ⟨z, hz, hfill, -⟩ :=
      h.kept name (admits_of_tidied h.sound hv hw) (h.legible_of_tidied hl hw)
    cases hz.symm.trans ih
    exact hfill
  | prune hw ih =>
    obtain ⟨z, hz, -, hprune⟩ :=
      h.kept name (admits_of_tidied h.sound hv hw) (h.legible_of_tidied hl hw)
    cases hz.symm.trans ih
    exact hprune

end Describes

/-! ### The parts of machines and classes -/

/-- A field is backed if the schema has a property for it, whose default changes nothing. -/
lemma backed_cons_default {s : Schema} {dec : Decoder α} {set : α → σ → σ} {n : String} {c q : Bool}
    (hs : (n, s) ∈ props) (hagrees : s.Agrees dec)
    (hdefault : ∀ d, s.remarks.default = some d → ∀ origin, ∃ a,
      dec origin (.ofJson (s.fill d).sorted) = .ok a ∧ set a start = start)
    (hrest : ∀ slot ∈ slots, slot.Backed props start) :
    ∀ slot ∈ (⟨n, fun origin d => set <$> dec origin d, c, q⟩ : Slot σ) :: slots,
      slot.Backed props start := by
  refine List.forall_mem_cons.mpr ⟨⟨s, hs, hagrees.map set, fun d hd origin => ?_⟩, hrest⟩
  obtain ⟨a, ha, hstart⟩ := hdefault d hd origin
  exact ⟨set a, map_eq_ok_iff.mpr ⟨a, ha, rfl⟩, hstart⟩

/-- A field is backed if the schema has a property for it that has no default. -/
lemma backed_cons {s : Schema} {dec : Decoder α} {set : α → σ → σ} {n : String} {c q : Bool}
    (hs : (n, s) ∈ props) (hagrees : s.Agrees dec) (hnone : s.remarks.default = none)
    (hrest : ∀ slot ∈ slots, slot.Backed props start) :
    ∀ slot ∈ (⟨n, fun origin d => set <$> dec origin d, c, q⟩ : Slot σ) :: slots,
      slot.Backed props start := by
  refine backed_cons_default hs hagrees (fun d hd => ?_) hrest
  rw [hnone] at hd
  cases hd

lemma backed_nil : ∀ slot ∈ ([] : List (Slot σ)), slot.Backed props start := List.forall_mem_nil _

end Schema

open Schema Definition

lemma Definition.optionalText_agrees : optionalText.Agrees (optional string) := Fits.string.optional

lemma CpuInformation.fits (r : Schema.Remarks) :
    (Schema.record r [] cpuProperties).Fits CpuInformation.decode := by
  refine .record independent (by decide) ?_ (by simp [slots, Slot.optional])
  refine backed_cons (.head _) optionalText_agrees rfl ?_
  exact backed_cons (.tail _ (.head _)) optionalText_agrees rfl backed_nil

lemma SystemInformation.fits (r : Schema.Remarks) :
    (Schema.record r [] systemProperties).Fits SystemInformation.decode := by
  -- the schema has the fields by their names, and the record in an order of its own
  have hmanufacturer : ("manufacturer", optionalText) ∈ systemProperties := by
    simp [systemProperties]
  have hproduct : ("productName", optionalText) ∈ systemProperties := by simp [systemProperties]
  have hserial : ("serialNumber", optionalText) ∈ systemProperties := by simp [systemProperties]
  have hsku : ("skuNumber", optionalText) ∈ systemProperties := by simp [systemProperties]
  have hversion : ("version", optionalText) ∈ systemProperties := by simp [systemProperties]
  refine .record independent (by decide) ?_ (by simp [slots, Slot.optional])
  refine backed_cons hmanufacturer optionalText_agrees rfl ?_
  refine backed_cons hproduct optionalText_agrees rfl ?_
  refine backed_cons hversion optionalText_agrees rfl ?_
  refine backed_cons hserial optionalText_agrees rfl ?_
  refine backed_cons hsku optionalText_agrees rfl ?_
  exact backed_cons (.head _) optionalText_agrees rfl backed_nil

lemma MachineSpec.fits : machineSpec.Fits MachineSpec.decode := by
  refine .record independent (by decide) ?_ (by simp [slots, Slot.optional])
  refine backed_cons_default (.head _) (Fits.bool.agrees rfl) ?_ ?_
  · rintro _ ⟨⟩ origin
    exact ⟨false, rfl, rfl⟩
  refine backed_cons (.tail _ (.head _)) (CpuInformation.fits _).optional rfl ?_
  exact backed_cons (.tail _ (.tail _ (.head _))) (SystemInformation.fits _).optional rfl
    backed_nil

lemma MachineStatus.fits : machineStatus.Fits MachineStatus.decode := by
  refine .record independent (by decide) ?_ (by simp [slots, Slot.optional])
  refine backed_cons_default (.head _) (Fits.bool.agrees rfl) ?_ backed_nil
  rintro _ ⟨⟩ origin
  exact ⟨false, rfl, rfl⟩

lemma Qualifiers.fits : qualifiers.Fits Qualifiers.decode := by
  refine .record independent (by decide) ?_ (by simp [slots, Slot.optional])
  refine backed_cons (.head _)
    ((Fits.list ((CpuInformation.fits _).agrees rfl)).agrees rfl) rfl ?_
  refine backed_cons (.tail _ (.tail _ (.head _)))
    ((Fits.list ((SystemInformation.fits _).agrees rfl)).agrees rfl) rfl ?_
  exact backed_cons (.tail _ (.head _))
    ((Fits.list ((Fits.stringMap rfl).agrees rfl)).agrees rfl) rfl backed_nil

lemma MachineClassSpec.fits : classSpec.Fits MachineClassSpec.decode := by
  refine .record independent (by decide) ?_ (by simp [slots, Slot.optional])
  refine backed_cons_default (.head _) (Qualifiers.fits.agrees rfl) ?_ backed_nil
  rintro _ ⟨⟩ origin
  exact ⟨{}, rfl, rfl⟩

lemma Definition.machineList_agrees : machineList.Agrees (list string) :=
  (Fits.list (Fits.string.agrees rfl)).agrees rfl

lemma MachineClassStatus.fits : classStatus.Fits MachineClassStatus.decode := by
  refine .record independent (by decide) ?_ (by simp [slots, Slot.optional])
  refine backed_cons_default (.head _) machineList_agrees ?_ <|
    backed_cons_default (.tail _ (.head _)) machineList_agrees ?_ backed_nil
  · rintro _ ⟨⟩ origin
    exact ⟨[], rfl, rfl⟩
  · rintro _ ⟨⟩ origin
    exact ⟨[], rfl, rfl⟩

lemma Machine.describes : Describes .machines machineSpec machineStatus slots {} where
  sound := by decide
  independent := independent
  fields := by
    refine List.forall_mem_cons.mpr ⟨.inr ⟨rfl, _, rfl⟩, ?_⟩
    refine fun slot hslot => .inl ?_
    revert slot
    refine backed_cons (.head _) (MachineSpec.fits.agrees rfl) rfl ?_
    exact backed_cons (.tail _ (.head _)) MachineStatus.fits.optional rfl backed_nil
  needed := by simp [slots, Slot.mandatory, Slot.positional]

lemma MachineClass.describes : Describes .classes classSpec classStatus slots {} where
  sound := by decide
  independent := independent
  fields := by
    refine List.forall_mem_cons.mpr ⟨.inr ⟨rfl, _, rfl⟩, ?_⟩
    refine fun slot hslot => .inl ?_
    revert slot
    refine backed_cons (.head _) (MachineClassSpec.fits.agrees rfl) rfl ?_
    exact backed_cons (.tail _ (.head _)) MachineClassStatus.fits.optional rfl backed_nil
  needed := by simp [slots, Slot.mandatory, Slot.positional]

/-! ### What is printed -/

namespace Schema

variable {s : Schema} {r : Remarks} {required : List String} {props : List (String × Schema)}

/-- What has the shape is admitted. -/
lemma admits_of_hasShape (h : s.hasShape v = true) : s.admits v = true := admits_iff.mpr (.inr h)

/-- An object of fields has the shape if it has those that have to be there and what is named is
admitted. -/
lemma hasShape_ofFields {fields : List (String × Option Json)}
    (hrequired : ∀ k ∈ required, ∃ v, (k, some v) ∈ fields)
    (h : ∀ p ∈ props, ∀ f ∈ fields, f.1 = p.1 → ∀ v, f.2 = some v → p.2.admits v = true) :
    (record r required props).hasShape (Json.ofFields fields) = true := by
  have hmem : ∀ k v, (k, v) ∈ fields.filterMap (fun f => f.2.map (fun v => (f.1, v))) ↔
      (k, some v) ∈ fields := by
    intro k v
    simp only [List.mem_filterMap, Option.map_eq_some_iff, Prod.mk.injEq, Prod.exists]
    constructor
    · rintro ⟨_, _, hmem, _, rfl, rfl, rfl⟩
      exact hmem
    · exact fun hmem => ⟨k, some v, hmem, v, rfl, rfl, rfl⟩
  rw [Json.ofFields, hasShape_record]
  constructor
  · intro k hk
    obtain ⟨v, hv⟩ := hrequired k hk
    rw [Json.isSome_member?_iff]
    exact List.mem_map_of_mem (f := Prod.fst) ((hmem k v).mpr hv)
  · intro p hp v hv
    exact h p hp _ ((hmem _ _).mp (Json.mem_of_member? hv)) rfl v rfl

@[simp]
lemma admits_str {t : String} : (text r).admits (.str t) = true := admits_of_hasShape rfl

@[simp]
lemma admits_bool {b : Bool} : (flag r).admits (.bool b) = true := admits_of_hasShape rfl

/-- An array of what is printed is admitted if each part is. -/
lemma admits_arr {toJson : α → Json} (h : ∀ x, s.admits (toJson x) = true) (xs : List α) :
    (list r s).admits (.arr (xs.map toJson)) = true :=
  admits_of_hasShape (hasShape_list.mpr (List.forall_mem_map.mpr fun x _ => h x))

/-- So is a map of strings. -/
lemma admits_ofStringMap {t : Remarks} (m : SortedMap String String) :
    (dictionary r (text t)).admits (Json.ofStringMap m) = true := by
  refine admits_of_hasShape (hasShape_dictionary.mpr fun k v hv => ?_)
  obtain ⟨e, -, he⟩ := List.mem_map.mp (Json.mem_of_member? hv)
  cases he
  exact admits_str

end Schema

lemma CpuInformation.printed (r : Schema.Remarks) (c : CpuInformation) :
    (Schema.record r [] cpuProperties).admits c.toJson = true := by
  refine admits_of_hasShape (hasShape_ofFields (List.forall_mem_nil _) ?_)
  simp [cpuProperties, optionalText]

lemma SystemInformation.printed (r : Schema.Remarks) (i : SystemInformation) :
    (Schema.record r [] systemProperties).admits i.toJson = true := by
  refine admits_of_hasShape (hasShape_ofFields (List.forall_mem_nil _) ?_)
  simp [systemProperties, optionalText]

lemma MachineSpec.printed (m : MachineSpec) : machineSpec.admits m.toJson = true := by
  refine admits_of_hasShape (hasShape_ofFields (List.forall_mem_nil _) ?_)
  simp [CpuInformation.printed, SystemInformation.printed]

lemma MachineStatus.printed (m : MachineStatus) : machineStatus.admits m.toJson = true := by
  refine admits_of_hasShape (hasShape_ofFields (List.forall_mem_nil _) ?_)
  simp

lemma Qualifiers.printed (q : Qualifiers) : qualifiers.admits q.toJson = true := by
  refine admits_of_hasShape (hasShape_ofFields (List.forall_mem_nil _) ?_)
  simp [nonEmpty, admits_arr (CpuInformation.printed _), admits_arr (SystemInformation.printed _),
    admits_arr admits_ofStringMap]

lemma MachineClassSpec.printed (s : MachineClassSpec) : classSpec.admits s.toJson = true := by
  refine admits_of_hasShape (hasShape_ofFields (List.forall_mem_nil _) ?_)
  simp [Qualifiers.printed]

lemma Definition.machineList_printed (names : List String) :
    machineList.admits (Json.ofStrings names) = true :=
  admits_arr (fun _ => admits_str) names

lemma MachineClassStatus.printed (s : MachineClassStatus) : classStatus.admits s.toJson = true := by
  refine admits_of_hasShape (hasShape_ofFields (List.forall_mem_nil _) ?_)
  simp [machineList_printed]

lemma Machine.printed (m : Machine) : machine.schema.admits m.toJson = true := by
  refine admits_of_hasShape (hasShape_ofFields (by simp) ?_)
  simp [MachineSpec.printed, MachineStatus.printed]

lemma MachineClass.printed (c : MachineClass) : machineClass.schema.admits c.toJson = true := by
  refine admits_of_hasShape (hasShape_ofFields (by simp) ?_)
  simp [MachineClassSpec.printed, MachineClassStatus.printed]

/-! ### The definitions -/

namespace Schema

/-- **Conforms**: a schema of whole objects agrees with their decoder and their printer. -/
structure Conforms (s : Schema) (dec : Decoder α) (toJson : α → Json) : Prop where
  /-- A document is decoded, and whatever a server makes of it to the same. -/
  value : ∀ v, Legible .value v → s.admits v = true → ∃ x, ∀ w, s.Tidied v w →
    s.admits w = true ∧ Decode.ofJson dec w = .ok x
  /-- So are texts in which it is written. -/
  text : ∀ v, Legible (.text depthLimit) v → s.admits v = true → ∃ x, ∀ w, s.Tidied v w →
    ∀ t u, Document.read t = (.ofJson u, none) → u.Writes w → Decode.ofText dec t = .ok x
  /-- What is printed is as the schema says. -/
  printed : ∀ x, s.admits (toJson x) = true

/-- A schema conforms if it describes what is decoded whatever the order of the members. -/
lemma Conforms.of_describes {kind : Resource} {spec status : Schema} {slots : List (Slot σ)}
    {start : σ} {name : String} {toJson : σ → Json} (h : Describes kind spec status slots start)
    (horder : OrderFree (Decode.record name slots start))
    (hprinted : ∀ x, (Definition.objectSchema kind spec status).admits (toJson x) = true) :
    (Definition.objectSchema kind spec status).Conforms (Decode.record name slots start)
      toJson where
  value v hl hv := by
    obtain ⟨x, hx⟩ := h.exists_decoded name hv hl
    exact ⟨x, fun w hw => ⟨admits_of_tidied h.sound hv hw, hx w hw⟩⟩
  text v hl hv := by
    obtain ⟨x, hx⟩ := h.exists_decoded name hv hl
    exact ⟨x, fun w hw _ _ htext hu => (horder.decodes_iff.mpr (hx w hw)).ofText htext hu⟩
  printed := hprinted

end Schema

namespace Definition

/-- **The published schemas and the decoders agree.** A document with metadata that can be decoded
and with all that the schema asks for is decoded, as a value and from any text in which it is
written. It is decoded to the same whenever the defaults of the schema are filled in and the members
that it does not name are removed from the specification and the status, and what is then left is
still what the schema asks for. So is whatever is printed for a machine or for a class. -/
theorem conforms : machine.schema.Conforms Machine.decode Machine.toJson ∧
    machineClass.schema.Conforms MachineClass.decode MachineClass.toJson :=
  ⟨.of_describes Machine.describes Machine.orderFree Machine.printed,
    .of_describes MachineClass.describes MachineClass.orderFree MachineClass.printed⟩

/-- A class without qualifiers, with members that no schema names and with half of a status. -/
def sparse : Json :=
  .obj [("metadata", .obj [("name", .str "gpu")]), ("note", .null),
    ("spec", .obj [("note", .null)]),
    ("status", .obj [("machinesInUse", .arr [.str "m1"]), ("note", .null)])]

/-- The same with the defaults, and without those members inside. -/
def sparseTidied : Json :=
  .obj [("metadata", .obj [("name", .str "gpu")]), ("note", .null),
    ("spec", .obj [("qualifiers", .obj [])]),
    ("status", .obj [("machinesInUse", .arr [.str "m1"]), ("machinesAvailable", .arr [])])]

/-- Both are decoded to the same class. -/
theorem conforms_sparse : machineClass.schema.fill (machineClass.schema.pruneInside sparse) =
      sparseTidied ∧
    ∃ c, Decode.ofJson MachineClass.decode sparse = .ok c ∧
      Decode.ofJson MachineClass.decode sparseTidied = .ok c := by
  have hlegible : Schema.Legible .value sparse := ⟨_, _, rfl, rfl⟩
  have hadmits : machineClass.schema.admits sparse = true := by decide
  have htidied : machineClass.schema.fill (machineClass.schema.pruneInside sparse) =
      sparseTidied := rfl
  obtain ⟨c, hc⟩ := conforms.2.value sparse hlegible hadmits
  refine ⟨htidied, c, (hc _ .refl).2, ?_⟩
  rw [← htidied]
  exact (hc _ (.fill (.prune .refl))).2

end Definition

end BareMetal
