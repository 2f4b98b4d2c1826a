import BareMetal.Decode
import BareMetal.Proofs.Json.Merge

/-!
What decoding an object with known fields amounts to.

* `skip_ofJson`: a value that nobody asked for is no problem;
* `Slot.effect`, `Slot.Fills`: what one member, and what the members of an object one after
  the other, make of what is decoded;
* `fillObject_eq_ok_iff`: **an object without repeated names is decoded by its members**, and
  each field that has to be there must be among them; `record_eq_ok_iff` and `keyed_eq_ok_iff`
  say so of a value, whose members are those of its table;
* `Slot.Field`: a part of the object that one slot decodes and no other one touches;
  `Field.insert`: **a member that is set changes its field and nothing else**, and
  `Field.decode_eq`: what is decoded has in a field what the member with its name holds.
-/

namespace BareMetal

open Json (Document)

/-! ### Values nobody asked for -/

namespace Json.Document

mutual

/-- A value that nobody asked for is no problem. -/
lemma skip_ofJson : ∀ v : Json, (ofJson v).skip = .ok ()
  | .null => rfl
  | .bool _ => rfl
  | .num _ => rfl
  | .str _ => rfl
  | .arr items => by
    rw [ofJson, skip, skipItems_ofItems items]
    rfl
  | .obj members => by
    rw [ofJson, skip, skipMembers_ofMembers members]
    rfl

lemma skipItems_ofItems : ∀ vs : List Json, skipItems (ofItems vs) = .ok ()
  | [] => rfl
  | v :: vs => by
    rw [ofItems, skipItems, skip_ofJson v]
    exact skipItems_ofItems vs

lemma skipMembers_ofMembers : ∀ ms : List (String × Json), skipMembers (ofMembers ms) = .ok ()
  | [] => rfl
  | (k, v) :: rest => by
    rw [ofMembers, skipMembers, skip_ofJson v]
    exact skipMembers_ofMembers rest

end

end Json.Document

namespace Decode

/-- A document that is refused is not decoded. -/
lemma refuse_ne_ok {α : Type} (want : String) (d : Json.Document) (x : α) :
    (refuse want d : Except Problem α) ≠ .ok x := by
  rw [refuse]
  cases describe d <;> exact fun h => nomatch h

/-- What is changed after it was decoded was decoded. -/
lemma map_eq_ok_iff {α β : Type} {h : α → β} {r : Except Problem α} {b : β} :
    h <$> r = .ok b ↔ ∃ a, r = .ok a ∧ h a = b := by
  cases r with
  | error p => exact ⟨fun hb => (nomatch hb), fun ⟨_, ha, _⟩ => (nomatch ha)⟩
  | ok a =>
    constructor
    · intro hb
      exact ⟨a, rfl, Except.ok.inj hb⟩
    · rintro ⟨a', ha, rfl⟩
      cases ha
      rfl

namespace Slot

/-! ### Members one by one -/

variable {σ α : Type} {slots : List (Slot σ)} {slot : Slot σ} {origin : Origin} {k : String}
  {v : Json} {es : List (String × Json)} {f g u : σ → σ}

/-- The slot that is filled by the members with a name. -/
def named (slots : List (Slot σ)) (k : String) : Option (Slot σ) :=
  slots.find? (fun s => s.name == k)

lemma mem_of_named (h : named slots k = some slot) : slot ∈ slots ∧ slot.name = k :=
  ⟨List.mem_of_find?_eq_some h, by simpa using List.find?_some h⟩

lemma isSome_named (h : slot ∈ slots) : (named slots slot.name).isSome = true := by
  rw [named, List.find?_isSome]
  exact ⟨slot, h, by simp⟩

/-- What a member makes of an object: it is decoded into its slot, or passed over if no slot is
for it. -/
def effect (slots : List (Slot σ)) (origin : Origin) (k : String) (v : Json) :
    Except Problem (σ → σ) :=
  match named slots k with
  | none => .ok id
  | some slot => slot.fill origin (.ofJson v)

/-- The names of the members that slots are for, the last one first. -/
def filledBy (slots : List (Slot σ)) (names : List String) : List String :=
  (names.filter (fun k => (named slots k).isSome)).reverse

/-- The first member takes effect before the others do. -/
lemma fillMembers_cons {once : Bool} {filled : List String} (hk : k ∉ filled) (x : σ) :
    fillMembers slots once ignored origin (Document.ofMembers ((k, v) :: es)) filled x =
      (do
        let g ← effect slots origin k v
        fillMembers slots once ignored origin (Document.ofMembers es)
          (filledBy slots [k] ++ filled) (g x)) := by
  rw [Document.ofMembers, fillMembers, effect, ← named, filledBy]
  cases hslot : named slots k with
  | none =>
    have hpass : ignored origin (Document.ofJson v) = .ok () := by
      rw [ignored, Document.skip_ofJson]
      rfl
    simp only [hpass, List.filter, hslot]
    rfl
  | some slot =>
    have hcontains : filled.contains k = false := by simpa using hk
    simp only [hcontains, Bool.and_false, Bool.false_eq_true, if_false, List.filter, hslot]
    rfl

/-! ### Members in a row -/

/-- **Fills**: the members, one after the other, make of an object what the function says. -/
inductive Fills (slots : List (Slot σ)) (origin : Origin) : List (String × Json) → (σ → σ) → Prop
  /-- No members change nothing. -/
  | nil : Fills slots origin [] id
  /-- A member in front of others. -/
  | cons {k : String} {v : Json} {es : List (String × Json)} {f g : σ → σ}
      (hg : effect slots origin k v = .ok g) (h : Fills slots origin es f) :
      Fills slots origin ((k, v) :: es) (f ∘ g)

/-- Members without repeated names fill the slots one after the other. -/
lemma fillMembers_eq_ok_iff {once : Bool} {filled names : List String} {x y : σ}
    (hnodup : (es.map Prod.fst).Nodup) (hnew : ∀ k ∈ es.map Prod.fst, k ∉ filled) :
    fillMembers slots once ignored origin (Document.ofMembers es) filled x = .ok (names, y) ↔
      (∃ f, Fills slots origin es f ∧ f x = y) ∧
        names = filledBy slots (es.map Prod.fst) ++ filled := by
  induction es generalizing filled x with
  | nil =>
    rw [Document.ofMembers, fillMembers, Except.ok.injEq, Prod.mk.injEq]
    constructor
    · rintro ⟨rfl, rfl⟩
      exact ⟨⟨id, .nil, rfl⟩, rfl⟩
    · rintro ⟨⟨f, hf, rfl⟩, rfl⟩
      cases hf
      exact ⟨rfl, rfl⟩
  | cons e es ih =>
    obtain ⟨k, v⟩ := e
    obtain ⟨hk, hnodup⟩ := List.nodup_cons.mp hnodup
    rw [fillMembers_cons (hnew k List.mem_cons_self)]
    cases hg : effect slots origin k v with
    | error p =>
      constructor
      · intro h
        cases h
      · rintro ⟨⟨f, hf, -⟩, -⟩
        cases hf with
        | cons hg' hf => cases hg.symm.trans hg'
    | ok g =>
      have hnames : filledBy slots (((k, v) :: es).map Prod.fst) ++ filled =
          filledBy slots (es.map Prod.fst) ++ (filledBy slots [k] ++ filled) := by
        rw [← List.append_assoc, filledBy, filledBy, filledBy, ← List.reverse_append,
          ← List.filter_append]
        rfl
      have hfresh : ∀ l ∈ es.map Prod.fst, l ∉ filledBy slots [k] ++ filled := by
        intro l hl
        have hlk : l ≠ k := fun h => hk (h ▸ hl)
        simp only [filledBy, List.mem_append, List.mem_reverse, List.mem_filter, List.mem_singleton,
          hlk, false_and, false_or]
        exact hnew l (List.mem_cons_of_mem _ hl)
      change fillMembers slots once ignored origin (Document.ofMembers es) _ (g x) = _ ↔ _
      rw [ih hnodup hfresh, hnames]
      refine and_congr_left fun _ => ⟨?_, ?_⟩
      · rintro ⟨f, hf, hy⟩
        exact ⟨f ∘ g, .cons hg hf, hy⟩
      · rintro ⟨f, hf, hy⟩
        cases hf with
        | cons hg' hf =>
          cases hg.symm.trans hg'
          exact ⟨_, hf, hy⟩

/-- Whether all slots that have to be filled are. -/
lemma requireFilled_eq_ok_iff {filled : List String} :
    requireFilled filled slots = .ok () ↔
      ∀ slot ∈ slots, slot.required = true → slot.name ∈ filled := by
  induction slots with
  | nil => simp [requireFilled]
  | cons slot slots ih =>
    rw [requireFilled, List.forall_mem_cons]
    by_cases h : slot.required = true → slot.name ∈ filled
    · rw [if_neg (by simpa using h), ih]
      exact ⟨fun hrest => ⟨h, hrest⟩, fun hall => hall.2⟩
    · rw [if_pos (by simpa using h)]
      exact ⟨fun herror => (nomatch herror), fun hall => absurd hall.1 h⟩

/-- An object is decoded if its members fill the slots and all slots that have to be are filled. -/
lemma fillObject_eq_ok_iff_exists {once : Bool} {start y : σ} :
    fillObject slots once ignored origin (Document.ofMembers es) none start = .ok y ↔
      ∃ names, fillMembers slots once ignored origin.inner (Document.ofMembers es) [] start =
        .ok (names, y) ∧ requireFilled names slots = .ok () := by
  rw [fillObject]
  cases fillMembers slots once ignored origin.inner (Document.ofMembers es) [] start with
  | error p => exact ⟨fun h => (nomatch h), fun ⟨_, h, _⟩ => (nomatch h)⟩
  | ok out =>
    obtain ⟨names, z⟩ := out
    change (do requireFilled names slots; return z) = _ ↔ _
    cases hreq : requireFilled names slots with
    | error p =>
      constructor
      · intro h
        cases h
      · rintro ⟨names', heq, h⟩
        cases heq
        rw [hreq] at h
        cases h
    | ok _ =>
      constructor
      · intro h
        cases h
        exact ⟨names, rfl, hreq⟩
      · rintro ⟨names', heq, -⟩
        cases heq
        rfl

/-- **An object without repeated names is decoded by its members**, and each field that has to be
there must be among them. -/
lemma fillObject_eq_ok_iff {once : Bool} {start y : σ} (hnodup : (es.map Prod.fst).Nodup) :
    fillObject slots once ignored origin (Document.ofMembers es) none start = .ok y ↔
      (∃ f, Fills slots origin.inner es f ∧ f start = y) ∧
        ∀ slot ∈ slots, slot.required = true → slot.name ∈ es.map Prod.fst := by
  have hmembers : ∀ (names : List String) (z : σ),
      fillMembers slots once ignored origin.inner (Document.ofMembers es) [] start =
          .ok (names, z) ↔
        (∃ f, Fills slots origin.inner es f ∧ f start = z) ∧
          names = filledBy slots (es.map Prod.fst) ++ [] :=
    fun _ _ => fillMembers_eq_ok_iff hnodup (fun _ _ => List.not_mem_nil)
  have hrequired : requireFilled (filledBy slots (es.map Prod.fst) ++ []) slots = .ok () ↔
      ∀ slot ∈ slots, slot.required = true → slot.name ∈ es.map Prod.fst := by
    rw [requireFilled_eq_ok_iff]
    refine forall₃_congr fun slot hslot _ => ?_
    simp [filledBy, isSome_named hslot]
  rw [fillObject_eq_ok_iff_exists, ← hrequired]
  constructor
  · rintro ⟨names, hrun, hreq⟩
    obtain ⟨hy, rfl⟩ := (hmembers names y).mp hrun
    exact ⟨hy, hreq⟩
  · rintro ⟨hy, hreq⟩
    exact ⟨_, (hmembers _ y).mpr ⟨hy, rfl⟩, hreq⟩

/-- A record is decoded from a value by the members in its table. -/
lemma record_eq_ok_iff {name : String} {start y : σ} {ms : List (String × Json)} :
    Decode.ofJson (record name slots start) (.obj ms) = .ok y ↔
      (∃ f, Fills slots .value (Json.table ms).entries f ∧ f start = y) ∧
        ∀ slot ∈ slots, slot.required = true → slot.name ∈ (Json.table ms).keys :=
  fillObject_eq_ok_iff (Json.table ms).keys_nodup

/-- So is an object that has no array form. -/
lemma keyed_eq_ok_iff {name : String} {start y : σ} {ms : List (String × Json)} :
    Decode.ofJson (keyed name slots start) (.obj ms) = .ok y ↔
      (∃ f, Fills slots .value (Json.table ms).entries f ∧ f start = y) ∧
        ∀ slot ∈ slots, slot.required = true → slot.name ∈ (Json.table ms).keys :=
  fillObject_eq_ok_iff (Json.table ms).keys_nodup

/-! ### Setting and reading a member -/

/-- **Leaves**: a slot with another name does not touch what a change does. -/
def Leaves (slot : Slot σ) (k : String) (u : σ → σ) : Prop :=
  slot.name ≠ k → ∀ origin d g, slot.fill origin d = .ok g → ∀ x, g (u x) = u (g x)

/-- A slot that sets something else leaves the change alone. -/
lemma Leaves.of_set {decode : Decoder α} {set : α → σ → σ} {name : String} {required counted : Bool}
    (hset : name ≠ k → ∀ a x, set a (u x) = u (set a x)) :
    Leaves ⟨name, fun origin d => set <$> decode origin d, required, counted⟩ k u := by
  intro hne origin d g hg x
  obtain ⟨a, -, rfl⟩ := map_eq_ok_iff.mp hg
  exact hset hne a x

/-- **Apart**: the slots with other names do not touch what a change does. -/
def Apart (slots : List (Slot σ)) (k : String) (u : σ → σ) : Prop :=
  ∀ slot ∈ slots, slot.Leaves k u

/-- Members with other names do not touch a change. -/
lemma Fills.apply_comm (h : Fills slots origin es f) (hu : Apart slots k u)
    (hk : k ∉ es.map Prod.fst) (x : σ) : f (u x) = u (f x) := by
  induction h generalizing x with
  | nil => rfl
  | @cons l v es f g hg _ ih =>
    rw [List.map_cons, List.mem_cons, not_or] at hk
    have hfirst : g (u x) = u (g x) := by
      rw [effect] at hg
      split at hg
      next =>
        cases hg
        rfl
      next slot hslot =>
        obtain ⟨hmem, rfl⟩ := mem_of_named hslot
        exact hu slot hmem (Ne.symm hk.1) _ _ _ hg x
    rw [Function.comp_apply, hfirst, ih hk.2, Function.comp_apply]

/-- **A field**: a slot decodes the members with its name into a part of the object that can be read
and set, and the other slots do not touch this part. -/
structure Field (slots : List (Slot σ)) (k : String) (decode : Decoder α) (get : σ → α)
    (set : α → σ → σ) : Prop where
  named : ∃ slot, named slots k = some slot ∧
    ∀ origin d, slot.fill origin d = set <$> decode origin d
  get_set : ∀ a x, get (set a x) = a
  set_set : ∀ a b x, set b (set a x) = set b x
  apart : ∀ a, Apart slots k (set a)

section Fields

variable {decode : Decoder α} {get : σ → α} {set : α → σ → σ}

/-- A member of the field is set to what it decodes to. -/
lemma Field.effect_eq_ok_iff (hfield : Field slots k decode get set) :
    effect slots origin k v = .ok g ↔ ∃ a, decode origin (.ofJson v) = .ok a ∧ set a = g := by
  obtain ⟨slot, hslot, hfill⟩ := hfield.named
  rw [effect, hslot]
  simp only [hfill, map_eq_ok_iff]

/-- **A member that is set**, whether there was one with its name or not, changes its field and
nothing else. -/
lemma Field.insert (hfield : Field slots k decode get set) (h : Fills slots origin es f)
    (hasc : es.Pairwise (fun a b => compare a.1 b.1 = .lt)) {a : α}
    (ha : decode origin (.ofJson v) = .ok a) :
    ∃ f', Fills slots origin (SortedMap.insertEntry k v es) f' ∧ ∀ x, f' x = set a (f x) := by
  have hv : effect slots origin k v = .ok (set a) := hfield.effect_eq_ok_iff.mpr ⟨a, ha, rfl⟩
  induction h with
  | nil => exact ⟨_, .cons hv .nil, fun _ => rfl⟩
  | @cons l w es f g hg hf ih =>
    obtain ⟨hlow, hrest⟩ := List.pairwise_cons.mp hasc
    -- a key below the others is none of them
    have hnotMem : ∀ {l : String}, (∀ e ∈ es, compare l e.1 = .lt) → l ∉ es.map Prod.fst := by
      intro l hl hmem
      obtain ⟨e, he, rfl⟩ := List.mem_map.mp hmem
      exact absurd (hl e he) (by simp)
    rw [SortedMap.insertEntry]
    split
    next hk =>
      have hkl : k ≠ l := fun h => absurd hk (by simp [h])
      have hkes : k ∉ es.map Prod.fst := hnotMem fun e he => Std.TransCmp.lt_trans hk (hlow e he)
      refine ⟨_, .cons hv (.cons hg hf), fun x => ?_⟩
      exact (Fills.cons hg hf).apply_comm (hfield.apart a) (by simp [hkl, hkes]) x
    next hk =>
      obtain rfl : k = l := Std.LawfulEqOrd.eq_of_compare hk
      have hcomm := hf.apply_comm (hfield.apart a) (hnotMem hlow)
      obtain ⟨b, -, rfl⟩ := hfield.effect_eq_ok_iff.mp hg
      refine ⟨_, .cons hv hf, fun x => ?_⟩
      rw [Function.comp_apply, Function.comp_apply, ← hcomm, hfield.set_set]
    next =>
      obtain ⟨f', hf', heq⟩ := ih hrest
      exact ⟨_, .cons hg hf', fun x => heq (g x)⟩

/-- **What is decoded has in a field what the member with its name holds.** -/
lemma Field.decode_eq (hfield : Field slots k decode get set) (h : Fills slots origin es f)
    (hnodup : (es.map Prod.fst).Nodup) (hmem : (k, v) ∈ es) (x : σ) :
    decode origin (.ofJson v) = .ok (get (f x)) := by
  induction h generalizing x with
  | nil => cases hmem
  | @cons l w es f g hg hf ih =>
    obtain ⟨hl, hnodup⟩ := List.nodup_cons.mp hnodup
    rcases List.mem_cons.mp hmem with heq | hmem
    · cases heq
      obtain ⟨a, ha, rfl⟩ := hfield.effect_eq_ok_iff.mp hg
      rw [Function.comp_apply, hf.apply_comm (hfield.apart a) hl, hfield.get_set, ha]
    · exact ih hnodup hmem (g x)

/-! ### Members of a value -/

variable {ms : List (String × Json)} {a : α}

/-- A member of a value that is set changes its field and nothing else. -/
lemma Field.setMember (hfield : Field slots k decode get set)
    (h : Fills slots .value (Json.table ms).entries f) (ha : Decode.ofJson decode v = .ok a) :
    ∃ f', Fills slots .value (Json.table (Json.setMember ms k v)).entries f' ∧
      ∀ x, f' x = set a (f x) := by
  rw [Json.table_setMember]
  exact hfield.insert h (Json.table ms).ascending ha

/-- The members that are there stay there. -/
lemma mem_keys_setMember {l : String} (h : l ∈ (Json.table ms).keys) :
    l ∈ (Json.table (Json.setMember ms k v)).keys := by
  obtain ⟨w, hw⟩ := SortedMap.mem_keys_iff.mp h
  rw [Json.table_setMember, SortedMap.mem_keys_iff]
  simp only [SortedMap.get?_insert]
  split
  · exact ⟨_, rfl⟩
  · exact ⟨w, hw⟩

/-- What is decoded from a value has in a field what the member with its name holds. -/
lemma Field.ofJson_eq (hfield : Field slots k decode get set)
    (h : Fills slots .value (Json.table ms).entries f) (hv : (Json.obj ms).member? k = some v)
    (x : σ) : Decode.ofJson decode v = .ok (get (f x)) := by
  refine hfield.decode_eq h (Json.table ms).keys_nodup ?_ x
  rw [SortedMap.mem_entries_iff, Json.get?_table, hv, Option.map_some]

end Fields

end Slot

end Decode

end BareMetal
