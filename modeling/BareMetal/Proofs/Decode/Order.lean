import BareMetal.MachineClass
import BareMetal.Proofs.Json.Order

/-!
Decoders that do not look at the order of members.

* `decodeItems_eq_ok_iff`, `stringMap_eq_ok_iff`: what lists and maps are decoded to, item by item
  and name by name;
* `Decode.OrderFree`: a decoder that makes the same of a value in each way to write it;
* `OrderFree.record`, `OrderFree.keyed`: **objects with independent fields are decoded so**;
* `Decodes`: a value is decoded to the same in each way to write it, as a value or in a text;
* `Machine.orderFree`, `MachineClass.orderFree`: machines and classes, with all their parts, are
  decoded so.
-/

namespace BareMetal

open Json (Document)

namespace Json.Document

lemma ofItems_eq_map (vs : List Json) : ofItems vs = vs.map ofJson := by
  induction vs with
  | nil => rfl
  | cons v vs ih => rw [ofItems, ih, List.map_cons]

lemma ofMembers_eq_map (ms : List (String × Json)) :
    ofMembers ms = ms.map (fun m => (some m.1, ofJson m.2)) := by
  induction ms with
  | nil => rfl
  | cons m ms ih =>
    obtain ⟨k, v⟩ := m
    rw [ofMembers, ih, List.map_cons]

lemma truncateItems_ofItems (n : Nat) (vs : List Json) :
    truncateItems n (ofItems vs) = vs.map (fun v => (ofJson v).truncate n) := by
  induction vs with
  | nil => rfl
  | cons v vs ih => rw [ofItems, truncateItems, ih, List.map_cons]

lemma truncateMembers_ofMembers (n : Nat) (ms : List (String × Json)) :
    truncateMembers n (ofMembers ms) = ms.map (fun m => (some m.1, (ofJson m.2).truncate n)) := by
  induction ms with
  | nil => rfl
  | cons m ms ih =>
    obtain ⟨k, v⟩ := m
    rw [ofMembers, truncateMembers, ih, List.map_cons]

end Json.Document

namespace Decode

variable {σ α β : Type} {dec : Decoder α} {origin : Origin} {v : Json}

/-! ### Strings, lists and maps -/

/-- What is decoded in two steps was decoded in both. -/
lemma bind_eq_ok_iff {ε : Type} {r : Except ε α} {f : α → Except ε β} {b : β} :
    (do let a ← r; f a) = .ok b ↔ ∃ a, r = .ok a ∧ f a = .ok b := by
  cases r with
  | error p => exact ⟨fun h => (nomatch h), fun ⟨_, ha, _⟩ => (nomatch ha)⟩
  | ok a =>
    constructor
    · intro h
      exact ⟨a, rfl, h⟩
    · rintro ⟨a', ha, h⟩
      cases ha
      exact h

/-- A string stands for itself only. -/
lemma string_eq_ok_iff {s : String} : string origin (.ofJson v) = .ok s ↔ v = .str s := by
  cases v with
  | str t => simp [Document.ofJson, string]
  | _ => exact iff_of_false (refuse_ne_ok _ _ _) nofun

/-- A value that may be absent is absent only if it is null. -/
lemma optional_eq_map (hv : v ≠ .null) :
    optional dec origin (.ofJson v) = some <$> dec origin (.ofJson v) := by
  cases v with
  | null => exact absurd rfl hv
  | _ => rfl

/-- Items are decoded one by one. -/
lemma decodeItems_eq_ok_iff {vs : List Json} {xs : List α} :
    decodeItems dec origin (Document.ofItems vs) = .ok xs ↔
      List.Forall₂ (fun v x => dec origin (.ofJson v) = .ok x) vs xs := by
  induction vs generalizing xs with
  | nil =>
    rw [Document.ofItems, decodeItems, List.forall₂_nil_left_iff]
    exact ⟨fun h => (Except.ok.inj h).symm, fun h => h ▸ rfl⟩
  | cons v vs ih =>
    rw [Document.ofItems, decodeItems, bind_eq_ok_iff, List.forall₂_cons_left_iff]
    constructor
    · rintro ⟨x, hx, hrest⟩
      obtain ⟨ys, hys, hcons⟩ := bind_eq_ok_iff.mp hrest
      cases hcons
      exact ⟨x, ys, hx, ih.mp hys, rfl⟩
    · rintro ⟨x, ys, hx, hys, rfl⟩
      exact ⟨x, hx, bind_eq_ok_iff.mpr ⟨ys, ih.mpr hys, rfl⟩⟩

/-- An array is decoded item by item. -/
lemma list_arr_eq_ok_iff {vs : List Json} {xs : List α} :
    list dec origin (.ofJson (.arr vs)) = .ok xs ↔
      List.Forall₂ (fun v x => dec origin.inner (.ofJson v) = .ok x) vs xs := by
  rw [← decodeItems_eq_ok_iff, Document.ofJson, list, bind_eq_ok_iff]
  constructor
  · rintro ⟨ys, hys, hend⟩
    cases hend
    exact hys
  · exact fun hxs => ⟨xs, hxs, rfl⟩

/-- Members are bound one after the other to the strings that they hold. -/
lemma decodeEntries_eq_ok_iff {es : List (String × Json)} (hnodup : (es.map Prod.fst).Nodup)
    {m n : SortedMap String String} :
    decodeEntries origin (Document.ofMembers es) m = .ok n ↔
      ∀ k, (n.get? k).map Json.str = ((Json.obj es).member? k).or ((m.get? k).map .str) := by
  induction es generalizing m with
  | nil =>
    rw [Document.ofMembers, decodeEntries, Except.ok.injEq]
    constructor
    · rintro rfl k
      rfl
    · intro h
      refine SortedMap.ext_get? fun k => ?_
      exact (Option.map_injective (fun _ _ => Json.str.inj) (h k)).symm
  | cons e es ih =>
    obtain ⟨k, v⟩ := e
    obtain ⟨hk, hnodup⟩ := List.nodup_cons.mp hnodup
    have hfirst : (Json.obj ((k, v) :: es)).member? k = some v := by
      rw [Json.member?_cons, Json.member?_eq_none_iff.mpr hk, if_pos rfl, Option.none_or]
    have hstep : ∀ s, decodeEntries origin (Document.ofMembers es) (m.insert k s) = .ok n ↔
        ∀ l, (n.get? l).map Json.str =
          ((Json.obj ((k, .str s) :: es)).member? l).or ((m.get? l).map .str) := by
      intro s
      rw [ih hnodup]
      refine forall_congr' fun l => ?_
      rw [Json.member?_cons, SortedMap.get?_insert, Option.or_assoc]
      by_cases hl : k = l
      · simp [hl]
      · simp [hl]
    rw [Document.ofMembers, decodeEntries, bind_eq_ok_iff]
    constructor
    · rintro ⟨s, hs, hrest⟩
      obtain rfl := string_eq_ok_iff.mp hs
      exact (hstep s).mp hrest
    · intro h
      have hbound := h k
      rw [hfirst, Option.some_or] at hbound
      obtain ⟨s, -, rfl⟩ := Option.map_eq_some_iff.mp hbound
      exact ⟨s, string_eq_ok_iff.mpr rfl, (hstep s).mpr h⟩

/-- **An object is a map of strings if under each name there is the string that the map holds.** -/
lemma stringMap_obj_eq_ok_iff {es : List (String × Json)} (hnodup : (es.map Prod.fst).Nodup)
    {m : SortedMap String String} : stringMap origin (.ofJson (.obj es)) = .ok m ↔
      ∀ k, (m.get? k).map Json.str = (Json.obj es).member? k := by
  have hentries : decodeEntries origin.inner (Document.ofMembers es) .empty = .ok m ↔ _ :=
    decodeEntries_eq_ok_iff hnodup
  simp only [SortedMap.get?_empty, Option.map_none, Option.or_none] at hentries
  rw [← hentries, Document.ofJson, stringMap, bind_eq_ok_iff]
  constructor
  · rintro ⟨n, hn, hend⟩
    cases hend
    exact hn
  · exact fun hm => ⟨m, hm, rfl⟩

/-! ### The order of members -/

/-- **Order-free**: a decoder that makes the same of a value without repeated names and of the value
with its members in order. -/
def OrderFree (dec : Decoder α) : Prop :=
  ∀ v : Json, v.Distinct → ∀ origin x,
    dec origin (.ofJson v) = .ok x ↔ dec origin (.ofJson v.sorted) = .ok x

namespace OrderFree

/-- So is a decoder that refuses arrays and objects. -/
lemma of_refused (harr : ∀ origin items stop x, dec origin (.arr items stop) ≠ .ok x)
    (hobj : ∀ origin members stop x, dec origin (.obj members stop) ≠ .ok x) : OrderFree dec := by
  intro v _ origin x
  cases v with
  | arr items => exact iff_of_false (harr _ _ _ _) (harr _ _ _ _)
  | obj members => exact iff_of_false (hobj _ _ _ _) (hobj _ _ _ _)
  | _ => rfl

lemma bool : OrderFree Decode.bool := of_refused (fun _ _ _ _ => nofun) (fun _ _ _ _ => nofun)

lemma string : OrderFree Decode.string := of_refused (fun _ _ _ _ => nofun) (fun _ _ _ _ => nofun)

lemma int64 : OrderFree Decode.int64 := of_refused (fun _ _ _ _ => nofun) (fun _ _ _ _ => nofun)

lemma timestamp : OrderFree Decode.timestamp :=
  of_refused (fun _ _ _ _ => nofun) (fun _ _ _ _ => nofun)

/-- So is a decoder whose result is changed afterwards. -/
lemma map (h : OrderFree dec) (f : α → β) : OrderFree (fun origin d => f <$> dec origin d) := by
  intro v hv origin x
  rw [map_eq_ok_iff, map_eq_ok_iff]
  exact exists_congr fun a => and_congr_left fun _ => h v hv origin a

lemma optional (h : OrderFree dec) : OrderFree (Decode.optional dec) := by
  intro v hv origin x
  cases v with
  | null => rfl
  | _ => exact h.map some _ hv origin x

lemma list (h : OrderFree dec) : OrderFree (Decode.list dec) := by
  intro v hv origin xs
  cases v with
  | arr vs =>
    rw [Json.sorted_arr, list_arr_eq_ok_iff, list_arr_eq_ok_iff, List.forall₂_map_left_iff]
    have hitem : ∀ v ∈ vs, ∀ x, dec origin.inner (.ofJson v) = .ok x ↔
        dec origin.inner (.ofJson v.sorted) = .ok x := fun v hmem x => h v (hv.of_mem_arr hmem) _ x
    clear hv
    induction vs generalizing xs with
    | nil => simp
    | cons v vs ih =>
      rw [List.forall_mem_cons] at hitem
      cases xs with
      | nil => simp
      | cons x xs =>
        rw [List.forall₂_cons, List.forall₂_cons]
        exact and_congr (hitem.1 x) (ih xs hitem.2)
  | obj ms => exact iff_of_false nofun nofun
  | _ => rfl

lemma stringMap : OrderFree Decode.stringMap := by
  intro v hv origin m
  cases v with
  | obj es =>
    rw [Json.sorted_obj, stringMap_obj_eq_ok_iff hv.nodup,
      stringMap_obj_eq_ok_iff (Json.table es).keys_nodup]
    refine forall_congr' fun k => ?_
    rw [Json.member?_table]
    -- a string is in order as it is, and nothing else becomes one
    have hstr : ∀ s (v : Json), v.sorted = .str s ↔ v = .str s := by
      intro s v
      cases v <;> simp [Json.sorted]
    cases m.get? k with
    | none => simp [eq_comm]
    | some s => simp [eq_comm, hstr]
  | arr vs => exact iff_of_false (refuse_ne_ok _ _ _) (refuse_ne_ok _ _ _)
  | _ => rfl

end OrderFree

/-! ### Any value -/

/-- **Within**: at most so many arrays and objects lie inside each other. -/
inductive Within : Nat → Json → Prop
  /-- The absent value holds nothing. -/
  | null (n : Nat) : Within n .null
  /-- Nor does a truth value. -/
  | bool (n : Nat) (b : Bool) : Within n (.bool b)
  /-- Nor does a number. -/
  | num (n : Nat) (x : Json.Number) : Within n (.num x)
  /-- Nor does a string. -/
  | str (n : Nat) (s : String) : Within n (.str s)
  /-- An array lies around its items. -/
  | arr {n : Nat} {items : List Json} (h : ∀ v ∈ items, Within n v) : Within (n + 1) (.arr items)
  /-- An object lies around its members. -/
  | obj {n : Nat} {members : List (String × Json)} (h : ∀ m ∈ members, Within n m.2) :
      Within (n + 1) (.obj members)

/-- Items are read if each of them is. -/
lemma toItems_map {f : Json → Document} {P : Json → Prop} {vs ws : List Json}
    (hf : ∀ v ∈ vs, ∀ w, (f v).toJson = .ok w ↔ P v ∧ w = v) :
    Document.toItems (vs.map f) = .ok ws ↔ (∀ v ∈ vs, P v) ∧ ws = vs := by
  induction vs generalizing ws with
  | nil => simp [Document.toItems, eq_comm]
  | cons v vs ih =>
    obtain ⟨hv, hvs⟩ := List.forall_mem_cons.mp hf
    rw [List.map_cons, Document.toItems, bind_eq_ok_iff, List.forall_mem_cons]
    constructor
    · rintro ⟨w, hw, hrest⟩
      obtain ⟨us, hus, hend⟩ := bind_eq_ok_iff.mp hrest
      cases hend
      obtain ⟨hPv, rfl⟩ := (hv w).mp hw
      obtain ⟨hall, rfl⟩ := (ih hvs).mp hus
      exact ⟨⟨hPv, hall⟩, rfl⟩
    · rintro ⟨⟨hPv, hall⟩, rfl⟩
      exact ⟨v, (hv v).mpr ⟨hPv, rfl⟩, bind_eq_ok_iff.mpr ⟨vs, (ih hvs).mpr ⟨hall, rfl⟩, rfl⟩⟩

/-- So are members. -/
lemma toMembers_map {f : Json → Document} {P : Json → Prop} {ms ns : List (String × Json)}
    (hf : ∀ m ∈ ms, ∀ w, (f m.2).toJson = .ok w ↔ P m.2 ∧ w = m.2) :
    Document.toMembers (ms.map (fun m => (some m.1, f m.2))) = .ok ns ↔
      (∀ m ∈ ms, P m.2) ∧ ns = ms := by
  induction ms generalizing ns with
  | nil => simp [Document.toMembers, eq_comm]
  | cons m ms ih =>
    obtain ⟨k, v⟩ := m
    obtain ⟨hv, hms⟩ := List.forall_mem_cons.mp hf
    rw [List.map_cons, Document.toMembers, bind_eq_ok_iff, List.forall_mem_cons]
    constructor
    · rintro ⟨w, hw, hrest⟩
      obtain ⟨us, hus, hend⟩ := bind_eq_ok_iff.mp hrest
      cases hend
      obtain ⟨hPv, rfl⟩ := (hv w).mp hw
      obtain ⟨hall, rfl⟩ := (ih hms).mp hus
      exact ⟨⟨hPv, hall⟩, rfl⟩
    · rintro ⟨⟨hPv, hall⟩, rfl⟩
      exact ⟨v, (hv v).mpr ⟨hPv, rfl⟩, bind_eq_ok_iff.mpr ⟨ms, (ih hms).mpr ⟨hall, rfl⟩, rfl⟩⟩

/-- **A value in a text is read if it is not too deep.** -/
lemma toJson_truncate {n : Nat} {w : Json} :
    ((Document.ofJson v).truncate n).toJson = .ok w ↔ Within n v ∧ w = v := by
  induction v using Json.induction generalizing n w with
  | null => simp [Document.ofJson, Document.truncate, Document.toJson, Within.null, eq_comm]
  | bool b => simp [Document.ofJson, Document.truncate, Document.toJson, Within.bool, eq_comm]
  | num x => simp [Document.ofJson, Document.truncate, Document.toJson, Within.num, eq_comm]
  | str s => simp [Document.ofJson, Document.truncate, Document.toJson, Within.str, eq_comm]
  | arr items ih =>
    cases n with
    | zero => exact iff_of_false nofun (fun h => nomatch h.1)
    | succ n =>
      rw [Document.ofJson, Document.truncate, Document.toJson, bind_eq_ok_iff,
        Document.truncateItems_ofItems]
      constructor
      · rintro ⟨ws, hws, hend⟩
        cases hend
        obtain ⟨hall, rfl⟩ := (toItems_map fun v hv _ => ih v hv).mp hws
        exact ⟨.arr hall, rfl⟩
      · rintro ⟨hwithin, rfl⟩
        cases hwithin with
        | arr hall => exact ⟨items, (toItems_map fun v hv _ => ih v hv).mpr ⟨hall, rfl⟩, rfl⟩
  | obj members ih =>
    cases n with
    | zero => exact iff_of_false nofun (fun h => nomatch h.1)
    | succ n =>
      have hmembers : ∀ ns, Document.toMembers
          (members.map (fun m => (some m.1, (Document.ofJson m.2).truncate n))) = .ok ns ↔
            (∀ m ∈ members, Within n m.2) ∧ ns = members :=
        fun _ => toMembers_map (f := fun v => (Document.ofJson v).truncate n) fun m hm _ => ih m hm
      rw [Document.ofJson, Document.truncate, Document.toJson, bind_eq_ok_iff,
        Document.truncateMembers_ofMembers]
      constructor
      · rintro ⟨ns, hns, hend⟩
        cases hend
        obtain ⟨hall, rfl⟩ := (hmembers ns).mp hns
        exact ⟨.obj hall, rfl⟩
      · rintro ⟨hwithin, rfl⟩
        cases hwithin with
        | obj hall => exact ⟨members, (hmembers members).mpr ⟨hall, rfl⟩, rfl⟩

/-- Whether a value is too deep does not depend on the order of its members. -/
lemma within_sorted {n : Nat} (hv : v.Distinct) : Within n v.sorted ↔ Within n v := by
  induction hv generalizing n with
  | @arr items _ ih =>
    rw [Json.sorted_arr]
    constructor
    · rintro (_ | _ | _ | _ | hall)
      exact .arr fun v hv => (ih v hv).mp (hall _ (List.mem_map_of_mem hv))
    · rintro (_ | _ | _ | _ | hall)
      refine .arr fun w hw => ?_
      obtain ⟨v, hv, rfl⟩ := List.mem_map.mp hw
      exact (ih v hv).mpr (hall v hv)
  | @obj members hnodup _ ih =>
    rw [Json.sorted_obj]
    constructor
    · rintro (_ | _ | _ | _ | _ | hall)
      refine .obj fun m hm => (ih m hm).mp (hall (m.1, m.2.sorted) ?_)
      rw [SortedMap.mem_entries_iff, Json.get?_table, Json.member?_of_mem hnodup hm,
        Option.map_some]
    · rintro (_ | _ | _ | _ | _ | hall)
      refine .obj fun m hm => ?_
      obtain ⟨k, w⟩ := m
      rw [SortedMap.mem_entries_iff, Json.get?_table] at hm
      obtain ⟨v, hv, rfl⟩ := Option.map_eq_some_iff.mp hm
      have hmem := Json.mem_of_member? hv
      exact (ih _ hmem).mpr (hall _ hmem)
  | _ => rfl

/-- A value is read as it is. -/
lemma toJson_ofJson (v : Json) : (Document.ofJson v).toJson = .ok v := by
  induction v using Json.induction with
  | arr items ih =>
    have hitem : ∀ v ∈ items, ∀ w, (Document.ofJson v).toJson = .ok w ↔ True ∧ w = v := by
      intro v hv w
      rw [ih v hv, Except.ok.injEq, true_and, eq_comm]
    rw [Document.ofJson, Document.toJson, bind_eq_ok_iff, Document.ofItems_eq_map]
    exact ⟨items, (toItems_map hitem).mpr ⟨fun _ _ => trivial, rfl⟩, rfl⟩
  | obj members ih =>
    have hmember : ∀ m ∈ members, ∀ w, (Document.ofJson m.2).toJson = .ok w ↔ True ∧ w = m.2 := by
      intro m hm w
      rw [ih m hm, Except.ok.injEq, true_and, eq_comm]
    rw [Document.ofJson, Document.toJson, bind_eq_ok_iff, Document.ofMembers_eq_map]
    refine ⟨members, ?_, rfl⟩
    exact (toMembers_map (P := fun _ => True) hmember).mpr ⟨fun _ _ => trivial, rfl⟩
  | _ => rfl

lemma liftFault_eq_ok_iff {r : Except Json.Fault α} {x : α} : liftFault r = .ok x ↔ r = .ok x := by
  cases r with
  | error f => exact iff_of_false nofun nofun
  | ok y => simp [liftFault]

lemma OrderFree.json : OrderFree Decode.json := by
  intro v hv origin x
  rw [Decode.json, Decode.json, map_eq_ok_iff, map_eq_ok_iff]
  cases origin with
  | text room =>
    simp only [anything, liftFault_eq_ok_iff, toJson_truncate, within_sorted hv]
    constructor
    · rintro ⟨w, ⟨hwithin, rfl⟩, rfl⟩
      exact ⟨_, ⟨hwithin, rfl⟩, w.sorted_sorted⟩
    · rintro ⟨w, ⟨hwithin, rfl⟩, rfl⟩
      exact ⟨v, ⟨hwithin, rfl⟩, v.sorted_sorted.symm⟩
  | value =>
    simp only [anything, liftFault_eq_ok_iff, toJson_ofJson, Except.ok.injEq]
    simp [Json.sorted_sorted]

/-! ### Objects with known fields -/

namespace OrderFree

variable {slots : List (Slot σ)} {start : σ} {name : String}

lemma nil : ∀ slot ∈ ([] : List (Slot σ)), OrderFree slot.fill := List.forall_mem_nil _

/-- A slot is decoded so if its values are. -/
lemma cons {set : α → σ → σ} {n : String} {r c : Bool} (h : OrderFree dec)
    (hrest : ∀ slot ∈ slots, OrderFree slot.fill) :
    ∀ slot ∈ (⟨n, fun origin d => set <$> dec origin d, r, c⟩ : Slot σ) :: slots,
      OrderFree slot.fill :=
  List.forall_mem_cons.mpr ⟨h.map set, hrest⟩

/-- An object is decoded so if its fields are independent and are decoded so. -/
lemma fillObject (hind : Slot.Independent slots) (hslots : ∀ slot ∈ slots, OrderFree slot.fill)
    {es : List (String × Json)} (hes : (Json.obj es).Distinct) {once : Bool} {x : σ} :
    Decode.fillObject slots once ignored origin (Document.ofMembers es) none start = .ok x ↔
      Decode.fillObject slots once ignored origin (Document.ofMembers (Json.table es).entries) none
        start = .ok x := by
  rw [Slot.fillObject_iff_settles hind hes.nodup,
    Slot.fillObject_iff_settles hind (Json.table es).keys_nodup]
  simp only [Json.member?_table, Option.isSome_map]
  refine and_congr_left fun _ => ?_
  -- each slot takes the same of the two members with its name
  have htake : ∀ slot ∈ slots, ∀ g,
      slot.take origin.inner ((Json.obj es).member? slot.name) = .ok g ↔
        slot.take origin.inner ((Json.obj (Json.table es).entries).member? slot.name) = .ok g := by
    intro slot hslot g
    rw [Json.member?_table]
    cases hv : (Json.obj es).member? slot.name with
    | none => rfl
    | some v => exact hslots slot hslot v (hes.of_member? hv) _ g
  constructor
  · exact Slot.settles_of_alike hind fun slot hslot => .inl fun g => (htake slot hslot g).mp
  · exact Slot.settles_of_alike hind fun slot hslot => .inl fun g => (htake slot hslot g).mpr

/-- So is an array of the values of its fields. -/
lemma fillItems (hslots : ∀ slot ∈ slots, OrderFree slot.fill) {want : String} {n : Nat}
    {vs : List Json} (hvs : ∀ v ∈ vs, v.Distinct) {x : σ} :
    Decode.fillItems want origin none slots n (Document.ofItems vs) start = .ok x ↔
      Decode.fillItems want origin none slots n (Document.ofItems (vs.map Json.sorted)) start =
        .ok x := by
  induction slots generalizing vs n start with
  | nil =>
    cases vs with
    | nil => rfl
    | cons v vs =>
      cases origin with
      | text room => exact iff_of_false nofun nofun
      | value => exact iff_of_false nofun nofun
  | cons slot slots ih =>
    obtain ⟨hslot, hslots⟩ := List.forall_mem_cons.mp hslots
    cases vs with
    | nil => rfl
    | cons v vs =>
      obtain ⟨hv, hvs⟩ := List.forall_mem_cons.mp hvs
      rw [List.map_cons, Document.ofItems, Document.ofItems, Decode.fillItems, Decode.fillItems,
        bind_eq_ok_iff, bind_eq_ok_iff]
      exact exists_congr fun g => and_congr (hslot v hv origin g) (ih hslots hvs)

/-- **A record is decoded so** if its fields are independent and are decoded so. -/
lemma record (hind : Slot.Independent slots) (hslots : ∀ slot ∈ slots, OrderFree slot.fill) :
    OrderFree (Decode.record name slots start) := by
  intro v hv origin x
  cases v with
  | obj es =>
    rw [Json.sorted_obj]
    exact fillObject hind hslots hv
  | arr vs =>
    rw [Json.sorted_arr]
    exact fillItems hslots fun v hmem => hv.of_mem_arr hmem
  | _ => rfl

/-- **So is an object without an array form.** -/
lemma keyed (hind : Slot.Independent slots) (hslots : ∀ slot ∈ slots, OrderFree slot.fill) :
    OrderFree (Decode.keyed name slots start) := by
  intro v hv origin x
  cases v with
  | obj es =>
    rw [Json.sorted_obj]
    exact fillObject hind hslots hv
  | arr vs => exact iff_of_false (refuse_ne_ok _ _ _) (refuse_ne_ok _ _ _)
  | _ => rfl

end OrderFree

/-! ### Ways to write a value -/

/-- **Decodes**: the value is decoded to this in each way to write it. -/
def Decodes (dec : Decoder α) (origin : Origin) (v : Json) (x : α) : Prop :=
  ∀ w : Json, w.Writes v → dec origin (.ofJson w) = .ok x

/-- It is enough to look at the value with its members in order. -/
lemma OrderFree.decodes_iff (h : OrderFree dec) {x : α} :
    Decodes dec origin v x ↔ dec origin (.ofJson v.sorted) = .ok x := by
  constructor
  · exact fun hv => hv _ v.writes_sorted
  · rintro hv w ⟨hdistinct, hsorted⟩
    rw [h w hdistinct, hsorted, hv]

/-- A text that is read as a way to write the value is decoded to the same. -/
lemma Decodes.ofText {x : α} (h : Decodes dec (.text depthLimit) v x) {text : String} {w : Json}
    (htext : Document.read text = (.ofJson w, none)) (hw : w.Writes v) :
    Decode.ofText dec text = .ok x := by
  rw [Decode.ofText, htext]
  exact bind_eq_ok_iff.mpr ⟨x, h w hw, rfl⟩

end Decode

/-! ### Machines and classes -/

open Decode Decode.Slot

lemma OwnerReference.independent : Independent slots := by
  simp [Independent, slots, Slot.optional, Separate.of_set]

lemma OwnerReference.orderFree : OrderFree decode :=
  .keyed independent <|
    .cons (.optional .string) <| .cons (.optional .bool) <| .cons (.optional .bool) <|
      .cons (.optional .string) <| .cons (.optional .string) <| .cons (.optional .string) .nil

lemma ManagedFields.independent : Independent slots := by
  simp [Independent, slots, Slot.optional, Separate.of_set]

lemma ManagedFields.orderFree : OrderFree decode :=
  .keyed independent <|
    .cons (.optional .string) <| .cons (.optional .string) <| .cons (.optional .json) <|
      .cons (.optional .string) <| .cons (.optional .string) <| .cons (.optional .string) <|
      .cons (.optional .timestamp) .nil

lemma ObjectMeta.independent : Independent slots := by
  simp [Independent, slots, Slot.optional, Separate.of_set]

lemma ObjectMeta.orderFree : OrderFree decode :=
  .keyed independent <|
    .cons (.optional .stringMap) <| .cons (.optional .timestamp) <| .cons (.optional .int64) <|
      .cons (.optional .timestamp) <| .cons (.optional (.list .string)) <|
      .cons (.optional .string) <| .cons (.optional .int64) <| .cons (.optional .stringMap) <|
      .cons (.optional (.list ManagedFields.orderFree)) <| .cons (.optional .string) <|
      .cons (.optional .string) <| .cons (.optional (.list OwnerReference.orderFree)) <|
      .cons (.optional .string) <| .cons (.optional .string) <| .cons (.optional .string) .nil

lemma CpuInformation.independent : Independent slots := by
  simp [Independent, slots, Slot.optional, Separate.of_set]

lemma CpuInformation.orderFree : OrderFree decode :=
  .record independent <| .cons (.optional .string) <| .cons (.optional .string) .nil

lemma SystemInformation.independent : Independent slots := by
  simp [Independent, slots, Slot.optional, Separate.of_set]

lemma SystemInformation.orderFree : OrderFree decode :=
  .record independent <|
    .cons (.optional .string) <| .cons (.optional .string) <| .cons (.optional .string) <|
      .cons (.optional .string) <| .cons (.optional .string) <| .cons (.optional .string) .nil

lemma MachineSpec.independent : Independent slots := by
  simp [Independent, slots, Slot.optional, Separate.of_set]

lemma MachineSpec.orderFree : OrderFree decode :=
  .record independent <|
    .cons .bool <| .cons (.optional CpuInformation.orderFree) <|
      .cons (.optional SystemInformation.orderFree) .nil

lemma MachineStatus.independent : Independent slots := List.pairwise_singleton _ _

lemma MachineStatus.orderFree : OrderFree decode :=
  .record independent <| .cons .bool .nil

lemma Machine.independent : Independent slots := by
  simp [Independent, slots, Slot.mandatory, Slot.positional, Separate.of_set]

/-- **Machines are decoded whatever the order of the members.** -/
lemma Machine.orderFree : OrderFree decode :=
  .record independent <|
    .cons ObjectMeta.orderFree <| .cons MachineSpec.orderFree <|
      .cons (.optional MachineStatus.orderFree) .nil

lemma Qualifiers.independent : Independent slots := by
  simp [Independent, slots, Slot.optional, Separate.of_set]

lemma Qualifiers.orderFree : OrderFree decode :=
  .record independent <|
    .cons (.list CpuInformation.orderFree) <| .cons (.list SystemInformation.orderFree) <|
      .cons (.list .stringMap) .nil

lemma MachineClassSpec.independent : Independent slots := List.pairwise_singleton _ _

lemma MachineClassSpec.orderFree : OrderFree decode :=
  .record independent <| .cons Qualifiers.orderFree .nil

lemma MachineClassStatus.independent : Independent slots := by
  simp [Independent, slots, Slot.optional, Separate.of_set]

lemma MachineClassStatus.orderFree : OrderFree decode :=
  .record independent <| .cons (.list .string) <| .cons (.list .string) .nil

lemma MachineClass.independent : Independent slots := by
  simp [Independent, slots, Slot.mandatory, Slot.positional, Separate.of_set]

/-- **So are classes.** -/
lemma MachineClass.orderFree : OrderFree decode :=
  .record independent <|
    .cons ObjectMeta.orderFree <| .cons MachineClassSpec.orderFree <|
      .cons (.optional MachineClassStatus.orderFree) .nil

end BareMetal
