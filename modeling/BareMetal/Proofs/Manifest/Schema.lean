import BareMetal.Manifest.Definition
import BareMetal.Proofs.Json.Order

/-!
What schemas mean: which values they admit, and what an interface server that is given them makes
of the values that it stores.

* `Schema.admits`: whether a value is what the schema says, as far as the schema says anything:
  members it does not name may be there and hold anything;
* `Schema.fill`: the value with the defaults of the members that are missing;
* `Schema.prune`: the value without the members that the schema does not name; `Schema.pruneInside`
  does so in the members that it names, as a server does with whole objects;
* `Schema.Tidied`: what a server may make of a value;
* `Schema.sound`: a schema whose defaults are what it says; `admits_of_tidied`: **what it admits it
  admits ever after**.
-/

namespace BareMetal

namespace Json

variable {k l : String} {v : Json} {ms : List (String × Json)} {f : Json → Json}

/-! ### Changing members -/

/-- The members with those of a name changed. -/
def changeMember (ms : List (String × Json)) (k : String) (f : Json → Json) :
    List (String × Json) :=
  ms.map (fun m => if m.1 = k then (k, f m.2) else m)

/-- The member that counts is changed with the others of its name. -/
lemma member?_changeMember : (obj (changeMember ms k f)).member? l =
    if k = l then ((obj ms).member? l).map f else (obj ms).member? l := by
  induction ms with
  | nil => simp [changeMember]
  | cons m ms ih =>
    obtain ⟨n, v⟩ := m
    have hcons : changeMember ((n, v) :: ms) k f =
        (if n = k then (k, f v) else (n, v)) :: changeMember ms k f := rfl
    by_cases hn : n = k
    · subst hn
      rw [hcons, if_pos rfl, member?_cons, member?_cons, ih]
      by_cases hl : n = l
      · simp only [hl, if_true]
        cases (obj ms).member? l <;> rfl
      · simp [hl]
    · rw [hcons, if_neg hn, member?_cons, member?_cons, ih]
      by_cases hk : k = l
      · simp [hk, show n ≠ l from hk ▸ hn]
      · simp [hk]

/-- The members with a value under a name under which there is none. -/
def supplyMember (ms : List (String × Json)) (k : String) : Option Json → List (String × Json)
  | none => ms
  | some d => if ((obj ms).member? k).isSome then ms else ms ++ [(k, d)]

lemma member?_supplyMember (o : Option Json) : (obj (supplyMember ms k o)).member? l =
    if k = l then ((obj ms).member? l).or o else (obj ms).member? l := by
  cases o with
  | none => simp [supplyMember]
  | some d =>
    have happend : (obj (ms ++ [(k, d)])).member? l =
        if k = l then some d else (obj ms).member? l := by
      by_cases hl : k = l <;> simp [member?, hl]
    rw [supplyMember]
    by_cases hk : k = l
    · subst hk
      cases hv : (obj ms).member? k with
      | none => simp [happend]
      | some v => simp [hv]
    · split <;> simp [happend, hk]

end Json

namespace Schema

/-! ### The values of a schema -/

/-- What a schema says besides the shape of the values. -/
def remarks : Schema → Remarks
  | .flag r => r
  | .text r => r
  | .list r _ => r
  | .dictionary r _ => r
  | .record r _ _ => r

mutual

/-- Whether a value has the shape. Of several members with one name the last counts. -/
def hasShape : Schema → Json → Bool
  | .flag _, .bool _ => true
  | .text _, .str _ => true
  | .list _ s, .arr vs => vs.all (fun v => s.remarks.nullable && v.isNull || s.hasShape v)
  | .dictionary _ s, .obj ms =>
    ms.all (fun m => ((Json.obj ms).member? m.1).all
      (fun v => s.remarks.nullable && v.isNull || s.hasShape v))
  | .record _ required properties, .obj ms =>
    required.all (fun k => ((Json.obj ms).member? k).isSome) && haveShape properties ms
  | _, _ => false

/-- Whether the members that are there have their shapes. -/
def haveShape : List (String × Schema) → List (String × Json) → Bool
  | [], _ => true
  | (k, s) :: rest, ms =>
    ((Json.obj ms).member? k).all (fun v => s.remarks.nullable && v.isNull || s.hasShape v) &&
      haveShape rest ms

end

/-- Whether a value is what the schema says: it has the shape, or it is null where that may be. -/
def admits (s : Schema) (v : Json) : Bool :=
  s.remarks.nullable && v.isNull || s.hasShape v

/-! ### What a server makes of them -/

mutual

/-- The value with the defaults of the members that are missing. -/
def fill : Schema → Json → Json
  | .list _ s, .arr vs => .arr (vs.map s.fill)
  | .dictionary _ s, .obj ms => .obj (ms.map (fun m => (m.1, s.fill m.2)))
  | .record _ _ properties, .obj ms => .obj (fillMembers properties ms)
  | _, v => v

/-- The members with their defaults, each of them filled in turn. -/
def fillMembers : List (String × Schema) → List (String × Json) → List (String × Json)
  | [], ms => ms
  | (k, s) :: rest, ms =>
    fillMembers rest (Json.changeMember (Json.supplyMember ms k s.remarks.default) k s.fill)

end

/-- The members that a schema names. -/
def listed (properties : List (String × Schema)) (ms : List (String × Json)) :
    List (String × Json) :=
  ms.filter (fun m => (properties.map Prod.fst).contains m.1)

mutual

/-- The value without the members that the schema does not name. -/
def prune : Schema → Json → Json
  | .list _ s, .arr vs => .arr (vs.map s.prune)
  | .dictionary _ s, .obj ms => .obj (ms.map (fun m => (m.1, s.prune m.2)))
  | .record _ _ properties, .obj ms => .obj (pruneMembers properties (listed properties ms))
  | _, v => v

/-- The members that the schema names, each pruned in turn. -/
def pruneMembers : List (String × Schema) → List (String × Json) → List (String × Json)
  | [], ms => ms
  | (k, s) :: rest, ms => pruneMembers rest (Json.changeMember ms k s.prune)

end

/-- The value with all its members, those that the schema names without what it does not name. -/
def pruneInside : Schema → Json → Json
  | .record _ _ properties, .obj ms => .obj (pruneMembers properties ms)
  | _, v => v

/-- **Tidied**: what a server may make of a whole object: it fills in defaults and removes what is
not named inside, as often as it likes. -/
inductive Tidied (s : Schema) (v : Json) : Json → Prop
  /-- Nothing is done. -/
  | refl : Tidied s v v
  /-- Defaults are filled in. -/
  | fill {w : Json} (h : Tidied s v w) : Tidied s v (s.fill w)
  /-- What is not named is removed. -/
  | prune {w : Json} (h : Tidied s v w) : Tidied s v (s.pruneInside w)

/-! ### What holds of the values -/

variable {s t : Schema} {r : Remarks} {required : List String} {props : List (String × Schema)}
  {v w : Json} {vs : List Json} {ms : List (String × Json)} {k : String}

/-- What holds of a schema if it holds of its parts holds of every schema. -/
@[elab_as_elim]
lemma induction {P : Schema → Prop} (flag : ∀ r, P (.flag r)) (text : ∀ r, P (.text r))
    (list : ∀ r s, P s → P (.list r s)) (dictionary : ∀ r s, P s → P (.dictionary r s))
    (record : ∀ r required props, (∀ p ∈ props, P p.2) → P (.record r required props))
    (s : Schema) : P s := by
  -- the recursor has cases for lists of properties and for single ones too
  refine Schema.rec (motive_1 := P) (motive_2 := fun props => ∀ p ∈ props, P p.2)
    (motive_3 := fun p => P p.2) flag text list dictionary record ?_ ?_ ?_ s
  · exact fun p hp => nomatch hp
  · exact fun p props hp hprops => List.forall_mem_cons.mpr ⟨hp, hprops⟩
  · exact fun k s hs => hs

/-- Null may be there, or the shape has to be. -/
lemma admits_iff :
    s.admits v = true ↔ s.remarks.nullable = true ∧ v = .null ∨ s.hasShape v = true := by
  have hnull : v.isNull = true ↔ v = .null := by cases v <;> simp [Json.isNull]
  rw [admits, Bool.or_eq_true, Bool.and_eq_true, hnull]

/-- An array of values that the schema of the items admits. -/
lemma hasShape_list : (list r s).hasShape (.arr vs) = true ↔ ∀ v ∈ vs, s.admits v = true := by
  rw [hasShape, List.all_eq_true]
  rfl

/-- An object of values that the schema of the values admits. -/
lemma hasShape_dictionary : (dictionary r s).hasShape (.obj ms) = true ↔
    ∀ k v, (Json.obj ms).member? k = some v → s.admits v = true := by
  rw [hasShape, List.all_eq_true]
  constructor
  · intro h k v hv
    have hk := h (k, v) (Json.mem_of_member? hv)
    rwa [hv] at hk
  · intro h m hm
    rw [Option.all_eq_true]
    exact fun v hv => h _ v hv

lemma haveShape_iff : haveShape props ms = true ↔
    ∀ p ∈ props, ∀ v, (Json.obj ms).member? p.1 = some v → p.2.admits v = true := by
  induction props with
  | nil => simp [haveShape]
  | cons p props ih =>
    obtain ⟨k, s⟩ := p
    rw [haveShape, Bool.and_eq_true, ih, List.forall_mem_cons, Option.all_eq_true]
    rfl

/-- An object with the members that have to be there, each of those that are named as its schema
admits it. -/
lemma hasShape_record : (record r required props).hasShape (.obj ms) = true ↔
    (∀ k ∈ required, ((Json.obj ms).member? k).isSome = true) ∧
      ∀ p ∈ props, ∀ v, (Json.obj ms).member? p.1 = some v → p.2.admits v = true := by
  rw [hasShape, Bool.and_eq_true, List.all_eq_true, haveShape_iff]

/-! ### What is found afterwards -/

/-- A member that is named is filled, or is the default if it was missing; the others stay. -/
lemma member?_fillMembers (hnames : (props.map Prod.fst).Nodup) :
    (∀ p ∈ props, (Json.obj (fillMembers props ms)).member? p.1 =
      (((Json.obj ms).member? p.1).or p.2.remarks.default).map p.2.fill) ∧
    ∀ k ∉ props.map Prod.fst,
      (Json.obj (fillMembers props ms)).member? k = (Json.obj ms).member? k := by
  induction props generalizing ms with
  | nil => simp [fillMembers]
  | cons p props ih =>
    obtain ⟨l, s⟩ := p
    obtain ⟨hl, hnames⟩ : l ∉ props.map Prod.fst ∧ _ := List.nodup_cons.mp hnames
    obtain ⟨hlisted, hothers⟩ :=
      @ih (Json.changeMember (Json.supplyMember ms l s.remarks.default) l s.fill) hnames
    simp only [fillMembers]
    constructor
    · refine List.forall_mem_cons.mpr ⟨?_, fun p hp => ?_⟩
      · rw [hothers l hl, Json.member?_changeMember, if_pos rfl, Json.member?_supplyMember,
          if_pos rfl]
      · have hne : l ≠ p.1 := by
          rintro rfl
          exact hl (List.mem_map_of_mem hp)
        rw [hlisted p hp, Json.member?_changeMember, if_neg hne, Json.member?_supplyMember,
          if_neg hne]
    · intro k hk
      rw [List.map_cons, List.mem_cons, not_or] at hk
      rw [hothers k hk.2, Json.member?_changeMember, if_neg (Ne.symm hk.1),
        Json.member?_supplyMember, if_neg (Ne.symm hk.1)]

/-- A member that is named is pruned; the others stay. -/
lemma member?_pruneMembers (hnames : (props.map Prod.fst).Nodup) :
    (∀ p ∈ props, (Json.obj (pruneMembers props ms)).member? p.1 =
      ((Json.obj ms).member? p.1).map p.2.prune) ∧
    ∀ k ∉ props.map Prod.fst,
      (Json.obj (pruneMembers props ms)).member? k = (Json.obj ms).member? k := by
  induction props generalizing ms with
  | nil => simp [pruneMembers]
  | cons p props ih =>
    obtain ⟨l, s⟩ := p
    obtain ⟨hl, hnames⟩ : l ∉ props.map Prod.fst ∧ _ := List.nodup_cons.mp hnames
    obtain ⟨hlisted, hothers⟩ := @ih (Json.changeMember ms l s.prune) hnames
    simp only [pruneMembers]
    constructor
    · refine List.forall_mem_cons.mpr ⟨?_, fun p hp => ?_⟩
      · rw [hothers l hl, Json.member?_changeMember, if_pos rfl]
      · have hne : l ≠ p.1 := by
          rintro rfl
          exact hl (List.mem_map_of_mem hp)
        rw [hlisted p hp, Json.member?_changeMember, if_neg hne]
    · intro k hk
      rw [List.map_cons, List.mem_cons, not_or] at hk
      rw [hothers k hk.2, Json.member?_changeMember, if_neg (Ne.symm hk.1)]

/-- What is there stays when defaults are filled in. -/
lemma isSome_fillMembers (hnames : (props.map Prod.fst).Nodup)
    (h : ((Json.obj ms).member? k).isSome = true) :
    ((Json.obj (fillMembers props ms)).member? k).isSome = true := by
  by_cases hk : k ∈ props.map Prod.fst
  · obtain ⟨p, hp, rfl⟩ := List.mem_map.mp hk
    rw [(member?_fillMembers hnames).1 p hp, Option.isSome_map, Option.isSome_or, h, Bool.true_or]
  · rwa [(member?_fillMembers hnames).2 k hk]

/-- So it does when it is pruned. -/
lemma isSome_pruneMembers (hnames : (props.map Prod.fst).Nodup)
    (h : ((Json.obj ms).member? k).isSome = true) :
    ((Json.obj (pruneMembers props ms)).member? k).isSome = true := by
  by_cases hk : k ∈ props.map Prod.fst
  · obtain ⟨p, hp, rfl⟩ := List.mem_map.mp hk
    rwa [(member?_pruneMembers hnames).1 p hp, Option.isSome_map]
  · rwa [(member?_pruneMembers hnames).2 k hk]

/-- The members that are named stay. -/
lemma member?_listed (hk : k ∈ props.map Prod.fst) :
    (Json.obj (listed props ms)).member? k = (Json.obj ms).member? k := by
  have hkeep : ∀ m : String × Json,
      decide ((props.map Prod.fst).contains m.1 = true ∧ (m.1 == k) = true) = (m.1 == k) := by
    intro m
    by_cases hm : m.1 = k
    · simp [hm, hk]
    · simp [hm]
  simp only [Json.member?, listed, ← List.filter_reverse, List.find?_filter, hkeep]

/-- Each value of an object is changed under its name. -/
lemma member?_map {f : Json → Json} : (Json.obj (ms.map (fun m => (m.1, f m.2)))).member? k =
    ((Json.obj ms).member? k).map f := by
  simp only [Json.member?, ← List.map_reverse, List.find?_map, Option.map_map]
  rfl

/-! ### What stays admitted -/

mutual

/-- Whether a schema makes sense: no name is repeated, each default is what its schema says, and
what has to be there is named. -/
def sound : Schema → Bool
  | .flag _ => true
  | .text _ => true
  | .list _ s => s.sound
  | .dictionary _ s => s.sound
  | .record _ required props =>
    decide (props.map Prod.fst).Nodup && required.all (props.map Prod.fst).contains &&
      propertiesSound props

/-- Whether the schemas of members make sense. -/
def propertiesSound : List (String × Schema) → Bool
  | [] => true
  | (_, s) :: rest => s.remarks.default.all s.admits && s.sound && propertiesSound rest

end

lemma propertiesSound_iff : propertiesSound props = true ↔
    ∀ p ∈ props, (∀ d, p.2.remarks.default = some d → p.2.admits d = true) ∧ p.2.sound = true := by
  induction props with
  | nil => simp [propertiesSound]
  | cons p props ih =>
    obtain ⟨k, s⟩ := p
    rw [propertiesSound, Bool.and_eq_true, Bool.and_eq_true, ih, List.forall_mem_cons,
      Option.all_eq_true]

lemma sound_record : (record r required props).sound = true ↔
    (props.map Prod.fst).Nodup ∧ (∀ k ∈ required, k ∈ props.map Prod.fst) ∧
      ∀ p ∈ props, (∀ d, p.2.remarks.default = some d → p.2.admits d = true) ∧
        p.2.sound = true := by
  rw [sound, Bool.and_eq_true, Bool.and_eq_true, propertiesSound_iff, decide_eq_true_iff,
    List.all_eq_true, and_assoc]
  simp only [List.contains_iff_mem]

lemma fill_null (s : Schema) : s.fill .null = .null := by cases s <;> rfl

lemma prune_null (s : Schema) : s.prune .null = .null := by cases s <;> rfl

/-- What keeps the shape keeps what is admitted. -/
lemma admits_of_keeps {f : Json → Json} (hnull : f .null = .null)
    (hkeep : ∀ v, s.hasShape v = true → s.hasShape (f v) = true) (h : s.admits v = true) :
    s.admits (f v) = true := by
  rw [admits_iff] at h ⊢
  rcases h with ⟨hnullable, rfl⟩ | hshape
  · exact .inl ⟨hnullable, hnull⟩
  · exact .inr (hkeep v hshape)

/-- An array keeps its shape if its items stay admitted. -/
lemma hasShape_map {f : Json → Json} (hf : ∀ v, s.admits v = true → s.admits (f v) = true)
    (h : (list r s).hasShape (.arr vs) = true) : (list r s).hasShape (.arr (vs.map f)) = true := by
  rw [hasShape_list, List.forall_mem_map]
  exact fun v hv => hf v (hasShape_list.mp h v hv)

/-- So does an object with values of one kind. -/
lemma hasShape_mapMembers {f : Json → Json} (hf : ∀ v, s.admits v = true → s.admits (f v) = true)
    (h : (dictionary r s).hasShape (.obj ms) = true) :
    (dictionary r s).hasShape (.obj (ms.map (fun m => (m.1, f m.2)))) = true := by
  rw [hasShape_dictionary]
  intro k w hw
  rw [member?_map] at hw
  obtain ⟨v, hv, rfl⟩ := Option.map_eq_some_iff.mp hw
  exact hf v (hasShape_dictionary.mp h k v hv)

/-- **Defaults keep the shape.** -/
lemma hasShape_fill (hs : s.sound = true) (h : s.hasShape v = true) :
    s.hasShape (s.fill v) = true := by
  induction s using Schema.induction generalizing v with
  | flag r => cases v <;> exact h
  | text r => cases v <;> exact h
  | list r s ih =>
    cases v with
    | arr vs => exact hasShape_map (fun _ => admits_of_keeps s.fill_null fun _ => ih hs) h
    | _ => cases h
  | dictionary r s ih =>
    cases v with
    | obj ms => exact hasShape_mapMembers (fun _ => admits_of_keeps s.fill_null fun _ => ih hs) h
    | _ => cases h
  | record r required props ih =>
    cases v with
    | obj ms =>
      obtain ⟨hnames, -, hprops⟩ := sound_record.mp hs
      obtain ⟨hthere, hshapes⟩ := hasShape_record.mp h
      rw [fill, hasShape_record]
      constructor
      · exact fun k hk => isSome_fillMembers hnames (hthere k hk)
      · intro p hp w hw
        rw [(member?_fillMembers hnames).1 p hp] at hw
        obtain ⟨v, hv, rfl⟩ := Option.map_eq_some_iff.mp hw
        have hadmits : p.2.admits v = true := by
          rcases Option.or_eq_some_iff.mp hv with hv | ⟨-, hv⟩
          · exact hshapes p hp v hv
          · exact (hprops p hp).1 v hv
        exact admits_of_keeps p.2.fill_null (fun _ => ih p hp (hprops p hp).2) hadmits
    | _ => cases h

/-- Members that are pruned keep their shapes. -/
lemma hasShape_pruneMembers {ns : List (String × Json)}
    (hs : (record r required props).sound = true)
    (ih : ∀ p ∈ props, ∀ v, p.2.sound = true → p.2.hasShape v = true →
      p.2.hasShape (p.2.prune v) = true)
    (h : (record r required props).hasShape (.obj ms) = true)
    (hsame : ∀ k ∈ props.map Prod.fst, (Json.obj ns).member? k = (Json.obj ms).member? k) :
    (record r required props).hasShape (.obj (pruneMembers props ns)) = true := by
  obtain ⟨hnames, hrequired, hprops⟩ := sound_record.mp hs
  obtain ⟨hthere, hshapes⟩ := hasShape_record.mp h
  rw [hasShape_record]
  constructor
  · intro k hk
    refine isSome_pruneMembers hnames ?_
    rw [hsame k (hrequired k hk), hthere k hk]
  · intro p hp w hw
    rw [(member?_pruneMembers hnames).1 p hp, hsame _ (List.mem_map_of_mem hp)] at hw
    obtain ⟨v, hv, rfl⟩ := Option.map_eq_some_iff.mp hw
    exact admits_of_keeps p.2.prune_null (fun v => ih p hp v (hprops p hp).2) (hshapes p hp v hv)

/-- **So does pruning.** -/
lemma hasShape_prune (hs : s.sound = true) (h : s.hasShape v = true) :
    s.hasShape (s.prune v) = true := by
  induction s using Schema.induction generalizing v with
  | flag r => cases v <;> exact h
  | text r => cases v <;> exact h
  | list r s ih =>
    cases v with
    | arr vs => exact hasShape_map (fun _ => admits_of_keeps s.prune_null fun _ => ih hs) h
    | _ => cases h
  | dictionary r s ih =>
    cases v with
    | obj ms => exact hasShape_mapMembers (fun _ => admits_of_keeps s.prune_null fun _ => ih hs) h
    | _ => cases h
  | record r required props ih =>
    cases v with
    | obj ms =>
      rw [prune]
      exact hasShape_pruneMembers hs (fun p hp v => ih p hp (v := v)) h
        fun k hk => member?_listed hk
    | _ => cases h

lemma hasShape_pruneInside (hs : s.sound = true) (h : s.hasShape v = true) :
    s.hasShape (s.pruneInside v) = true := by
  cases s with
  | record r required props =>
    cases v with
    | obj ms => exact hasShape_pruneMembers hs (fun _ _ _ => hasShape_prune) h fun _ _ => rfl
    | _ => cases h
  | _ => cases v <;> exact h

/-- **What a schema admits it admits ever after**, whatever a server makes of it. -/
lemma admits_of_tidied (hs : s.sound = true) (h : s.admits v = true) (hw : Tidied s v w) :
    s.admits w = true := by
  induction hw with
  | refl => exact h
  | fill _ ih => exact admits_of_keeps s.fill_null (fun _ => hasShape_fill hs) ih
  | prune _ ih =>
    have hnull : s.pruneInside .null = .null := by cases s <;> rfl
    exact admits_of_keeps hnull (fun _ => hasShape_pruneInside hs) ih

end Schema

end BareMetal
