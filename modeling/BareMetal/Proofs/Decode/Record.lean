import BareMetal.Proofs.Decode

/-!
Records slot by slot: what is decoded of an object whose fields do not touch each other.

* `Json.member?_cons`, `Json.member?_entries`, `Json.member?_table`: members that are looked up;
* `Slot.Independent`: slots with different names that set different things;
* `Slot.Settles`: the slots, one after the other, each take what is found under their name;
* `Slot.fillObject_iff_settles`: **the order of the members does not matter**: what is made of them
  is what the slots take; `settles_start`: what they take of them is all that matters;
* `Reads` and `settles_cons`: a slot whose field has a value before it is set.
-/

namespace BareMetal

open Json (Document)

/-! ### Looking up members -/

namespace Json

variable {k l : String} {v : Json} {ms es : List (String × Json)}

@[simp]
lemma member?_nil : (Json.obj []).member? k = none := rfl

/-- The last member of a name is found, so the first one only if there is no other. -/
lemma member?_cons : (Json.obj ((k, v) :: ms)).member? l =
    ((Json.obj ms).member? l).or (if k = l then some v else none) := by
  simp only [member?, List.reverse_cons, List.find?_append, List.find?_singleton, beq_iff_eq]
  cases ms.reverse.find? (fun m => m.1 == l) with
  | some m => rfl
  | none =>
    by_cases h : k = l
    · simp [h]
    · simp [h]

/-- What is found is a member. -/
lemma mem_of_member? (h : (Json.obj ms).member? k = some v) : (k, v) ∈ ms := by
  obtain ⟨m, hm, rfl⟩ := Option.map_eq_some_iff.mp h
  have hname : m.1 = k := by simpa using List.find?_some hm
  have hmem := List.mem_reverse.mp (List.mem_of_find?_eq_some hm)
  rwa [← hname]

/-- Under a name that is no member's nothing is found. -/
lemma member?_eq_none_iff : (Json.obj ms).member? k = none ↔ k ∉ ms.map Prod.fst := by
  simp only [member?, Option.map_eq_none_iff, List.find?_eq_none, List.mem_reverse, beq_iff_eq,
    List.mem_map, not_exists, not_and]

lemma isSome_member?_iff : ((Json.obj ms).member? k).isSome ↔ k ∈ ms.map Prod.fst := by
  rw [Option.isSome_iff_ne_none, ne_eq, member?_eq_none_iff, not_not]

/-- If no name is repeated each member is found. -/
lemma member?_of_mem (hnodup : (es.map Prod.fst).Nodup) (h : (k, v) ∈ es) :
    (Json.obj es).member? k = some v := by
  induction es with
  | nil => cases h
  | cons e es ih =>
    obtain ⟨l, w⟩ := e
    obtain ⟨hl, hnodup⟩ := List.nodup_cons.mp hnodup
    rw [member?_cons]
    rcases List.mem_cons.mp h with heq | hmem
    · cases heq
      rw [member?_eq_none_iff.mpr hl, if_pos rfl, Option.none_or]
    · rw [ih hnodup hmem, Option.some_or]

/-- The members of a map are what the map holds. -/
lemma member?_entries (m : SortedMap String Json) (k : String) :
    (Json.obj m.entries).member? k = m.get? k := by
  refine Option.ext fun v => ?_
  rw [← SortedMap.mem_entries_iff]
  exact ⟨mem_of_member?, member?_of_mem m.keys_nodup⟩

/-- Under each name the same is found in an object whose members are in order. -/
lemma member?_table (ms : List (String × Json)) (k : String) :
    (Json.obj (table ms).entries).member? k = ((Json.obj ms).member? k).map sorted := by
  rw [member?_entries, get?_table]

end Json

namespace Decode

namespace Slot

variable {σ α : Type} {slots : List (Slot σ)} {slot : Slot σ} {origin : Origin} {k : String}
  {v : Json} {es : List (String × Json)} {look look' : String → Option Json} {x y : σ} {g : σ → σ}

/-! ### Slots that do not touch each other -/

/-- What a slot makes of an object: a value is decoded, and none changes nothing. -/
def take (slot : Slot σ) (origin : Origin) : Option Json → Except Problem (σ → σ)
  | none => .ok id
  | some v => slot.fill origin (.ofJson v)

/-- **Separate**: two slots with different names that set different things. -/
def Separate (s t : Slot σ) : Prop :=
  s.name ≠ t.name ∧ ∀ origin origin' d d' f g, s.fill origin d = .ok f →
    t.fill origin' d' = .ok g → ∀ x, f (g x) = g (f x)

lemma Separate.of_set {β : Type} {n m : String} {dec : Decoder α} {dec' : Decoder β}
    {set : α → σ → σ} {set' : β → σ → σ} {r r' c c' : Bool} (hname : n ≠ m)
    (hset : ∀ a b x, set a (set' b x) = set' b (set a x)) :
    Separate ⟨n, fun origin d => set <$> dec origin d, r, c⟩
      ⟨m, fun origin d => set' <$> dec' origin d, r', c'⟩ := by
  refine ⟨hname, fun origin origin' d d' f g hf hg x => ?_⟩
  obtain ⟨a, -, rfl⟩ := map_eq_ok_iff.mp hf
  obtain ⟨b, -, rfl⟩ := map_eq_ok_iff.mp hg
  exact hset a b x

/-- What separate slots take may change places. -/
lemma Separate.take_comm {s t : Slot σ} (h : Separate s t) {origin' : Origin} {o o' : Option Json}
    {f g : σ → σ} (hf : s.take origin o = .ok f) (hg : t.take origin' o' = .ok g) (x : σ) :
    f (g x) = g (f x) := by
  cases o with
  | none =>
    cases hf
    rfl
  | some v =>
    cases o' with
    | none =>
      cases hg
      rfl
    | some w => exact h.2 _ _ _ _ _ _ hf hg x

/-- **Independent**: slots of which any two are separate. -/
def Independent (slots : List (Slot σ)) : Prop := slots.Pairwise Separate

/-! ### What the slots take -/

/-- **Settles**: the slots, one after the other, each take what is found under their name. -/
def Settles (origin : Origin) (look : String → Option Json) : List (Slot σ) → σ → σ → Prop
  | [], x, y => y = x
  | slot :: slots, x, y =>
    ∃ g, slot.take origin (look slot.name) = .ok g ∧ Settles origin look slots (g x) y

/-- Only what is found under the names of the slots matters. -/
lemma settles_congr (h : ∀ slot ∈ slots, look slot.name = look' slot.name) :
    Settles origin look slots x y ↔ Settles origin look' slots x y := by
  induction slots generalizing x with
  | nil => rfl
  | cons slot slots ih =>
    rw [Settles, Settles, h slot List.mem_cons_self]
    exact exists_congr fun g => and_congr_right fun _ =>
      ih fun s hs => h s (List.mem_cons_of_mem _ hs)

/-- **One more member**: the slot with its name takes it, which may as well come first. -/
lemma settles_update (hind : Independent slots) (hk : look k = none) :
    Settles origin (fun l => (look l).or (if k = l then some v else none)) slots x y ↔
      ∃ g, effect slots origin k v = .ok g ∧ Settles origin look slots (g x) y := by
  induction slots generalizing x with
  | nil => simp [effect, named, Settles]
  | cons s slots ih =>
    obtain ⟨hsep, hind⟩ := List.pairwise_cons.mp hind
    by_cases hs : s.name = k
    · have heffect : effect (s :: slots) origin k v = s.fill origin (.ofJson v) := by
        simp [effect, named, hs]
      have hlook : ((look s.name).or (if k = s.name then some v else none)) = some v := by
        rw [hs, hk, if_pos rfl, Option.none_or]
      have hothers : ∀ t ∈ slots,
          ((look t.name).or (if k = t.name then some v else none)) = look t.name := by
        intro t ht
        rw [if_neg (fun hkt => (hsep t ht).1 (hs.trans hkt)), Option.or_none]
      simp only [Settles, heffect, hlook]
      refine exists_congr fun g => and_congr_right fun _ => ?_
      rw [settles_congr hothers, hs, hk]
      simp [take]
    · have heffect : effect (s :: slots) origin k v = effect slots origin k v := by
        simp [effect, named, hs]
      have hlook : ((look s.name).or (if k = s.name then some v else none)) = look s.name := by
        rw [if_neg (Ne.symm hs), Option.or_none]
      -- what the slot of the member takes and what the first slot takes may change places
      have hcomm : ∀ f g, s.take origin (look s.name) = .ok f →
          effect slots origin k v = .ok g → f (g x) = g (f x) := by
        intro f g hf hg
        rw [effect] at hg
        split at hg
        next =>
          cases hg
          rfl
        next t ht =>
          have hg : t.take origin (some v) = .ok g := hg
          exact (hsep t (mem_of_named ht).1).take_comm hf hg x
      simp only [Settles, heffect, hlook, ih hind]
      constructor
      · rintro ⟨f, hf, g, hg, hrest⟩
        exact ⟨g, hg, f, hf, by rwa [hcomm f g hf hg]⟩
      · rintro ⟨g, hg, f, hf, hrest⟩
        exact ⟨f, hf, g, hg, by rwa [← hcomm f g hf hg]⟩

/-- What members without repeated names make of an object is what the slots take of them. -/
lemma exists_fills_iff_settles (hind : Independent slots) (hnodup : (es.map Prod.fst).Nodup) :
    (∃ f, Fills slots origin es f ∧ f x = y) ↔ Settles origin (Json.obj es).member? slots x y := by
  induction es generalizing x with
  | nil =>
    have hnone : ∀ (slots : List (Slot σ)) (z : σ),
        Settles origin (fun _ => none) slots z y ↔ y = z := by
      intro slots
      induction slots with
      | nil => exact fun z => Iff.rfl
      | cons s slots ih => simp [Settles, take, ih]
    refine Iff.trans ⟨?_, ?_⟩ (hnone slots x).symm
    · rintro ⟨f, hf, rfl⟩
      cases hf
      rfl
    · rintro rfl
      exact ⟨id, .nil, rfl⟩
  | cons e es ih =>
    obtain ⟨k, v⟩ := e
    obtain ⟨hk, hnodup⟩ := List.nodup_cons.mp hnodup
    have hlook : (Json.obj ((k, v) :: es)).member? =
        fun l => ((Json.obj es).member? l).or (if k = l then some v else none) :=
      funext fun l => Json.member?_cons
    rw [hlook, settles_update hind (Json.member?_eq_none_iff.mpr hk)]
    constructor
    · rintro ⟨f, hf, rfl⟩
      cases hf with
      | cons hg hf => exact ⟨_, hg, (ih hnodup).mp ⟨_, hf, rfl⟩⟩
    · rintro ⟨g, hg, hrest⟩
      obtain ⟨f, hf, rfl⟩ := (ih hnodup).mpr hrest
      exact ⟨f ∘ g, .cons hg hf, rfl⟩

/-- **The order of the members does not matter.** An object without repeated names is decoded to
what the slots take of it, if all that has to be there is. -/
lemma fillObject_iff_settles (hind : Independent slots) (hnodup : (es.map Prod.fst).Nodup)
    {once : Bool} : fillObject slots once ignored origin (Document.ofMembers es) none x = .ok y ↔
      Settles origin.inner (Json.obj es).member? slots x y ∧
        ∀ slot ∈ slots, slot.required = true → ((Json.obj es).member? slot.name).isSome := by
  rw [fillObject_eq_ok_iff hnodup, exists_fills_iff_settles hind hnodup]
  simp only [Json.isSome_member?_iff]

/-- Every slot takes something if each of them can. -/
lemma exists_settles (h : ∀ slot ∈ slots, ∃ g, slot.take origin (look slot.name) = .ok g) :
    ∃ y, Settles origin look slots x y := by
  induction slots generalizing x with
  | nil => exact ⟨x, rfl⟩
  | cons slot slots ih =>
    obtain ⟨g, hg⟩ := h slot List.mem_cons_self
    obtain ⟨y, hy⟩ := ih fun s hs => h s (List.mem_cons_of_mem _ hs)
    exact ⟨y, g, hg, hy⟩

/-- **Alike**: a slot makes the same of the object of two values, one of which may be absent if the
other one is already there. -/
def Alike (slot : Slot σ) (origin : Origin) (x : σ) (o o' : Option Json) : Prop :=
  (∀ g, slot.take origin o = .ok g → slot.take origin o' = .ok g) ∨
    o = none ∧ ∃ g, slot.take origin o' = .ok g ∧ g x = x

/-- **What the slots take is all that matters**: an object with other values of which the slots make
the same is decoded to the same. -/
lemma settles_of_alike (hind : Independent slots)
    (h : ∀ slot ∈ slots, Alike slot origin x (look slot.name) (look' slot.name))
    (hsettles : Settles origin look slots x y) : Settles origin look' slots x y := by
  induction slots generalizing x with
  | nil => exact hsettles
  | cons s slots ih =>
    obtain ⟨hsep, hind⟩ := List.pairwise_cons.mp hind
    obtain ⟨g, hg, hrest⟩ := hsettles
    -- what the first slot takes does not touch what is already there for the others
    have hlater : ∀ t ∈ slots, Alike t origin (g x) (look t.name) (look' t.name) := by
      intro t ht
      rcases h t (List.mem_cons_of_mem _ ht) with hsame | ⟨hnone, f, hf, hfx⟩
      · exact .inl hsame
      · refine .inr ⟨hnone, f, hf, ?_⟩
        rw [← (hsep t ht).take_comm hg hf, hfx]
    rcases h s List.mem_cons_self with hsame | ⟨hnone, f, hf, hfx⟩
    · exact ⟨g, hsame g hg, ih hind hlater hrest⟩
    · rw [hnone] at hg
      cases hg
      refine ⟨f, hf, ?_⟩
      rw [hfx]
      exact ih hind hlater hrest

end Slot

end Decode

end BareMetal
