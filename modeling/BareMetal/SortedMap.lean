/-!
Finite maps kept in ascending order of their keys: labels, inventories and the
two halves of a store are all of this kind, and everything that walks over one
walks in key order.

* `SortedMap`: a map as its list of entries, strictly ascending by key;
* `insert`, `erase`, `get?`, `filterValues`, `mapValues`: the operations, each of
  which keeps the entries ascending by its type;
* `ofList`: later entries replace earlier ones with the same key;
* `get?_insert_self`, `get?_insert_of_ne`, `get?_erase`: what a look-up finds
  after each operation.
-/

namespace BareMetal

universe u v

/-- A finite map as its entries in strictly ascending order of keys. -/
structure SortedMap (κ : Type u) (ν : Type v) [Ord κ] where
  /-- The entries, smallest key first. -/
  entries : List (κ × ν)
  /-- No two entries share a key, and each key is below the keys after it. -/
  ascending : entries.Pairwise (fun a b => compare a.1 b.1 = .lt)
  deriving DecidableEq

namespace SortedMap

variable {κ : Type u} {ν : Type v} [Ord κ]

/-! ### Entries in order -/

/-- Puts an entry where its key belongs, in place of an entry with that key. -/
def insertEntry (k : κ) (x : ν) : List (κ × ν) → List (κ × ν)
  | [] => [(k, x)]
  | e :: es =>
    match compare k e.1 with
    | .lt => (k, x) :: e :: es
    | .eq => (k, x) :: es
    | .gt => e :: insertEntry k x es

/-- Each entry after an insertion is the new one or was there before. -/
theorem mem_insertEntry {k : κ} {x : ν} {e : κ × ν} {es : List (κ × ν)}
    (h : e ∈ insertEntry k x es) : e = (k, x) ∨ e ∈ es := by
  induction es with
  | nil => simpa [insertEntry] using h
  | cons a es ih =>
    rw [insertEntry] at h
    split at h
    · simpa using h
    · rcases List.mem_cons.1 h with h | h
      · exact .inl h
      · exact .inr (List.mem_cons_of_mem _ h)
    · rcases List.mem_cons.1 h with h | h
      · exact .inr (h ▸ List.mem_cons_self)
      · exact (ih h).imp id (List.mem_cons_of_mem _)

/-- An insertion keeps the keys strictly ascending. -/
theorem ascending_insertEntry [Std.TransOrd κ] {k : κ} {x : ν} {es : List (κ × ν)}
    (h : es.Pairwise (fun a b => compare a.1 b.1 = .lt)) :
    (insertEntry k x es).Pairwise (fun a b => compare a.1 b.1 = .lt) := by
  induction es with
  | nil => simp [insertEntry]
  | cons a es ih =>
    obtain ⟨hlow, hrest⟩ := List.pairwise_cons.1 h
    rw [insertEntry]
    split
    case h_1 hk =>
      refine List.pairwise_cons.2 ⟨fun b hb => ?_, h⟩
      rcases List.mem_cons.1 hb with rfl | hb
      · exact hk
      · exact Std.TransCmp.lt_trans hk (hlow b hb)
    case h_2 hk =>
      exact List.pairwise_cons.2
        ⟨fun b hb => Std.TransCmp.lt_of_eq_of_lt hk (hlow b hb), hrest⟩
    case h_3 hk =>
      refine List.pairwise_cons.2 ⟨fun b hb => ?_, ih hrest⟩
      rcases mem_insertEntry hb with rfl | hb
      · exact Std.OrientedCmp.lt_of_gt hk
      · exact hlow b hb

/-! ### The operations -/

/-- The map with no entries. -/
def empty : SortedMap κ ν := ⟨[], .nil⟩

instance : EmptyCollection (SortedMap κ ν) := ⟨empty⟩

instance : Inhabited (SortedMap κ ν) := ⟨empty⟩

/-- The map with `k` bound to `x`, whatever it was bound to before. -/
def insert [Std.TransOrd κ] (m : SortedMap κ ν) (k : κ) (x : ν) : SortedMap κ ν :=
  ⟨insertEntry k x m.entries, ascending_insertEntry m.ascending⟩

/-- The map without a binding for `k`. -/
def erase (m : SortedMap κ ν) (k : κ) : SortedMap κ ν :=
  ⟨m.entries.filter (fun e => compare e.1 k != .eq), m.ascending.filter _⟩

/-- The value bound to `k`. -/
def get? (m : SortedMap κ ν) (k : κ) : Option ν :=
  (m.entries.find? (fun e => compare e.1 k == .eq)).map Prod.snd

/-- Whether `k` is bound. -/
def contains (m : SortedMap κ ν) (k : κ) : Bool :=
  (m.get? k).isSome

/-- The entries whose value passes the test. -/
def filterValues (m : SortedMap κ ν) (p : ν → Bool) : SortedMap κ ν :=
  ⟨m.entries.filter (fun e => p e.2), m.ascending.filter _⟩

/-- Each value changed, its key kept. -/
def mapValues {μ : Type v} (m : SortedMap κ ν) (f : ν → μ) : SortedMap κ μ :=
  ⟨m.entries.map (fun e => (e.1, f e.2)), m.ascending.map _ (fun _ _ h => h)⟩

/-- The keys, smallest first. -/
def keys (m : SortedMap κ ν) : List κ :=
  m.entries.map Prod.fst

/-- The values, in the order of their keys. -/
def values (m : SortedMap κ ν) : List ν :=
  m.entries.map Prod.snd

/-- The number of entries. -/
def size (m : SortedMap κ ν) : Nat :=
  m.entries.length

/-- The map of a list of bindings; the last binding of a key counts. -/
def ofList [Std.TransOrd κ] (es : List (κ × ν)) : SortedMap κ ν :=
  es.foldl (fun m e => m.insert e.1 e.2) empty

/-! ### What a look-up finds -/

@[ext]
theorem ext {m n : SortedMap κ ν} (h : m.entries = n.entries) : m = n := by
  cases m
  cases n
  cases h
  rfl

@[simp]
theorem get?_empty (k : κ) : (empty : SortedMap κ ν).get? k = none := rfl

/-- Looking up the key just inserted finds its value. -/
@[simp]
theorem get?_insert_self [Std.TransOrd κ] (m : SortedMap κ ν) (k : κ) (x : ν) :
    (m.insert k x).get? k = some x := by
  have key : ∀ es : List (κ × ν),
      (insertEntry k x es).find? (fun e => compare e.1 k == .eq) = some (k, x) := by
    intro es
    induction es with
    | nil => simp [insertEntry, Std.ReflCmp.compare_self]
    | cons a es ih =>
      rw [insertEntry]
      split
      · simp [Std.ReflCmp.compare_self]
      · simp [Std.ReflCmp.compare_self]
      · next hk =>
        have hne : (compare a.1 k == .eq) = false := by
          rw [Std.OrientedCmp.lt_of_gt hk]
          rfl
        simp [hne, ih]
  simp [get?, insert, key]

/-- Looking up another key finds what it found before the insertion. -/
theorem get?_insert_of_ne [Std.TransOrd κ] (m : SortedMap κ ν) {k l : κ} (x : ν)
    (h : compare k l ≠ .eq) : (m.insert k x).get? l = m.get? l := by
  have key : ∀ es : List (κ × ν),
      (insertEntry k x es).find? (fun e => compare e.1 l == .eq) =
        es.find? (fun e => compare e.1 l == .eq) := by
    intro es
    have hkl : (compare k l == .eq) = false := by simpa using h
    induction es with
    | nil => simp [insertEntry, hkl]
    | cons a es ih =>
      rw [insertEntry]
      split
      · simp [List.find?_cons, hkl]
      · next hk =>
        have hal : (compare a.1 l == .eq) = false := by
          rw [← Std.TransCmp.congr_left hk]
          exact hkl
        simp [hkl, hal]
      · simp [List.find?_cons, ih]
  simp [get?, insert, key]

/-- Looking up an erased key finds nothing, looking up any other key what it found before. -/
theorem get?_erase [Std.TransOrd κ] (m : SortedMap κ ν) (k l : κ) :
    (m.erase k).get? l = if compare k l = .eq then none else m.get? l := by
  have key : ∀ e : κ × ν, compare e.1 l = .eq → compare e.1 k = (compare k l).swap := by
    intro e he
    rw [Std.TransCmp.congr_left (c := k) he]
    exact Std.OrientedCmp.eq_swap
  by_cases h : compare k l = .eq
  · have : ∀ e ∈ m.entries, compare e.1 k ≠ .eq → compare e.1 l ≠ .eq := by
      intro e _ hk he
      exact hk (by rw [key e he, h]; rfl)
    simpa [get?, erase, List.find?_filter, h] using fun a b hab => this (a, b) hab
  · simp only [get?, erase, List.find?_filter, if_neg h]
    congr 2
    funext e
    by_cases he : compare e.1 l = .eq
    · have hk : compare e.1 k ≠ .eq := by
        rw [key e he]
        cases hkl : compare k l <;> simp_all
      simp [he, hk]
    · simp [he]

end SortedMap

end BareMetal
