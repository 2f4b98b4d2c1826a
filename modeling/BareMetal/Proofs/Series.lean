import BareMetal.Metrics
import BareMetal.Proofs.Binary64
import BareMetal.Proofs.Lookup

/-!
The series as which the metrics are exported.

* `Metrics.value?_reconciles`, `value?_statusWrites`, `value?_fanOutRequests`,
  `value?_fanOutFailures`, `value?_available`, `value?_inUse`: **the name and the labels under which
  each counter and each gauge is found**, among all series;
* `Metrics.nodup_series`: **no series is there twice**, so that what is found is all there is;
* `Metrics.counted`: a counter of so many things, as it is exported;
* `Metrics.gauge_of_lt`, `gauge_eq_zero_iff`: a gauge holds every number below `2 ^ 53` as it is, and
  reads zero for zero only;
* `Metrics.gauges`, `Metrics.shown`: the two gauges of a class, and what they show of two numbers;
  `gauges_eq`: **they show the numbers that were measured**.
-/

namespace BareMetal

/-- Entries that are renamed one to one are found under their new names. -/
lemma SortedMap.lookup_map_entries {κ ν β γ : Type} [Ord κ] [Std.LawfulEqOrd κ] [DecidableEq β]
    {f : κ → β} (hf : Function.Injective f) (g : ν → γ) (m : SortedMap κ ν) (k : κ) :
    (m.entries.map (fun e => (f e.1, g e.2))).lookup (f k) = (m.get? k).map g := by
  rw [get?]
  induction m.entries with
  | nil => rfl
  | cons e es ih =>
    rw [List.map_cons, List.lookup_cons, List.find?_cons]
    by_cases h : e.1 = k
    · simp [h]
    · have hname : (f k == f e.1) = false := by simpa using fun heq => h (hf heq).symm
      have hother : (compare e.1 k == .eq) = false := by simpa using h
      rw [hname, hother]
      exact ih

/-! ### Names and labels -/

namespace Series

/-- The outcome is a label of the reconciles. -/
lemma outcome_injective : Function.Injective (fun o : String =>
    (⟨"metalclass_reconcile_total", [("outcome", o)]⟩ : Series)) := by
  intro a b h
  simpa using h

/-- The class is a label of the gauges. -/
lemma class_injective (state : String) : Function.Injective (fun text : String =>
    (⟨"metalclass_class_machines", [("class", text), ("state", state)]⟩ : Series)) := by
  intro a b h
  simpa using h

/-- **Distinct**: different series, each with one of some names. -/
structure Distinct (names : List String) (ss : List Series) : Prop where
  nodup : ss.Nodup
  named : ∀ s ∈ ss, s.name ∈ names

/-- Series with another name may follow. -/
lemma Distinct.append {names : List String} {name : String} {ss ts : List Series}
    (hs : Distinct names ss) (ht : Distinct [name] ts) (hname : name ∉ names) :
    Distinct (names ++ [name]) (ss ++ ts) where
  nodup := by
    refine List.nodup_append.mpr ⟨hs.nodup, ht.nodup, ?_⟩
    rintro s hmem _ hmem' rfl
    exact hname (List.mem_singleton.mp (ht.named s hmem') ▸ hs.named s hmem)
  named s h := by
    rcases List.mem_append.mp h with h | h
    · exact List.mem_append_left _ (hs.named s h)
    · exact List.mem_append_right _ (ht.named s h)

/-- The series that belong to the keys of a map are distinct if they differ for different keys. -/
lemma distinct_entries {κ ν : Type} [Ord κ] [Std.LawfulEqOrd κ] {f : κ → Series} {name : String}
    (hf : Function.Injective f) (hname : ∀ k, (f k).name = name) (g : ν → Metrics.Value)
    (m : SortedMap κ ν) :
    Distinct [name] ((m.entries.map (fun e => (f e.1, g e.2))).map Prod.fst) where
  nodup := by
    have hkeys : (m.entries.map (fun e => (f e.1, g e.2))).map Prod.fst = m.keys.map f := by
      rw [List.map_map, SortedMap.keys, List.map_map]
      rfl
    rw [hkeys]
    exact m.keys_nodup.map hf
  named s h := by
    obtain ⟨e, he, rfl⟩ := List.mem_map.mp h
    obtain ⟨entry, -, rfl⟩ := List.mem_map.mp he
    exact List.mem_singleton.mpr (hname entry.1)

end Series

namespace Metrics

/-! ### Numbers as series hold them -/

/-- A counter of so many things: it is there once there was one, and holds 64 bits. -/
def counted (n : ℕ) : Option Value :=
  if n = 0 then none else some (.number (n % 2 ^ 64))

/-- A gauge holds a number of at most 53 bits as it is. -/
lemma gauge_of_lt {n : ℕ} (h : n < 2 ^ 53) : gauge n = .number n := by
  rw [gauge, Binary64.map_toNat_ofRatio h]
  rfl

/-- A gauge reads zero for zero only. -/
lemma gauge_eq_zero_iff {n : ℕ} : gauge n = .number 0 ↔ n = 0 := by
  constructor
  · intro h
    by_contra hn
    rw [gauge, Value.number.injEq] at h
    cases hread : (Binary64.ofRatio n 1).map Binary64.toNat with
    | none =>
      rw [hread] at h
      exact hn h
    | some m =>
      rw [hread] at h
      exact Binary64.ne_zero_of_toNat hn hread h
  · rintro rfl
    exact gauge_of_lt (by positivity)

/-! ### Series that are found -/

variable (m : Metrics) {s : Series}

/-- Among series of one name no other name is found. -/
lemma lookup_map_of_name {α : Type} {es : List α} {f : α → Series × Value} {name : String}
    (h : ∀ a, (f a).1.name = name) (hs : s.name ≠ name) : (es.map f).lookup s = none := by
  refine List.lookup_eq_none_iff.mpr fun e he => ?_
  obtain ⟨a, -, rfl⟩ := List.mem_map.mp he
  have hne : s ≠ (f a).1 := fun heq => hs (heq ▸ h a)
  simpa using hne

@[simp]
lemma lookup_reconcileSeries (o : String) :
    m.reconcileSeries.lookup ⟨"metalclass_reconcile_total", [("outcome", o)]⟩ =
      (m.reconciles.get? o).map (fun n => .number n.toNat) :=
  SortedMap.lookup_map_entries Series.outcome_injective (fun n : UInt64 => Value.number n.toNat)
    m.reconciles o

@[simp]
lemma lookup_reconcileSeries_of_name (h : s.name ≠ "metalclass_reconcile_total") :
    m.reconcileSeries.lookup s = none :=
  lookup_map_of_name (fun _ => rfl) h

@[simp]
lemma lookup_durationSeries_of_name (h : s.name ≠ "metalclass_reconcile_duration_seconds") :
    m.durationSeries.lookup s = none := by
  rw [durationSeries]
  split
  · rfl
  · have hne : s ≠ ⟨"metalclass_reconcile_duration_seconds", []⟩ := fun heq => h (heq ▸ rfl)
    simpa using hne

@[simp]
lemma lookup_counterSeries (name : String) (counter : Option UInt64) :
    (counterSeries name counter).lookup ⟨name, []⟩ =
      counter.map (fun n => .number n.toNat) := by
  cases counter with
  | none => rfl
  | some n => simp [counterSeries]

@[simp]
lemma lookup_counterSeries_of_name {name : String} (counter : Option UInt64) (h : s.name ≠ name) :
    (counterSeries name counter).lookup s = none :=
  lookup_map_of_name (fun _ => rfl) h

@[simp]
lemma lookup_gaugeSeries (state : String) (size : ℕ × ℕ → ℕ) (text : String) :
    (m.gaugeSeries state size).lookup
        ⟨"metalclass_class_machines", [("class", text), ("state", state)]⟩ =
      (m.classMachines.get? text).map (fun g => gauge (size g)) :=
  SortedMap.lookup_map_entries (Series.class_injective state) (fun g => gauge (size g))
    m.classMachines text

/-- The gauges of one state are not found among those of another. -/
@[simp]
lemma lookup_gaugeSeries_of_state {state state' : String} (h : state' ≠ state) (size : ℕ × ℕ → ℕ)
    (text : String) : (m.gaugeSeries state size).lookup
      ⟨"metalclass_class_machines", [("class", text), ("state", state')]⟩ = none := by
  refine List.lookup_eq_none_iff.mpr fun e he => ?_
  obtain ⟨entry, -, rfl⟩ := List.mem_map.mp he
  simp [h]

@[simp]
lemma lookup_gaugeSeries_of_name (state : String) (size : ℕ × ℕ → ℕ)
    (h : s.name ≠ "metalclass_class_machines") : (m.gaugeSeries state size).lookup s = none :=
  lookup_map_of_name (fun _ => rfl) h

/-! ### The series among all -/

/-- The reconciles are found by how they ended. -/
lemma value?_reconciles (o : String) :
    m.value? ⟨"metalclass_reconcile_total", [("outcome", o)]⟩ =
      (m.reconciles.get? o).map (fun n => .number n.toNat) := by
  simp [value?, series, List.lookup_append]

/-- The writes are found. -/
lemma value?_statusWrites :
    m.value? ⟨"metalclass_status_patches_total", []⟩ =
      m.statusWrites.map (fun n => .number n.toNat) := by
  simp [value?, series, List.lookup_append]

/-- The reconciles that changes of machines led to are found. -/
lemma value?_fanOutRequests :
    m.value? ⟨"metalclass_fanout_requests_total", []⟩ =
      m.fanOutRequests.map (fun n => .number n.toNat) := by
  simp [value?, series, List.lookup_append]

/-- The changes of machines that led nowhere are found. -/
lemma value?_fanOutFailures :
    m.value? ⟨"metalclass_fanout_failures_total", []⟩ =
      m.fanOutFailures.map (fun n => .number n.toNat) := by
  simp [value?, series, List.lookup_append]

/-- The first number of a class is found as that of the available machines. -/
lemma value?_available (text : String) :
    m.value? ⟨"metalclass_class_machines", [("class", text), ("state", "available")]⟩ =
      (m.classMachines.get? text).map (fun g => gauge g.1) := by
  simp [value?, series, List.lookup_append]

/-- The second number of a class is found as that of the machines in use. -/
lemma value?_inUse (text : String) :
    m.value? ⟨"metalclass_class_machines", [("class", text), ("state", "in_use")]⟩ =
      (m.classMachines.get? text).map (fun g => gauge g.2) := by
  simp [value?, series, List.lookup_append]

/-- The gauges of one state are others than those of another. -/
lemma distinct_gaugeSeries : Series.Distinct ["metalclass_class_machines"]
    ((m.gaugeSeries "available" Prod.fst ++ m.gaugeSeries "in_use" Prod.snd).map Prod.fst) := by
  have havailable : Series.Distinct _ ((m.gaugeSeries "available" Prod.fst).map Prod.fst) :=
    Series.distinct_entries (Series.class_injective _) (fun _ => rfl) (fun g => gauge g.1)
      m.classMachines
  have hinUse : Series.Distinct _ ((m.gaugeSeries "in_use" Prod.snd).map Prod.fst) :=
    Series.distinct_entries (Series.class_injective _) (fun _ => rfl) (fun g => gauge g.2)
      m.classMachines
  rw [List.map_append]
  refine ⟨List.nodup_append.mpr ⟨havailable.nodup, hinUse.nodup, ?_⟩, fun s hs => ?_⟩
  · -- the labels tell them apart
    intro s hs t ht
    obtain ⟨e, he, rfl⟩ := List.mem_map.mp hs
    obtain ⟨d, hd, rfl⟩ := List.mem_map.mp ht
    obtain ⟨entry, -, rfl⟩ := List.mem_map.mp he
    obtain ⟨entry', -, rfl⟩ := List.mem_map.mp hd
    simp
  · exact (List.mem_append.mp hs).elim (havailable.named s) (hinUse.named s)

/-- **No series is there twice.** -/
lemma nodup_series : (m.series.map Prod.fst).Nodup := by
  have hreconciles : Series.Distinct _ (m.reconcileSeries.map Prod.fst) :=
    Series.distinct_entries Series.outcome_injective (fun _ => rfl)
      (fun n : UInt64 => .number n.toNat) m.reconciles
  have hdurations : Series.Distinct ["metalclass_reconcile_duration_seconds"]
      (m.durationSeries.map Prod.fst) := by
    rw [durationSeries]
    split <;> constructor <;> simp
  have hcounter : ∀ name counter, Series.Distinct [name]
      ((counterSeries name counter).map Prod.fst) := by
    intro name counter
    cases counter <;> constructor <;> simp [counterSeries]
  have hall := hreconciles
    |>.append hdurations (by decide)
    |>.append (hcounter "metalclass_status_patches_total" m.statusWrites) (by decide)
    |>.append (hcounter "metalclass_fanout_requests_total" m.fanOutRequests) (by decide)
    |>.append (hcounter "metalclass_fanout_failures_total" m.fanOutFailures) (by decide)
    |>.append m.distinct_gaugeSeries (by decide)
  simpa only [series, List.map_append, List.append_assoc] using hall.nodup

/-! ### The gauges of a class -/

/-- The two gauges of a class, that of the available machines and that of those in use. -/
def gauges (m : Metrics) (text : String) : Option Value × Option Value :=
  (m.value? ⟨"metalclass_class_machines", [("class", text), ("state", "available")]⟩,
    m.value? ⟨"metalclass_class_machines", [("class", text), ("state", "in_use")]⟩)

/-- What the two gauges of a class show of its numbers of machines, if there are any yet. -/
def shown (g : Option (ℕ × ℕ)) : Option Value × Option Value :=
  (g.map (fun g => gauge g.1), g.map (fun g => gauge g.2))

/-- **The gauges of a class show its numbers of machines.** -/
lemma gauges_eq (text : String) : m.gauges text = shown (m.classMachines.get? text) := by
  rw [gauges, value?_available, value?_inUse]
  rfl

/-- Gauges show numbers of at most 53 bits as they are. -/
lemma shown_of_lt {available inUse : ℕ} (ha : available < 2 ^ 53) (hu : inUse < 2 ^ 53) :
    shown (some (available, inUse)) = (some (.number available), some (.number inUse)) := by
  rw [shown, Option.map_some, Option.map_some, gauge_of_lt ha, gauge_of_lt hu]

/-- Two gauges at zero. -/
lemma shown_zero : shown (some (0, 0)) = (some (.number 0), some (.number 0)) :=
  shown_of_lt (by norm_num) (by norm_num)

/-- Two gauges are not there, or at zero, if there are no machines to show. -/
lemma shown_quiet_iff {g : Option (ℕ × ℕ)} :
    shown g = (none, none) ∨ shown g = (some (.number 0), some (.number 0)) ↔
      ∀ n, g = some n → n = (0, 0) := by
  cases g with
  | none =>
    refine ⟨fun _ n hn => ?_, fun _ => Or.inl rfl⟩
    cases hn
  | some n =>
    have hset : shown (some n) ≠ (none, none) := by simp [shown]
    rw [or_iff_right hset]
    constructor
    · rintro h _ ⟨⟩
      simp only [shown, Option.map_some, Prod.mk.injEq, Option.some.injEq, gauge_eq_zero_iff] at h
      exact Prod.ext h.1 h.2
    · intro h
      rw [h n rfl, shown_zero]

end Metrics

end BareMetal
