import BareMetal.Proofs.Reference

/-!
The stages by which machines are chosen, in any order and as often as one likes.

* `SortedMap.filterKeys`: a map restricted to some of its keys;
* `Qualifiers.Passes`: a machine satisfies what a stage asks for, and `get?_runStage`: **a stage
  keeps the machines that do**;
* `Inventory.afterStages`: what some stages leave, one after the other, and `get?_afterStages`:
  the machines that satisfy all of them;
* `Inventory.stages_orderless`: **the order of the stages does not matter, nor how often each
  occurs**, and they may be run before or after a restriction to some names.
-/

namespace BareMetal

/-! ### Restrictions -/

namespace SortedMap

universe u v

variable {κ : Type u} {ν : Type v} [Ord κ]

/-- The entries whose key passes the test. -/
def filterKeys (m : SortedMap κ ν) (p : κ → Bool) : SortedMap κ ν :=
  ⟨m.entries.filter (fun e => p e.1), m.ascending.filter _⟩

/-- What is found in a restriction is what is found under a key that passes. -/
lemma get?_filterKeys [Std.LawfulEqOrd κ] {m : SortedMap κ ν} {p : κ → Bool} {k : κ} {x : ν} :
    (m.filterKeys p).get? k = some x ↔ m.get? k = some x ∧ p k = true := by
  rw [← mem_entries_iff, ← mem_entries_iff, filterKeys, List.mem_filter]

end SortedMap

/-! ### One stage -/

/-- **Passes**: the machine satisfies what a stage asks for. Nothing is asked for in the category,
or the machine has a descriptor which one of those that are asked for matches, or it carries a label
of one of the selectors. -/
def Qualifiers.Passes (q : Qualifiers) (m : Machine) : Inventory.Stage → Prop
  | .cpu => q.cpu = [] ∨
      ∃ cpu, m.spec.cpu = some cpu ∧ ∃ w ∈ q.cpu, w.partialMatches cpu = true
  | .system => q.systemInformation = [] ∨
      ∃ info, m.spec.systemInformation = some info ∧
        ∃ w ∈ q.systemInformation, w.partialMatches info = true
  | .labels => q.labelSelectors = [] ∨
      ∃ selector ∈ q.labelSelectors, ∃ name value,
        selector.get? name = some value ∧ m.labels.get? name = some value
  | .all => q.Meets m

/-- A machine meets the qualifiers if it satisfies what is asked for in each category. -/
lemma Qualifiers.meets_iff_passes {q : Qualifiers} {m : Machine} :
    q.Meets m ↔ ∀ stage ∈ [Inventory.Stage.cpu, .system, .labels], q.Passes m stage := by
  simp only [List.forall_mem_cons, Passes, or_iff_not_imp_left]
  constructor
  · exact fun h => ⟨h.cpu, h.system, h.labels, List.forall_mem_nil _⟩
  · exact fun ⟨hcpu, hsystem, hlabels, _⟩ => ⟨hcpu, hsystem, hlabels⟩

/-- A machine that meets the qualifiers satisfies what any stage asks for. -/
lemma Qualifiers.Meets.passes {q : Qualifiers} {m : Machine} (h : q.Meets m)
    (stage : Inventory.Stage) : q.Passes m stage := by
  cases stage with
  | all => exact h
  | _ => exact meets_iff_passes.mp h _ (by simp)

namespace Inventory

variable {q : Qualifiers} {inv : Inventory} {stage : Stage} {stages : List Stage} {n : String}
  {m : Machine}

/-- **A stage keeps the machines that satisfy what it asks for.** -/
lemma get?_runStage :
    (inv.runStage q stage).get? n = some m ↔ inv.get? n = some m ∧ q.Passes m stage := by
  cases stage with
  | cpu => rw [runStage, byCpu, get?_retain, hasCpu_iff, Qualifiers.Passes, or_iff_not_imp_left]
  | system =>
    rw [runStage, bySystem, get?_retain, hasSystem_iff, Qualifiers.Passes, or_iff_not_imp_left]
  | labels =>
    rw [runStage, byLabels, get?_retain, hasLabel_iff, Qualifiers.Passes, or_iff_not_imp_left]
  | all => exact get?_apply

/-! ### Several stages -/

/-- What some stages leave, each run on what the one before has left. -/
def afterStages (q : Qualifiers) (inv : Inventory) (stages : List Stage) : Inventory :=
  stages.foldl (fun inv stage => inv.runStage q stage) inv

/-- The inventories on the way are what the first of the stages leave. -/
lemma cons_runStages (q : Qualifiers) (inv : Inventory) (stages : List Stage) :
    inv :: inv.runStages q stages = stages.inits.map (inv.afterStages q) := by
  induction stages generalizing inv with
  | nil => rfl
  | cons stage stages ih =>
    rw [runStages, ih, List.inits_cons, List.map_cons, List.map_map]
    rfl

/-- Some stages leave the machines that satisfy all of them. -/
lemma get?_afterStages : (inv.afterStages q stages).get? n = some m ↔
    inv.get? n = some m ∧ ∀ stage ∈ stages, q.Passes m stage := by
  induction stages generalizing inv with
  | nil => simp [afterStages]
  | cons stage stages ih =>
    change ((inv.runStage q stage).afterStages q stages).get? n = some m ↔ _
    rw [ih, get?_runStage, and_assoc, List.forall_mem_cons]

/-- What stages leave is known by the machines that satisfy them. -/
lemma afterStages_eq_of_iff {other : Inventory} (h : ∀ n m, other.get? n = some m ↔
    inv.get? n = some m ∧ ∀ stage ∈ stages, q.Passes m stage) :
    inv.afterStages q stages = other := by
  apply SortedMap.ext_get?
  intro n
  refine Option.ext fun m => ?_
  rw [get?_afterStages, h]

/-- Stages that occur in both of two lists in whatever order leave the same. -/
lemma afterStages_congr {others : List Stage} (h : ∀ stage, stage ∈ stages ↔ stage ∈ others) :
    inv.afterStages q stages = inv.afterStages q others := by
  refine afterStages_eq_of_iff fun n m => ?_
  simp only [get?_afterStages, h]

/-- The stages of all categories leave the machines that meet the qualifiers. -/
lemma afterStages_eq_apply (h : ∀ stage ∈ [Stage.cpu, .system, .labels], stage ∈ stages) :
    inv.afterStages q stages = inv.apply q := by
  refine afterStages_eq_of_iff fun n m => ?_
  rw [get?_apply]
  refine and_congr_right fun _ => ⟨fun hm stage _ => hm.passes stage, fun hstages => ?_⟩
  exact Qualifiers.meets_iff_passes.mpr fun stage hstage => hstages stage (h stage hstage)

/-- Stages leave the same of a restriction as a restriction of what they leave. -/
lemma afterStages_filterKeys (names : String → Bool) :
    afterStages q (inv.filterKeys names) stages = (inv.afterStages q stages).filterKeys names := by
  refine afterStages_eq_of_iff fun n m => ?_
  rw [SortedMap.get?_filterKeys, SortedMap.get?_filterKeys, get?_afterStages, and_right_comm]

/-- **The order of the stages does not matter.** Run one after the other, stages keep exactly the
entries whose machines satisfy what each of them asks for, at the end and on the way. So lists with
the same stages leave the same, in whatever order these stand and however often; those in which all
categories occur leave what is chosen by all at once; a stage that has been run before changes
nothing, whatever was run in between; and it makes no difference whether the inventory is restricted
to some names before the stages or after them. -/
theorem stages_orderless (q : Qualifiers) (inv : Inventory) :
    (∀ stages, inv :: inv.runStages q stages = stages.inits.map (inv.afterStages q)) ∧
      (∀ stages n m, (n, m) ∈ (inv.afterStages q stages).entries ↔
        (n, m) ∈ inv.entries ∧ ∀ stage ∈ stages, q.Passes m stage) ∧
      (∀ stages others, (∀ stage, stage ∈ stages ↔ stage ∈ others) →
        inv.afterStages q stages = inv.afterStages q others) ∧
      (∀ stages, (∀ stage ∈ [Stage.cpu, .system, .labels], stage ∈ stages) →
        inv.afterStages q stages = inv.apply q) ∧
      (∀ stages, ∀ stage ∈ stages,
        inv.afterStages q (stages ++ [stage]) = inv.afterStages q stages) ∧
      ∀ stages names, afterStages q (inv.filterKeys names) stages =
        (inv.afterStages q stages).filterKeys names := by
  refine ⟨cons_runStages q inv, fun stages n m => ?_, fun _ _ => afterStages_congr,
    fun _ => afterStages_eq_apply, fun stages stage hstage => ?_,
    fun _ => afterStages_filterKeys⟩
  · rw [SortedMap.mem_entries_iff, SortedMap.mem_entries_iff]
    exact get?_afterStages
  · refine afterStages_congr fun other => ?_
    rw [List.mem_append, List.mem_singleton]
    exact or_iff_left_of_imp fun h => h ▸ hstage

/-- Machines with a processor of a certain maker that carry a certain label. -/
def racked : Qualifiers where
  cpu := [{ manufacturer := some "Intel" }]
  labelSelectors := [SortedMap.ofList [("rack", "7")]]

/-- One machine that satisfies both, and one that satisfies each but not the other. -/
def rack : Inventory :=
  let machine (name : String) (cpu : CpuInformation) (labels : List (String × String)) : Machine :=
    { metadata := { name := some name, labels := some (SortedMap.ofList labels) }
      spec := { accepted := true, cpu := some cpu } }
  ofMachines
    [machine "a" { manufacturer := some "Intel" } [("rack", "7")],
      machine "b" { manufacturer := some "Intel" } [("rack", "8")],
      machine "c" { manufacturer := some "AMD" } [("rack", "7")]]

/-- Labels first, then processors, then labels again: as with each stage once in another order, the
first machine is left, and it is left by all stages at once. -/
theorem stages_orderless_racked :
    let stages : List Stage := [.labels, .cpu, .labels]
    (∀ stage, stage ∈ stages ↔ stage ∈ [Stage.cpu, .labels]) ∧
      rack.afterStages racked stages = rack.afterStages racked [.cpu, .labels] ∧
      (rack.afterStages racked stages).keys = ["a"] ∧
      rack.afterStages racked (stages ++ [.system]) = rack.apply racked ∧
      rack.afterStages racked (stages ++ [.cpu]) = rack.afterStages racked stages := by
  intro stages
  obtain ⟨-, -, hsame, hall, hagain, -⟩ := stages_orderless racked rack
  have hstages : ∀ stage, stage ∈ stages ↔ stage ∈ [Stage.cpu, .labels] := by
    intro stage
    cases stage <;> decide
  have hfirst : (rack.afterStages racked [.cpu, .labels]).keys = ["a"] := by decide
  refine ⟨hstages, hsame _ _ hstages, ?_, hall _ (by decide), hagain _ .cpu (by decide)⟩
  rw [hsame _ _ hstages]
  exact hfirst

end Inventory

end BareMetal
