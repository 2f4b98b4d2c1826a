import BareMetal.Proofs.Reconcile.Outcome

/-!
What a reconcile counts.

* `Outcome.sizes`, `Progress.tally`: the sizes that an outcome sets the gauges of its class
  to, and all that is counted when a reconcile arrives somewhere;
* `Backend.measurements_step`: **a step counts what is due where it leads, and nothing
  else**, over any store;
* `Progress.left`, `Backend.advance_finished_of_left`: **three steps always end a
  reconcile**;
* `Backend.measurements_reconcile`: **what a whole reconcile counts depends on its result
  and on whether it came to a write**;
* `Backend.gauges_of_error`: a reconcile that fails leaves all gauges as they were.
-/

namespace BareMetal

/-- The sizes that an outcome sets the gauges of its class to: those of the lists of machines,
available and in use. -/
def Outcome.sizes : Outcome → ℕ × ℕ
  | .missing => (0, 0)
  | .unchanged s => (s.machinesAvailable.length, s.machinesInUse.length)
  | .updated s => (s.machinesAvailable.length, s.machinesInUse.length)

/-- Measurements are those of some reports and then those of the others. -/
lemma Report.measurements_append (as bs : List Report) :
    measurements (as ++ bs) = measurements as ++ measurements bs :=
  List.filterMap_append

namespace Progress

variable (key : ClassKey) (c : MachineClass) (status : MachineClassStatus)

/-- What is counted when the reconcile of a class arrives somewhere: a write when it is about to
make it, and at the end the result, after the sizes of the lists unless it has failed. -/
def tally (key : ClassKey) : Progress → List Measurement
  | .writing _ _ _ => [.statusWrite]
  | .finished (.ok o) => [.classMachines key.text o.sizes.1 o.sizes.2, .reconcile o.kind]
  | .finished (.error e) => [.reconcile e.kind]
  | _ => []

/-- What counts when the class was read. -/
lemma measurements_onClass (answer : Except StoreError (Option MachineClass)) :
    Report.measurements (onClass key answer).2 = tally key (onClass key answer).1 := by
  cases answer with
  | error e => rfl
  | ok found => cases found <;> rfl

/-- What counts when the machines were listed. -/
lemma measurements_onMachines (answer : Except StoreError (List Machine)) :
    Report.measurements (onMachines key c answer).2 = tally key (onMachines key c answer).1 := by
  cases answer with
  | error e => rfl
  | ok machines =>
    by_cases hsame : c.status = some (statusOf c.spec.qualifiers machines)
    · rw [onMachines_of_same hsame]
      rfl
    · cases hversion : c.version with
      | none =>
        rw [onMachines_of_unversioned hsame hversion]
        rfl
      | some version =>
        rw [onMachines_of_other hsame hversion]
        rfl

/-- What counts when the status was written, or could not be. -/
lemma measurements_onWritten (answer : Except StoreError Unit) :
    Report.measurements (onWritten key c status answer).2 =
      tally key (onWritten key c status answer).1 := by
  cases answer with
  | ok u => rfl
  | error e => cases e <;> rfl

/-- How many steps a reconcile may still take. -/
def left : Progress → ℕ
  | .fetching => 3
  | .loading _ => 2
  | .writing _ _ _ => 1
  | .finished _ => 0

/-- Before its end nothing but a write counts. -/
lemma tally_cases {p : Progress} (h : p.left ≠ 0) :
    tally key p = [] ∨ tally key p = [.statusWrite] ∧ p.left = 1 := by
  cases p with
  | fetching => exact Or.inl rfl
  | loading c => exact Or.inl rfl
  | writing c version status => exact Or.inr ⟨rfl, rfl⟩
  | finished r => exact absurd rfl h

/-- A reconcile that takes no more steps has ended. -/
lemma finished_of_left {p : Progress} (h : p.left = 0) : ∃ r, p = .finished r := by
  cases p with
  | finished r => exact ⟨r, rfl⟩
  | fetching => cases h
  | loading c => cases h
  | writing c version status => cases h

end Progress

namespace Backend

variable {σ : Type} (b : Backend σ) (key : ClassKey) (p : Progress) (x : σ)

/-! ### One step -/

/-- **A step counts what is due where it leads**, unless the reconcile has ended before. -/
lemma measurements_step (h : p.left ≠ 0) :
    Report.measurements (b.step key p x).1.2 = Progress.tally key (b.step key p x).1.1 := by
  cases p with
  | fetching => exact Progress.measurements_onClass key _
  | loading c => exact Progress.measurements_onMachines key c _
  | writing c version status => exact Progress.measurements_onWritten key c status _
  | finished r => exact absurd rfl h

/-- A step leaves one step less. -/
lemma left_step : (b.step key p x).1.1.left ≤ p.left - 1 := by
  cases p with
  | fetching =>
    change (Progress.onClass key (b.getClass key x).1).1.left ≤ 2
    cases (b.getClass key x).1 with
    | error e => exact Nat.zero_le 2
    | ok found =>
      cases found with
      | none => exact Nat.zero_le 2
      | some c => exact le_refl 2
  | loading c =>
    change (Progress.onMachines key c (b.listMachines x).1).1.left ≤ 1
    rcases Store.onMachines_cases key c (b.listMachines x).1 with
      ⟨r, hr⟩ | ⟨machines, version, -, -, hwriting⟩
    · rw [hr]
      exact Nat.zero_le 1
    · rw [hwriting]
      exact le_refl 1
  | writing c version status =>
    obtain ⟨r, hr⟩ := Store.onWritten_finished key c status (b.writeStatus c.key version status x).1
    change (Progress.onWritten key c status (b.writeStatus c.key version status x).1).1.left ≤ 0
    rw [hr]
    exact le_refl 0
  | finished r => exact le_refl 0

/-! ### All steps -/

/-- **Three steps always end a reconcile.** -/
lemma advance_finished_of_left {n : ℕ} (h : p.left ≤ n) (rs : List Report) :
    ∃ r, (b.advance key n p rs x).1.1 = .finished r := by
  induction n generalizing p rs x with
  | zero => exact Progress.finished_of_left (Nat.le_zero.mp h)
  | succ n ih =>
    have hstep := b.left_step key p x
    exact ih (b.step key p x).1.1 (b.step key p x).2 (by omega) (rs ++ (b.step key p x).1.2)

/-- **Counted**: a reconcile that stands somewhere has counted what is due there, and if it has
ended perhaps a write before. -/
def Counted (key : ClassKey) (rs : List Report) (p : Progress) : Prop :=
  ∃ writes, (writes = [] ∨ writes = [.statusWrite] ∧ p.left = 0) ∧
    Report.measurements rs = writes ++ Progress.tally key p

variable {p x} {rs : List Report}

/-- A step keeps count. -/
lemma Counted.step (h : Counted key rs p) :
    Counted key (rs ++ (b.step key p x).1.2) (b.step key p x).1.1 := by
  by_cases hend : p.left = 0
  · obtain ⟨r, rfl⟩ := Progress.finished_of_left hend
    rw [show (b.step key (.finished r) x).1 = (.finished r, []) from rfl, List.append_nil]
    exact h
  · obtain ⟨writes, hwrites, hrs⟩ := h
    have hnone : writes = [] := by
      rcases hwrites with hnil | ⟨-, hleft⟩
      · exact hnil
      · exact absurd hleft hend
    refine ⟨Progress.tally key p, ?_, ?_⟩
    · rcases Progress.tally_cases key hend with hnil | ⟨hwrite, hleft⟩
      · exact Or.inl hnil
      · have hstep := b.left_step key p x
        exact Or.inr ⟨hwrite, by omega⟩
    · rw [Report.measurements_append, b.measurements_step key p x hend, hrs, hnone, List.nil_append]

/-- Steps keep count. -/
lemma Counted.advance (h : Counted key rs p) (n : ℕ) :
    Counted key (b.advance key n p rs x).1.2 (b.advance key n p rs x).1.1 := by
  induction n generalizing p rs x with
  | zero => exact h
  | succ n ih => exact ih (h.step b key)

/-- **What a whole reconcile counts depends on its result and on whether it came to a write.** -/
lemma measurements_reconcile (x : σ) : ∃ writes, (writes = [] ∨ writes = [.statusWrite]) ∧
    Report.measurements (b.reconcile key x).1.2 =
      writes ++ Progress.tally key (.finished (b.reconcile key x).1.1) := by
  have hstart : Counted key Progress.start.2 Progress.start.1 := ⟨[], Or.inl rfl, rfl⟩
  have hcounted := hstart.advance b key (x := x) 3
  obtain ⟨r, hr⟩ := b.advance_finished_of_left key Progress.start.1 x (le_refl 3) Progress.start.2
  have hend : (b.reconcile key x).1 =
      (r, (b.advance key 3 Progress.start.1 Progress.start.2 x).1.2) := by
    simp only [reconcile, hr]
  obtain ⟨writes, hwrites, hrs⟩ := hcounted
  rw [hr] at hrs
  rw [hend]
  exact ⟨writes, hwrites.imp_right And.left, hrs⟩

/-- A reconcile that fails leaves all gauges as they were. -/
lemma gauges_of_error {e : StoreError} (h : (b.reconcile key x).1.1 = .error e) (m : Metrics)
    (text : String) : (m.recordAll (b.reconcile key x).1.2).gauges text = m.gauges text := by
  obtain ⟨writes, hwrites, hrs⟩ := b.measurements_reconcile key x
  rw [h] at hrs
  rw [Metrics.gauges_eq, Metrics.gauges_eq, Metrics.recordAll, hrs]
  rcases hwrites with rfl | rfl <;> rfl

end Backend

end BareMetal
