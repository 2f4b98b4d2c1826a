import BareMetal.Proofs.Series
import BareMetal.Proofs.Service

/-!
The metrics of a service account for all that was done in it.

* `Measurement.outcome?`, `Measurement.write?`, `Measurement.fanOut?`, `Measurement.sizes?`: what
  a measurement says of the end of a reconcile, of a write, of a fan-out and of the gauges of a
  class;
* `Metrics.counter`, `Metrics.total`, `Metrics.foldl_reconciles`, `foldl_statusWrites`,
  `foldl_fanOutRequests`, `foldl_fanOutFailures`, `foldl_classMachines`: **the metrics as functions
  of all measurements**;
* `ClassKey.Plain`, `ClassKey.Plain.text_injective`: keys without a slash are known by their
  text;
* `Service.ended`, `Service.wrote`: the reconciles that end in a move, and the classes whose
  commit comes to a write;
* `Service.metrics_account`: **at every moment the counters count these and nothing else, and
  the gauges of a class show the last reconcile that did not fail**, all as series;
* `Service.gauges_overlaid`: a key with a slash shares the gauges of the plain key with its text.
-/

namespace BareMetal

/-! ### Measurements -/

namespace Measurement

/-- How a reconcile ended. -/
def outcome? : Measurement → Option String
  | .reconcile o => some o
  | _ => none

/-- That a status was about to be written. -/
def write? : Measurement → Option Unit
  | .statusWrite => some ()
  | _ => none

/-- To how many classes a change goes, or that these could not be listed. -/
def fanOut? : Measurement → Option (Option ℕ)
  | .fanOut n => some (some n)
  | .fanOutFailure => some none
  | _ => none

/-- The sizes of the lists of the class with this text. -/
def sizes? (text : String) : Measurement → Option (ℕ × ℕ)
  | .classMachines key a u => if key = text then some (a, u) else none
  | _ => none

/-- **Of a fan-out**: a measurement says something of a change of a machine, and so neither of a
reconcile nor of a commit. -/
def OfFanOut : Measurement → Prop
  | .fanOut _ => True
  | .fanOutFailure => True
  | _ => False

variable {m : Measurement}

lemma OfFanOut.outcome?_eq (h : m.OfFanOut) : m.outcome? = none := by
  cases m with
  | fanOut n => rfl
  | fanOutFailure => rfl
  | _ => exact absurd h id

lemma OfFanOut.write?_eq (h : m.OfFanOut) : m.write? = none := by
  cases m with
  | fanOut n => rfl
  | fanOutFailure => rfl
  | _ => exact absurd h id

lemma OfFanOut.sizes?_eq (h : m.OfFanOut) (text : String) : m.sizes? text = none := by
  cases m with
  | fanOut n => rfl
  | fanOutFailure => rfl
  | _ => exact absurd h id

end Measurement

/-- Who asks for the classes that a change goes to measures a fan-out. -/
lemma ofFanOut_of_fanOut (classes : Except StoreError (List MachineClass)) :
    ∀ m ∈ Report.measurements (fanOut classes).2, m.OfFanOut := by
  intro m hm
  cases classes with
  | ok cs =>
    rw [List.mem_singleton.mp hm]
    trivial
  | error e =>
    rw [List.mem_singleton.mp hm]
    trivial

/-- A feed of keys measures fan-outs, one for each change that it takes up. -/
lemma Feed.ofFanOut_of_deliver (classes : Except StoreError (List MachineClass))
    (room : Option ℕ) (ready : List ClassKey) (pending : List String) :
    ∀ m ∈ Report.measurements (deliver classes room ready pending).2.2.2, m.OfFanOut := by
  induction pending generalizing room ready with
  | nil =>
    intro m hm
    cases hm
  | cons machine pending ih =>
    rw [deliver]
    split
    · intro m hm
      cases hm
    · intro m hm
      have htaken : Report.measurements (takeUp classes machine).2 =
          Report.measurements (fanOut classes).2 := by
        rw [takeUp, Report.measurements_append]
        exact List.append_nil _
      rw [Report.measurements_append, List.mem_append, htaken] at hm
      rcases hm with hnow | hlater
      · exact ofFanOut_of_fanOut classes m hnow
      · exact ih _ _ m hlater

/-- Feeds measure fan-outs only. -/
lemma Feed.ofFanOut_of_drain (f : Feed) (classes : Except StoreError (List MachineClass))
    (room : Option ℕ) :
    ∀ m ∈ Report.measurements (f.drain classes room).2.2, m.OfFanOut := by
  rw [drain]
  split
  · intro m hm
    cases hm
  · exact ofFanOut_of_deliver classes room f.ready f.pending

namespace Metrics

/-- A counter that has counted so many things. It is there once there was one, and holds 64 bits. -/
def counter (n : ℕ) : Option UInt64 :=
  if n = 0 then none else some (UInt64.ofNat n)

/-- A counter that has counted one thing more. -/
lemma grow_counter (n : ℕ) : some (grow (counter n) 1) = counter (n + 1) := by
  cases n with
  | zero => rfl
  | succ n =>
    rw [counter, counter, if_neg (Nat.succ_ne_zero n), if_neg (Nat.succ_ne_zero (n + 1)), grow,
      Option.getD_some, ← UInt64.ofNat_add]

/-- As a series it holds what was counted. -/
lemma map_counter (n : ℕ) : (counter n).map (fun n => Value.number n.toNat) = counted n := by
  rw [counter, counted]
  split
  · rfl
  · rw [Option.map_some, UInt64.toNat_ofNat']

/-- The counters of reconciles count their ends. -/
lemma foldl_reconciles (ms : List Measurement) (o : String) :
    (ms.foldl record {}).reconciles.get? o =
      counter ((ms.filterMap Measurement.outcome?).count o) := by
  induction ms using List.reverseRecOn with
  | nil => rfl
  | append_singleton ms m ih =>
    rw [List.foldl_append, List.filterMap_append, List.count_append]
    cases m with
    | reconcile outcome =>
      change ((ms.foldl record {}).reconciles.insert outcome _).get? o =
        counter (_ + [outcome].count o)
      by_cases h : outcome = o
      · rw [h, SortedMap.get?_insert_self, ih, grow_counter, List.count_singleton_self]
      · rw [SortedMap.get?_insert, if_neg h, ih, List.count_singleton, if_neg (by simpa using h),
          Nat.add_zero]
    | statusWrite => exact ih
    | fanOut n => exact ih
    | fanOutFailure => exact ih
    | classMachines key a u => exact ih

/-- The counter of writes counts them. -/
lemma foldl_statusWrites (ms : List Measurement) :
    (ms.foldl record {}).statusWrites = counter (ms.filterMap Measurement.write?).length := by
  induction ms using List.reverseRecOn with
  | nil => rfl
  | append_singleton ms m ih =>
    rw [List.foldl_append, List.filterMap_append, List.length_append]
    cases m with
    | statusWrite =>
      change some (grow (ms.foldl record {}).statusWrites 1) = _
      rw [ih, grow_counter]
      rfl
    | reconcile outcome => exact ih
    | fanOut n => exact ih
    | fanOutFailure => exact ih
    | classMachines key a u => exact ih

/-- A counter that has added up some numbers. It is there once there was one. -/
def total (ns : List ℕ) : Option UInt64 :=
  if ns = [] then none else some (UInt64.ofNat ns.sum)

/-- A counter that has added one number more. -/
lemma grow_total (ns : List ℕ) (n : ℕ) : some (grow (total ns) n) = total (ns ++ [n]) := by
  have hbefore : (total ns).getD 0 = UInt64.ofNat ns.sum := by
    rw [total]
    split
    next hnone => rw [hnone]; rfl
    next => rfl
  have hsome : ns ++ [n] ≠ [] := List.append_ne_nil_of_right_ne_nil ns (List.cons_ne_nil n [])
  rw [grow, hbefore, total, if_neg hsome, List.sum_append, List.sum_singleton, UInt64.ofNat_add]

/-- The counter of requests adds up to how many classes the changes go. -/
lemma foldl_fanOutRequests (ms : List Measurement) :
    (ms.foldl record {}).fanOutRequests =
      total (ms.filterMap Measurement.fanOut?).reduceOption := by
  induction ms using List.reverseRecOn with
  | nil => rfl
  | append_singleton ms m ih =>
    have hsame : (ms.foldl record {}).fanOutRequests =
        total ((ms.filterMap Measurement.fanOut?).reduceOption ++ []) := by
      rw [List.append_nil, ih]
    rw [List.foldl_append, List.filterMap_append, List.reduceOption_append]
    cases m with
    | fanOut n =>
      change some (grow (ms.foldl record {}).fanOutRequests n) = total (_ ++ [n])
      rw [ih, grow_total]
    | fanOutFailure => exact hsame
    | reconcile outcome => exact hsame
    | statusWrite => exact hsame
    | classMachines key a u => exact hsame

/-- The counter of failures counts the changes for which the classes could not be listed. -/
lemma foldl_fanOutFailures (ms : List Measurement) :
    (ms.foldl record {}).fanOutFailures =
      counter ((ms.filterMap Measurement.fanOut?).count none) := by
  induction ms using List.reverseRecOn with
  | nil => rfl
  | append_singleton ms m ih =>
    rw [List.foldl_append, List.filterMap_append, List.count_append]
    cases m with
    | fanOutFailure =>
      change some (grow (ms.foldl record {}).fanOutFailures 1) = _
      rw [ih, grow_counter]
      rfl
    | fanOut n => exact ih
    | reconcile outcome => exact ih
    | statusWrite => exact ih
    | classMachines key a u => exact ih

/-- The gauges of a class change when its sizes are measured, and only then. -/
lemma record_classMachines (m : Metrics) (x : Measurement) (text : String) :
    (m.record x).classMachines.get? text = (x.sizes? text).or (m.classMachines.get? text) := by
  cases x with
  | classMachines key a u =>
    change (m.classMachines.insert key (a, u)).get? text = _
    rw [SortedMap.get?_insert, Measurement.sizes?]
    split <;> rfl
  | reconcile outcome => rfl
  | statusWrite => rfl
  | fanOut n => rfl
  | fanOutFailure => rfl

/-- The gauges of a class hold what was measured last, and before the first measurement what they
held at the beginning. -/
lemma foldl_record_classMachines (m : Metrics) (ms : List Measurement) (text : String) :
    (ms.foldl record m).classMachines.get? text =
      (ms.filterMap (Measurement.sizes? text)).getLast?.or (m.classMachines.get? text) := by
  induction ms using List.reverseRecOn with
  | nil => rfl
  | append_singleton ms last ih =>
    have hlast : ([last].filterMap (Measurement.sizes? text)).getLast? = last.sizes? text := by
      cases h : last.sizes? text <;> simp [h]
    rw [List.foldl_append, List.filterMap_append, List.getLast?_append, hlast, Option.or_assoc,
      ← ih]
    exact record_classMachines _ last text

/-- The gauges of a class hold what was measured last. -/
lemma foldl_classMachines (ms : List Measurement) (text : String) :
    (ms.foldl record {}).classMachines.get? text =
      (ms.filterMap (Measurement.sizes? text)).getLast? :=
  (foldl_record_classMachines {} ms text).trans Option.or_none

end Metrics

/-! ### Keys without a slash -/

namespace ClassKey

/-- **Plain**: a key has no slash, neither in its namespace nor in its name. -/
def Plain (k : ClassKey) : Prop :=
  (∀ ns, k.scope = some ns → '/' ∉ ns.toList) ∧ '/' ∉ k.name.toList

/-- The text of a key with a namespace has a slash in it. -/
lemma toList_text_of_scope (ns name : String) :
    (ClassKey.mk (some ns) name).text.toList = ns.toList ++ '/' :: name.toList := by
  simp [text]

/-- **Plain keys are known by their text.** -/
lemma Plain.eq_of_text {k l : ClassKey} (hk : k.Plain) (hl : l.Plain) (h : k.text = l.text) :
    k = l := by
  obtain ⟨ks, kn⟩ := k
  obtain ⟨ls, ln⟩ := l
  have hchars := congrArg String.toList h
  -- the one slash of the text, if there is one, is the one behind the namespace
  cases ks with
  | none =>
    cases ls with
    | none =>
      have hname : kn = ln := h
      rw [hname]
    | some ls =>
      rw [toList_text_of_scope] at hchars
      have hslash : '/' ∈ kn.toList := hchars ▸ List.mem_append_right _ List.mem_cons_self
      exact absurd hslash hk.2
  | some ks =>
    rw [toList_text_of_scope] at hchars
    cases ls with
    | none =>
      have hslash : '/' ∈ ln.toList := hchars ▸ List.mem_append_right _ List.mem_cons_self
      exact absurd hslash hl.2
    | some ls =>
      rw [toList_text_of_scope] at hchars
      obtain ⟨hscope, -, hname⟩ :=
        (List.append_cons_inj_of_notMem (hk.1 ks rfl) hk.2).mp hchars
      have hns : ks = ls := String.toList_inj.mp hscope
      have hkn : kn = ln := String.toList_inj.mp hname
      rw [hns, hkn]

lemma plain_sample : MachineClass.sample.key.Plain := by
  refine ⟨?_, by decide⟩
  rintro ns ⟨⟩
  decide

end ClassKey

/-! ### What is due -/

/-- A write does not answer that a version is missing. -/
lemma Store.writeStatus_ne_missingVersion (s : Store) (key k : ClassKey) (version : String)
    (status : MachineClassStatus) :
    (s.writeStatus key version status).1 ≠ .error (.missingVersion k) := by
  intro h
  cases hfound : s.getClass key with
  | none =>
    rw [writeStatus_of_absent hfound] at h
    cases h
  | some c =>
    by_cases hversion : c.version = some version
    · rw [(writeStatus_of_current hfound hversion).1] at h
      cases h
    · rw [writeStatus_of_outdated hfound hversion] at h
      cases h

namespace Service

/-- The reconcile that ends in a move, with the key of its class and its result. -/
def ended (x : Service) : Move → List (ClassKey × Result)
  | .step i f limit =>
    match x.tasks[i]? with
    | none => []
    | some (key, p) =>
      match p, ((f.backend limit).step key p x.store).1.1 with
      | .finished _, _ => []
      | _, .finished r => [(key, r)]
      | _, _ => []
  | _ => []

/-- The class whose commit comes to the write in a move. A commit on its own does so unless it
answers that there is nothing to do or that the copy has no version, and the commit of a reconcile
when the reconcile is about to write. -/
def wrote (x : Service) : Move → List ClassKey
  | .commit c status f limit =>
    match ((f.backend limit).commit c status x.store).1.1 with
    | .ok .skip => []
    | .error (.missingVersion _) => []
    | _ => [c.key]
  | .step i f limit =>
    match x.tasks[i]? with
    | none => []
    | some (key, p) =>
      match ((f.backend limit).step key p x.store).1.1 with
      | .writing c _ _ => [c.key]
      | _ => []
  | _ => []

/-- A write, whatever its faults, does not answer so either. -/
lemma writeStatus_ne_missingVersion (f : Faults) (limit : ℕ) (key k : ClassKey) (version : String)
    (status : MachineClassStatus) (s : Store) :
    ((f.backend limit).writeStatus key version status s).1 ≠ .error (.missingVersion k) := by
  intro h
  simp only [Faults.backend] at h
  split at h
  · cases h
  · cases hunavailable : f.writeUnavailable with
    | some text =>
      rw [hunavailable] at h
      cases h
    | none =>
      simp only [hunavailable] at h
      rcases hanswer : (f.interfere key s).writeStatus key version status with ⟨answer, s'⟩
      rw [hanswer] at h
      cases answer with
      | ok u =>
        dsimp only at h
        split at h <;> cases h
      | error e =>
        have he : e = .missingVersion k := Except.error.inj h
        have hstored := Store.writeStatus_ne_missingVersion (f.interfere key s) key k version status
        rw [hanswer, he] at hstored
        exact hstored rfl

/-- **A commit on its own** counts a write unless it answers that there is nothing to do or that the
copy has no version. -/
lemma commit_cases (f : Faults) (limit : ℕ) (c : MachineClass) (status : MachineClassStatus)
    (s : Store) :
    let done := (f.backend limit).commit c status s
    (Report.measurements done.1.2 = [] ∧
        (done.1.1 = .ok .skip ∨ ∃ k, done.1.1 = .error (.missingVersion k))) ∨
      (Report.measurements done.1.2 = [.statusWrite] ∧ done.1.1 ≠ .ok .skip ∧
        ∀ k, done.1.1 ≠ .error (.missingVersion k)) := by
  intro done
  by_cases h : c.status = some status
  · have hdone : done = ((.ok .skip, Commit.reports c .skip), s) := Backend.commit_of_same s h
    rw [hdone]
    exact Or.inl ⟨rfl, Or.inl rfl⟩
  · cases hversion : c.version with
    | none =>
      have hdone : done = ((.error (.missingVersion c.key), Commit.reports c .refuse), s) :=
        Backend.commit_of_unversioned s h hversion
      rw [hdone]
      exact Or.inl ⟨rfl, Or.inr ⟨c.key, rfl⟩⟩
    | some version =>
      obtain ⟨hanswer, -, hmeasured⟩ := Backend.commit_of_other (b := f.backend limit) s h hversion
      right
      cases hwrite : ((f.backend limit).writeStatus c.key version status s).1 with
      | ok u =>
        have hdone : done.1.1 = .ok (.write version) := by
          rw [hanswer, hwrite]
          rfl
        exact ⟨hmeasured, by simp [hdone], by simp [hdone]⟩
      | error e =>
        have hdone : done.1.1 = .error e := by
          rw [hanswer, hwrite]
          rfl
        refine ⟨hmeasured, by simp [hdone], fun k hk => ?_⟩
        have he : e = .missingVersion k := Except.error.inj (hdone.symm.trans hk)
        have hne := writeStatus_ne_missingVersion f limit c.key k version status s
        rw [hwrite, he] at hne
        exact hne rfl

/-- **What a move measures is what is due**: fan-outs if no reconcile ends and no commit comes to a
write, and else just this. -/
lemma measured_cases (x : Service) (m : Move) :
    ((∀ y ∈ Report.measurements (x.reports m), y.OfFanOut) ∧ x.ended m = [] ∧ x.wrote m = []) ∨
      (Report.measurements (x.reports m) = [.statusWrite] ∧ x.ended m = [] ∧
        ∃ key, x.wrote m = [key]) ∨
      ∃ key r, Report.measurements (x.reports m) = Progress.tally key (.finished r) ∧
        x.ended m = [(key, r)] ∧ x.wrote m = [] := by
  have hnone : ∀ y ∈ Report.measurements [], y.OfFanOut := by
    intro y hy
    cases hy
  cases m with
  | call a => exact Or.inl ⟨hnone, rfl, rfl⟩
  | tell i => exact Or.inl ⟨hnone, rfl, rfl⟩
  | subscribe name kind => exact Or.inl ⟨hnone, rfl, rfl⟩
  | unsubscribe name => exact Or.inl ⟨hnone, rfl, rfl⟩
  | start key => exact Or.inl ⟨hnone, rfl, rfl⟩
  | fanOut => exact Or.inl ⟨ofFanOut_of_fanOut _, rfl, rfl⟩
  | drain name room =>
    refine Or.inl ⟨?_, rfl, rfl⟩
    rw [reports]
    split
    · exact hnone
    · exact Feed.ofFanOut_of_drain _ _ _
  | commit c status f limit =>
    rcases commit_cases f limit c status x.store with
      ⟨hmeasured, hskip | ⟨k, hmissing⟩⟩ | ⟨hmeasured, hskip, hmissing⟩
    · refine Or.inl ⟨hmeasured ▸ hnone, rfl, ?_⟩
      simp only [wrote, hskip]
    · refine Or.inl ⟨hmeasured ▸ hnone, rfl, ?_⟩
      simp only [wrote, hmissing]
    · refine Or.inr (Or.inl ⟨hmeasured, rfl, c.key, ?_⟩)
      rw [wrote]
      split
      next h => exact absurd h hskip
      next k h => exact absurd h (hmissing k)
      next => rfl
  | step i f limit =>
    simp only [reports, ended, wrote]
    cases htask : x.tasks[i]? with
    | none => exact Or.inl ⟨hnone, rfl, rfl⟩
    | some task =>
      obtain ⟨key, p⟩ := task
      dsimp only
      by_cases hend : p.left = 0
      · obtain ⟨r, rfl⟩ := Progress.finished_of_left hend
        exact Or.inl ⟨hnone, rfl, rfl⟩
      · rw [(f.backend limit).measurements_step key p x.store hend]
        cases hnext : ((f.backend limit).step key p x.store).1.1 with
        | fetching =>
          refine Or.inl ⟨hnone, ?_, rfl⟩
          cases p <;> rfl
        | loading c =>
          refine Or.inl ⟨hnone, ?_, rfl⟩
          cases p <;> rfl
        | writing c version status =>
          refine Or.inr (Or.inl ⟨rfl, ?_, c.key, rfl⟩)
          cases p <;> rfl
        | finished r =>
          refine Or.inr (Or.inr ⟨key, r, rfl, ?_, rfl⟩)
          cases p with
          | finished r' => exact absurd rfl hend
          | _ => rfl

/-! ### The account -/

/-- The outcomes among some results, of the reconciles of classes whose keys satisfy a condition. -/
def outcomesOf (p : ClassKey → Bool) (ends : List (ClassKey × Result)) : List Outcome :=
  (ends.filter (fun e => p e.1)).filterMap (fun e => e.2.toOption)

/-- Only keys of reconciles that did not fail matter. -/
lemma outcomesOf_congr {p q : ClassKey → Prop} [DecidablePred p] [DecidablePred q]
    {ends : List (ClassKey × Result)} (h : ∀ e ∈ ends, e.2.isOk → (p e.1 ↔ q e.1)) :
    outcomesOf (fun k => p k) ends = outcomesOf (fun k => q k) ends := by
  rw [outcomesOf, outcomesOf, List.filterMap_filter, List.filterMap_filter]
  refine List.filterMap_congr fun e he => ?_
  cases hresult : e.2 with
  | error e => simp [Except.toOption]
  | ok o =>
    have hsame : p e.1 ↔ q e.1 := h e he (by rw [hresult]; rfl)
    simp only [hsame]

/-- Nothing about fan-outs says anything of the rest. -/
lemma filterMap_of_ofFanOut {β : Type} {g : Measurement → Option β} {ms : List Measurement}
    (hms : ∀ y ∈ ms, y.OfFanOut) (hg : ∀ y : Measurement, y.OfFanOut → g y = none) :
    ms.filterMap g = [] := by
  rw [List.filterMap_eq_nil_iff]
  intro y hy
  exact hg y (hms y hy)

/-- The ends that a move counts are those of the reconciles that end in it. -/
lemma outcomes_measured (x : Service) (m : Move) :
    (Report.measurements (x.reports m)).filterMap Measurement.outcome? =
      (x.ended m).filterMap (fun e => some (resultKind e.2)) := by
  rcases measured_cases x m with ⟨hfan, hended, -⟩ | ⟨hwrite, hended, -⟩ | ⟨key, r, hend, hended, -⟩
  · rw [hended, filterMap_of_ofFanOut hfan fun y hy => hy.outcome?_eq]
    rfl
  · rw [hended, hwrite]
    rfl
  · rw [hended, hend]
    cases r <;> rfl

/-- The writes that a move counts are those to which a commit comes in it. -/
lemma writes_measured (x : Service) (m : Move) :
    (Report.measurements (x.reports m)).filterMap Measurement.write? =
      (x.wrote m).filterMap (fun _ => some ()) := by
  rcases measured_cases x m with
    ⟨hfan, -, hwrote⟩ | ⟨hwrite, -, key, hwrote⟩ | ⟨key, r, hend, -, hwrote⟩
  · rw [hwrote, filterMap_of_ofFanOut hfan fun y hy => hy.write?_eq]
    rfl
  · rw [hwrote, hwrite]
    rfl
  · rw [hwrote, hend]
    cases r <;> rfl

/-- The sizes that a move sets the gauges of a class to are those of the outcome of the reconcile
that ends in it. -/
lemma sizes_measured (text : String) (x : Service) (m : Move) :
    (Report.measurements (x.reports m)).filterMap (Measurement.sizes? text) =
      (x.ended m).filterMap (fun e => if e.1.text = text then e.2.toOption.map Outcome.sizes
        else none) := by
  rcases measured_cases x m with ⟨hfan, hended, -⟩ | ⟨hwrite, hended, -⟩ | ⟨key, r, hend, hended, -⟩
  · rw [hended, filterMap_of_ofFanOut hfan fun y hy => hy.sizes?_eq text]
    rfl
  · rw [hended, hwrite]
    rfl
  · rw [hended, hend]
    cases r with
    | ok o => by_cases h : key.text = text <;> simp [Progress.tally, Measurement.sizes?, h,
        Except.toOption]
    | error e => simp [Progress.tally, Measurement.sizes?, Except.toOption]

/-- A choice from what a service measures is a choice from other things that it does, if it is so
move by move. -/
lemma filterMap_measured {α β : Type} {g : Measurement → Option β} {out : Service → Move → List α}
    {g' : α → Option β}
    (h : ∀ x m, (Report.measurements (x.reports m)).filterMap g = (out x m).filterMap g')
    (moves : List Move) :
    (system.outputs (fun x m => Report.measurements (x.reports m)) {} moves).filterMap g =
      (system.outputs out {} moves).filterMap g' := by
  rw [System.filterMap_outputs, System.filterMap_outputs]
  simp only [h]

/-- A reconcile that has come to the write ends with it, but neither because there is nothing to do
nor because its copy has no version. -/
lemma ended_of_writing (f : Faults) (limit : ℕ) (key : ClassKey) (c : MachineClass)
    (version : String) (status : MachineClassStatus) (s : Store) :
    ∃ r, ((f.backend limit).step key (.writing c version status) s).1.1 = .finished r ∧
      (∀ status', r ≠ .ok (.unchanged status')) ∧ ∀ k, r ≠ .error (.missingVersion k) := by
  have hanswer := fun k => writeStatus_ne_missingVersion f limit c.key k version status s
  change ∃ r, (Progress.onWritten key c status
    ((f.backend limit).writeStatus c.key version status s).1).1 = .finished r ∧ _
  cases hwrite : ((f.backend limit).writeStatus c.key version status s).1 with
  | ok u => exact ⟨_, rfl, by simp, by simp⟩
  | error e =>
    rw [hwrite] at hanswer
    cases e with
    | notFound k => exact ⟨_, rfl, by simp, by simp⟩
    | missingVersion k => exact absurd rfl (hanswer k)
    | _ => exact ⟨_, rfl, by simp, by simp⟩

/-- The gauges with a text show the sizes of the last outcome of a reconcile of a class with this
text. -/
lemma gauges_run (moves : List Move) (text : String) :
    (system.run {} moves).metrics.gauges text =
      Metrics.shown ((outcomesOf (fun k => k.text = text)
        (system.outputs ended {} moves)).getLast?.map Outcome.sizes) := by
  rw [Metrics.gauges_eq, metrics_run, Metrics.foldl_classMachines,
    filterMap_measured (sizes_measured text), ← List.getLast?_map, outcomesOf,
    List.map_filterMap, List.filterMap_filter]
  congr 3
  funext e
  by_cases h : e.1.text = text <;> simp [h]

/-- **Metrics account for the run.** Let a service begin with nothing and take any moves, with any
faults of the calls. At every moment no series is there twice, the series of each label holds the
number of reconciles that ended with this label as the kind of their outcome or error, and the
series of writes the number of commits that came to the write, whatever became of it; a reconcile
that came to the write does not end unchanged or for want of a version. The gauges with the text of
a key show the sizes of the last outcome of a reconcile of a class with this text, the available
machines in the one and those in use in the other, so that the reconciles that failed do not matter.
A gauge holds any number below `2 ^ 53` as it is. As different plain keys have different texts, the
gauges of a plain key show the last outcome of the reconciles of this very key, unless there was one
of a key that has the same text and is not plain. -/
theorem metrics_account (moves : List Move) :
    let metrics := (system.run {} moves).metrics
    let ends := system.outputs ended {} moves
    (metrics.series.map Prod.fst).Nodup ∧
      (∀ o, metrics.value? ⟨"metalclass_reconcile_total", [("outcome", o)]⟩ =
        Metrics.counted (ends.countP (fun e => resultKind e.2 = o))) ∧
      metrics.value? ⟨"metalclass_status_patches_total", []⟩ =
        Metrics.counted (system.outputs wrote {} moves).length ∧
      (∀ (f : Faults) (limit : ℕ) (key : ClassKey) (c : MachineClass) (version : String)
        (status : MachineClassStatus) (s : Store), ∃ r,
        ((f.backend limit).step key (.writing c version status) s).1.1 = .finished r ∧
          (∀ status', r ≠ .ok (.unchanged status')) ∧ ∀ k, r ≠ .error (.missingVersion k)) ∧
      (∀ text, metrics.gauges text =
        Metrics.shown ((outcomesOf (fun k => k.text = text) ends).getLast?.map Outcome.sizes)) ∧
      (∀ n < 2 ^ 53, Metrics.gauge n = .number n) ∧
      ∀ key : ClassKey, key.Plain →
        (∀ e ∈ ends, e.1.text = key.text → e.2.isOk → e.1.Plain) →
          metrics.gauges key.text =
            Metrics.shown ((outcomesOf (fun k => k = key) ends).getLast?.map Outcome.sizes) := by
  intro metrics ends
  have hmetrics : metrics = (system.outputs (fun x m => Report.measurements (x.reports m)) {}
      moves).foldl Metrics.record {} := metrics_run {} moves
  refine ⟨metrics.nodup_series, ?_, ?_, ended_of_writing, gauges_run moves,
    fun n => Metrics.gauge_of_lt, ?_⟩
  · intro o
    rw [Metrics.value?_reconciles, hmetrics, Metrics.foldl_reconciles, Metrics.map_counter,
      filterMap_measured outcomes_measured, List.filterMap_eq_map', List.count_eq_countP,
      List.countP_map]
    rfl
  · rw [Metrics.value?_statusWrites, hmetrics, Metrics.foldl_statusWrites, Metrics.map_counter,
      filterMap_measured writes_measured, List.filterMap_eq_map', List.length_map]
  · intro key hkey hplain
    have hown : outcomesOf (fun k => k.text = key.text) ends = outcomesOf (fun k => k = key) ends :=
      outcomesOf_congr fun e he hok =>
        ⟨fun htext => (hplain e he htext hok).eq_of_text hkey htext, fun heq => heq ▸ rfl⟩
    exact (gauges_run moves key.text).trans (by rw [hown])

/-- A reconcile that writes the status, and one that cannot list the machines any more. -/
def unlisted : List Move :=
  let key := MachineClass.sample.key
  [.call (.putMachine .sample), .call (.putClass .sample), .start key, .step 0 {} 5, .step 0 {} 5,
    .step 0 {} 5, .call (.failMachineList true), .start key, .step 1 {} 5, .step 1 {} 5]

/-- Each of the two is counted once, there was one write, and the gauges show what the first one has
found. -/
theorem metrics_account_unlisted :
    let key := MachineClass.sample.key
    let metrics := (system.run {} unlisted).metrics
    let ends := system.outputs ended {} unlisted
    key.Plain ∧ (∀ e ∈ ends, e.1.text = key.text → e.2.isOk → e.1.Plain) ∧
      metrics.value? ⟨"metalclass_reconcile_total", [("outcome", "updated")]⟩ =
        some (.number 1) ∧
      metrics.value? ⟨"metalclass_reconcile_total", [("outcome", "unavailable")]⟩ =
        some (.number 1) ∧
      metrics.value? ⟨"metalclass_status_patches_total", []⟩ = some (.number 1) ∧
      metrics.gauges key.text = (some (.number 1), some (.number 0)) := by
  intro key metrics ends
  have hends : system.outputs ended {} unlisted =
      [(key, .ok (.updated { machinesAvailable := ["m1"] })),
        (key, .error (.unavailable "machine list failed"))] := by cbv
  have hwrote : system.outputs wrote {} unlisted = [key] := by cbv
  have hplain : ∀ e ∈ ends, e.1.text = key.text → e.2.isOk → e.1.Plain := by
    intro e he _ _
    have he : e ∈ system.outputs ended {} unlisted := he
    rw [hends] at he
    rcases List.mem_pair.mp he with rfl | rfl <;> exact ClassKey.plain_sample
  obtain ⟨-, hreconciles, hwrites, -, -, -, hgauges⟩ := metrics_account unlisted
  refine ⟨ClassKey.plain_sample, hplain, (hreconciles _).trans ?_, (hreconciles _).trans ?_,
    hwrites.trans ?_, (hgauges key ClassKey.plain_sample hplain).trans ?_⟩
  · rw [hends]
    rfl
  · rw [hends]
    rfl
  · rw [hwrote]
    rfl
  · have hlast : (outcomesOf (fun k => k = key) ends).getLast?.map Outcome.sizes = some (1, 0) := by
      change (outcomesOf (fun k => k = key) (system.outputs ended {} unlisted)).getLast?.map _ = _
      rw [hends]
      rfl
    rw [hlast]
    exact Metrics.shown_of_lt (by norm_num) (by norm_num)

/-- A reconcile that writes the status of a class, and one of a class without a namespace whose name
is the text of the key of the first. -/
def overlaid : List Move :=
  let key := MachineClass.sample.key
  [.call (.putMachine .sample), .call (.putClass .sample), .start key, .step 0 {} 5, .step 0 {} 5,
    .step 0 {} 5, .start ⟨none, "lab/any"⟩, .step 1 {} 5]

/-- The second one finds no class, and so the gauges read zero, which are not the sizes of the last
outcome of the plain key. -/
theorem gauges_overlaid :
    let key := MachineClass.sample.key
    let metrics := (system.run {} overlaid).metrics
    let own := (outcomesOf (fun k => k = key) (system.outputs ended {} overlaid)).getLast?
    key.Plain ∧ own = some (.updated { machinesAvailable := ["m1"] }) ∧
      metrics.gauges key.text = (some (.number 0), some (.number 0)) ∧
      metrics.gauges key.text ≠ Metrics.shown (own.map Outcome.sizes) := by
  intro key metrics own
  have hends : system.outputs ended {} overlaid =
      [(key, .ok (.updated { machinesAvailable := ["m1"] })), (⟨none, "lab/any"⟩, .ok .missing)] := by
    cbv
  have hown : own = some (.updated { machinesAvailable := ["m1"] }) := by
    change (outcomesOf _ (system.outputs ended {} overlaid)).getLast? = _
    rw [hends]
    rfl
  have hgauges : metrics.gauges key.text = (some (.number 0), some (.number 0)) := by
    refine (gauges_run overlaid key.text).trans ?_
    rw [hends]
    exact Metrics.shown_zero
  refine ⟨ClassKey.plain_sample, hown, hgauges, ?_⟩
  have hsizes : Metrics.shown (own.map Outcome.sizes) = (some (.number 1), some (.number 0)) := by
    rw [hown]
    exact Metrics.shown_of_lt (by norm_num) (by norm_num)
  rw [hgauges, hsizes]
  decide

end Service

end BareMetal
