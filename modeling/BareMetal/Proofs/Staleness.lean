import BareMetal.Proofs.Controller

/-!
What the gauges of a class show once it is gone.

* `Controller.Quiet`: the gauges of a class read zero or were never set;
* `Controller.Gone`, `Controller.Unread`, `Controller.Settled`: a server does not show a class;
  none of its reconciles has read it; the operator has done with it;
* `Controller.outcomes_of_gone`: **the reconciles of a class that is gone find it missing**,
  all but the one that may have read it before;
* `Controller.settled_run`: **once the operator has done with a class nothing but news of
  the class changes its gauges**;
* `Controller.quiet_iff`: **the gauges of a class that is gone become quiet by a reconcile
  that comes after, and in no other way**;
* `Operator.stale_of_told`: the operator is told that a class is gone, and the gauges of the
  class remain as they were.
-/

namespace BareMetal

namespace Controller

variable {σ : Type}

/-- The gauges of a class, for the machines that are available and for those in use. -/
def gauges (x : Controller σ) (key : ClassKey) : Option Metrics.Value × Option Metrics.Value :=
  x.metrics.gauges key.text

/-- **Quiet**: the gauges of a class were never set or read zero. -/
def Quiet (x : Controller σ) (key : ClassKey) : Prop :=
  x.gauges key = (none, none) ∨ x.gauges key = (some (.number 0), some (.number 0))

/-- The sizes of a class that its gauges show, if they were ever set. -/
def sizes (x : Controller σ) (key : ClassKey) : Option (ℕ × ℕ) :=
  x.metrics.classMachines.get? key.text

/-- **Gone**: a server does not show a class to who reads it. -/
def Gone (b : Backend σ) (key : ClassKey) (s : σ) : Prop :=
  ∀ c, (b.getClass key s).1 ≠ .ok (some c)

/-- **Unread**: no reconcile of a class has read it yet. -/
def Unread (x : Controller σ) (key : ClassKey) : Prop :=
  ∀ p, x.active.get? key = some p → p = .fetching

/-- **Settled**: the operator does not know a class any more, and none of its reconciles is
active. -/
structure Settled (x : Controller σ) (key : ClassKey) : Prop where
  known : x.known.get? key = none
  active : x.active.get? key = none

variable (b : Backend σ) {x : Controller σ} {key : ClassKey} {m : Move σ} {moves : List (Move σ)}

/-! ### Classes that are gone -/

/-- A reconcile that reads a class that is gone ends, and finds it missing if it does not fail. -/
lemma step_of_gone {s : σ} (h : Gone b key s) :
    (b.step key .fetching s).1.1 = .finished (.ok .missing) ∨
      ∃ e, (b.step key .fetching s).1.1 = .finished (.error e) := by
  change (Progress.onClass key (b.getClass key s).1).1 = _ ∨
    ∃ e, (Progress.onClass key (b.getClass key s).1).1 = _
  cases hanswer : (b.getClass key s).1 with
  | error e => exact Or.inr ⟨e, rfl⟩
  | ok found =>
    cases found with
    | none => exact Or.inl rfl
    | some c => exact absurd hanswer (h c)

/-- Where no reconcile is active none has read the class. -/
lemma unread_of_idle (h : x.active.get? key = none) : x.Unread key := by
  intro p hp
  rw [h] at hp
  cases hp

/-- While a class is gone no reconcile gets beyond reading it, and those that end without failure
find it missing. -/
lemma unread_step (hgone : Gone b key x.server) (hunread : x.Unread key) (m : Move σ) :
    (x.step b m).Unread key ∧
      ∀ o ∈ Service.outcomesOf (fun k => k = key) (x.ended b m), o = .missing := by
  have hnone : ∀ o ∈ Service.outcomesOf (fun k => decide (k = key)) [], o = .missing := by
    intro o ho
    cases ho
  cases m with
  | change s => exact ⟨hunread, hnone⟩
  | learn k => exact ⟨hunread, hnone⟩
  | forget k => exact ⟨hunread, hnone⟩
  | takeUp classes name => exact ⟨hunread, hnone⟩
  | start k =>
    refine ⟨?_, hnone⟩
    rw [step]
    split
    · intro p hp
      rcases SortedMap.get?_of_insert hp with ⟨-, rfl⟩ | ⟨-, hold⟩
      · rfl
      · exact hunread p hold
    · exact hunread
  | advance k =>
    by_cases hk : k = key
    · subst hk
      cases hp : x.active.get? k with
      | none =>
        rw [step_advance_of_none b hp, ended_of_none b hp]
        exact ⟨hunread, hnone⟩
      | some p =>
        obtain rfl : p = .fetching := hunread p hp
        have hleft : Progress.fetching.left ≠ 0 := Nat.succ_ne_zero 2
        rw [ended_advance b hp hleft]
        rcases step_of_gone b hgone with hmissing | ⟨e, hfail⟩
        · refine ⟨unread_of_idle (idle_of_finished b hp hmissing), ?_⟩
          rw [hmissing]
          simp [results, Service.outcomesOf, Except.toOption]
        · refine ⟨unread_of_idle (idle_of_finished b hp hfail), ?_⟩
          rw [hfail]
          simp [results, Service.outcomesOf, Except.toOption]
    · rw [outcomesOf_ended_of_ne b hk]
      refine ⟨?_, hnone⟩
      intro p hp
      rw [active_advance b hk] at hp
      exact hunread p hp

/-- Once a reconcile of a class has ended none is active, as there is one at most. -/
lemma unread_of_ended (h : Service.outcomesOf (fun k => k = key) (x.ended b m) ≠ []) :
    (x.step b m).Unread key ∧
      (Service.outcomesOf (fun k => k = key) (x.ended b m)).tail = [] := by
  cases m with
  | advance k =>
    have hk : k = key := by
      by_contra hk
      exact h (outcomesOf_ended_of_ne b hk)
    subst hk
    cases hp : x.active.get? k with
    | none =>
      rw [ended_of_none b hp] at h
      exact absurd rfl h
    | some p =>
      by_cases hleft : p.left = 0
      · rw [ended_of_finished b hp hleft] at h
        exact absurd rfl h
      · rw [ended_advance b hp hleft] at h ⊢
        cases hnext : (b.step k p x.server).1.1 with
        | finished r =>
          refine ⟨unread_of_idle (idle_of_finished b hp hnext), ?_⟩
          cases r <;> simp [results, Service.outcomesOf, Except.toOption]
        | fetching => exact absurd (by rw [hnext]; rfl) h
        | loading c => exact absurd (by rw [hnext]; rfl) h
        | writing c version status => exact absurd (by rw [hnext]; rfl) h
  | change s => exact absurd rfl h
  | learn k => exact absurd rfl h
  | forget k => exact absurd rfl h
  | takeUp classes name => exact absurd rfl h
  | start k => exact absurd rfl h

/-- A class that is not stored is gone, whatever the answers to come are. -/
lemma gone_of_store {s : Server} (h : s.store.getClass key = none) :
    Gone Server.backend key s := by
  intro c hc
  change (Server.getClass key s).1 = .ok (some c) at hc
  rw [Server.getClass] at hc
  split at hc
  next code rest _ =>
    -- a refusal is an error, or says that there is no such class
    unfold Api.Wire.classOf at hc
    split at hc
    next answer hanswer => cases hanswer
    next => cases hc
    next => cases hc
  next =>
    rw [h] at hc
    cases hc

/-- **The reconciles of a class that is gone find it missing** unless they fail: all of them if none
has read it before, and all but the first to end in any case. -/
lemma outcomes_of_gone (hgone : ∀ n, Gone b key (run b x (moves.take n)).server) :
    (x.Unread key → ∀ o ∈ outcomes b key x moves, o = .missing) ∧
      ∀ o ∈ (outcomes b key x moves).tail, o = .missing := by
  induction moves generalizing x with
  | nil => exact ⟨fun _ o ho => absurd ho List.not_mem_nil, fun o ho => absurd ho List.not_mem_nil⟩
  | cons m moves ih =>
    obtain ⟨hunread, htail⟩ := ih (x := x.step b m) (fun n => hgone (n + 1))
    rw [outcomes_cons]
    refine ⟨?_, ?_⟩
    · intro hx o ho
      obtain ⟨hnext, hmissing⟩ := unread_step b (hgone 0) hx m
      rcases List.mem_append.mp ho with hnow | hlater
      · exact hmissing o hnow
      · exact hunread hnext o hlater
    · intro o ho
      by_cases hended : Service.outcomesOf (fun k => decide (k = key)) (x.ended b m) = []
      · rw [hended] at ho
        exact htail o ho
      · -- the first outcome is here, and the reconciles after it begin when the class is gone
        obtain ⟨hnext, hone⟩ := unread_of_ended b hended
        rw [List.tail_append_of_ne_nil hended, hone] at ho
        exact hunread hnext o ho

/-! ### Classes with which the operator has done -/

/-- Nothing but news of a class brings it back to an operator that has done with it. -/
lemma settled_step (hx : x.Settled key) (hm : m ≠ .learn key) :
    (x.step b m).Settled key ∧ Service.outcomesOf (fun k => k = key) (x.ended b m) = [] := by
  cases m with
  | change s => exact ⟨⟨hx.known, hx.active⟩, rfl⟩
  | learn k =>
    refine ⟨⟨?_, hx.active⟩, rfl⟩
    change (x.known.insert k ()).get? key = none
    rw [SortedMap.get?_insert, if_neg (fun hk => hm (congrArg Move.learn hk))]
    exact hx.known
  | forget k =>
    refine ⟨⟨?_, hx.active⟩, rfl⟩
    change (x.known.erase k).get? key = none
    rw [SortedMap.get?_erase]
    split
    · rfl
    · exact hx.known
  | takeUp classes name => exact ⟨⟨hx.known, hx.active⟩, rfl⟩
  | start k =>
    refine ⟨?_, rfl⟩
    rw [step]
    split
    next h =>
      refine ⟨hx.known, ?_⟩
      -- the class that begins is known, and so it is another one
      have hk : k ≠ key := by
        rintro rfl
        have hknown := h.1
        rw [SortedMap.contains, hx.known] at hknown
        cases hknown
      change (x.active.insert k _).get? key = none
      rw [SortedMap.get?_insert, if_neg hk]
      exact hx.active
    next => exact hx
  | advance k =>
    by_cases hk : k = key
    · subst hk
      rw [step_advance_of_none b hx.active, ended_of_none b hx.active]
      exact ⟨hx, rfl⟩
    · refine ⟨⟨?_, ?_⟩, outcomesOf_ended_of_ne b hk⟩
      · rw [known_advance]
        exact hx.known
      · rw [active_advance b hk]
        exact hx.active

/-- **Once the operator has done with a class nothing but news of the class lets a reconcile of it
end.** -/
lemma settled_run (hx : x.Settled key) (hmoves : .learn key ∉ moves) :
    (run b x moves).Settled key ∧ outcomes b key x moves = [] := by
  induction moves generalizing x with
  | nil => exact ⟨hx, rfl⟩
  | cons m moves ih =>
    rw [List.mem_cons, not_or] at hmoves
    obtain ⟨hnext, hnow⟩ := settled_step b hx (Ne.symm hmoves.1)
    obtain ⟨hend, hlater⟩ := ih hnext hmoves.2
    rw [outcomes_cons, hnow, hlater]
    exact ⟨hend, rfl⟩

/-! ### Quiet gauges -/

/-- The gauges of a class show its sizes. -/
lemma gauges_eq (x : Controller σ) (key : ClassKey) : x.gauges key = Metrics.shown (x.sizes key) :=
  x.metrics.gauges_eq key.text

/-- They are quiet if these are zero. -/
lemma quiet_iff_sizes : x.Quiet key ↔ ∀ n, x.sizes key = some n → n = (0, 0) := by
  rw [Quiet, gauges_eq]
  exact Metrics.shown_quiet_iff

/-- **The sizes of a class are those of the last outcome of its reconciles**, if no other class of
its text is reconciled, and before the first outcome those of the beginning. -/
lemma sizes_run (htext : ∀ e ∈ ends b x moves, e.1.text = key.text → e.1 = key) :
    (run b x moves).sizes key =
      ((outcomes b key x moves).map Outcome.sizes).getLast?.or (x.sizes key) := by
  have hsame : Service.outcomesOf (fun k => k.text = key.text) (ends b x moves) =
      outcomes b key x moves :=
    Service.outcomesOf_congr fun e he _ => ⟨htext e he, fun heq => heq ▸ rfl⟩
  rw [sizes, gauges_run, hsame]
  rfl

/-- Gauges that show a last size are quiet if it is zero, and else if they were quiet before. -/
lemma quiet_iff_of_sizes {y : Controller σ} {os : List Outcome}
    (h : y.sizes key = (os.map Outcome.sizes).getLast?.or (x.sizes key)) :
    y.Quiet key ↔ (∀ o, os.getLast? = some o → o.sizes = (0, 0)) ∧ (os = [] → x.Quiet key) := by
  rw [quiet_iff_sizes, quiet_iff_sizes, h, List.getLast?_map]
  cases hlast : os.getLast? with
  | none =>
    have hnil : os = [] := List.getLast?_eq_none_iff.mp hlast
    refine ⟨fun hquiet => ⟨fun o ho => ?_, fun _ => hquiet⟩, fun hquiet => hquiet.2 hnil⟩
    cases ho
  | some o =>
    have hne : os ≠ [] := by
      rintro rfl
      cases hlast
    refine ⟨fun hquiet => ⟨?_, fun hnil => absurd hnil hne⟩, fun hquiet g hg => ?_⟩
    · rintro o' ⟨⟩
      exact hquiet o.sizes rfl
    · rw [← Option.some.inj hg]
      exact hquiet.1 o rfl

/-- Where every new outcome is that the class is missing one of them makes the gauges quiet. -/
lemma quiet_iff_of_missing {y : Controller σ} {os : List Outcome}
    (h : y.sizes key = (os.map Outcome.sizes).getLast?.or (x.sizes key))
    (hmissing : ∀ o ∈ os, o = .missing) : y.Quiet key ↔ x.Quiet key ∨ os ≠ [] := by
  have hzero : ∀ o, os.getLast? = some o → o.sizes = (0, 0) := by
    intro o ho
    rw [hmissing o (List.mem_of_getLast? ho)]
    rfl
  rw [quiet_iff_of_sizes h, and_iff_right hzero, or_iff_not_imp_right, not_not]

/-- Where every new outcome but the first is that the class is missing two of them make the gauges
quiet. -/
lemma quiet_of_two {y : Controller σ} {os : List Outcome}
    (h : y.sizes key = (os.map Outcome.sizes).getLast?.or (x.sizes key))
    (htail : ∀ o ∈ os.tail, o = .missing) (htwo : 2 ≤ os.length) : y.Quiet key := by
  refine (quiet_iff_of_sizes h).mpr ⟨fun o ho => ?_, fun hnil => ?_⟩
  · -- the last of two is behind the first
    have hbehind : os.tail.getLast? = some o := by
      rw [List.getLast?_tail, if_neg (by omega)]
      exact ho
    rw [htail o (List.mem_of_getLast? hbehind)]
    rfl
  · rw [hnil] at htwo
    cases htwo

/-- **Stale gauges.** Let the operator begin with nothing on a server of any kind, and let it and
others make any moves, first some and then some more. The gauges of a class are quiet in the end
exactly if the last outcome of its reconciles, if there is one, is that the class is missing or that
it lists no machines. Suppose that the class is gone after the first moves and not put again. If no
reconcile has read it by then, its gauges are quiet in the end exactly if they were quiet by then or
one of its reconciles has ended since without failure; if one may have read it, two such reconciles
are enough. But once the operator has done with the class, as it was told that the class is gone and
none of its reconciles is active, none ends any more and the gauges remain as they are, until the
operator is told of the class anew. All that the operator does by its clock is among these moves.

No other class of the same text is to be reconciled, as holds of any class if all keys are plain. -/
theorem quiet_iff (s : σ) (key : ClassKey) (moves later : List (Move σ))
    (htext : ∀ e ∈ ends b { server := s } (moves ++ later), e.1.text = key.text → e.1 = key) :
    let x := run b { server := s } moves
    let y := run b x later
    let fresh := outcomes b key x later
    (y.Quiet key ↔ ∀ o, (outcomes b key { server := s } (moves ++ later)).getLast? = some o →
        o.sizes = (0, 0)) ∧
      ((∀ n, Gone b key (run b x (later.take n)).server) →
        (x.Unread key → (y.Quiet key ↔ x.Quiet key ∨ fresh ≠ [])) ∧
          (2 ≤ fresh.length → y.Quiet key)) ∧
      (x.Settled key → .learn key ∉ later →
        y.Settled key ∧ fresh = [] ∧ y.gauges key = x.gauges key) ∧
      ∀ (d : Delays) (stop : ℕ) (server : Server) (changes : List (ℕ × Change)),
        ∃ moves, run Server.backend { server := server } moves =
          (Operator.run d stop server changes).controller := by
  intro x y fresh
  have hlater : ∀ e ∈ ends b x later, e.1.text = key.text → e.1 = key := by
    intro e he
    refine htext e ?_
    rw [ends_append]
    exact List.mem_append_right _ he
  have hsizes : y.sizes key = (fresh.map Outcome.sizes).getLast?.or (x.sizes key) :=
    sizes_run b hlater
  refine ⟨?_, ?_, ?_, Operator.reaches_run⟩
  · have hall := sizes_run b htext
    rw [run_append] at hall
    rw [show y.Quiet key ↔ _ from quiet_iff_of_sizes hall, and_iff_left]
    exact fun _ => Or.inl rfl
  · intro hgone
    obtain ⟨hmissing, htail⟩ := outcomes_of_gone b hgone
    exact ⟨fun hunread => quiet_iff_of_missing hsizes (hmissing hunread),
      quiet_of_two hsizes htail⟩
  · intro hsettled hlearn
    obtain ⟨hend, hnone⟩ := settled_run b hsettled hlearn
    refine ⟨hend, hnone, ?_⟩
    rw [gauges_eq, gauges_eq, hsizes, show fresh = [] from hnone]
    rfl

/-- One machine and one class, which is reconciled and taken away. -/
def taken : List (Move Server) :=
  let key := MachineClass.sample.key
  [.change { store := ({} : Store).after Store.Call.samples }, .learn key, .start key,
    .advance key, .advance key, .advance key,
    .change { store := ({} : Store).after [.putMachine .sample] }]

/-- Once the operator was told of that the gauges remain as they were, whatever asks for a reconcile
then; if the class is reconciled before, they become quiet. -/
theorem quiet_iff_taken :
    let key := MachineClass.sample.key
    let told := run Server.backend { server := {} } (taken ++ [.forget key])
    let stale := run Server.backend told [.takeUp (.ok []) "m2", .start key, .advance key]
    let untold := run Server.backend { server := {} } taken
    let fresh := run Server.backend untold [.start key, .advance key]
    told.Settled key ∧ stale.gauges key = (some (.number 1), some (.number 0)) ∧
      ¬ stale.Quiet key ∧
      untold.Unread key ∧ ¬ untold.Quiet key ∧ fresh.Quiet key := by
  intro key told stale untold fresh
  have hstale : ends Server.backend { server := {} } ((taken ++ [.forget key]) ++
      [.takeUp (.ok []) "m2", .start key, .advance key]) =
        [(key, .ok (.updated { machinesAvailable := ["m1"] }))] := by cbv
  have hfresh : ends Server.backend { server := {} } (taken ++ [.start key, .advance key]) =
      [(key, .ok (.updated { machinesAvailable := ["m1"] })), (key, .ok .missing)] := by cbv
  have hsettled : told.Settled key := ⟨by cbv, by cbv⟩
  have hunread : untold.Unread key := unread_of_idle (by cbv)
  have hset : untold.sizes key = some (1, 0) := by cbv
  have hloud : ¬ untold.Quiet key := by
    intro hquiet
    cases quiet_iff_sizes.mp hquiet (1, 0) hset
  have hstaleText : ∀ e ∈ ends Server.backend { server := {} } ((taken ++ [.forget key]) ++
      [.takeUp (.ok []) "m2", .start key, .advance key]), e.1.text = key.text → e.1 = key := by
    rw [hstale]
    simp
  have hfreshText : ∀ e ∈ ends Server.backend { server := {} } (taken ++
      [.start key, .advance key]), e.1.text = key.text → e.1 = key := by
    rw [hfresh]
    simp
  have hgone : ∀ n, Gone Server.backend key (run Server.backend untold
      ([Move.start key, .advance key].take n)).server := by
    intro n
    apply gone_of_store
    rcases n with _ | _ | n
    · cbv
    · cbv
    · rw [List.take_of_length_le (by simp)]
      cbv
  have hended : outcomes Server.backend key untold [.start key, .advance key] ≠ [] := by
    have hmissing : outcomes Server.backend key untold [.start key, .advance key] = [.missing] := by
      cbv
    rw [hmissing]
    exact List.cons_ne_nil _ _
  obtain ⟨-, -, hkept, -⟩ := quiet_iff Server.backend {} key (taken ++ [.forget key])
    [.takeUp (.ok []) "m2", .start key, .advance key] hstaleText
  obtain ⟨-, hread, -, -⟩ := quiet_iff Server.backend {} key taken [.start key, .advance key]
    hfreshText
  obtain ⟨-, -, hsame⟩ := hkept hsettled (by simp)
  have hgauges : stale.gauges key = (some (.number 1), some (.number 0)) := by
    have hstill : told.sizes key = some (1, 0) := by cbv
    rw [show stale.gauges key = told.gauges key from hsame, gauges_eq, hstill]
    exact Metrics.shown_of_lt (by norm_num) (by norm_num)
  refine ⟨hsettled, hgauges, ?_, hunread, hloud, ((hread hgone).1 hunread).mpr (Or.inr hended)⟩
  rw [Quiet, hgauges]
  decide

end Controller

namespace Operator

/-- The operator on a server with one machine and one class. After half a second the class is taken
away and the operator told of it, and after a second the class would be reconciled again. -/
def told : Operator :=
  run { resync := 1000, error := 1000, conflict := 1000 } 2000
    { store := ({} : Store).after Store.Call.samples }
    [(500, .deleteClass MachineClass.sample.key true)]

/-- In the end the class is not there, the operator has done with it and nothing is due, but the
gauges of the class still show a machine. -/
theorem stale_of_told :
    let key := MachineClass.sample.key
    told.server.store.getClass key = none ∧ told.controller.Settled key ∧ told.due = .empty ∧
      told.controller.gauges key = (some (.number 1), some (.number 0)) ∧
      ¬ told.controller.Quiet key := by
  intro key
  have hsizes : told.controller.sizes key = some (1, 0) := by cbv
  have hgauges : told.controller.gauges key = (some (.number 1), some (.number 0)) := by
    rw [Controller.gauges_eq, hsizes]
    exact Metrics.shown_of_lt (by norm_num) (by norm_num)
  refine ⟨by cbv, ⟨by cbv, rfl⟩, SortedMap.ext (by cbv), hgauges, ?_⟩
  rw [Controller.Quiet, hgauges]
  decide

end Operator

end BareMetal
