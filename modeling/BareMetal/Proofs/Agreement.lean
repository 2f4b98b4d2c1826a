import BareMetal.Proofs.Race
import BareMetal.Proofs.Reconcile.Course

/-!
Reconciles that race on one store while nobody else changes it.

* `Store.rightStatus`, `Store.Settled`: the status that its qualifiers and the machines give
  a class, and a class that has been given this status and nothing else;
* `Store.Settling`: a store in which some classes have been settled and nothing else has
  changed;
* `Store.Informed`: what a reconcile knows and finds in such a store; `settling_step`: **a
  step of an informed reconcile settles at most its own class and leaves it informed**;
* `Race.stage`, `Race.Succeeds`, `Race.started`, `Race.Done`: the moments of a race on a given
  store, the writes that succeed in it, the classes that are reconciled, and its end;
* `Race.settling`: every stage is settling, and its reconciles are informed;
* `Race.reconciles_agree`: **each class is written at most once, the only failure is a lost
  race, and whoever ends leaves the class settled**.
-/

namespace BareMetal

namespace Store

variable {s x x' : Store} {key k : ClassKey} {p : Progress} {c : MachineClass} {version : String}
  {status : MachineClassStatus}

/-! ### Settled classes -/

/-- The status that its qualifiers and the machines give a class. -/
def rightStatus (s : Store) (c : MachineClass) : MachineClassStatus :=
  statusOf c.spec.qualifiers s.machines.values

/-- **Settled**: what is stored under a key is the class of an earlier store, but for its version
and for its status, which is the right one. -/
def Settled (s : Store) (k : ClassKey) (x : Store) : Prop :=
  ∃ c version, s.getClass k = some c ∧
    x.getClass k = some ({ c with status := some (s.rightStatus c) }.withVersion version)

/-- **Settling**: some classes have been settled since an earlier store, and nothing else has
changed. -/
structure Settling (s x : Store) : Prop where
  machines : x.machines = s.machines
  listed : x.machineListFails = false
  classes : ∀ k, x.getClass k = s.getClass k ∨ s.Settled k x

/-- Nothing has changed at the beginning. -/
lemma Settling.refl (hlisted : s.machineListFails = false) : s.Settling s where
  machines := rfl
  listed := hlisted
  classes _ := Or.inl rfl

/-- A settled class has the right status. -/
lemma Settled.status_eq (h : s.Settled key x) (hc : x.getClass key = some c) :
    c.status = some (s.rightStatus c) := by
  obtain ⟨c₀, version, -, hfound⟩ := h
  rw [hfound] at hc
  cases hc
  rfl

/-- Only what is stored under the key matters. -/
lemma Settled.of_getClass (h : s.Settled key x) (hx : x'.getClass key = x.getClass key) :
    s.Settled key x' := by
  obtain ⟨c, version, hc, hfound⟩ := h
  exact ⟨c, version, hc, hx.trans hfound⟩

/-- A class that had the right status from the beginning is settled. -/
lemma Settling.settled_of_status (hx : s.Settling x) (hfiled : s.Filed)
    (hc : s.getClass key = some c) (hstatus : c.status = some (s.rightStatus c)) :
    s.Settled key x := by
  rcases hx.classes key with hsame | hsettled
  · obtain ⟨version, hversion⟩ := hfiled.version_some hc
    have hself : { c with status := some (s.rightStatus c) }.withVersion version = c := by
      rw [MachineClass.withVersion, ← hstatus, ← hversion]
      rfl
    exact ⟨c, version, hc, by rw [hself, hsame, hc]⟩
  · exact hsettled

/-! ### Writes -/

/-- A write over the version of an earlier copy with another status either finds this copy, so that
the class is not settled yet, or finds the class settled and conflicts. -/
lemma Settling.write_cases (hx : s.Settling x) (hs : ({} : Store).Later s) (hlater : s.Later x)
    (hc : s.getClass key = some c) (hversion : c.version = some version)
    (hother : c.status ≠ some (s.rightStatus c)) :
    (x.getClass key = some c ∧ ¬ s.Settled key x) ∨
      (s.Settled key x ∧
        x.writeStatus key version status = (.error (.conflict key), x.wasted)) := by
  have hcopy : ∀ {c'}, s.Settled key x → x.getClass key = some c' → c' ≠ c := by
    rintro c' hsettled hc' rfl
    exact hother (hsettled.status_eq hc')
  rcases hx.classes key with hsame | hsettled
  · have hfound : x.getClass key = some c := hsame.trans hc
    exact Or.inl ⟨hfound, fun hsettled => hcopy hsettled hfound rfl⟩
  · right
    refine ⟨hsettled, ?_⟩
    obtain ⟨c₀, v, hc₀, hfound⟩ := hsettled
    refine writeStatus_of_outdated hfound ?_
    -- the version of the copy would bring the copy back
    intro hsame
    exact hcopy ⟨c₀, v, hc₀, hfound⟩ hfound
      (Later.eq_of_version hs hlater hc hfound (hsame.trans hversion.symm))

/-- A write of the right status over the copy that is stored settles the class. -/
lemma Settling.of_rewritten (hx : s.Settling x) (hc : s.getClass key = some c)
    (h : x.Rewritten key c (s.rightStatus c) x') : s.Settling x' ∧ s.Settled key x' := by
  have hsettled : s.Settled key x' := ⟨c, x.nextVersion, hc, h.found⟩
  refine ⟨⟨h.machines.trans hx.machines, h.machineListFails.trans hx.listed, ?_⟩, hsettled⟩
  intro k
  by_cases hk : k = key
  · rw [hk]
    exact Or.inr hsettled
  · have hsame : x'.getClass k = x.getClass k := h.others k hk
    rcases hx.classes k with hold | hold
    · exact Or.inl (hsame.trans hold)
    · exact Or.inr (hold.of_getClass hsame)

/-! ### Steps -/

/-- **Informed**: the copy that a reconcile has read is the class of the earlier store, or the class
was settled before it was read; what it is about to write is the right status, over the version of
the earlier class; and if it has ended, the class was not there or is settled. -/
def Informed (s x : Store) (key : ClassKey) : Progress → Prop
  | .fetching => True
  | .loading c => s.getClass key = some c ∨
      (s.Settled key x ∧ c.status = some (s.rightStatus c))
  | .writing c version status => s.getClass key = some c ∧ c.version = some version ∧
      status = s.rightStatus c ∧ c.status ≠ some status
  | .finished r => (s.getClass key = none ∧ r = .ok .missing) ∨
      (s.Settled key x ∧ r ≠ .ok .missing ∧ ∀ e, r = .error e → e = .conflict key)

/-- A reconcile stays informed as long as settled classes stay settled. -/
lemma Informed.mono (h : s.Informed x key p) (hkeep : s.Settled key x → s.Settled key x') :
    s.Informed x' key p := by
  cases p with
  | fetching => trivial
  | loading c => exact h.imp_right (fun hc => ⟨hkeep hc.1, hc.2⟩)
  | writing c version status => exact h
  | finished r => exact h.imp_right (fun hr => ⟨hkeep hr.1, hr.2⟩)

/-- A step of an informed reconcile leaves the other classes alone. -/
lemma Informed.getClass_step (h : s.Informed x key p) (hfiled : s.Filed) (hk : k ≠ key) :
    (backend.step key p x).2.getClass k = x.getClass k := by
  cases p with
  | writing c version status =>
    have hc : c.key = key := hfiled.key_eq h.1
    change (x.writeStatus c.key version status).2.getClass k = x.getClass k
    rw [hc]
    cases hfound : x.getClass key with
    | none =>
      rw [writeStatus_of_absent hfound]
      rfl
    | some c' =>
      by_cases hversion : c'.version = some version
      · exact (writeStatus_of_current hfound hversion).2.others k hk
      · rw [writeStatus_of_outdated hfound hversion]
        rfl
  | fetching => rfl
  | loading c => rfl
  | finished r => rfl

/-- A reconcile that reads its class is informed of it. -/
lemma Settling.informed_onClass (hx : s.Settling x) :
    s.Informed x key (Progress.onClass key (.ok (x.getClass key))).1 := by
  cases hfound : x.getClass key with
  | none =>
    left
    refine ⟨?_, rfl⟩
    rcases hx.classes key with hsame | ⟨c, version, -, hsettled⟩
    · exact hsame.symm.trans hfound
    · rw [hfound] at hsettled
      cases hsettled
  | some c =>
    rcases hx.classes key with hsame | hsettled
    · exact Or.inl (hsame.symm.trans hfound)
    · exact Or.inr ⟨hsettled, hsettled.status_eq hfound⟩

/-- A reconcile that lists the machines knows the right status of its class, and ends if the class
has it. -/
lemma Settling.informed_onMachines (hx : s.Settling x) (hfiled : s.Filed)
    (h : s.Informed x key (.loading c)) :
    s.Informed x key (Progress.onMachines key c x.listMachines).1 := by
  have hright : statusOf c.spec.qualifiers x.machines.values = s.rightStatus c := by
    rw [hx.machines]
    rfl
  rw [listMachines_eq_ok hx.listed]
  by_cases hsame : c.status = some (s.rightStatus c)
  · have hsettled : s.Settled key x := by
      rcases h with hc | ⟨hsettled, -⟩
      · exact hx.settled_of_status hfiled hc hsame
      · exact hsettled
    rw [Progress.onMachines_of_same (by rw [hright]; exact hsame)]
    refine Or.inr ⟨hsettled, ?_, ?_⟩
    · intro hmissing
      cases hmissing
    · intro e he
      cases he
  · have hc : s.getClass key = some c := h.resolve_right (fun hsettled => hsame hsettled.2)
    obtain ⟨version, hversion⟩ := hfiled.version_some hc
    rw [Progress.onMachines_of_other (by rw [hright]; exact hsame) hversion]
    exact ⟨hc, hversion, hright, by rw [hright]; exact hsame⟩

/-- **A step of an informed reconcile settles at most its own class and leaves it informed.** -/
lemma settling_step (hs : ({} : Store).Later s) (hfiled : s.Filed) (hlater : s.Later x)
    (hx : s.Settling x) (h : s.Informed x key p) :
    s.Settling (backend.step key p x).2 ∧
      (∀ k, s.Settled k x → s.Settled k (backend.step key p x).2) ∧
      s.Informed (backend.step key p x).2 key (backend.step key p x).1.1 := by
  cases p with
  | fetching => exact ⟨hx, fun _ hk => hk, hx.informed_onClass⟩
  | loading c => exact ⟨hx, fun _ hk => hk, hx.informed_onMachines hfiled h⟩
  | finished r => exact ⟨hx, fun _ hk => hk, h⟩
  | writing c version status =>
    obtain ⟨hc, hversion, rfl, hother⟩ := h
    have hkey : c.key = key := hfiled.key_eq hc
    have hstep : backend.step key (.writing c version (s.rightStatus c)) x =
        (Progress.onWritten key c (s.rightStatus c)
          (x.writeStatus key version (s.rightStatus c)).1,
        (x.writeStatus key version (s.rightStatus c)).2) := by
      rw [← hkey]
      rfl
    rw [hstep]
    rcases hx.write_cases hs hlater hc hversion hother with
      ⟨hfound, hopen⟩ | ⟨hsettled, hwrite⟩
    · -- nobody was faster
      obtain ⟨hok, hrewritten⟩ : (x.writeStatus key version (s.rightStatus c)).1 = .ok () ∧
          x.Rewritten key c (s.rightStatus c) (x.writeStatus key version (s.rightStatus c)).2 :=
        writeStatus_of_current hfound hversion
      obtain ⟨hx', hsettled⟩ := hx.of_rewritten hc hrewritten
      refine ⟨hx', ?_, ?_⟩
      · intro k hk
        have hne : k ≠ key := fun heq => hopen (heq ▸ hk)
        exact hk.of_getClass (hrewritten.others k hne)
      · rw [hok]
        refine Or.inr ⟨hsettled, ?_, ?_⟩
        · intro hmissing
          cases hmissing
        · intro e he
          cases he
    · -- someone was faster, and has settled the class
      rw [hwrite]
      refine ⟨⟨hx.machines, hx.listed, hx.classes⟩, fun _ hk => hk, Or.inr ⟨hsettled, ?_, ?_⟩⟩
      · intro hmissing
        cases hmissing
      · intro e he
        cases he
        rfl

end Store

namespace Race

variable {s : Store} {x : Race} {moves : List Move} {m n i : ℕ} {key k : ClassKey} {p : Progress}
  {c : MachineClass}

/-! ### Stages -/

/-- A race on a store before the `n`-th move, counted from zero. -/
def stage (s : Store) (moves : List Move) (n : ℕ) : Race :=
  system.moment { store := s } moves n

/-- The `n`-th move of a race on a store is a write that succeeds in giving the class under a key a
new status. -/
def Succeeds (s : Store) (moves : List Move) (n : ℕ) (key : ClassKey) : Prop :=
  ∃ i k c version status, moves[n]? = some (.step i) ∧
    (stage s moves n).tasks[i]? = some (k, .writing c version status) ∧ c.key = key ∧
    ((stage s moves n).store.writeStatus key version status).1 = .ok ()

/-- The key of a move that starts a reconcile. -/
def Move.starts : Move → Option ClassKey
  | .start key => some key
  | _ => none

/-- The keys of the classes that are reconciled in a race. -/
def started (moves : List Move) : List ClassKey :=
  moves.filterMap Move.starts

/-- Every reconcile of a race has ended. -/
def Done (s : Store) (moves : List Move) : Prop :=
  ∀ {i : ℕ} {key : ClassKey} {p : Progress},
    (stage s moves moves.length).tasks[i]? = some (key, p) → ∃ r, p = .finished r

/-- The next move leads from one stage to the next. -/
lemma stage_succ {a : Move} (h : moves[n]? = some a) :
    stage s moves (n + 1) = (stage s moves n).step a :=
  system.moment_succ h

/-- If nobody else makes calls, a stage is the one before it, or a move of a reconcile further. -/
lemma stage_succ_cases (halone : ∀ b, .call b ∉ moves) (n : ℕ) :
    stage s moves (n + 1) = stage s moves n ∨
      ∃ a, (∀ b, a ≠ .call b) ∧ stage s moves (n + 1) = (stage s moves n).step a := by
  cases ha : moves[n]? with
  | none => exact Or.inl (system.moment_of_none ha)
  | some a =>
    have hcall : ∀ b, a ≠ .call b := fun b heq => halone b (heq ▸ List.mem_of_getElem? ha)
    exact Or.inr ⟨a, hcall, stage_succ ha⟩

/-- The store that the move of a reconcile leads to. -/
lemma store_step_of_task (h : x.tasks[i]? = some (key, p)) :
    (x.step (.step i)).store = (Store.backend.step key p x.store).2 := by
  rw [step, h]

/-- A move without a call leaves the store alone, or is a step of some reconcile. -/
lemma store_step_cases {a : Move} (ha : ∀ b, a ≠ .call b) :
    (x.step a).store = x.store ∨ ∃ (i : ℕ) (key : ClassKey) (p : Progress),
      x.tasks[i]? = some (key, p) ∧
        (x.step a).store = (Store.backend.step key p x.store).2 := by
  cases a with
  | call b => exact absurd rfl (ha b)
  | start key => exact Or.inl rfl
  | step i =>
    cases h : x.tasks[i]? with
    | none =>
      rw [step, h]
      exact Or.inl rfl
    | some task => exact Or.inr ⟨i, task.1, task.2, h, store_step_of_task h⟩

/-- A move adds the key that it starts, and changes no other. -/
lemma keys_step (x : Race) (a : Move) :
    (x.step a).tasks.map Prod.fst = x.tasks.map Prod.fst ++ a.starts.toList := by
  cases a with
  | call b => simp [step, Move.starts]
  | start key => simp [step, Move.starts]
  | step i =>
    rw [step]
    split
    next key p hi =>
      obtain ⟨hlt, hget⟩ := List.getElem?_eq_some_iff.mp hi
      have hself : (x.tasks.map Prod.fst).set i key = x.tasks.map Prod.fst := by
        have hmap : i < (x.tasks.map Prod.fst).length := by simpa using hlt
        have hfst : (x.tasks.map Prod.fst)[i] = key := by simp [hget]
        rw [← hfst, List.set_getElem_self]
      simp [List.map_set, hself, Move.starts]
    next => simp [Move.starts]

/-- The reconciles of a race are those that were started. -/
lemma keys_run (x : Race) (moves : List Move) :
    (system.run x moves).tasks.map Prod.fst = x.tasks.map Prod.fst ++ started moves := by
  induction moves generalizing x with
  | nil => simp [started]
  | cons a moves ih =>
    have hstarted : started (a :: moves) = a.starts.toList ++ started moves := by
      cases h : a.starts <;> simp [started, h]
    rw [System.run_cons, ih, hstarted, ← List.append_assoc, ← keys_step]
    rfl

/-- Whoever takes part in a race was started. -/
lemma mem_started (h : (stage s moves n).tasks[i]? = some (key, p)) : key ∈ started moves := by
  have hmem : key ∈ (stage s moves n).tasks.map Prod.fst :=
    List.mem_map.mpr ⟨(key, p), List.mem_of_getElem? h, rfl⟩
  rw [stage, System.moment, keys_run, List.map_nil, List.nil_append] at hmem
  exact ((List.take_sublist n moves).filterMap Move.starts).subset hmem

/-- Whoever was started is there at the end. -/
lemma exists_task (h : key ∈ started moves) :
    ∃ (i : ℕ) (p : Progress), (stage s moves moves.length).tasks[i]? = some (key, p) := by
  have hmem : key ∈ (stage s moves moves.length).tasks.map Prod.fst := by
    rw [stage, System.moment, keys_run, List.take_length]
    exact List.mem_append_right _ h
  obtain ⟨⟨key', p⟩, hp, rfl⟩ := List.mem_map.mp hmem
  obtain ⟨i, hi⟩ := List.mem_iff_getElem?.mp hp
  exact ⟨i, p, hi⟩

/-! ### What holds at every stage -/

/-- The stages of a race on a store only move on to later stores. -/
lemma later_stage (hfiled : s.Filed)
    (hroom : s.revision.toNat + Store.stamps (system.callsOf { store := s } moves) < 2 ^ 64)
    (h : m ≤ n) : (stage s moves m).store.Later (stage s moves n).store :=
  system.later_moment (x := { store := s }) hfiled hroom h

/-- A move of a race settles at most one class, if all reconciles are informed. -/
lemma settling_move {a : Move} (ha : ∀ b, a ≠ .call b) (hs : ({} : Store).Later s)
    (hfiled : s.Filed) (hlater : s.Later x.store) (hx : s.Settling x.store)
    (hinformed : ∀ (i : ℕ) (key : ClassKey) (p : Progress), x.tasks[i]? = some (key, p) →
      s.Informed x.store key p) :
    s.Settling (x.step a).store ∧ ∀ k, s.Settled k x.store → s.Settled k (x.step a).store := by
  rcases store_step_cases (x := x) ha with hstore | ⟨i, key, p, hp, hstore⟩
  · rw [hstore]
    exact ⟨hx, fun _ hk => hk⟩
  · rw [hstore]
    obtain ⟨hx', hkeep, -⟩ := Store.settling_step hs hfiled hlater hx (hinformed i key p hp)
    exact ⟨hx', hkeep⟩

section Alone

variable (hs : ({} : Store).Later s) (hfiled : s.Filed) (hlisted : s.machineListFails = false)
  (halone : ∀ b, .call b ∉ moves)
  (hroom : s.revision.toNat + Store.stamps (system.callsOf { store := s } moves) < 2 ^ 64)
include hs hfiled hlisted halone hroom

/-- **Every stage is settling, and its reconciles are informed.** -/
lemma settling (n : ℕ) : s.Settling (stage s moves n).store ∧
    ∀ (i : ℕ) (key : ClassKey) (p : Progress), (stage s moves n).tasks[i]? = some (key, p) →
      s.Informed (stage s moves n).store key p := by
  induction n with
  | zero =>
    refine ⟨Store.Settling.refl hlisted, ?_⟩
    intro i key p h
    cases h
  | succ n ih =>
    rcases stage_succ_cases halone n with hsame | ⟨a, hcall, hnext⟩
    · rw [hsame]
      exact ih
    · obtain ⟨hx, hinformed⟩ := ih
      have hlater : s.Later (stage s moves n).store := later_stage hfiled hroom (Nat.zero_le n)
      obtain ⟨hx', hkeep⟩ := settling_move hcall hs hfiled hlater hx hinformed
      rw [hnext]
      refine ⟨hx', ?_⟩
      intro i key p hp
      rcases task_of_step hp with rfl | hsame | ⟨rfl, q, hq, rfl⟩
      · trivial
      · exact (hinformed i key p hsame).mono (hkeep key)
      · rw [store_step_of_task hq]
        exact (Store.settling_step hs hfiled hlater hx (hinformed i key q hq)).2.2

/-- A settled class stays settled. -/
lemma settled_mono (h : m ≤ n) (hk : s.Settled k (stage s moves m).store) :
    s.Settled k (stage s moves n).store := by
  induction n, h using Nat.le_induction with
  | base => exact hk
  | succ n hmn ih =>
    rcases stage_succ_cases halone n with hsame | ⟨a, hcall, hnext⟩
    · rw [hsame]
      exact ih
    · obtain ⟨hx, hinformed⟩ := settling hs hfiled hlisted halone hroom n
      rw [hnext]
      exact (settling_move hcall hs hfiled (later_stage hfiled hroom (Nat.zero_le n)) hx
        hinformed).2 k ih

/-- A write that succeeds settles its class, which was not settled before. -/
lemma Succeeds.settles (h : Succeeds s moves n key) :
    ¬ s.Settled key (stage s moves n).store ∧ s.Settled key (stage s moves (n + 1)).store := by
  obtain ⟨i, k, c, version, status, ha, htask, rfl, hok⟩ := h
  obtain ⟨hx, hinformed⟩ := settling hs hfiled hlisted halone hroom n
  obtain ⟨hc, hversion, rfl, hother⟩ := hinformed i k _ htask
  have hkey : c.key = k := hfiled.key_eq hc
  subst hkey
  have hlater : s.Later (stage s moves n).store := later_stage hfiled hroom (Nat.zero_le n)
  rcases hx.write_cases hs hlater hc hversion hother with
    ⟨hfound, hopen⟩ | ⟨-, hwrite⟩
  · refine ⟨hopen, ?_⟩
    rw [stage_succ ha, store_step_of_task htask]
    exact (hx.of_rewritten hc (Store.writeStatus_of_current hfound hversion).2).2
  · rw [hwrite] at hok
    cases hok

/-- A reconcile that has ended has found its class missing, or has left it settled. -/
lemma finished_cases {r : Result} (h : (stage s moves m).tasks[i]? = some (key, .finished r)) :
    (s.getClass key = none ∧ r = .ok .missing) ∨
      (r ≠ .ok .missing ∧ (∀ e, r = .error e → e = .conflict key) ∧
        ∀ n, m ≤ n → s.Settled key (stage s moves n).store) := by
  have hinformed := (settling hs hfiled hlisted halone hroom m).2 i key _ h
  refine hinformed.imp_right ?_
  rintro ⟨hsettled, hfound, herror⟩
  exact ⟨hfound, herror, fun n hmn => settled_mono hs hfiled hlisted halone hroom hmn hsettled⟩

/-- A class of which no reconcile was started is left alone. -/
lemma getClass_of_not_started (hk : k ∉ started moves) (n : ℕ) :
    (stage s moves n).store.getClass k = s.getClass k := by
  induction n with
  | zero => rfl
  | succ n ih =>
    rcases stage_succ_cases halone n with hsame | ⟨a, hcall, hnext⟩
    · rw [hsame]
      exact ih
    · rw [hnext]
      rcases store_step_cases (x := stage s moves n) hcall with hstore | ⟨i, key, p, hp, hstore⟩
      · rw [hstore]
        exact ih
      · have hinformed := (settling hs hfiled hlisted halone hroom n).2 i key p hp
        have hne : k ≠ key := fun heq => hk (heq ▸ mem_started hp)
        rw [hstore, hinformed.getClass_step hfiled hne]
        exact ih

/-- At the end of a race the classes that were reconciled have the right status, and the others the
one that they had. -/
lemma status_of_done (hdone : Done s moves) (k : ClassKey) :
    ((stage s moves moves.length).store.getClass k).map MachineClass.status =
      (s.getClass k).map
        (fun c => if k ∈ started moves then some (s.rightStatus c) else c.status) := by
  by_cases hk : k ∈ started moves
  · simp only [if_pos hk]
    obtain ⟨i, p, hp⟩ := exists_task (s := s) hk
    obtain ⟨r, rfl⟩ := hdone hp
    rcases finished_cases hs hfiled hlisted halone hroom hp with ⟨hnone, -⟩ | ⟨-, -, hsettled⟩
    · rcases (settling hs hfiled hlisted halone hroom moves.length).1.classes k with
        hsame | ⟨c, version, hc, -⟩
      · rw [hsame, hnone]
        rfl
      · rw [hnone] at hc
        cases hc
    · obtain ⟨c, version, hc, hfound⟩ := hsettled _ (le_refl _)
      rw [hfound, hc]
      rfl
  · simp only [if_neg hk]
    rw [getClass_of_not_started hs hfiled hlisted halone hroom hk]

end Alone

/-! ### Agreement -/

/-- **Concurrent reconciles write once and agree.** Begin with any store that calls can lead to and
in which the machines can be listed, and let any number of reconciles take their steps in any order
while nobody else makes calls. Each class is written at most once. The only way to fail is to lose
a race. As soon as one reconcile of an existing class has ended, the class has the status that its
qualifiers and the machines give, and nothing else about it but its version has changed, from then
on. Classes of which no reconcile was started are left alone. When all have ended, the statuses
depend on nothing but the set of classes that were reconciled. -/
theorem reconciles_agree {calls : List Store.Call}
    (hlisted : (({} : Store).after calls).machineListFails = false)
    (halone : ∀ b, .call b ∉ moves)
    (hroom : Store.stamps calls +
      Store.stamps (system.callsOf { store := ({} : Store).after calls } moves) < 2 ^ 64) :
    let s := ({} : Store).after calls
    (∀ {m n key}, Succeeds s moves m key → Succeeds s moves n key → m = n) ∧
      (∀ {n i : ℕ} {key : ClassKey} {e : StoreError},
        (stage s moves n).tasks[i]? = some (key, .finished (.error e)) → e = .conflict key) ∧
      (∀ {m n i : ℕ} {key : ClassKey} {r : Result} {c : MachineClass}, s.getClass key = some c →
        (stage s moves m).tasks[i]? = some (key, .finished r) → m ≤ n →
        r ≠ .ok .missing ∧
          ∃ version status, IsStatus c.spec.qualifiers s.machines.values status ∧
            (stage s moves n).store.getClass key =
              some ({ c with status := some status }.withVersion version)) ∧
      (∀ {n key}, key ∉ started moves → (stage s moves n).store.getClass key = s.getClass key) ∧
      ∀ {moves' : List Move}, (∀ b, .call b ∉ moves') →
        Store.stamps calls + Store.stamps (system.callsOf { store := s } moves') < 2 ^ 64 →
        (∀ key, key ∈ started moves' ↔ key ∈ started moves) → Done s moves → Done s moves' →
        ∀ key, ((stage s moves' moves'.length).store.getClass key).map MachineClass.status =
          ((stage s moves moves.length).store.getClass key).map MachineClass.status := by
  intro s
  have hfiled : s.Filed := Store.filed_empty.after calls
  have hzero : ({} : Store).revision.toNat + Store.stamps calls < 2 ^ 64 := by
    change 0 + Store.stamps calls < 2 ^ 64
    omega
  have hs : ({} : Store).Later s := Store.Later.after Store.filed_empty hzero
  have hrevision : s.revision.toNat = Store.stamps calls :=
    (Store.toNat_after_revision hzero).trans (Nat.zero_add _)
  rw [← hrevision] at hroom
  refine ⟨?_, ?_, ?_, ?_, ?_⟩
  · -- the class is settled after the first write, so the second one cannot succeed
    have hordered : ∀ {m n key}, m < n → Succeeds s moves m key → ¬ Succeeds s moves n key := by
      intro m n key hmn hm hn
      have hsettled := (hm.settles hs hfiled hlisted halone hroom).2
      exact (hn.settles hs hfiled hlisted halone hroom).1
        (settled_mono hs hfiled hlisted halone hroom hmn hsettled)
    intro m n key hm hn
    rcases lt_trichotomy m n with hlt | heq | hgt
    · exact absurd hn (hordered hlt hm)
    · exact heq
    · exact absurd hm (hordered hgt hn)
  · intro n i key e h
    rcases finished_cases hs hfiled hlisted halone hroom h with ⟨-, hmissing⟩ | ⟨-, herror, -⟩
    · cases hmissing
    · exact herror e rfl
  · intro m n i key r c hc h hmn
    rcases finished_cases hs hfiled hlisted halone hroom h with ⟨hnone, -⟩ | ⟨hfound, -, hsettled⟩
    · rw [hc] at hnone
      cases hnone
    · obtain ⟨c', version, hc', hstored⟩ := hsettled n hmn
      rw [hc] at hc'
      cases hc'
      exact ⟨hfound, version, _, isStatus_statusOf _ _, hstored⟩
  · intro n key hkey
    exact getClass_of_not_started hs hfiled hlisted halone hroom hkey n
  · intro moves' halone' hroom' hsame hdone hdone' key
    rw [← hrevision] at hroom'
    rw [status_of_done hs hfiled hlisted halone hroom hdone,
      status_of_done hs hfiled hlisted halone' hroom' hdone']
    simp only [hsame]

/-- Two reconciles of one class that read it before either of them writes. -/
def photoFinish : List Move :=
  let key := MachineClass.sample.key
  [.start key, .start key, .step 0, .step 1, .step 1, .step 0, .step 1, .step 0]

/-- The second one writes, the first one loses the race, and the class has the right status. -/
theorem reconciles_agree_photoFinish :
    let s := ({} : Store).after Store.Call.samples
    let key := MachineClass.sample.key
    s.machineListFails = false ∧ (∀ b, .call b ∉ photoFinish) ∧
      Store.stamps Store.Call.samples +
        Store.stamps (system.callsOf { store := s } photoFinish) < 2 ^ 64 ∧
      ∃ c version status, s.getClass key = some c ∧
        (stage s photoFinish 8).tasks = [(key, .finished (.error (.conflict key))),
          (key, .finished (.ok (.updated status)))] ∧
        (stage s photoFinish 8).store.getClass key =
          some ({ c with status := some status }.withVersion version) ∧
        IsStatus c.spec.qualifiers s.machines.values status := by
  intro s key
  have halone : ∀ b, .call b ∉ photoFinish := by
    simp [photoFinish]
  have hroom : Store.stamps Store.Call.samples +
      Store.stamps (system.callsOf { store := s } photoFinish) < 2 ^ 64 := by
    have hcount : Store.stamps Store.Call.samples +
        Store.stamps (system.callsOf { store := s } photoFinish) = 4 := by decide
    omega
  have hc : s.getClass key = some (MachineClass.sample.withVersion "2") := by cbv
  have htasks : (stage s photoFinish 8).tasks = [(key, .finished (.error (.conflict key))),
      (key, .finished (.ok (.updated { machinesAvailable := ["m1"] })))] := by cbv
  have hloser : (stage s photoFinish 8).tasks[0]? =
      some (key, .finished (.error (.conflict key))) := by
    rw [htasks]
    rfl
  have hlisted : s.machineListFails = false := rfl
  have hagree := (reconciles_agree hlisted halone hroom).2.2.1 hc hloser (le_refl 8)
  obtain ⟨-, version, status, hstatus, hfound⟩ := hagree
  have hstored : (stage s photoFinish 8).store.getClass key = some
      ({ MachineClass.sample with status := some { machinesAvailable := ["m1"] } }.withVersion
        "3") := by cbv
  have hsame : status = { machinesAvailable := ["m1"] } := by
    have heq := congrArg (Option.map MachineClass.status) (hfound.symm.trans hstored)
    exact Option.some.inj (Option.some.inj heq)
  subst hsame
  exact ⟨hlisted, halone, hroom, _, version, _, hc, htasks, hfound, hstatus⟩

end Race

end BareMetal
