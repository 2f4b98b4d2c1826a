import BareMetal.Proofs.Reconcile.Course
import BareMetal.Proofs.System

/-!
The whole loop: a store, a feed of keys to be reconciled, a queue, and at most one active
reconcile for each class.

* `Loop`, `Loop.Move`, `Loop.step`: the loop and its moves, which may come in any order;
* `Loop.Owes`: a class is going to be reconciled, as its key is queued or owed by the feed;
* `Loop.Covered`: **every class that is not owed is in sync or has a reconcile on course**,
  which holds at the beginning (`covered_of_start`) and is kept by every move
  (`covered_step`);
* `Loop.inSync_of_idle`: **whenever the loop has nothing left to do, every class is in
  sync**.
-/

namespace BareMetal

/-- A store with the keys that are to be reconciled and the reconciles that are active. -/
structure Loop where
  /-- The store. -/
  store : Store := {}
  /-- The feed that delivers keys after changes of machines. -/
  feed : Feed := { kind := .triggers }
  /-- The keys of the classes that are to be reconciled. -/
  queue : List ClassKey := []
  /-- The active reconciles, by the keys of their classes. -/
  active : SortedMap ClassKey Progress := .empty

namespace Loop

/-- A move of the loop. -/
inductive Move where
  /-- Someone else makes a call. -/
  | call (a : Store.Call)
  /-- The feed delivers keys, at most so many. -/
  | deliver (room : Option ℕ)
  /-- A class is to be reconciled once more. -/
  | request (key : ClassKey)
  /-- Two equal keys in the queue become one. -/
  | merge (key : ClassKey)
  /-- The reconcile of a class begins, if its key is queued and none is active. -/
  | start (key : ClassKey)
  /-- The active reconcile of a class takes its next step. If it fails it is to be tried again. -/
  | advance (key : ClassKey)

/-- The keys to be tried again after a step of the reconcile of a class. -/
def retries (key : ClassKey) : Progress → List ClassKey
  | .finished (.error _) => [key]
  | _ => []

/-- A reconcile that has failed is to be tried again. -/
lemma mem_retries {key : ClassKey} {p : Progress} (h : ∃ e, p = .finished (.error e)) :
    key ∈ retries key p := by
  obtain ⟨e, rfl⟩ := h
  exact List.mem_singleton_self key

/-- What a move leads to. -/
def step (x : Loop) : Move → Loop
  | .call a =>
    { x with
      store := a.perform x.store
      feed := match a.told x.store with
        | some name => x.feed.notify name
        | none => x.feed
      queue := x.queue ++ a.renewed x.store }
  | .deliver room =>
    let delivered := x.feed.drainTriggers x.store.listClasses room
    { x with feed := delivered.2.1, queue := x.queue ++ delivered.1 }
  | .request key => { x with queue := x.queue ++ [key] }
  | .merge key => if key ∈ x.queue.erase key then { x with queue := x.queue.erase key } else x
  | .start key =>
    if key ∈ x.queue ∧ x.active.get? key = none then
      { x with
        queue := x.queue.erase key
        active := x.active.insert key Progress.start.1 }
    else x
  | .advance key =>
    match x.active.get? key with
    | none => x
    | some p =>
      let next := Store.backend.step key p x.store
      { x with
        store := next.2
        queue := x.queue ++ retries key next.1.1
        active := x.active.assign key next.1.1.goesOn }

/-- The calls by which a move changes the store. -/
def calls (x : Loop) : Move → List Store.Call
  | .call a => [a]
  | .advance key =>
    match x.active.get? key with
    | none => []
    | some p => p.calls
  | _ => []

/-- The loop as a system. -/
def system : System Loop Move where
  store := Loop.store
  step := Loop.step
  calls := Loop.calls
  store_step x m := by
    cases m with
    | call a => rfl
    | deliver room => rfl
    | request key => rfl
    | merge key =>
      rw [step]
      split <;> rfl
    | start key =>
      rw [step]
      split <;> rfl
    | advance key =>
      simp only [step, calls]
      split
      · rfl
      · exact Store.step_store _ _ _

variable {x : Loop} {m : Move} {key k : ClassKey} {c : MachineClass} {p : Progress}

/-! ### What is covered -/

/-- **Owes**: the class under a key is going to be reconciled, as the key is queued or the feed is
going to deliver it. -/
def Owes (x : Loop) (k : ClassKey) : Prop :=
  x.feed.Owes k ∨ k ∈ x.queue

/-- The loop has nothing left to do. -/
structure Idle (x : Loop) : Prop where
  pending : x.feed.pending = []
  ready : x.feed.ready = []
  queue : x.queue = []
  active : x.active = .empty

/-- **Covers**: the class under a key, if there is one, is going to be reconciled, or has a reconcile
on course, or is in sync and has none. -/
def Covers (x : Loop) (k : ClassKey) : Prop :=
  ∀ c, x.store.getClass k = some c → x.Owes k ∨ x.store.OnCourse c (x.active.get? k)

/-- **Covered**: the loop covers all classes, each of which is stored under its own key and known to
its reconcile by this key, and the classes can be listed. -/
structure Covered (x : Loop) : Prop where
  filed : x.store.Filed
  listed : x.store.classListFails = false
  hasKey : ∀ {k p}, x.active.get? k = some p → p.HasKey k
  covers : ∀ k, x.Covers k

/-- A loop whose feed and queue hold no less still owes what it owed. -/
lemma Owes.mono {y : Loop} (h : x.Owes k) (hfeed : y.feed = x.feed)
    (hqueue : k ∈ x.queue → k ∈ y.queue) : y.Owes k := by
  rcases h with h | h
  · left
    rwa [hfeed]
  · exact Or.inr (hqueue h)

/-- A call of someone else leaves every class covered: if it tells of a machine all keys are owed,
and if it gives a class a new version the key of the class is queued. -/
lemma covered_call (hx : x.Covered) {a : Store.Call} (ha : a ≠ .failClassList true) :
    (x.step (.call a)).Covered where
  filed := hx.filed.perform a
  listed := Store.classListFails_of_perform hx.listed ha
  hasKey := hx.hasKey
  covers := by
    intro k c hc
    cases htold : a.told x.store with
    | some name =>
      left
      left
      simp only [step, htold]
      exact Feed.owes_notify x.feed name k
    | none =>
      rcases Store.getClass_of_perform hc with hnew | hold
      · exact Or.inl (Or.inr (List.mem_append_right _ hnew))
      · rcases hx.covers k c hold with howes | hcourse
        · left
          refine howes.mono ?_ (fun hk => List.mem_append_left _ hk)
          simp only [step, htold]
        · exact Or.inr (hcourse.of_machines (Store.machines_of_untold htold))

/-- A delivery leaves every class covered, as the feed delivers what it does not owe any more. -/
lemma covered_deliver (hx : x.Covered) (room : Option ℕ) : (x.step (.deliver room)).Covered where
  filed := hx.filed
  listed := hx.listed
  hasKey := hx.hasKey
  covers := by
    intro k c hc
    have hfan : k ∈ (fanOut x.store.listClasses).1 := Store.mem_fanOut hx.filed hx.listed hc
    rcases hx.covers k c hc with (hfeed | hqueue) | hcourse
    · rcases Feed.owes_drain hfeed hfan with hitem | howes
      · exact Or.inl (Or.inr (List.mem_append_right _ hitem))
      · exact Or.inl (Or.inl howes)
    · exact Or.inl (Or.inr (List.mem_append_left _ hqueue))
    · exact Or.inr hcourse

/-- A move that changes nothing but the queue leaves every class covered if it leaves its key
there. -/
lemma covered_queue (hx : x.Covered) {queue : List ClassKey}
    (hqueue : ∀ k ∈ x.queue, k ∈ queue) : ({ x with queue := queue } : Loop).Covered where
  filed := hx.filed
  listed := hx.listed
  hasKey := hx.hasKey
  covers k c hc := (hx.covers k c hc).imp_left (fun howes => howes.mono rfl (hqueue k))

/-- A reconcile that begins covers its class, as it is going to read it. -/
lemma covered_start (hx : x.Covered) (key : ClassKey) : (x.step (.start key)).Covered := by
  rw [step]
  split
  next h =>
    refine ⟨hx.filed, hx.listed, ?_, ?_⟩
    · intro k p hp
      rcases SortedMap.get?_of_insert hp with ⟨-, rfl⟩ | ⟨-, hp⟩
      · trivial
      · exact hx.hasKey hp
    · intro k c hc
      by_cases hk : k = key
      · right
        rw [hk, SortedMap.get?_insert_self]
        trivial
      · rw [SortedMap.get?_insert, if_neg (Ne.symm hk)]
        refine (hx.covers k c hc).imp_left (fun howes => howes.mono rfl (fun hmem => ?_))
        exact (List.mem_erase_of_ne hk).mpr hmem
  next => exact hx

/-- A step of a reconcile leaves every class covered: its own, as it stays on course or is tried
again, and the others, as it does not change them. -/
lemma covered_advance (hx : x.Covered) (key : ClassKey) : (x.step (.advance key)).Covered := by
  cases hp : x.active.get? key with
  | none =>
    simp only [step, hp]
    exact hx
  | some p =>
    simp only [step, hp]
    have hkey : p.HasKey key := hx.hasKey hp
    refine ⟨?_, Store.step_classListFails hx.listed key p, ?_, ?_⟩
    · rw [Store.step_store]
      exact hx.filed.after _
    · intro k q hq
      rw [SortedMap.get?_assign] at hq
      split at hq
      next hk =>
        subst hk
        rw [Progress.eq_of_goesOn hq]
        exact Store.hasKey_step hx.filed hkey
      next => exact hx.hasKey hq
    · intro k c hc
      rw [SortedMap.get?_assign]
      by_cases hk : k = key
      · subst hk
        rw [if_pos rfl]
        -- the class was owed before, or its reconcile was on course when it took the step
        by_cases howes : x.Owes k
        · exact Or.inl (howes.mono rfl (fun hmem => List.mem_append_left _ hmem))
        · have hcourse : ∀ c, x.store.getClass k = some c → x.store.OnCourse c (some p) := by
            intro c' hc'
            rw [← hp]
            exact (hx.covers k c' hc').resolve_left howes
          rcases Store.onCourse_step hx.filed hkey hcourse hc with hfail | hnext
          · exact Or.inl (Or.inr (List.mem_append_right _ (mem_retries hfail)))
          · exact Or.inr hnext
      · rw [if_neg (Ne.symm hk)]
        have hold : x.store.getClass k = some c := Store.getClass_of_step hkey hk hc
        rcases hx.covers k c hold with howes | hcourse
        · exact Or.inl (howes.mono rfl (fun hmem => List.mem_append_left _ hmem))
        · exact Or.inr (hcourse.of_machines (Store.step_machines x.store key p))

/-- **Every move leaves every class covered**, unless it makes listing the classes fail. -/
lemma covered_step (hx : x.Covered) (hm : m ≠ .call (.failClassList true)) :
    (x.step m).Covered := by
  cases m with
  | call a => exact covered_call hx (fun ha => hm (congrArg Move.call ha))
  | deliver room => exact covered_deliver hx room
  | request key => exact covered_queue hx (fun k hk => List.mem_append_left _ hk)
  | merge key =>
    rw [step]
    split
    next h =>
      refine covered_queue hx (fun k hk => ?_)
      by_cases hkey : k = key
      · rw [hkey]
        exact h
      · exact (List.mem_erase_of_ne hkey).mpr hk
    next => exact hx
  | start key => exact covered_start hx key
  | advance key => exact covered_advance hx key

/-! ### Runs -/

/-- A loop in which no reconcile is active covers all classes if each of them is in sync or
queued. -/
lemma covered_of_start {calls : List Store.Call} (hstore : x.store = ({} : Store).after calls)
    (hlisted : x.store.classListFails = false) (hactive : x.active = .empty)
    (hstart : ∀ k c, x.store.getClass k = some c → x.store.InSync c ∨ k ∈ x.queue) :
    x.Covered where
  filed := by
    rw [hstore]
    exact Store.filed_empty.after calls
  listed := hlisted
  hasKey h := by
    rw [hactive] at h
    cases h
  covers k c hc := by
    rcases hstart k c hc with hsync | hqueue
    · right
      rw [hactive]
      exact hsync
    · exact Or.inl (Or.inr hqueue)

/-- A loop that covers all classes and has nothing left to do has all of them in sync. -/
lemma Covered.inSync (hx : x.Covered) (hidle : x.Idle) (hc : x.store.getClass k = some c) :
    x.store.InSync c := by
  rcases hx.covers k c hc with ((hpending | hready) | hqueue) | hcourse
  · exact absurd hidle.pending hpending
  · rw [hidle.ready] at hready
    cases hready
  · rw [hidle.queue] at hqueue
    cases hqueue
  · rw [hidle.active] at hcourse
    exact hcourse

/-- **Convergence.** Begin with any store that calls can lead to, without active reconciles, each
class being in sync or queued, and make any moves in any order, as long as the classes can be
listed. Whenever the feed has nothing left to deliver, no key is queued and no reconcile is active,
every class has the status that its qualifiers and the machines give. -/
theorem inSync_of_idle {start : Loop} {moves : List Move} {calls : List Store.Call}
    (hstore : start.store = ({} : Store).after calls)
    (hlisted : start.store.classListFails = false) (hactive : start.active = .empty)
    (hstart : ∀ k c, start.store.getClass k = some c → start.store.InSync c ∨ k ∈ start.queue)
    (hmoves : .call (.failClassList true) ∉ moves) (hidle : (system.run start moves).Idle)
    (hc : (system.run start moves).store.getClass k = some c) :
    ∃ status, c.status = some status ∧
      IsStatus c.spec.qualifiers (system.run start moves).store.machines.values status := by
  have hcovered : (system.run start moves).Covered := by
    refine system.invariant ?_ (covered_of_start hstore hlisted hactive hstart)
    intro x m hm hx
    exact covered_step hx (fun h => hmoves (h ▸ hm))
  exact hcovered.inSync hidle hc

/-- A loop with one machine and one class, which is queued. -/
def seed : Loop where
  store := ({} : Store).after Store.Call.samples
  queue := [MachineClass.sample.key]

/-- The machine is no longer accepted after it was listed and before the status is written, so the
class is reconciled twice. -/
def rejection : List Move :=
  let key := MachineClass.sample.key
  [.start key, .advance key, .advance key,
    .call (.updateMachine "m1" (fun m => { m with spec := { m.spec with accepted := false } })),
    .advance key, .deliver none, .start key, .advance key, .advance key, .advance key]

/-- In the end the loop has nothing left to do, and the class lists no machine. -/
theorem inSync_of_idle_rejection :
    (system.run seed rejection).Idle ∧
      ∃ c, (system.run seed rejection).store.getClass MachineClass.sample.key = some c ∧
        c.status = some {} ∧
        ∃ status, c.status = some status ∧ IsStatus c.spec.qualifiers
          (system.run seed rejection).store.machines.values status := by
  have hidle : (system.run seed rejection).Idle := by
    refine ⟨?_, ?_, ?_, ?_⟩ <;> cbv
  have hfound : (system.run seed rejection).store.getClass MachineClass.sample.key =
      some ({ MachineClass.sample with status := some {} }.withVersion "5") := by
    cbv
  have hstart : ∀ k c, seed.store.getClass k = some c → seed.store.InSync c ∨ k ∈ seed.queue := by
    intro k c hc
    rcases SortedMap.get?_of_insert hc with ⟨hk, -⟩ | ⟨-, hnone⟩
    · right
      rw [seed, List.mem_singleton]
      exact hk.symm
    · cases hnone
  have hmoves : .call (.failClassList true) ∉ rejection := by
    simp [rejection]
  exact ⟨hidle, _, hfound, rfl, inSync_of_idle rfl rfl rfl hstart hmoves hidle hfound⟩

end Loop

end BareMetal
