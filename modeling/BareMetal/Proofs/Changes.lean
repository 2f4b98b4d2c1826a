import BareMetal.Proofs.Channel
import BareMetal.Proofs.Service

/-!
What those who subscribed to changes of machines are told.

* `behind`, `Followed`: where a feed stands among the changes that were told since it was
  subscribed, and `Followed.notify`, `Followed.deliver`: that telling and draining keep this;
* `Store.told_iff`: **who tells, and what**;
* `Service.told_run`: **every change is told once**, if perhaps not at once;
* `Service.get?_feeds_step`: what becomes of a feed in a move;
* `Service.names`, `Service.keys`, `Service.positions`: what a feed delivers in a move, and where it
  stands among all changes; `followed_run`: a feed that is kept follows to the end;
* `Service.Alike`, `outputs_filter`: **what a feed delivers does not depend on the draining of
  others**;
* `Service.feed_guarantee`: all of this for the runs of a service, and for the receivers of a
  channel.
-/

namespace BareMetal

/-- The position behind the last of some positions. -/
def behind (positions : List ℕ) : ℕ :=
  positions.getLast?.elim 0 (· + 1)

/-- **Followed**: of the changes that were told since it was subscribed, a feed has delivered those
at some ascending positions, and holds the newest of those behind. -/
structure Followed (noticed : List String) (positions : List ℕ) (got pending : List String) :
    Prop where
  ascending : positions.Pairwise (· < ·)
  below : ∀ p ∈ positions, p < behind positions
  told : behind positions ≤ noticed.length
  got_eq : got.map some = positions.map (noticed[·]?)
  pending_eq : pending = Feed.newest (noticed.drop (behind positions))

namespace Followed

variable {noticed : List String} {positions : List ℕ} {got pending : List String}

/-- A new feed follows from where it was subscribed. -/
lemma nil : Followed [] [] [] [] where
  ascending := List.Pairwise.nil
  below p hp := by cases hp
  told := le_refl 0
  got_eq := rfl
  pending_eq := rfl

/-- A feed that is told of a change follows. -/
lemma notify (h : Followed noticed positions got pending) (machine : String) :
    Followed (noticed ++ [machine]) positions got (Feed.newest (pending ++ [machine])) where
  ascending := h.ascending
  below := h.below
  told := by
    rw [List.length_append]
    exact h.told.trans (Nat.le_add_right _ _)
  got_eq := by
    rw [h.got_eq, List.map_inj_left]
    intro p hp
    have hlt : p < noticed.length := lt_of_lt_of_le (h.below p hp) h.told
    rw [List.getElem?_append_left hlt]
  pending_eq := by
    rw [h.pending_eq, Feed.newest_newest_append, List.drop_append_of_le_length h.told]

/-- What a feed holds are the newest changes, none of them older than those it has delivered. -/
lemma pending_eq_drop (h : Followed noticed positions got pending) :
    behind positions ≤ noticed.length - pending.length ∧
      pending = noticed.drop (noticed.length - pending.length) ∧
      pending.length ≤ noticed.length ∧ pending.length ≤ Feed.capacity := by
  have htold := h.told
  have hlength : pending.length = min (noticed.length - behind positions) Feed.capacity := by
    rw [h.pending_eq, Feed.length_newest, List.length_drop]
  refine ⟨by omega, ?_, by omega, by omega⟩
  have hstart : behind positions + (noticed.length - behind positions - Feed.capacity) =
      noticed.length - pending.length := by omega
  rw [← hstart, ← List.drop_drop, ← List.length_drop]
  exact h.pending_eq

/-- The changes at the positions of the oldest ones that a feed holds. -/
lemma map_range' (xs : List String) (start n : ℕ) (h : start + n ≤ xs.length) :
    (List.range' start n).map (xs[·]?) = ((xs.drop start).take n).map some := by
  refine List.ext_getElem (by simp; omega) (fun i hi _ => ?_)
  rw [List.length_map, List.length_range'] at hi
  have hlt : start + i < xs.length := by omega
  simp [hlt]

/-- Nothing is delivered at no position, and the last of some positions in a row is the one before
their end. -/
lemma behind_append_range' (positions : List ℕ) (start n : ℕ) :
    behind (positions ++ List.range' start n) = if n = 0 then behind positions else start + n := by
  cases n with
  | zero => simp
  | succ n =>
    rw [List.range'_1_concat, ← List.append_assoc, behind, List.getLast?_concat,
      if_neg (Nat.succ_ne_zero n)]
    exact Nat.add_assoc start n 1

/-- A feed that delivers the oldest of the changes that it holds follows. -/
lemma deliver (h : Followed noticed positions got pending) {n : ℕ} (hn : n ≤ pending.length) :
    Followed noticed (positions ++ List.range' (noticed.length - pending.length) n)
      (got ++ pending.take n) (pending.drop n) := by
  obtain ⟨hbehind, hpending, htold, hcapacity⟩ := h.pending_eq_drop
  generalize hstart : noticed.length - pending.length = start at hbehind hpending ⊢
  have hbounds : start + n ≤ noticed.length := by omega
  have hposition : ∀ {p}, p ∈ List.range' start n → start ≤ p ∧ p < start + n :=
    fun hp => List.mem_range'_1.mp hp
  refine ⟨?_, ?_, ?_, ?_, ?_⟩
  · rw [List.pairwise_append]
    refine ⟨h.ascending, List.pairwise_lt_range', fun p hp q hq => ?_⟩
    have hlow := h.below p hp
    have hhigh := hposition hq
    omega
  · intro p hp
    rw [behind_append_range']
    rcases List.mem_append.mp hp with hp | hp
    · have hlow := h.below p hp
      split <;> omega
    · have hhigh := hposition hp
      rw [if_neg (by omega)]
      exact hhigh.2
  · rw [behind_append_range']
    have htold := h.told
    split <;> omega
  · rw [List.map_append, List.map_append, h.got_eq, map_range' noticed start n hbounds, ← hpending]
  · rw [behind_append_range']
    split
    next hzero =>
      rw [hzero, List.drop_zero]
      exact h.pending_eq
    next =>
      have hrest : (noticed.drop (start + n)).length ≤ Feed.capacity := by
        rw [List.length_drop]
        omega
      rw [Feed.newest_of_le hrest, ← List.drop_drop, ← hpending]

end Followed

/-! ### Who tells -/

namespace Store

/-- The machines of which some calls tell, one after the other. -/
def toldBy (s : Store) : List Call → List String
  | [] => []
  | a :: calls => (a.told s).toList ++ (a.perform s).toldBy calls

variable {s : Store}

lemma toldBy_append (as bs : List Call) :
    s.toldBy (as ++ bs) = s.toldBy as ++ (s.after as).toldBy bs := by
  induction as generalizing s with
  | nil => rfl
  | cons a as ih => rw [List.cons_append, toldBy, ih, toldBy, List.append_assoc, after_cons]

/-- Whoever tells of a machine only if it is there tells the name that was asked for. -/
lemma told_found_iff {other name : String} :
    (if s.machines.contains other then some other else none) = some name ↔
      other = name ∧ ∃ m, s.machines.get? name = some m := by
  rw [← Option.isSome_iff_exists]
  constructor
  · intro h
    split at h
    next hfound =>
      cases h
      exact ⟨rfl, hfound⟩
    next => cases h
  · rintro ⟨rfl, hfound⟩
    rw [SortedMap.contains, if_pos hfound]

/-- **Who tells**: whoever puts a machine, and whoever deletes or changes one that is there, tells
the name that it was called for, and nobody else tells anything. -/
lemma told_iff {a : Call} {name : String} : a.told s = some name ↔
    (∃ m, a = .putMachine m ∧ m.name = name) ∨
      ((a = .deleteMachine name ∨ ∃ edit, a = .updateMachine name edit) ∧
        ∃ m, s.machines.get? name = some m) := by
  cases a with
  | putMachine m => simp [Call.told, putMachine]
  | deleteMachine other =>
    have htold : (Call.deleteMachine other).told s =
        if s.machines.contains other then some other else none := rfl
    rw [htold, told_found_iff]
    simp
  | updateMachine other edit =>
    have htold : (Call.updateMachine other edit).told s =
        if s.machines.contains other then some other else none := by
      rw [Call.told, updateMachine, SortedMap.contains]
      cases s.machines.get? other <;> rfl
    rw [htold, told_found_iff]
    simp
  | _ => simp [Call.told]

end Store

namespace Service

variable {x : Service} {name : String} {f : Feed}

/-- The change of which a move tells all feeds. -/
def told (x : Service) : Move → List String
  | .tell i => x.untold[i]?.toList
  | _ => []

/-- A write of a status tells of no machine, whatever its faults are. -/
lemma toldBy_writeCalls (s : Store) (f : Faults) (limit : ℕ) (key : ClassKey) (version : String)
    (status : MachineClassStatus) : s.toldBy (f.writeCalls limit key version status) = [] := by
  rw [Faults.writeCalls, Faults.interference]
  split
  · rfl
  · cases f.vanish <;> cases f.touch <;> cases f.writeUnavailable <;> rfl

/-- Nor does a step of a reconcile. -/
lemma toldBy_stepCalls (s : Store) (f : Faults) (limit : ℕ) (p : Progress) :
    s.toldBy (f.stepCalls limit p) = [] := by
  cases p with
  | writing c version status => exact toldBy_writeCalls s f limit c.key version status
  | _ => rfl

/-- Nor does a commit on its own. -/
lemma toldBy_commitCalls (s : Store) (f : Faults) (limit : ℕ) (status : MachineClassStatus)
    (c : MachineClass) : s.toldBy (f.commitCalls limit status c) = [] := by
  rw [Faults.commitCalls]
  split
  next version _ => exact toldBy_writeCalls s f limit c.key version status
  next => rfl

/-- What is told in a move and what remains to be told is what had to be told before and what the
calls of the move tell. -/
lemma told_step (x : Service) (m : Move) :
    (x.told m ++ (x.step m).untold).Perm (x.untold ++ x.store.toldBy (x.calls m)) := by
  cases m with
  | call a =>
    have hcall : x.store.toldBy [a] = (a.told x.store).toList := List.append_nil _
    rw [calls, hcall]
    exact List.Perm.refl _
  | tell i =>
    rw [told, step]
    cases h : x.untold[i]? with
    | none => simp [calls, Store.toldBy]
    | some machine =>
      obtain ⟨hlt, rfl⟩ := List.getElem?_eq_some_iff.mp h
      simpa [calls, Store.toldBy] using List.getElem_cons_eraseIdx_perm hlt
  | drain other room =>
    rw [step]
    split <;> simp [told, calls, Store.toldBy]
  | commit c status f limit => simp [told, step, calls, toldBy_commitCalls]
  | step i f limit =>
    rw [step, calls]
    split <;> simp [told, Store.toldBy, toldBy_stepCalls]
  | _ => simp [told, step, calls, Store.toldBy]

/-- **Every change is told once**: what was told in a run and what remains to be told are, in some
order, what its calls tell. -/
lemma told_run (x : Service) (moves : List Move) :
    (system.outputs told x moves ++ (system.run x moves).untold).Perm
      (x.untold ++ x.store.toldBy (system.callsOf x moves)) := by
  induction moves generalizing x with
  | nil => simp [System.outputs, System.callsOf, Store.toldBy]
  | cons m moves ih =>
    have hstore : (x.store.after (x.calls m)) = (x.step m).store := (system.store_step x m).symm
    have hcalls : x.store.toldBy (system.callsOf x (m :: moves)) = x.store.toldBy (x.calls m) ++
        (x.step m).store.toldBy (system.callsOf (x.step m) moves) := by
      rw [← hstore]
      exact Store.toldBy_append _ _
    rw [hcalls, ← List.append_assoc]
    refine List.Perm.trans ?_ ((told_step x m).append_right _)
    rw [List.append_assoc]
    have hrest := (ih (x.step m)).append_left (x.told m)
    rw [← List.append_assoc] at hrest
    exact hrest

/-! ### What a feed delivers -/

/-- A move that neither replaces nor gives up the feed with a name. -/
def Move.Keeps (name : String) : Move → Prop
  | .subscribe other _ => other ≠ name
  | .unsubscribe other => other ≠ name
  | _ => True

/-- What the feed with a name delivers in a move. -/
def drained (name : String) (x : Service) : Move → List String × List ClassKey
  | .drain other room =>
    match x.feeds.get? name with
    | none => ([], [])
    | some feed => if other = name then (feed.drain x.store.listClasses room).1 else ([], [])
  | _ => ([], [])

/-- The names of machines among this. -/
def names (name : String) (x : Service) (m : Move) : List String := (x.drained name m).1

/-- The keys of classes among this. -/
def keys (name : String) (x : Service) (m : Move) : List ClassKey := (x.drained name m).2

/-- What becomes of the feed with a name, if there is one, in a move. -/
def feedAfter (x : Service) (name : String) (f : Option Feed) : Move → Option Feed
  | .tell i => (x.untold[i]?).elim f (fun machine => f.map (fun feed => feed.notify machine))
  | .subscribe other kind => if other = name then some { kind := kind } else f
  | .unsubscribe other => if other = name then none else f
  | .drain other room =>
    if other = name then f.map (fun feed => (feed.drain x.store.listClasses room).2.1) else f
  | _ => f

/-- **A feed changes** when it is subscribed or given up, told of a change or drained, and in no
other way. -/
lemma get?_feeds_step (x : Service) (name : String) (m : Move) :
    (x.step m).feeds.get? name = x.feedAfter name (x.feeds.get? name) m := by
  cases m with
  | tell i =>
    rw [step, feedAfter]
    cases x.untold[i]? with
    | none => rfl
    | some machine => exact SortedMap.get?_mapValues _ _ _
  | subscribe other kind => exact SortedMap.get?_insert _ _ _ _
  | unsubscribe other =>
    have hcompare : compare other name = .eq ↔ other = name := Std.LawfulEqOrd.compare_eq_iff_eq
    change (x.feeds.erase other).get? name = _
    rw [SortedMap.get?_erase, feedAfter]
    simp only [hcompare]
  | drain other room =>
    rw [step, feedAfter]
    by_cases h : other = name
    · subst h
      rw [if_pos rfl]
      cases hf : x.feeds.get? other with
      | none => exact hf
      | some f => exact SortedMap.get?_insert_self _ _ _
    · rw [if_neg h]
      split
      · rfl
      · change (x.feeds.insert other _).get? name = _
        rw [SortedMap.get?_insert, if_neg h]
  | step i faults limit =>
    rw [step]
    split <;> rfl
  | call a => rfl
  | fanOut => rfl
  | commit c status faults limit => rfl
  | start key => rfl

/-- What a feed of changes delivers when it is drained. -/
lemma names_drain (hf : x.feeds.get? name = some f) (hkind : f.kind = .changes)
    (room : Option ℕ) : x.names name (.drain name room) = Feed.takeRoom room f.pending := by
  simp only [names, drained, hf, if_pos, Feed.drain, hkind]
  rfl

/-- A feed of changes that follows does so after a move that keeps it. -/
lemma followed_step {m : Move} (hm : m.Keeps name) (hf : x.feeds.get? name = some f)
    (hkind : f.kind = .changes) {noticed got : List String} {positions : List ℕ}
    (h : Followed noticed positions got f.pending) :
    ∃ f', (x.step m).feeds.get? name = some f' ∧ f'.kind = .changes ∧
      Followed (noticed ++ x.told m)
        (positions ++ List.range' (noticed.length - f.pending.length) (x.names name m).length)
        (got ++ x.names name m) f'.pending := by
  have hidle : Followed (noticed ++ [])
      (positions ++ List.range' (noticed.length - f.pending.length) ([] : List String).length)
      (got ++ []) f.pending := by simpa using h
  rw [get?_feeds_step, hf]
  cases m with
  | tell i =>
    rw [told, feedAfter]
    cases x.untold[i]? with
    | none => exact ⟨f, rfl, hkind, hidle⟩
    | some machine =>
      have hnotified := h.notify machine
      refine ⟨f.notify machine, rfl, ?_, ?_⟩
      · rw [Feed.notify]
        exact hkind
      · simpa [names, drained, Feed.notify] using hnotified
  | drain other room =>
    by_cases hname : other = name
    · subst hname
      rw [names_drain hf hkind, feedAfter, if_pos rfl]
      have hn : (Feed.takeRoom room f.pending).length ≤ f.pending.length := by
        rw [Feed.takeRoom_eq_take, List.length_take]
        exact Nat.min_le_right _ _
      have hdelivered := h.deliver hn
      rw [← Feed.takeRoom_eq_take, ← Feed.dropRoom_eq_drop] at hdelivered
      refine ⟨(f.drainChanges room).2, ?_, ?_, ?_⟩
      · rw [Option.map_some, Feed.drain, hkind]
      · rw [Feed.drainChanges]
        exact hkind
      · simpa [told, Feed.drainChanges] using hdelivered
    · have hnone : x.names name (.drain other room) = [] := by
        simp only [names, drained, hf, if_neg hname]
      rw [hnone, feedAfter, if_neg hname]
      exact ⟨f, rfl, hkind, hidle⟩
  | subscribe other kind =>
    rw [feedAfter, if_neg hm]
    exact ⟨f, rfl, hkind, hidle⟩
  | unsubscribe other =>
    rw [feedAfter, if_neg hm]
    exact ⟨f, rfl, hkind, hidle⟩
  | _ => exact ⟨f, rfl, hkind, hidle⟩

/-- The positions, among the changes that are told in a run and `n` before it, of those that the
feed with a name delivers in the run. -/
def positions (name : String) (x : Service) (n : ℕ) : List Move → List ℕ
  | [] => []
  | m :: moves =>
    List.range' (n - ((x.feeds.get? name).elim 0 (fun f => f.pending.length)))
        (x.names name m).length ++
      positions name (x.step m) (n + (x.told m).length) moves

lemma positions_append (n : ℕ) (as bs : List Move) :
    positions name x n (as ++ bs) = positions name x n as ++
      positions name (system.run x as) (n + (system.outputs told x as).length) bs := by
  induction as generalizing x n with
  | nil => rfl
  | cons m as ih =>
    rw [List.cons_append, positions, ih, positions, List.append_assoc, System.run_cons,
      System.outputs, List.length_append, Nat.add_assoc]
    rfl

/-- A feed of changes that follows does so after any moves that keep it. -/
lemma followed_run {moves : List Move} (hmoves : ∀ m ∈ moves, m.Keeps name)
    (hf : x.feeds.get? name = some f) (hkind : f.kind = .changes) {noticed got : List String}
    {before : List ℕ} (h : Followed noticed before got f.pending) :
    ∃ f', (system.run x moves).feeds.get? name = some f' ∧ f'.kind = .changes ∧
      Followed (noticed ++ system.outputs told x moves)
        (before ++ positions name x noticed.length moves)
        (got ++ system.outputs (names name) x moves) f'.pending := by
  induction moves generalizing x f noticed got before with
  | nil => exact ⟨f, hf, hkind, by simpa [System.outputs, positions] using h⟩
  | cons m moves ih =>
    obtain ⟨f₁, hf', hkind', hnext⟩ := followed_step (hmoves m List.mem_cons_self) hf hkind h
    obtain ⟨f', hend, hkind'', hfollowed⟩ :=
      ih (fun m' hm' => hmoves m' (List.mem_cons_of_mem m hm')) hf' hkind' hnext
    refine ⟨f', hend, hkind'', ?_⟩
    rw [System.outputs, System.outputs, positions, hf, ← List.append_assoc, ← List.append_assoc,
      ← List.append_assoc]
    rw [List.length_append] at hfollowed
    exact hfollowed

/-! ### Other feeds -/

/-- Whether a move drains another feed than the one with a name. -/
def Move.drainsOther (name : String) : Move → Bool
  | .drain other _ => other != name
  | _ => false

/-- **Alike**: two services differ at most in the feeds with other names and in what they have
counted. -/
structure Alike (name : String) (x y : Service) : Prop where
  store : x.store = y.store
  untold : x.untold = y.untold
  tasks : x.tasks = y.tasks
  feed : x.feeds.get? name = y.feeds.get? name

namespace Alike

variable {y : Service}

/-- Services that are alike deliver the same. -/
lemma drained_eq (h : Alike name x y) (m : Move) : x.drained name m = y.drained name m := by
  cases m with
  | drain other room => rw [drained, drained, h.feed, h.store]
  | _ => rfl

lemma symm (h : Alike name x y) : Alike name y x :=
  ⟨h.store.symm, h.untold.symm, h.tasks.symm, h.feed.symm⟩

/-- Draining another feed makes no difference. -/
lemma step_other (h : Alike name x y) {m : Move} (hm : m.drainsOther name = true) :
    Alike name (x.step m) y := by
  cases m with
  | drain other room =>
    have hne : other ≠ name := bne_iff_ne.mp hm
    have hfeed : (x.step (.drain other room)).feeds.get? name = x.feeds.get? name := by
      rw [get?_feeds_step, feedAfter, if_neg hne]
    have hrest : (x.step (.drain other room)).store = x.store ∧
        (x.step (.drain other room)).untold = x.untold ∧
          (x.step (.drain other room)).tasks = x.tasks := by
      rw [Service.step]
      split <;> exact ⟨rfl, rfl, rfl⟩
    exact ⟨hrest.1.trans h.store, hrest.2.1.trans h.untold, hrest.2.2.trans h.tasks,
      hfeed.trans h.feed⟩
  | _ => cases hm

/-- Services that are alike remain so if both make a move. -/
lemma step (h : Alike name x y) (m : Move) : Alike name (x.step m) (y.step m) := by
  have hfeed : (x.step m).feeds.get? name = (y.step m).feeds.get? name := by
    rw [get?_feeds_step, get?_feeds_step, h.feed]
    cases m with
    | tell i => rw [feedAfter, feedAfter, h.untold]
    | drain other room => rw [feedAfter, feedAfter, h.store]
    | _ => rfl
  obtain ⟨store, untold, feeds, tasks, metrics⟩ := x
  obtain ⟨store', untold', feeds', tasks', metrics'⟩ := y
  obtain ⟨rfl, rfl, rfl, -⟩ := h
  cases m with
  | tell i =>
    revert hfeed
    simp only [Service.step]
    cases untold[i]? <;> exact fun hfeed => ⟨rfl, rfl, rfl, hfeed⟩
  | drain other room =>
    revert hfeed
    simp only [Service.step]
    cases feeds.get? other <;> cases feeds'.get? other <;>
      exact fun hfeed => ⟨rfl, rfl, rfl, hfeed⟩
  | step i f limit =>
    revert hfeed
    simp only [Service.step]
    cases tasks[i]? <;> exact fun hfeed => ⟨rfl, rfl, rfl, hfeed⟩
  | _ => exact ⟨rfl, rfl, rfl, hfeed⟩

end Alike

/-- **What a feed delivers does not depend on the draining of others.** -/
lemma outputs_filter {α : Type} {out : Service → Move → List α} {y : Service}
    (hsame : ∀ {x y m}, Alike name x y → out x m = out y m)
    (hnone : ∀ {x m}, m.drainsOther name = true → out x m = []) (h : Alike name x y)
    (moves : List Move) : system.outputs out x moves =
      system.outputs out y (moves.filter (fun m => !m.drainsOther name)) := by
  induction moves generalizing x y with
  | nil => rfl
  | cons m moves ih =>
    cases hm : m.drainsOther name with
    | true =>
      rw [List.filter_cons_of_neg (by simp [hm]), System.outputs, hnone hm, List.nil_append]
      exact ih (h.step_other hm)
    | false =>
      rw [List.filter_cons_of_pos (by simp [hm]), System.outputs, System.outputs, hsame h]
      congr 1
      exact ih (h.step m)

/-- A feed delivers nothing when another one is drained. -/
lemma drained_other {m : Move} (hm : m.drainsOther name = true) : x.drained name m = ([], []) := by
  cases m with
  | drain other room =>
    have hne : other ≠ name := bne_iff_ne.mp hm
    rw [drained]
    split
    · rfl
    · rw [if_neg hne]
  | _ => rfl

/-! ### The guarantee -/

/-- **What those who subscribe to changes can rely on.** Whoever puts a machine, and whoever deletes
or changes one that is there, has to tell the name that it was called for, and no other call has to
tell anything. At every moment of a run the store is what the calls made so far have made of an
empty one, and what was told and what remains to be told are together, in some order, what these
calls had to tell: each change is told once, after it was made and can be seen.
Let a feed of changes be subscribed at some moment and kept from then on. At every later moment it
has delivered, of the changes that were told since, those at some ascending positions, and it would
deliver, if it were drained now, the newest 256 of those behind the last of these positions, or all
of them if there are fewer, from the oldest one on and as many as there is room for; this is what the
receiver of a channel pulls that is past as many changes. What a feed delivers does not depend on the
draining of other feeds. -/
theorem feed_guarantee :
    (∀ (s : Store) (a : Store.Call) (name : String), a.told s = some name ↔
      (∃ m, a = .putMachine m ∧ m.name = name) ∨
        ((a = .deleteMachine name ∨ ∃ edit, a = .updateMachine name edit) ∧
          ∃ m, s.machines.get? name = some m)) ∧
      (∀ moves : List Move,
        (system.run {} moves).store = ({} : Store).after (system.callsOf {} moves) ∧
          (system.outputs told {} moves ++ (system.run {} moves).untold).Perm
            (({} : Store).toldBy (system.callsOf {} moves))) ∧
      (∀ (before after : List Move) (name : String), (∀ m ∈ after, m.Keeps name) →
        let start := (system.run {} before).step (.subscribe name .changes)
        ∃ positions : ℕ → List ℕ, ∀ n,
          let noticed := system.outputs told start (after.take n)
          let got := system.outputs (names name) start (after.take n)
          let missed := noticed.drop (behind (positions n))
          positions n <+: positions (n + 1) ∧ (positions n).Pairwise (· < ·) ∧
            got.map some = (positions n).map (noticed[·]?) ∧
            ∀ room,
              let due := (system.moment start after n).names name (.drain name room)
              due = Feed.takeRoom room (missed.drop (missed.length - 256)) ∧
                ∀ machines,
                  (∃ mid, Channel.Drains noticed room (behind (positions n)) machines mid) ↔
                    machines = due) ∧
      ∀ (moves : List Move) (name : String),
        let others := moves.filter (fun m => !m.drainsOther name)
        system.outputs (names name) {} moves = system.outputs (names name) {} others ∧
          system.outputs (keys name) {} moves = system.outputs (keys name) {} others := by
  refine ⟨fun s a name => Store.told_iff,
    fun moves => ⟨system.store_run {} moves, told_run {} moves⟩, ?_, ?_⟩
  · intro before after name hkeeps start
    have hstart : start.feeds.get? name = some { kind := .changes } :=
      SortedMap.get?_insert_self _ _ _
    refine ⟨fun n => positions name start 0 (after.take n), fun n => ?_⟩
    intro noticed got missed
    have htake : ∀ m ∈ after.take n, m.Keeps name := fun m hm => hkeeps m (List.mem_of_mem_take hm)
    obtain ⟨f, hf, hkind, hfollowed⟩ := followed_run htake hstart rfl Followed.nil
    refine ⟨?_, hfollowed.ascending, hfollowed.got_eq, fun room => ?_⟩
    · change positions name start 0 (after.take n) <+: positions name start 0 (after.take (n + 1))
      rw [List.take_add_one, positions_append]
      exact List.prefix_append _ _
    · have hpending : f.pending = missed.drop (missed.length - 256) := hfollowed.pending_eq
      have hdue : (system.moment start after n).names name (.drain name room) =
          Feed.takeRoom room f.pending := names_drain hf hkind room
      obtain ⟨-, next', hdrains, -, -⟩ :=
        Channel.drains_feed hfollowed.pending_eq hfollowed.told room
      refine ⟨by rw [hdue, hpending], fun machines => ?_⟩
      rw [hdue]
      constructor
      · rintro ⟨mid, h⟩
        exact ((hdrains machines mid).mp h).1
      · intro h
        exact ⟨next', (hdrains machines next').mpr ⟨h, rfl⟩⟩
  · intro moves name others
    have hsame : Alike name {} {} := ⟨rfl, rfl, rfl, rfl⟩
    constructor
    · refine outputs_filter (fun h => ?_) (fun hm => ?_) hsame moves
      · rw [names, names, h.drained_eq]
      · rw [names, drained_other hm]
    · refine outputs_filter (fun h => ?_) (fun hm => ?_) hsame moves
      · rw [keys, keys, h.drained_eq]
      · rw [keys, drained_other hm]

/-- Two machines are put and told of, and a feed drained in between that was subscribed before. -/
def pair : List Move :=
  [.call (.putMachine .sample), .tell 0, .drain "feed" (some 1),
    .call (.putMachine { Machine.sample with metadata := { name := some "m2" } }), .tell 0]

/-- The feed has delivered the first one, and the second one is due. -/
theorem feed_guarantee_pair :
    let start := (system.run {} []).step (.subscribe "feed" .changes)
    (∀ m ∈ pair, m.Keeps "feed") ∧ system.outputs (names "feed") start pair = ["m1"] ∧
      ∃ positions : ℕ → List ℕ, positions 5 = [0] ∧
        ∀ room, (system.moment start pair 5).names "feed" (.drain "feed" room) =
          Feed.takeRoom room ["m2"] := by
  intro start
  have hkeeps : ∀ m ∈ pair, m.Keeps "feed" := by simp [pair, Move.Keeps]
  obtain ⟨positions, hpositions⟩ := feed_guarantee.2.2.1 [] pair "feed" hkeeps
  obtain ⟨-, -, hgot, hdue⟩ := hpositions 5
  have hnoticed : system.outputs told start (pair.take 5) = ["m1", "m2"] := by cbv
  have hnames : system.outputs (names "feed") start (pair.take 5) = ["m1"] := by cbv
  rw [hnoticed, hnames] at hgot
  have hfirst : positions 5 = [0] := by
    obtain ⟨p, hp⟩ : ∃ p, positions 5 = [p] :=
      List.length_eq_one_iff.mp (by simpa using (congrArg List.length hgot).symm)
    rw [hp] at hgot ⊢
    rcases p with _ | _ | p
    · rfl
    · simp at hgot
    · simp at hgot
  refine ⟨hkeeps, hnames, positions, hfirst, fun room => ?_⟩
  rw [(hdue room).1, hnoticed, hfirst]
  rfl

end Service

end BareMetal
