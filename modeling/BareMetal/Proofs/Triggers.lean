import BareMetal.Proofs.Changes
import BareMetal.Proofs.Ledger

/-!
What a feed of triggers delivers, and when it takes up which change.

* `Feed.Tick`, `Feed.poll`, `Feed.Polls`: a feed asked for one key after the other, in small steps;
* `Feed.Polls.unique`, `Feed.Polls.append`: **asking twice is asking once for as much together**;
* `Feed.drainTriggers_eq`: **draining is polling as long as there is room**;
* `Feed.Sequenced`: where a feed of triggers stands, and `Sequenced.notify`, `Sequenced.deliver`,
  `Sequenced.takeUp`: that telling, delivering a key and taking up a change keep this;
* `Service.Polled`, `Service.fanOuts`: what happens to the feed with a name in a move, and the
  fan-outs that are measured in it;
* `Service.drain_drain`: **two drains without anything in between are one**;
* `Service.triggers_in_order`: all of this for the runs of a service, and what is counted.
-/

namespace BareMetal

namespace Feed

/-! ### Ticks -/

/-- What can happen when a feed of triggers is asked for a key. -/
inductive Tick where
  /-- The oldest change is taken up, the classes being these, if they could be listed. -/
  | takenUp (machine : String) (classes : Except StoreError (List MachineClass))
  /-- A key is delivered. -/
  | delivered (key : ClassKey)

namespace Tick

/-- The key that is delivered. -/
def key? : Tick → Option ClassKey
  | takenUp _ _ => none
  | delivered key => some key

/-- The change that is taken up, with the classes. -/
def change? : Tick → Option (String × Except StoreError (List MachineClass))
  | takenUp machine classes => some (machine, classes)
  | delivered _ => none

/-- What is reported. -/
def reports : Tick → List Report
  | takenUp machine classes => (takeUp classes machine).2
  | delivered _ => []

/-- The room that is left. -/
def roomAfter (room : Option ℕ) : Tick → Option ℕ
  | takenUp _ _ => room
  | delivered _ => room.map (· - 1)

end Tick

/-- The keys that are delivered. -/
def deliveries (ticks : List Tick) : List ClassKey := ticks.filterMap Tick.key?

/-- The changes that are taken up, each with the classes at that moment. -/
def takings (ticks : List Tick) : List (String × Except StoreError (List MachineClass)) :=
  ticks.filterMap Tick.change?

/-- The keys to which these changes go, those of one change behind those of the other. -/
def requested (ticks : List Tick) : List ClassKey :=
  (takings ticks).flatMap (fun t => (fanOut t.2).1)

/-- To how many classes each of these changes goes, or that they could not be listed. -/
def answers (ticks : List Tick) : List (Option ℕ) :=
  (takings ticks).map (fun t => t.2.toOption.map List.length)

/-- The next thing that happens to a feed that is asked for a key: one that is ready is delivered,
and only if there is none the oldest change is taken up. -/
def poll (classes : Except StoreError (List MachineClass)) (f : Feed) : Option (Tick × Feed) :=
  match f.ready, f.pending with
  | key :: ready, _ => some (.delivered key, { f with ready := ready })
  | [], machine :: pending =>
    some (.takenUp machine classes, { f with ready := (fanOut classes).1, pending := pending })
  | [], [] => none

/-- **Polls**: a feed is polled as long as there is room for a key, or until nothing happens any
more. -/
inductive Polls (classes : Except StoreError (List MachineClass)) :
    Option ℕ → Feed → List Tick → Feed → Prop
  /-- There is no room left. -/
  | full (f : Feed) : Polls classes (some 0) f [] f
  /-- There is nothing left. -/
  | idle {room : Option ℕ} {f : Feed} (h : f.poll classes = none) : Polls classes room f [] f
  /-- Something happens. -/
  | tick {room : Option ℕ} {f f' f'' : Feed} {t : Tick} {ticks : List Tick} (hroom : room ≠ some 0)
      (h : f.poll classes = some (t, f')) (hrest : Polls classes (t.roomAfter room) f' ticks f'') :
      Polls classes room f (t :: ticks) f''

section Ticks

variable {classes : Except StoreError (List MachineClass)} {room : Option ℕ} {f f' f'' : Feed}
  {ticks ticks' : List Tick}

@[simp] lemma deliveries_append (ticks ticks' : List Tick) :
    deliveries (ticks ++ ticks') = deliveries ticks ++ deliveries ticks' :=
  List.filterMap_append

@[simp] lemma takings_append (ticks ticks' : List Tick) :
    takings (ticks ++ ticks') = takings ticks ++ takings ticks' :=
  List.filterMap_append

@[simp] lemma requested_append (ticks ticks' : List Tick) :
    requested (ticks ++ ticks') = requested ticks ++ requested ticks' := by
  rw [requested, takings_append, List.flatMap_append]
  rfl

@[simp] lemma answers_append (ticks ticks' : List Tick) :
    answers (ticks ++ ticks') = answers ticks ++ answers ticks' := by
  rw [answers, takings_append, List.map_append]
  rfl

@[simp] lemma deliveries_map_delivered (keys : List ClassKey) :
    deliveries (keys.map .delivered) = keys := by
  rw [deliveries, List.filterMap_map]
  exact List.filterMap_some

@[simp] lemma flatMap_reports_map_delivered (keys : List ClassKey) :
    (keys.map Tick.delivered).flatMap Tick.reports = [] := by
  rw [List.flatMap_map, List.flatMap_eq_nil_iff]
  exact fun key _ => rfl

namespace Polls

/-- **There is only one way to poll a feed.** -/
lemma unique (h : f.Polls classes room ticks f') (h' : f.Polls classes room ticks' f'') :
    ticks = ticks' ∧ f' = f'' := by
  induction h generalizing ticks' with
  | full f =>
    cases h' with
    | full => exact ⟨rfl, rfl⟩
    | idle _ => exact ⟨rfl, rfl⟩
    | tick hroom _ _ => exact absurd rfl hroom
  | idle hidle =>
    cases h' with
    | full => exact ⟨rfl, rfl⟩
    | idle _ => exact ⟨rfl, rfl⟩
    | tick _ hpoll _ =>
      rw [hidle] at hpoll
      cases hpoll
  | tick hroom hpoll _ ih =>
    cases h' with
    | full => exact absurd rfl hroom
    | idle hidle =>
      rw [hpoll] at hidle
      cases hidle
    | tick _ hpoll' hrest =>
      rw [hpoll] at hpoll'
      cases hpoll'
      obtain ⟨rfl, rfl⟩ := ih hrest
      exact ⟨rfl, rfl⟩

/-- **Asking twice is asking once for as much together.** -/
lemma append {a b : ℕ} (h : f.Polls classes (some a) ticks f')
    (h' : f'.Polls classes (some b) ticks' f'') :
    f.Polls classes (some (a + b)) (ticks ++ ticks') f'' := by
  generalize hroom : some a = room at h
  induction h generalizing a with
  | full f =>
    cases hroom
    rwa [Nat.zero_add]
  | idle hidle =>
    obtain ⟨rfl, rfl⟩ := h'.unique (.idle hidle)
    exact .idle hidle
  | @tick room f f' f'' t ticks hne hpoll _ ih =>
    subst hroom
    have ha : a ≠ 0 := fun hzero => hne (congrArg some hzero)
    have hab : some (a + b) ≠ some 0 := by simp [ha]
    refine .tick hab hpoll ?_
    cases t with
    | takenUp machine classes => exact ih h' rfl
    | delivered key =>
      have hless : a + b - 1 = a - 1 + b := by omega
      change Polls classes (some (a + b - 1)) _ _ _
      rw [hless]
      exact ih h' rfl

/-- A feed that is polled until nothing happens any more, as there is always room, holds nothing. -/
lemma drained (h : f.Polls classes room ticks f')
    (hroom : ∀ n, room = some n → (deliveries ticks).length < n) :
    f'.ready = [] ∧ f'.pending = [] := by
  induction h with
  | full f => exact absurd (hroom 0 rfl) (Nat.not_lt_zero _)
  | idle hidle =>
    rw [poll] at hidle
    split at hidle
    · cases hidle
    · cases hidle
    next hready hpending => exact ⟨hready, hpending⟩
  | @tick room f f' f'' t ticks _ _ _ ih =>
    refine ih fun n hn => ?_
    cases t with
    | takenUp machine classes => exact hroom n hn
    | delivered key =>
      obtain ⟨k, hk, rfl⟩ := Option.map_eq_some_iff.mp hn
      have hlt : (deliveries ticks).length + 1 < k := hroom k hk
      omega

end Polls

/-! ### Drains -/

/-- The room that is left for what comes behind some keys. -/
lemma map_sub_cons (room : Option ℕ) (key : ClassKey) (keys : List ClassKey) :
    room.map (fun n => n - (key :: keys).length) =
      (room.map (· - 1)).map (fun n => n - keys.length) := by
  cases room with
  | none => rfl
  | some n => simp [Nat.sub_sub, Nat.add_comm]

variable {kind : FeedKind} {pending : List String} {keys : List ClassKey}

/-- Keys that are ready are delivered if there is room for more than these. -/
lemma Polls.of_ready (hleft : room.map (fun n => n - keys.length) ≠ some 0)
    (hrest : Polls classes (room.map (fun n => n - keys.length))
      { kind := kind, pending := pending } ticks f') :
    Polls classes room { kind := kind, pending := pending, ready := keys }
      (keys.map .delivered ++ ticks) f' := by
  induction keys generalizing room with
  | nil => simpa using hrest
  | cons key keys ih =>
    rw [map_sub_cons] at hleft hrest
    have hroom : room ≠ some 0 := by
      rintro rfl
      exact hleft (by simp)
    exact .tick hroom rfl (ih hleft hrest)

/-- Keys that are ready are delivered as long as there is room for them. -/
lemma Polls.of_le {n : ℕ} (hn : n ≤ keys.length) :
    Polls classes (some n) { kind := kind, pending := pending, ready := keys }
      ((keys.take n).map .delivered)
      { kind := kind, pending := pending, ready := keys.drop n } := by
  induction keys generalizing n with
  | nil =>
    rw [Nat.le_zero.mp hn]
    exact .full _
  | cons key keys ih =>
    cases n with
    | zero => exact .full _
    | succ n => exact .tick (by simp) rfl (ih (Nat.le_of_succ_le_succ hn))

/-- If there is no room for more than the keys that are ready, no change is taken up. -/
lemma exists_polls_of_full (kind : FeedKind) (classes : Except StoreError (List MachineClass))
    (pending : List String) (hfull : room.map (fun n => n - keys.length) = some 0) :
    ∃ ticks, Polls classes room { kind := kind, pending := pending, ready := keys } ticks
        { kind := kind, pending := pending, ready := dropRoom room keys } ∧
      deliveries ticks = takeRoom room keys ∧ ticks.flatMap Tick.reports = [] := by
  obtain ⟨n, rfl, hzero⟩ := Option.map_eq_some_iff.mp hfull
  have hn : n ≤ keys.length := Nat.sub_eq_zero_iff_le.mp hzero
  exact ⟨_, .of_le hn, deliveries_map_delivered _, flatMap_reports_map_delivered _⟩

/-- If there is room for more, all of them are delivered. -/
lemma takeRoom_dropRoom_of_left (h : room.map (fun n => n - keys.length) ≠ some 0) :
    takeRoom room keys = keys ∧ dropRoom room keys = [] := by
  cases room with
  | none => exact ⟨rfl, rfl⟩
  | some n =>
    have hn : keys.length ≤ n := by
      simp only [Option.map_some, ne_eq, Option.some.injEq] at h
      omega
    exact ⟨List.take_of_length_le hn, List.drop_of_length_le hn⟩

/-- A feed is drained by polling it. -/
lemma exists_polls_deliver (kind : FeedKind) (classes : Except StoreError (List MachineClass))
    (room : Option ℕ) (ready : List ClassKey) (pending : List String) :
    let drained := deliver classes room ready pending
    ∃ ticks, Polls classes room { kind := kind, pending := pending, ready := ready } ticks
        { kind := kind, pending := drained.2.2.1, ready := drained.2.1 } ∧
      deliveries ticks = drained.1 ∧ ticks.flatMap Tick.reports = drained.2.2.2 := by
  induction pending generalizing room ready with
  | nil =>
    rw [deliver]
    by_cases hleft : room.map (fun n => n - ready.length) = some 0
    · exact exists_polls_of_full kind classes [] hleft
    · obtain ⟨htake, hdrop⟩ := takeRoom_dropRoom_of_left hleft
      rw [htake, hdrop]
      refine ⟨_, .of_ready hleft (.idle rfl), ?_, ?_⟩
      · rw [List.append_nil, deliveries_map_delivered]
      · rw [List.append_nil, flatMap_reports_map_delivered]
  | cons machine pending ih =>
    rw [deliver]
    by_cases hleft : room.map (fun n => n - ready.length) = some 0
    · rw [if_pos hleft]
      exact exists_polls_of_full kind classes (machine :: pending) hleft
    · -- the keys that are ready, then the change, and then the keys to which it goes
      rw [if_neg hleft]
      obtain ⟨ticks, hpolls, hkeys, hreports⟩ :=
        ih (room.map (fun n => n - ready.length)) (takeUp classes machine).1
      refine ⟨ready.map .delivered ++ .takenUp machine classes :: ticks,
        .of_ready hleft (.tick hleft rfl hpolls), ?_, ?_⟩
      · rw [deliveries_append, deliveries_map_delivered]
        exact congrArg (ready ++ ·) hkeys
      · rw [List.flatMap_append, flatMap_reports_map_delivered, List.nil_append]
        exact congrArg ((takeUp classes machine).2 ++ ·) hreports

/-- **Draining is polling as long as there is room.** -/
lemma drainTriggers_eq (h : f.Polls classes room ticks f') :
    f.drainTriggers classes room = (deliveries ticks, f', ticks.flatMap Tick.reports) := by
  obtain ⟨ticks', hpolls, hkeys, hreports⟩ :=
    exists_polls_deliver f.kind classes room f.ready f.pending
  obtain ⟨rfl, rfl⟩ := h.unique hpolls
  rw [hkeys, hreports]
  rfl

/-- A feed can always be polled. -/
lemma exists_polls (f : Feed) (classes : Except StoreError (List MachineClass))
    (room : Option ℕ) : ∃ ticks f', f.Polls classes room ticks f' := by
  obtain ⟨ticks, hpolls, -⟩ := exists_polls_deliver f.kind classes room f.ready f.pending
  exact ⟨ticks, _, hpolls⟩

/-- A feed that is polled stays of its kind. -/
lemma Polls.kind_eq (h : f.Polls classes room ticks f') : f'.kind = f.kind := by
  have heq := drainTriggers_eq h
  have hf' : f' = (f.drainTriggers classes room).2.1 := by rw [heq]
  rw [hf']
  rfl

end Ticks

/-! ### Where a feed stands -/

/-- **Sequenced**: of the changes that were told since it was subscribed, a feed of triggers has
taken up those at some ascending positions, and holds the newest of those behind. The keys that it
has delivered and those that are ready are the keys of the changes that were taken up, those of one
change behind those of the other, and none was taken up before all keys of the earlier ones were
delivered. -/
structure Sequenced (noticed : List String) (positions : List ℕ) (trace : List Tick) (f : Feed) :
    Prop where
  followed : Followed noticed positions ((takings trace).map Prod.fst) f.pending
  accounted : deliveries trace ++ f.ready = requested trace
  orderly : ∀ earlier machine classes, earlier ++ [.takenUp machine classes] <+: trace →
    deliveries earlier = requested earlier

namespace Sequenced

variable {classes : Except StoreError (List MachineClass)} {room : Option ℕ} {f f' : Feed}
  {noticed : List String} {positions : List ℕ} {trace ticks : List Tick}

/-- A new feed is sequenced. -/
lemma nil (kind : FeedKind) : Sequenced [] [] [] { kind := kind } where
  followed := .nil
  accounted := rfl
  orderly earlier machine classes h := by simp at h

/-- A feed that is told of a change is so, too. -/
lemma notify (h : Sequenced noticed positions trace f) (machine : String) :
    Sequenced (noticed ++ [machine]) positions trace (f.notify machine) := by
  refine ⟨?_, ?_, h.orderly⟩
  · simpa only [Feed.notify] using h.followed.notify machine
  · simpa only [Feed.notify] using h.accounted

/-- A feed that delivers a key is so, too. -/
lemma deliver {key : ClassKey} {ready : List ClassKey} (h : Sequenced noticed positions trace f)
    (hready : f.ready = key :: ready) :
    Sequenced noticed positions (trace ++ [.delivered key]) { f with ready := ready } where
  followed := by
    have htaken : takings (trace ++ [.delivered key]) = takings trace := by
      rw [takings_append]
      exact List.append_nil _
    rw [htaken]
    exact h.followed
  accounted := by
    rw [deliveries_append, requested_append, ← h.accounted, hready]
    simp [deliveries, requested, takings, Tick.key?, Tick.change?]
  orderly earlier machine classes hearlier := by
    rcases List.prefix_concat_iff.mp hearlier with hnow | hbefore
    · have hlast := congrArg List.getLast? hnow
      simp at hlast
    · exact h.orderly earlier machine classes hbefore

/-- A feed that takes up a change is so, too, as all keys were delivered. -/
lemma takeUp {machine : String} {pending : List String} (h : Sequenced noticed positions trace f)
    (hready : f.ready = []) (hpending : f.pending = machine :: pending)
    (classes : Except StoreError (List MachineClass)) :
    Sequenced noticed (positions ++ List.range' (noticed.length - f.pending.length) 1)
      (trace ++ [.takenUp machine classes])
      { f with ready := (fanOut classes).1, pending := pending } := by
  have hdelivered : deliveries trace = requested trace := by
    rw [← h.accounted, hready, List.append_nil]
  have hfollowed := h.followed.deliver (n := 1) (by simp [hpending])
  refine ⟨?_, ?_, fun earlier machine' classes' hearlier => ?_⟩
  · rw [takings_append, List.map_append]
    rw [hpending] at hfollowed ⊢
    exact hfollowed
  · rw [deliveries_append, requested_append, hdelivered]
    simp [deliveries, requested, takings, Tick.key?, Tick.change?]
  · rcases List.prefix_concat_iff.mp hearlier with hnow | hbefore
    · obtain ⟨rfl, -⟩ := List.append_inj' hnow rfl
      exact hdelivered
    · exact h.orderly earlier machine' classes' hbefore

/-- A feed to which something happens is so, too. -/
lemma poll {t : Tick} (h : Sequenced noticed positions trace f)
    (hpoll : f.poll classes = some (t, f')) :
    ∃ positions', positions <+: positions' ∧ Sequenced noticed positions' (trace ++ [t]) f' := by
  rw [Feed.poll] at hpoll
  split at hpoll
  next _ _ key ready hready =>
    cases hpoll
    exact ⟨positions, List.prefix_rfl, h.deliver hready⟩
  next machine pending hready hpending =>
    cases hpoll
    exact ⟨_, List.prefix_append _ _, h.takeUp hready hpending classes⟩
  next => cases hpoll

/-- A feed that is polled is so, too. -/
lemma polls (hpolls : f.Polls classes room ticks f') (h : Sequenced noticed positions trace f) :
    ∃ positions', positions <+: positions' ∧ Sequenced noticed positions' (trace ++ ticks) f' := by
  induction hpolls generalizing positions trace with
  | full f => exact ⟨positions, List.prefix_rfl, by rwa [List.append_nil]⟩
  | idle _ => exact ⟨positions, List.prefix_rfl, by rwa [List.append_nil]⟩
  | tick _ hpoll _ ih =>
    obtain ⟨between, hprefix, hnext⟩ := h.poll hpoll
    obtain ⟨positions', hprefix', hend⟩ := ih hnext
    refine ⟨positions', hprefix.trans hprefix', ?_⟩
    rwa [List.append_assoc] at hend

end Sequenced

/-! ### What is counted -/

/-- The fan-outs that are measured when a feed is polled are those of the changes taken up. -/
lemma fanOuts_reports (ticks : List Tick) :
    (Report.measurements (ticks.flatMap Tick.reports)).filterMap Measurement.fanOut? =
      answers ticks := by
  induction ticks with
  | nil => rfl
  | cons t ticks ih =>
    rw [List.flatMap_cons, Report.measurements_append, List.filterMap_append, ih]
    cases t with
    | delivered key => rfl
    | takenUp machine classes => cases classes <;> rfl

/-- The classes that are listed for some changes are together as many as the keys to which these
go. -/
lemma sum_answers (ticks : List Tick) :
    (answers ticks).reduceOption.sum = (requested ticks).length := by
  rw [answers, requested]
  induction takings ticks with
  | nil => rfl
  | cons t ts ih =>
    obtain ⟨machine, classes⟩ := t
    rw [List.flatMap_cons, List.length_append, ← ih]
    cases classes with
    | error e => simp [fanOut, Except.toOption, List.reduceOption_cons_of_none]
    | ok cs => simp [fanOut, Except.toOption, List.reduceOption_cons_of_some]

/-- Some classes were listed exactly if one of the changes found them listable. -/
lemma reduceOption_answers_iff (ticks : List Tick) :
    (answers ticks).reduceOption = [] ↔ (takings ticks).any (fun t => t.2.isOk) = false := by
  rw [answers]
  induction takings ticks with
  | nil => simp
  | cons t ts ih =>
    obtain ⟨machine, classes⟩ := t
    cases classes with
    | error e =>
      rw [List.any_cons]
      exact ih
    | ok cs => simp [Except.toOption, Except.isOk, Except.toBool]

/-- The answers that the classes could not be listed are those of the changes that found it so. -/
lemma count_answers (ticks : List Tick) :
    (answers ticks).count none = (takings ticks).countP (fun t => !t.2.isOk) := by
  rw [answers, List.count_eq_countP, List.countP_map]
  refine List.countP_congr fun t _ => ?_
  obtain ⟨machine, classes⟩ := t
  cases classes <;> simp [Except.toOption, Except.isOk, Except.toBool]

/-- A feed of triggers that is polled is drained. -/
lemma drain_of_polls {classes : Except StoreError (List MachineClass)} {room : Option ℕ}
    {f f' : Feed} {ticks : List Tick} (hkind : f.kind = .triggers)
    (h : f.Polls classes room ticks f') :
    f.drain classes room = (([], deliveries ticks), f', ticks.flatMap Tick.reports) := by
  rw [drain, hkind, drainTriggers_eq h]

end Feed

/-! ### Moves -/

namespace Service

open Feed (Tick Sequenced deliveries takings requested)

variable {x : Service} {name : String} {f f' : Feed} {m : Move} {ticks trace : List Tick}
  {noticed : List String} {positions : List ℕ}

/-- **Polled**: what happens to the feed with a name in a move. When it is drained it is polled, the
classes being those that the store lists at that moment, and else nothing happens. -/
def Polled (x : Service) (name : String) (f f' : Feed) (ticks : List Tick) : Move → Prop
  | .drain other room =>
    if other = name then f.Polls x.store.listClasses room ticks f' else ticks = []
  | _ => ticks = []

/-- The fan-outs that are measured in a move: to how many classes each of them goes, or that these
could not be listed. -/
def fanOuts (x : Service) (m : Move) : List (Option ℕ) :=
  (Report.measurements (x.reports m)).filterMap Measurement.fanOut?

/-- Those among them that do not come from the feed with a name. -/
def strayFanOuts (name : String) (x : Service) (m : Move) : List (Option ℕ) :=
  match m with
  | .drain other room => if other = name then [] else x.fanOuts (.drain other room)
  | m => x.fanOuts m

/-- A feed of triggers that is sequenced is so after a move that keeps it. -/
lemma sequenced_step (hm : m.Keeps name) (hf : x.feeds.get? name = some f)
    (hkind : f.kind = .triggers) (h : Sequenced noticed positions trace f) :
    ∃ positions' ticks f', (x.step m).feeds.get? name = some f' ∧ f'.kind = .triggers ∧
      positions <+: positions' ∧
        Sequenced (noticed ++ x.told m) positions' (trace ++ ticks) f' ∧
          x.Polled name f f' ticks m := by
  have hidle : Sequenced (noticed ++ []) positions (trace ++ []) f := by simpa using h
  rw [get?_feeds_step, hf]
  cases m with
  | tell i =>
    rw [told, feedAfter]
    cases x.untold[i]? with
    | none => exact ⟨positions, [], f, rfl, hkind, List.prefix_rfl, hidle, rfl⟩
    | some machine =>
      have hnotified := h.notify machine
      refine ⟨positions, [], f.notify machine, rfl, ?_, List.prefix_rfl, ?_, rfl⟩
      · rw [Feed.notify]
        exact hkind
      · simpa using hnotified
  | drain other room =>
    by_cases hname : other = name
    · subst hname
      obtain ⟨ticks, f', hpolls⟩ := f.exists_polls x.store.listClasses room
      obtain ⟨positions', hprefix, hend⟩ := h.polls hpolls
      refine ⟨positions', ticks, f', ?_, hpolls.kind_eq.trans hkind, hprefix, ?_, ?_⟩
      · rw [feedAfter, if_pos rfl, Option.map_some, Feed.drain_of_polls hkind hpolls]
      · simpa [told] using hend
      · rw [Polled, if_pos rfl]
        exact hpolls
    · rw [feedAfter, if_neg hname]
      refine ⟨positions, [], f, rfl, hkind, List.prefix_rfl, hidle, ?_⟩
      rw [Polled, if_neg hname]
  | subscribe other kind =>
    rw [feedAfter, if_neg hm]
    exact ⟨positions, [], f, rfl, hkind, List.prefix_rfl, hidle, rfl⟩
  | unsubscribe other =>
    rw [feedAfter, if_neg hm]
    exact ⟨positions, [], f, rfl, hkind, List.prefix_rfl, hidle, rfl⟩
  | _ => exact ⟨positions, [], f, rfl, hkind, List.prefix_rfl, hidle, rfl⟩

/-- What a feed of triggers delivers when it is polled. -/
lemma keys_drain (hf : x.feeds.get? name = some f) (hkind : f.kind = .triggers) {room : Option ℕ}
    (h : f.Polls x.store.listClasses room ticks f') :
    x.keys name (.drain name room) = deliveries ticks := by
  simp only [keys, drained, hf, if_pos, Feed.drain_of_polls hkind h]

/-- What it measures then. -/
lemma fanOuts_drain (hf : x.feeds.get? name = some f) (hkind : f.kind = .triggers)
    {room : Option ℕ} (h : f.Polls x.store.listClasses room ticks f') :
    x.fanOuts (.drain name room) = Feed.answers ticks := by
  simp only [fanOuts, reports, hf, Feed.drain_of_polls hkind h, Feed.fanOuts_reports]

/-- In every move a feed of triggers delivers the keys of what happens to it. -/
lemma Polled.keys_eq (h : x.Polled name f f' ticks m) (hf : x.feeds.get? name = some f)
    (hkind : f.kind = .triggers) : x.keys name m = deliveries ticks := by
  cases m with
  | drain other room =>
    rw [Polled] at h
    split at h
    next hname =>
      subst hname
      exact keys_drain hf hkind h
    next hname =>
      have hnone : x.drained name (.drain other room) = ([], []) :=
        drained_other (bne_iff_ne.mpr hname)
      rw [h, keys, hnone]
      rfl
  | _ =>
    rw [show ticks = [] from h]
    rfl

/-- If no other fan-out is measured, just those of the changes that it takes up are. -/
lemma Polled.fanOuts_eq (h : x.Polled name f f' ticks m) (hf : x.feeds.get? name = some f)
    (hkind : f.kind = .triggers) (hstray : x.strayFanOuts name m = []) :
    x.fanOuts m = Feed.answers ticks := by
  cases m with
  | drain other room =>
    rw [Polled] at h
    rw [strayFanOuts] at hstray
    split at h
    next hname =>
      subst hname
      exact fanOuts_drain hf hkind h
    next hname =>
      rw [if_neg hname] at hstray
      rw [h, hstray]
      rfl
  | _ =>
    rw [show ticks = [] from h]
    exact hstray

/-- To drain a feed of triggers is to poll it, and to count what is reported. -/
lemma step_drain_of_polls (hf : x.feeds.get? name = some f) (hkind : f.kind = .triggers)
    {room : Option ℕ} (h : f.Polls x.store.listClasses room ticks f') :
    x.step (.drain name room) =
      { x with
        feeds := x.feeds.insert name f'
        metrics := x.metrics.recordAll (ticks.flatMap Tick.reports) } := by
  rw [step_drain hf, Feed.drain_of_polls hkind h]

/-- **Two drains without anything in between are one.** -/
lemma drain_drain (hf : x.feeds.get? name = some f) (hkind : f.kind = .triggers) (a b : ℕ) :
    let y := x.step (.drain name (some a))
    y.step (.drain name (some b)) = x.step (.drain name (some (a + b))) ∧
      x.keys name (.drain name (some a)) ++ y.keys name (.drain name (some b)) =
        x.keys name (.drain name (some (a + b))) := by
  intro y
  obtain ⟨ticks, f', hfirst⟩ := f.exists_polls x.store.listClasses (some a)
  obtain ⟨ticks', f'', hsecond⟩ := f'.exists_polls x.store.listClasses (some b)
  have hboth := hfirst.append hsecond
  have hkind' : f'.kind = .triggers := hfirst.kind_eq.trans hkind
  have hy : y = _ := step_drain_of_polls hf hkind hfirst
  have hf' : y.feeds.get? name = some f' := by
    rw [hy]
    exact SortedMap.get?_insert_self _ _ _
  have hsecond' : f'.Polls y.store.listClasses (some b) ticks' f'' := by
    rw [hy]
    exact hsecond
  constructor
  · rw [step_drain_of_polls hf' hkind' hsecond', step_drain_of_polls hf hkind hboth,
      List.flatMap_append, Metrics.recordAll_append, hy]
    simp only [SortedMap.insert_insert]
  · rw [keys_drain hf hkind hfirst, keys_drain hf' hkind' hsecond', keys_drain hf hkind hboth,
      Feed.deliveries_append]

/-! ### Runs -/

/-- **Traced**: where the feed of triggers with a name stands at a moment of a run. -/
structure Traced (name : String) (start : Service) (moves : List Move) (n : ℕ)
    (positions : List ℕ) (trace : List Tick) (f : Feed) : Prop where
  feed : (system.moment start moves n).feeds.get? name = some f
  kind : f.kind = .triggers
  sequenced : Sequenced (system.outputs told start (moves.take n)) positions trace f
  delivered : system.outputs (keys name) start (moves.take n) = deliveries trace
  counted : system.outputs (strayFanOuts name) start (moves.take n) = [] →
    system.outputs fanOuts start (moves.take n) = Feed.answers trace

/-- How a feed of triggers goes on from one moment to the next. -/
lemma Traced.succ {start : Service} {moves : List Move} {n : ℕ} (hmoves : ∀ m ∈ moves, m.Keeps name)
    (h : Traced name start moves n positions trace f) :
    ∃ positions' trace' f', Traced name start moves (n + 1) positions' trace' f' ∧
      positions <+: positions' ∧ ∀ m, moves[n]? = some m → ∃ ticks, trace' = trace ++ ticks ∧
        (system.moment start moves n).Polled name f f' ticks m := by
  cases hm : moves[n]? with
  | none =>
    -- the run is over
    have htake : moves.take (n + 1) = moves.take n := by
      rw [List.take_add_one, hm, Option.toList_none, List.append_nil]
    refine ⟨positions, trace, f, ?_, List.prefix_rfl, fun m hm' => by cases hm'⟩
    obtain ⟨hfeed, hkind, hsequenced, hdelivered, hcounted⟩ := h
    rw [← htake] at hsequenced hdelivered hcounted
    rw [← system.moment_of_none hm] at hfeed
    exact ⟨hfeed, hkind, hsequenced, hdelivered, hcounted⟩
  | some m =>
    obtain ⟨positions', ticks, f', hfeed, hkind, hprefix, hsequenced, hpolled⟩ :=
      sequenced_step (hmoves m (List.mem_of_getElem? hm)) h.feed h.kind h.sequenced
    refine ⟨positions', trace ++ ticks, f', ⟨?_, hkind, ?_, ?_, fun hstray => ?_⟩, hprefix, ?_⟩
    · rw [system.moment_succ hm]
      exact hfeed
    · rw [system.outputs_take_succ told hm]
      exact hsequenced
    · rw [system.outputs_take_succ (keys name) hm, h.delivered, hpolled.keys_eq h.feed h.kind,
        Feed.deliveries_append]
    · rw [system.outputs_take_succ (strayFanOuts name) hm, List.append_eq_nil_iff] at hstray
      rw [system.outputs_take_succ fanOuts hm, h.counted hstray.1,
        hpolled.fanOuts_eq h.feed h.kind hstray.2, Feed.answers_append]
    · rintro m' ⟨⟩
      exact ⟨ticks, rfl, hpolled⟩

/-- What can always be gone on with can be gone on with for ever. -/
lemma exists_course {σ : Type} {P : ℕ → σ → Prop} {R : ℕ → σ → σ → Prop} (first : σ)
    (hfirst : P 0 first) (hnext : ∀ n s, P n s → ∃ s', P (n + 1) s' ∧ R n s s') :
    ∃ course : ℕ → σ, course 0 = first ∧ ∀ n, P n (course n) ∧ R n (course n) (course (n + 1)) := by
  have : Nonempty σ := ⟨first⟩
  choose! next hnext using hnext
  have hcourse : ∀ n, P n (Nat.rec first next n) := by
    intro n
    induction n with
    | zero => exact hfirst
    | succ n ih => exact (hnext n _ ih).1
  exact ⟨fun n => Nat.rec first next n, rfl, fun n => ⟨hcourse n, (hnext n _ (hcourse n)).2⟩⟩

/-- A feed of triggers goes on for ever. -/
lemma Traced.exists_course {start : Service} {moves : List Move}
    (hmoves : ∀ m ∈ moves, m.Keeps name) (h : Traced name start moves 0 [] [] f) :
    ∃ (positions : ℕ → List ℕ) (trace : ℕ → List Tick) (feed : ℕ → Feed), trace 0 = [] ∧
      ∀ n, Traced name start moves n (positions n) (trace n) (feed n) ∧
        positions n <+: positions (n + 1) ∧ ∀ m, moves[n]? = some m →
          ∃ ticks, trace (n + 1) = trace n ++ ticks ∧
            (system.moment start moves n).Polled name (feed n) (feed (n + 1)) ticks m := by
  obtain ⟨course, hzero, hcourse⟩ := Service.exists_course
    (P := fun n s => Traced name start moves n s.1 s.2.1 s.2.2)
    (R := fun n s s' => s.1 <+: s'.1 ∧ ∀ m, moves[n]? = some m → ∃ ticks,
      s'.2.1 = s.2.1 ++ ticks ∧ (system.moment start moves n).Polled name s.2.2 s'.2.2 ticks m)
    (([], [], f) : List ℕ × List Tick × Feed) h fun n s hs => by
      obtain ⟨positions, trace, f, hnext⟩ := hs.succ hmoves
      exact ⟨(positions, trace, f), hnext⟩
  refine ⟨fun n => (course n).1, fun n => (course n).2.1, fun n => (course n).2.2, ?_, hcourse⟩
  exact congrArg (fun s => s.2.1) hzero

/-- The counters of fan-outs at a moment of a run in which all of these come from one feed of
triggers. -/
lemma Traced.counters {before after : List Move} {start : Service} {n : ℕ}
    (hstart : start = (system.run {} before).step (.subscribe name .triggers))
    (h : Traced name start after n positions trace f)
    (hbefore : system.outputs fanOuts {} before = [])
    (hstray : system.outputs (strayFanOuts name) start (after.take n) = []) :
    let metrics := (system.moment start after n).metrics
    metrics.value? ⟨"metalclass_fanout_requests_total", []⟩ =
        (if (takings trace).any (fun t => t.2.isOk) then
          some (.number (((deliveries trace).length + f.ready.length) % 2 ^ 64)) else none) ∧
      metrics.value? ⟨"metalclass_fanout_failures_total", []⟩ =
        Metrics.counted ((takings trace).countP (fun t => !t.2.isOk)) := by
  intro metrics
  -- the run from its very beginning
  have hmoment : system.moment start after n =
      system.run {} (before ++ .subscribe name .triggers :: after.take n) := by
    rw [hstart, System.run_append]
    rfl
  have hmetrics : metrics = _ := (congrArg Service.metrics hmoment).trans (metrics_run {} _)
  have hmeasured : (system.outputs (fun x m => Report.measurements (x.reports m)) {}
      (before ++ .subscribe name .triggers :: after.take n)).filterMap Measurement.fanOut? =
        Feed.answers trace := by
    rw [System.filterMap_outputs, System.outputs_append, ← h.counted hstray, hstart]
    change system.outputs fanOuts {} before ++ _ = _
    rw [hbefore]
    rfl
  constructor
  · rw [Metrics.value?_fanOutRequests, hmetrics, Metrics.foldl_fanOutRequests, hmeasured,
      Metrics.total, Feed.sum_answers, ← h.sequenced.accounted, List.length_append]
    simp only [Feed.reduceOption_answers_iff]
    cases (takings trace).any (fun t => t.2.isOk) with
    | false => rfl
    | true => simp only [Bool.true_eq_false, if_false, if_true, Option.map_some,
        UInt64.toNat_ofNat']
  · rw [Metrics.value?_fanOutFailures, hmetrics, Metrics.foldl_fanOutFailures, hmeasured,
      Feed.count_answers, Metrics.map_counter]

/-- **What a feed of triggers delivers.** Let a feed of triggers be subscribed at some moment and
kept from then on. At every later moment it has taken up, of the changes that were told since, those
at some ascending positions, and holds the newest 256 of those behind the last of these. It takes up
a change only when it is drained, while there is room for a key and no key is ready, with the
classes that the store lists at that moment; so the keys that it has delivered and those that are
ready are, in this order, the keys of the changes taken up, and no change is taken up before all
keys of the ones before it are delivered. A change for which the classes cannot be listed has no
keys, and a drain that is not filled takes up all changes, whatever becomes of any of them. If all
fan-outs come from this feed, the counter of requests holds the number of keys that were delivered
or are ready, and that of failures the number of changes for which the classes could not be listed.
Two drains without anything in between deliver the same as one drain of as much together, and lead
to the same. -/
theorem triggers_in_order :
    (∀ (before after : List Move) (name : String), (∀ m ∈ after, m.Keeps name) →
        let start := (system.run {} before).step (.subscribe name .triggers)
        ∃ (positions : ℕ → List ℕ) (trace : ℕ → List Tick) (feed : ℕ → Feed), trace 0 = [] ∧ ∀ n,
          let x := system.moment start after n
          let noticed := system.outputs told start (after.take n)
          let got := system.outputs (keys name) start (after.take n)
          x.feeds.get? name = some (feed n) ∧ got = deliveries (trace n) ∧
            positions n <+: positions (n + 1) ∧
            Sequenced noticed (positions n) (trace n) (feed n) ∧
            (∀ m, after[n]? = some m → ∃ ticks, trace (n + 1) = trace n ++ ticks ∧
              x.Polled name (feed n) (feed (n + 1)) ticks m) ∧
            (system.outputs fanOuts {} before = [] →
              system.outputs (strayFanOuts name) start (after.take n) = [] →
                x.metrics.value? ⟨"metalclass_fanout_requests_total", []⟩ =
                    (if (takings (trace n)).any (fun t => t.2.isOk) then
                      some (.number ((got.length + (feed n).ready.length) % 2 ^ 64)) else none) ∧
                  x.metrics.value? ⟨"metalclass_fanout_failures_total", []⟩ =
                    Metrics.counted ((takings (trace n)).countP (fun t => !t.2.isOk)))) ∧
      (∀ e, (BareMetal.fanOut (.error e)).1 = []) ∧
      (∀ (f f' : Feed) classes room ticks, f.Polls classes room ticks f' →
        (∀ n, room = some n → (deliveries ticks).length < n) → f'.ready = [] ∧ f'.pending = []) ∧
      ∀ (x : Service) (name : String) (f : Feed) (a b : ℕ), x.feeds.get? name = some f →
        f.kind = .triggers →
          let y := x.step (.drain name (some a))
          y.step (.drain name (some b)) = x.step (.drain name (some (a + b))) ∧
            x.keys name (.drain name (some a)) ++ y.keys name (.drain name (some b)) =
              x.keys name (.drain name (some (a + b))) := by
  refine ⟨?_, fun e => rfl, fun f f' classes room ticks h => h.drained, fun x name f a b hf hkind =>
    drain_drain hf hkind a b⟩
  intro before after name hkeeps start
  have hfirst : Traced name start after 0 [] [] { kind := .triggers } :=
    ⟨SortedMap.get?_insert_self _ _ _, rfl, .nil _, rfl, fun _ => rfl⟩
  obtain ⟨positions, trace, feed, hzero, hcourse⟩ := hfirst.exists_course hkeeps
  refine ⟨positions, trace, feed, hzero, fun n => ?_⟩
  obtain ⟨htraced, hprefix, hpolled⟩ := hcourse n
  refine ⟨htraced.feed, htraced.delivered, hprefix, htraced.sequenced, hpolled,
    fun hbefore hstray => ?_⟩
  rw [htraced.delivered]
  exact htraced.counters rfl hbefore hstray

/-- Two changes are told of while there are two classes. One class is deleted after one key was
delivered, and the classes cannot be listed any more when a third change is told of. -/
def outage : List Move :=
  let edge : MachineClass := { metadata := { name := some "any", scope := some "edge" } }
  [.call (.putClass .sample), .call (.putClass edge), .call (.putMachine .sample), .tell 0,
    .call (.updateMachine "m1" id), .tell 0, .drain "feed" (some 1), .call (.deleteClass edge.key),
    .drain "feed" (some 2), .call (.failClassList true), .call (.deleteMachine "m1"), .tell 0,
    .drain "feed" none]

/-- The first change goes to both classes, the second one to the one that is left, and the third one
nowhere. -/
theorem triggers_in_order_outage :
    let start := (system.run {} []).step (.subscribe "feed" .triggers)
    let got : List ClassKey := [⟨some "edge", "any"⟩, ⟨some "lab", "any"⟩, ⟨some "lab", "any"⟩]
    (∀ m ∈ outage, m.Keeps "feed") ∧ system.outputs fanOuts {} [] = [] ∧
      system.outputs (strayFanOuts "feed") start (outage.take 13) = [] ∧
      ∃ trace : List Tick, deliveries trace = got ∧ requested trace = got ∧
        (system.moment start outage 13).metrics.value?
          ⟨"metalclass_fanout_requests_total", []⟩ = some (.number 3) ∧
        (system.moment start outage 13).metrics.value?
          ⟨"metalclass_fanout_failures_total", []⟩ = some (.number 1) ∧
        Metrics.counted ((takings trace).countP (fun t => !t.2.isOk)) = some (.number 1) := by
  intro start got
  have hkeeps : ∀ m ∈ outage, m.Keeps "feed" := by simp [outage, Move.Keeps]
  have hstray : system.outputs (strayFanOuts "feed") start (outage.take 13) = [] := by cbv
  have hgot : system.outputs (keys "feed") start (outage.take 13) = got := by cbv
  have hfeed : (system.moment start outage 13).feeds.get? "feed" = some { kind := .triggers } := by
    cbv
  have hrequests : (system.moment start outage 13).metrics.value?
      ⟨"metalclass_fanout_requests_total", []⟩ = some (.number 3) := by cbv
  have hfailures : (system.moment start outage 13).metrics.value?
      ⟨"metalclass_fanout_failures_total", []⟩ = some (.number 1) := by cbv
  obtain ⟨positions, trace, feed, -, hcourse⟩ := triggers_in_order.1 [] outage "feed" hkeeps
  obtain ⟨hfeed', hdelivered, -, hsequenced, -, hcounted⟩ := hcourse 13
  have hready : (feed 13).ready = [] := by rw [Option.some.inj (hfeed'.symm.trans hfeed)]
  have haccounted := hsequenced.accounted
  rw [hready, List.append_nil, ← hdelivered, hgot] at haccounted
  have hcounter := (hcounted rfl hstray).2.symm.trans hfailures
  exact ⟨hkeeps, rfl, hstray, trace 13, hdelivered.symm.trans hgot, haccounted.symm, hrequests,
    hfailures, hcounter⟩

end Service

end BareMetal
