import BareMetal.Feed
import Mathlib

/-!
A feed of changes as the receiver of a channel that retains the newest changes only.

* `Feed.takeRoom_eq_take`, `dropRoom_eq_drop`, `length_newest`, `newest_newest_append`: what
  is taken off a feed, and what it holds;
* `Channel.receive`: what a receiver gets that is past some of the changes sent: the next
  one, or the news that it lags behind, or nothing yet;
* `Channel.Pulls`, `Channel.Drains`: a receiver that tries again as long as it lags behind,
  and one that pulls as many changes as there are, or as there is room for;
* `Channel.drains_feed`: **such a receiver pulls what a feed delivers, and is left with what
  the feed then holds**.
-/

namespace BareMetal

/-! ### What a feed holds -/

namespace Feed

variable {α : Type}

/-- What is taken off the front is as much of it as there is room. -/
lemma takeRoom_eq_take (room : Option ℕ) (xs : List α) :
    takeRoom room xs = xs.take (takeRoom room xs).length := by
  cases room with
  | none => exact (List.take_length).symm
  | some n => rw [takeRoom, List.length_take, ← List.take_eq_take_min]

/-- What is left is what lies behind. -/
lemma dropRoom_eq_drop (room : Option ℕ) (xs : List α) :
    dropRoom room xs = xs.drop (takeRoom room xs).length := by
  cases room with
  | none => exact (List.drop_length).symm
  | some n => rw [dropRoom, takeRoom, List.length_take, List.drop_eq_drop_min]

lemma length_newest (xs : List String) : (newest xs).length = min xs.length capacity := by
  rw [newest, List.length_drop]
  omega

/-- No more is forgotten if something was forgotten before. -/
lemma newest_newest_append (xs ys : List String) :
    newest (newest xs ++ ys) = newest (xs ++ ys) := by
  have hle : xs.length - capacity ≤ xs.length := Nat.sub_le _ _
  have hskip : xs.length - capacity + (xs.length + ys.length - (xs.length - capacity) - capacity) =
      xs.length + ys.length - capacity := by omega
  rw [newest, newest, newest, ← List.drop_append_of_le_length hle, List.drop_drop,
    List.length_drop, List.length_append, hskip]

/-- As many as a feed holds are all of them. -/
lemma newest_of_le {xs : List String} (h : xs.length ≤ capacity) : newest xs = xs := by
  rw [newest, Nat.sub_eq_zero_of_le h, List.drop_zero]

end Feed

/-! ### Receivers -/

namespace Channel

/-- What a receiver gets. -/
inductive Received where
  /-- A change. -/
  | change (machine : String)
  /-- The next change is not retained any more. -/
  | lagged
  /-- Nothing yet. -/
  | nothing

/-- What a receiver gets from a channel to which some changes were sent, when it is past so many of
them, and how many it is past then. If the next change is not retained any more, it is told so once
and goes on to the oldest one that is. -/
def receive (sent : List String) (next : ℕ) : Received × ℕ :=
  if next < sent.length - Feed.capacity then (.lagged, sent.length - Feed.capacity)
  else
    match sent[next]? with
    | some machine => (.change machine, next + 1)
    | none => (.nothing, next)

/-- **A receiver that tries again** as long as it lags behind: what it pulls, if there is anything,
and how many changes it is past then. -/
inductive Pulls (sent : List String) : ℕ → Option String → ℕ → Prop where
  | change {next next' : ℕ} {machine : String}
      (h : receive sent next = (.change machine, next')) : Pulls sent next (some machine) next'
  | nothing {next next' : ℕ} (h : receive sent next = (.nothing, next')) :
      Pulls sent next none next'
  | lagged {next mid next' : ℕ} {item : Option String} (h : receive sent next = (.lagged, mid))
      (hrest : Pulls sent mid item next') : Pulls sent next item next'

/-- A receiver that pulls changes until there is no more room or nothing left. -/
inductive Drains (sent : List String) : Option ℕ → ℕ → List String → ℕ → Prop where
  | full {next : ℕ} : Drains sent (some 0) next [] next
  | empty {room : Option ℕ} {next next' : ℕ} (hroom : room ≠ some 0)
      (h : Pulls sent next none next') : Drains sent room next [] next'
  | pull {room : Option ℕ} {next mid next' : ℕ} {machine : String} {machines : List String}
      (hroom : room ≠ some 0) (h : Pulls sent next (some machine) mid)
      (hrest : Drains sent (room.map (· - 1)) mid machines next') :
      Drains sent room next (machine :: machines) next'

variable {sent : List String} {room : Option ℕ} {next next' mid mid' : ℕ}
  {item item' : Option String}

/-- A receiver pulls one thing only. -/
lemma Pulls.unique (h : Pulls sent next item mid) (h' : Pulls sent next item' mid') :
    item = item' ∧ mid = mid' := by
  induction h with
  | change hgot =>
    cases h' with
    | change hgot' => cases hgot.symm.trans hgot'; exact ⟨rfl, rfl⟩
    | nothing hgot' => cases hgot.symm.trans hgot'
    | lagged hgot' hrest' => cases hgot.symm.trans hgot'
  | nothing hgot =>
    cases h' with
    | change hgot' => cases hgot.symm.trans hgot'
    | nothing hgot' => cases hgot.symm.trans hgot'; exact ⟨rfl, rfl⟩
    | lagged hgot' hrest' => cases hgot.symm.trans hgot'
  | lagged hgot hrest ih =>
    cases h' with
    | change hgot' => cases hgot.symm.trans hgot'
    | nothing hgot' => cases hgot.symm.trans hgot'
    | lagged hgot' hrest' =>
      cases hgot.symm.trans hgot'
      exact ih hrest'

/-- A receiver drains in one way only. -/
lemma Drains.unique {machines machines' : List String} (h : Drains sent room next machines mid)
    (h' : Drains sent room next machines' mid') : machines = machines' ∧ mid = mid' := by
  induction h generalizing machines' mid' with
  | full =>
    cases h' with
    | full => exact ⟨rfl, rfl⟩
    | empty hroom _ => exact absurd rfl hroom
    | pull hroom _ _ => exact absurd rfl hroom
  | empty hroom hpull =>
    cases h' with
    | full => exact absurd rfl hroom
    | empty _ hpull' => exact ⟨rfl, (hpull.unique hpull').2⟩
    | pull _ hpull' _ => cases (hpull.unique hpull').1
  | pull hroom hpull hrest ih =>
    cases h' with
    | full => exact absurd rfl hroom
    | empty _ hpull' => cases (hpull.unique hpull').1
    | pull _ hpull' hrest' =>
      obtain ⟨hitem, rfl⟩ := hpull.unique hpull'
      cases hitem
      obtain ⟨rfl, rfl⟩ := ih hrest'
      exact ⟨rfl, rfl⟩

/-! ### Receivers and feeds -/

/-- Where a receiver goes on that may lag behind. -/
def resume (sent : List String) (next : ℕ) : ℕ := max next (sent.length - Feed.capacity)

/-- What a feed holds are the changes from where the receiver goes on. -/
lemma newest_drop (sent : List String) (next : ℕ) :
    Feed.newest (sent.drop next) = sent.drop (resume sent next) := by
  have hskip : next + (sent.length - next - Feed.capacity) = resume sent next := by
    rw [resume]
    omega
  rw [Feed.newest, List.length_drop, List.drop_drop, hskip]

/-- A receiver that does not lag behind goes on where it is. -/
lemma resume_of_le (h : sent.length - Feed.capacity ≤ next) : resume sent next = next :=
  max_eq_left h

/-- What a receiver pulls is what it gets where it goes on. -/
lemma pulls_of_resume (h : Pulls sent (resume sent next) item next') :
    Pulls sent next item next' := by
  by_cases hlag : next < sent.length - Feed.capacity
  · have hresume : resume sent next = sent.length - Feed.capacity := max_eq_right (by omega)
    rw [hresume] at h
    exact .lagged (if_pos hlag) h
  · rwa [resume_of_le (by omega)] at h

/-- A receiver gets the change where it goes on, or nothing. -/
lemma receive_resume (sent : List String) (next : ℕ) :
    receive sent (resume sent next) =
      match sent[resume sent next]? with
      | some machine => (.change machine, resume sent next + 1)
      | none => (.nothing, resume sent next) := by
  have hle : sent.length - Feed.capacity ≤ resume sent next := le_max_right _ _
  rw [receive, if_neg (by omega)]

/-- There is nothing to pull if the feed holds nothing. -/
lemma pulls_none (h : Feed.newest (sent.drop next) = []) :
    Pulls sent next none (resume sent next) := by
  rw [newest_drop, List.drop_eq_nil_iff] at h
  refine pulls_of_resume (.nothing ?_)
  rw [receive_resume, List.getElem?_eq_none h]

/-- What is pulled is the oldest change that the feed holds. -/
lemma pulls_some {machine : String} {machines : List String}
    (h : Feed.newest (sent.drop next) = machine :: machines) :
    Pulls sent next (some machine) (resume sent next + 1) ∧
      Feed.newest (sent.drop (resume sent next + 1)) = machines ∧
      resume sent next + 1 ≤ sent.length := by
  rw [newest_drop] at h
  have hfirst : sent[resume sent next]? = some machine := by
    rw [← List.head?_drop, h]
    rfl
  have hle : sent.length - Feed.capacity ≤ resume sent next := le_max_right _ _
  refine ⟨pulls_of_resume (.change ?_), ?_, (List.getElem?_eq_some_iff.mp hfirst).1⟩
  · rw [receive_resume, hfirst]
  · rw [newest_drop, resume_of_le (by omega), ← List.drop_drop, h]
    rfl

/-- A feed with room delivers its oldest change and goes on with what room is left. -/
lemma takeRoom_cons (machine : String) (machines : List String) (hroom : room ≠ some 0) :
    Feed.takeRoom room (machine :: machines) =
        machine :: Feed.takeRoom (room.map (· - 1)) machines ∧
      Feed.dropRoom room (machine :: machines) =
        Feed.dropRoom (room.map (· - 1)) machines := by
  cases room with
  | none => exact ⟨rfl, rfl⟩
  | some n =>
    cases n with
    | zero => exact absurd rfl hroom
    | succ n => exact ⟨rfl, rfl⟩

/-- A receiver pulls what a feed delivers, and is left with what the feed then holds. -/
lemma exists_drains (room : Option ℕ) (hnext : next ≤ sent.length) :
    ∃ next', Drains sent room next (Feed.takeRoom room (Feed.newest (sent.drop next))) next' ∧
      Feed.newest (sent.drop next') = Feed.dropRoom room (Feed.newest (sent.drop next)) ∧
      next' ≤ sent.length := by
  generalize hpending : Feed.newest (sent.drop next) = pending
  have hresume : resume sent next ≤ sent.length := max_le hnext (Nat.sub_le _ _)
  induction pending generalizing room next with
  | nil =>
    by_cases hroom : room = some 0
    · subst hroom
      exact ⟨next, .full, hpending, hnext⟩
    · have hnone : Feed.takeRoom room ([] : List String) = [] ∧
          Feed.dropRoom room ([] : List String) = [] := by
        cases room <;> simp [Feed.takeRoom, Feed.dropRoom]
      refine ⟨resume sent next, ?_, ?_, hresume⟩
      · rw [hnone.1]
        exact .empty hroom (pulls_none hpending)
      · have hle : sent.length - Feed.capacity ≤ resume sent next := le_max_right _ _
        rw [hnone.2, newest_drop, resume_of_le hle, ← newest_drop, hpending]
  | cons machine machines ih =>
    by_cases hroom : room = some 0
    · subst hroom
      exact ⟨next, .full, hpending, hnext⟩
    · obtain ⟨hpull, hrest, hmid⟩ := pulls_some hpending
      obtain ⟨next', hdrains, hleft, hnext'⟩ := ih (room.map (· - 1)) hmid hrest
        (max_le hmid (Nat.sub_le _ _))
      obtain ⟨htake, hdrop⟩ := takeRoom_cons machine machines hroom
      refine ⟨next', ?_, ?_, hnext'⟩
      · rw [htake]
        exact .pull hroom hpull hdrains
      · rw [hdrop, hleft]

/-- **A feed is the receiver of a channel.** Take a channel that retains the newest changes, a
receiver that is past some of those sent and tries again as long as it lags behind, and a feed that
holds the newest of the changes that the receiver is not past. If the feed is told of a change that
is sent, this is so afterwards. Drained with some room the receiver ends in one way: it pulls what the
feed delivers, and this is so afterwards. -/
theorem drains_feed {f : Feed} (hf : f.pending = Feed.newest (sent.drop next))
    (hnext : next ≤ sent.length) (room : Option ℕ) :
    (∀ machine, (f.notify machine).pending =
        Feed.newest ((sent ++ [machine]).drop next)) ∧
      ∃ next', (∀ machines mid, Drains sent room next machines mid ↔
          machines = (f.drainChanges room).1 ∧ mid = next') ∧
        (f.drainChanges room).2.pending = Feed.newest (sent.drop next') ∧
        next' ≤ sent.length := by
  constructor
  · intro machine
    rw [Feed.notify, hf, Feed.newest_newest_append, List.drop_append_of_le_length hnext]
  · obtain ⟨next', hdrains, hleft, hnext'⟩ := exists_drains room hnext
    rw [Feed.drainChanges, hf]
    refine ⟨next', fun machines mid => ⟨fun h => h.unique hdrains, ?_⟩, hleft.symm, hnext'⟩
    rintro ⟨rfl, rfl⟩
    exact hdrains

end Channel

end BareMetal
