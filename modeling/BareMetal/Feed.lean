import BareMetal.Store

/-!
Telling changes of machines to whoever subscribed.

A feed holds the changes that were not delivered yet, but never more than the newest
256 of them. A feed of changes delivers the names of the machines. A feed of triggers
delivers, for each change, the keys of all classes there are when the change is taken
up; the next change is taken up only when the keys of the one before are delivered.

* `fanOut`: the classes a change goes to;
* `Feed`: a feed with what it has not delivered;
* `Feed.notify`, `Feed.drainChanges`, `Feed.drainTriggers`: its operations.
-/

namespace BareMetal

/-! ### Classes to be reconciled -/

/-- The keys of all classes, to be reconciled after a change; none if they cannot be listed, which
drops the change. -/
def fanOut (classes : Except StoreError (List MachineClass)) : List ClassKey × List Report :=
  match classes with
  | .ok cs => (cs.map MachineClass.key, [.count (.fanOut cs.length)])
  | .error e => ([], [.log (.changeDropped e), .count .fanOutFailure])

/-- A change of a machine taken up. -/
def takeUp (classes : Except StoreError (List MachineClass)) (machine : String) :
    List ClassKey × List Report :=
  let (keys, reports) := fanOut classes
  (keys, reports ++ [.log (.machineChanged machine keys.length)])

/-! ### Feeds -/

/-- What a feed delivers. -/
inductive FeedKind where
  /-- The names of the machines that change. -/
  | changes
  /-- The keys of the classes to be reconciled. -/
  | triggers
  deriving DecidableEq

/-- A feed with what it has not delivered. -/
structure Feed where
  /-- What it delivers. -/
  kind : FeedKind
  /-- The changes that were not taken up, oldest first. -/
  pending : List String := []
  /-- The keys of a change that was taken up. -/
  ready : List ClassKey := []

namespace Feed

/-- How many changes a feed holds. -/
def capacity : Nat := 256

/-- The newest items of a list, as many as a feed holds. -/
def newest (xs : List String) : List String :=
  xs.drop (xs.length - capacity)

/-- A change of a machine. If there are too many, the oldest one is lost. -/
def notify (f : Feed) (machine : String) : Feed :=
  { f with pending := newest (f.pending ++ [machine]) }

/-- So many items off the front, or all of them if there is no limit. -/
def takeRoom {α : Type} (room : Option Nat) (xs : List α) : List α :=
  match room with
  | some n => xs.take n
  | none => xs

/-- The items behind those. -/
def dropRoom {α : Type} (room : Option Nat) (xs : List α) : List α :=
  match room with
  | some n => xs.drop n
  | none => []

/-- Delivers the oldest changes, at most so many. -/
def drainChanges (f : Feed) (room : Option Nat) : List String × Feed :=
  (takeRoom room f.pending, { f with pending := dropRoom room f.pending })

/-- Delivers keys, at most so many: first those that are ready, then those of one change after the
other. Tells what is delivered, what is then ready, what is not taken up, and the reports. -/
def deliver (classes : Except StoreError (List MachineClass)) :
    Option Nat → List ClassKey → List String →
      (List ClassKey × List ClassKey × List String × List Report)
  | room, ready, [] => (takeRoom room ready, dropRoom room ready, [], [])
  | room, ready, m :: ms =>
    let left := room.map (fun n => n - ready.length)
    if left = some 0 then (takeRoom room ready, dropRoom room ready, m :: ms, [])
    else
      let (keys, reports) := takeUp classes m
      let (items, rest, pending, more) := deliver classes left keys ms
      (ready ++ items, rest, pending, reports ++ more)

/-- Delivers keys of classes to be reconciled, at most so many. -/
def drainTriggers (f : Feed) (classes : Except StoreError (List MachineClass))
    (room : Option Nat) : List ClassKey × Feed × List Report :=
  let (items, ready, pending, reports) := deliver classes room f.ready f.pending
  (items, { f with ready := ready, pending := pending }, reports)

end Feed

end BareMetal
