import BareMetal.Store

/-!
A store that is slow, or does not do what it is asked.

Waits are only compared with the time a call may take: a wait that takes the whole of
it is in time, and a call that is cut off stays where it was, before or after its
effect.

* `Wait`: how long a part of a call takes, perhaps forever;
* `Faults`: what is wrong with each of the calls;
* `Faults.backend`: the calls with these faults, each cut off after some time.
-/

namespace BareMetal

/-- How long a part of a call takes. -/
inductive Wait where
  /-- So many milliseconds. -/
  | milliseconds (n : Nat)
  /-- It never ends. -/
  | forever
  deriving DecidableEq

namespace Wait

/-- No time at all. -/
def none : Wait := .milliseconds 0

/-- One wait after the other. -/
def add : Wait → Wait → Wait
  | .milliseconds m, .milliseconds n => .milliseconds (m + n)
  | _, _ => .forever

/-- Whether a wait takes longer than so many milliseconds. -/
def exceeds (limit : Nat) : Wait → Bool
  | .milliseconds n => limit < n
  | .forever => true

end Wait

/-- What is wrong with the calls to a store. -/
structure Faults where
  /-- The wait before a class is read. -/
  getDelay : Wait := .none
  /-- The wait before the machines are listed. -/
  listDelay : Wait := .none
  /-- The wait before a status is written. -/
  writeDelay : Wait := .none
  /-- The wait after a status was written; there is none where it was not. -/
  writeAfterDelay : Wait := .none
  /-- Classes are read without their version. -/
  stripVersion : Bool := false
  /-- Machines are listed in reverse. -/
  reverse : Bool := false
  /-- The class is deleted just before its status is written. -/
  vanish : Bool := false
  /-- The class is written by someone else just before its status is. -/
  touch : Bool := false
  /-- The status cannot be written, for this reason. -/
  writeUnavailable : Option String := none

namespace Faults

/-- A class as it is read. -/
def read (f : Faults) (c : MachineClass) : MachineClass :=
  if f.stripVersion then { c with metadata := { c.metadata with resourceVersion := none } } else c

/-- The machines as they are listed. -/
def listed (f : Faults) (machines : List Machine) : List Machine :=
  if f.reverse then machines.reverse else machines

/-- What others do to a class just before its status is written. -/
def interfere (f : Faults) (key : ClassKey) (s : Store) : Store :=
  let s := if f.vanish then s.deleteClass key else s
  if f.touch then s.touchClass key else s

/-- The calls with the faults, each cut off after `limit` milliseconds. -/
def backend (f : Faults) (limit : Nat) : Backend Store where
  getClass key s :=
    if f.getDelay.exceeds limit then (.error (.timeout (.ofMilliseconds limit)), s)
    else (.ok ((s.getClass key).map f.read), s)
  listMachines s :=
    if f.listDelay.exceeds limit then (.error (.timeout (.ofMilliseconds limit)), s)
    else (s.listMachines.map f.listed, s)
  writeStatus key version status s :=
    if f.writeDelay.exceeds limit then (.error (.timeout (.ofMilliseconds limit)), s)
    else
      let s := f.interfere key s
      match f.writeUnavailable with
      | some text => (.error (.unavailable text), s)
      | none =>
        match s.writeStatus key version status with
        | (.error e, s) => (.error e, s)
        | (.ok (), s) =>
          if (f.writeDelay.add f.writeAfterDelay).exceeds limit then
            (.error (.timeout (.ofMilliseconds limit)), s)
          else (.ok (), s)

end Faults

end BareMetal
