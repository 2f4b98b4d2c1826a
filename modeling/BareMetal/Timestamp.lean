import BareMetal.Text.Blank

/-!
Points in time of object metadata, to the second.

Reading is lenient: blanks may stand in front of every number and every mark
between numbers, a blank may stand for the `T`, the zone may be written `Z`, `UTC`
or as an offset, and a fraction of a second is dropped. Writing has one form, in
universal time with a `Z`.

* `Timestamp`: a day, a second of it, and whether it is the leap second after it;
* `Timestamp.ofText`: reads a point in time;
* `Timestamp.text`: writes it.
-/

namespace BareMetal

/-- A point in time in universal time, to the second. -/
structure Timestamp where
  /-- Days since the first of January 1970. -/
  day : Int
  /-- Seconds since midnight. -/
  second : Nat
  /-- Whether the time lies in the leap second that follows. -/
  leap : Bool
  deriving DecidableEq

namespace Timestamp

/-! ### The calendar -/

/-- Days from the first of January 1970 to a date of the Gregorian calendar. Years are counted from
March, so that the leap day comes last, and in cycles of 400 years. -/
def dayOfDate (year : Int) (month day : Nat) : Int :=
  let y := if month ≤ 2 then year - 1 else year
  let cycle := Int.fdiv y 400
  let yearOfCycle := y - cycle * 400
  let m : Int := if month ≤ 2 then month + 9 else month - 3
  let dayOfYear := (153 * m + 2) / 5 + day - 1
  let dayOfCycle := yearOfCycle * 365 + yearOfCycle / 4 - yearOfCycle / 100 + dayOfYear
  cycle * 146097 + dayOfCycle - 719468

/-- The year, month and day of a number of days since the first of January 1970. -/
def dateOfDay (n : Int) : Int × Nat × Nat :=
  let z := n + 719468
  let cycle := Int.fdiv z 146097
  let dayOfCycle := z - cycle * 146097
  let yearOfCycle :=
    (dayOfCycle - dayOfCycle / 1460 + dayOfCycle / 36524 - dayOfCycle / 146096) / 365
  let dayOfYear := dayOfCycle - (365 * yearOfCycle + yearOfCycle / 4 - yearOfCycle / 100)
  let m := (5 * dayOfYear + 2) / 153
  let month := if m < 10 then m + 3 else m - 9
  let year := yearOfCycle + cycle * 400 + (if month ≤ 2 then 1 else 0)
  (year, month.toNat, (dayOfYear - (153 * m + 2) / 5 + 1).toNat)

/-- Whether a year has a leap day. -/
def isLeapYear (year : Int) : Bool :=
  year % 4 == 0 && (year % 100 != 0 || year % 400 == 0)

/-- The number of days of a month. -/
def monthLength (year : Int) (month : Nat) : Nat :=
  if month = 2 then if isLeapYear year then 29 else 28
  else if month = 4 ∨ month = 6 ∨ month = 9 ∨ month = 11 then 30
  else 31

/-- The years that dates may have. -/
def isKnownYear (year : Int) : Bool :=
  -262143 ≤ year && year ≤ 262142

/-! ### Reading -/

/-- Why a text is no point in time. -/
inductive Fault where
  /-- The text ends early. -/
  | ended
  /-- A character stands where it cannot. -/
  | malformed
  /-- A number is too large or too small. -/
  | outOfRange
  /-- Something follows the time. -/
  | trailing
  /-- The time in universal time lies outside the known years. -/
  | impossible
  deriving DecidableEq

/-- The fault in words. -/
def Fault.message : Fault → String
  | .ended => "premature end of input"
  | .malformed => "input contains invalid characters"
  | .outOfRange => "input is out of range"
  | .trailing => "trailing input"
  | .impossible => "no possible date and time matching input"

/-- Reads digits, at least one and at most `most` if there is a limit. -/
def readDigits (most : Option Nat) (cs : List Char) : Except Fault (Nat × List Char) :=
  let digits := cs.takeWhile Char.isDigit
  let digits := match most with
    | some n => digits.take n
    | none => digits
  match digits, cs with
  | [], [] => .error .ended
  | [], _ :: _ => .error .malformed
  | ds, cs => .ok (ds.foldl (fun n c => n * 10 + (c.toNat - 48)) 0, cs.drop ds.length)

/-- Reads a number of at most two digits that lies in a range. -/
def readField (least greatest : Nat) (cs : List Char) : Except Fault (Nat × List Char) := do
  let (n, cs) ← readDigits (some 2) (Text.dropBlank cs)
  if n < least ∨ greatest < n then throw .outOfRange
  return (n, cs)

/-- Reads a mark. -/
def readMark (mark : Char) (cs : List Char) : Except Fault (List Char) :=
  match Text.dropBlank cs with
  | [] => .error .ended
  | c :: cs => if c = mark then .ok cs else .error .malformed

/-- Reads a year: four digits, or any number of them behind a sign. -/
def readYear (cs : List Char) : Except Fault (Int × List Char) := do
  let (year, cs) ← match Text.dropBlank cs with
    | '-' :: cs => (fun p => (-(p.1 : Int), p.2)) <$> readDigits none cs
    | '+' :: cs => (fun p => ((p.1 : Int), p.2)) <$> readDigits none cs
    | cs => (fun p => ((p.1 : Int), p.2)) <$> readDigits (some 4) cs
  if year < -(Int.pow 2 31) ∨ Int.pow 2 31 ≤ year then throw .outOfRange
  return (year, cs)

/-- Two digits at the front of a text; a text is too short for them when it has fewer than two
bytes. -/
def readPair (cs : List Char) : Except Fault (Nat × Nat × List Char) :=
  match cs with
  | a :: b :: rest =>
    if a.isDigit ∧ b.isDigit then .ok (a.toNat - 48, b.toNat - 48, rest) else .error .malformed
  | [a] => .error (if a.utf8Size < 2 then .ended else .malformed)
  | [] => .error .ended

/-- Reads a zone as seconds east of universal time. -/
def readZone (cs : List Char) : Except Fault (Int × List Char) :=
  match cs with
  | [] => .error .ended
  | 'Z' :: cs => .ok (0, cs)
  | 'z' :: cs => .ok (0, cs)
  | c :: cs =>
    if (c = 'U' ∨ c = 'u') ∧ (cs.take 2).map Char.toUpper = ['T', 'C'] then .ok (0, cs.drop 2)
    else if c = '+' ∨ c = '-' ∨ c = '\u2212' then do
      let (h, h', cs) ← readPair cs
      let cs := cs.dropWhile (fun c => c == ':' || Text.isBlank c)
      let (m, m', cs) ← readPair cs
      if 6 ≤ m then throw .outOfRange
      let seconds : Int := ((h * 10 + h') * 60 + (m * 10 + m')) * 60
      return (if c = '+' then seconds else -seconds, cs)
    else .error .malformed

/-- Reads a fraction of a second and drops it. -/
def readFraction (cs : List Char) : Except Fault (List Char) :=
  match cs with
  | '.' :: cs => Prod.snd <$> readDigits none cs
  | cs => .ok cs

/-- The point in time of a text. -/
def ofText (text : String) : Except Fault Timestamp := do
  let (year, cs) ← readYear text.toList
  let cs ← readMark '-' cs
  let (month, cs) ← readField 1 12 cs
  let cs ← readMark '-' cs
  let (day, cs) ← readField 1 31 cs
  let cs ← match cs with
    | [] => throw .ended
    | c :: cs => if c = 'T' ∨ c = 't' ∨ c = ' ' then pure cs else throw .malformed
  let (hour, cs) ← readField 0 23 cs
  let cs ← readMark ':' cs
  let (minute, cs) ← readField 0 59 cs
  let cs ← readMark ':' cs
  let (second, cs) ← readField 0 60 cs
  let cs ← readFraction cs
  let (offset, cs) ← readZone (Text.dropBlank cs)
  if Text.dropBlank cs ≠ [] then throw .trailing
  if ¬ isKnownYear year ∨ monthLength year month < day then throw .outOfRange
  if offset ≤ -86400 ∨ 86400 ≤ offset then throw .outOfRange
  let clock : Int := hour * 3600 + minute * 60 + min second 59
  let time := clock - offset
  let n := dayOfDate year month day + Int.fdiv time 86400
  if ¬ isKnownYear (dateOfDay n).1 then throw .impossible
  return ⟨n, (Int.fmod time 86400).toNat, second == 60⟩

/-! ### Writing -/

/-- A number with at least so many digits. -/
def padded (width n : Nat) : String :=
  let digits := toString n
  "".pushn '0' (width - digits.length) ++ digits

/-- A year: four digits, and a sign in front where it is negative or has more. -/
def yearText (year : Int) : String :=
  if 0 ≤ year ∧ year ≤ 9999 then padded 4 year.toNat
  else (if year < 0 then "-" else "+") ++ padded 4 year.natAbs

/-- The text of a point in time. -/
def text (t : Timestamp) : String :=
  let (year, month, day) := dateOfDay t.day
  let second := t.second % 60 + (if t.leap then 1 else 0)
  yearText year ++ "-" ++ padded 2 month ++ "-" ++ padded 2 day ++ "T" ++
    padded 2 (t.second / 3600) ++ ":" ++ padded 2 (t.second / 60 % 60) ++ ":" ++
    padded 2 second ++ "Z"

end Timestamp

end BareMetal
