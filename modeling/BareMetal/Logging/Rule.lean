import BareMetal.Event
import BareMetal.Text.Blank
import BareMetal.Text.Pattern

/-!
Rules about which events are logged.

* `Threshold`: how important events must be;
* `LogRule`: a rule: which events it is about, and their threshold;
* `LogRule.read?`: the rule that a text stands for: a threshold; or the name of a part
  of the program, or an activity in brackets, or both, with a threshold behind an
  equals sign or without one;
* `LogRule.isAbout`, `LogRule.precedes`: whether a rule is about an event, and which of
  two rules is the more specific one.
-/

namespace BareMetal

/-! ### Thresholds -/

/-- How important events must be to be logged. -/
inductive Threshold where
  /-- No event is logged. -/
  | off
  /-- Only events that nobody expects are logged. -/
  | error
  /-- Events of this level are logged, and those that are more important. -/
  | level (l : Level)
  deriving DecidableEq

/-- How detailed events of a level are. -/
def Level.detail : Level → Nat
  | .warn => 2
  | .info => 3
  | .debug => 4
  | .trace => 5

namespace Threshold

/-- How detailed events can be and still be logged. -/
def detail : Threshold → Nat
  | .off => 0
  | .error => 1
  | .level l => l.detail

/-- Whether events of a level are logged. -/
def admits (t : Threshold) (l : Level) : Bool :=
  l.detail ≤ t.detail

/-- All thresholds, from the one that admits least. -/
def all : List Threshold :=
  [.off, .error, .level .warn, .level .info, .level .debug, .level .trace]

/-- The word for a threshold, in small letters. -/
def word : Threshold → String
  | .off => "off"
  | .error => "error"
  | .level .warn => "warn"
  | .level .info => "info"
  | .level .debug => "debug"
  | .level .trace => "trace"

/-- The number that digits stand for; a plus may stand in front. -/
def number? (cs : List Char) : Option Nat :=
  let digits := if cs.head? = some '+' then cs.tail else cs
  if digits ≠ [] ∧ digits.all Char.isDigit then
    some (digits.foldl (fun n c => 10 * n + (c.toNat - 48)) 0)
  else none

/-- The threshold that a word, in small or capital letters, or a number stands for. -/
def read? (s : List Char) : Option Threshold :=
  let small := String.ofList (s.map Char.toLower)
  all.find? (fun t => t.word = small || number? s == some t.detail)

end Threshold

/-! ### Rules -/

/-- A rule of a filter. -/
structure LogRule where
  /-- How the names of the parts of the program start that the rule is about. -/
  part : Option String := none
  /-- The name of a value that events must come with. -/
  field : Option String := none
  /-- Whether the rule is only about what happens within certain activities. No activity is marked
  at the start. -/
  withinActivity : Bool := false
  /-- How important events must be. -/
  threshold : Threshold := .level .trace

namespace LogRule

/-- Whether a rule can start with a character. -/
def isFirstChar (c : Char) : Bool :=
  c = '_' || c = ':' || c = '-' || Text.isAlphanumeric c

/-- Whether a text is a number with a plus in front, which only a number may have. -/
def isPlusNumber (cs : List Char) : Bool :=
  match cs with
  | '+' :: cs =>
    let isDigits (ds : List Char) := ds.all Char.isDigit && !ds.isEmpty
    let (mantissa, exponent) := cs.span (fun c => c != 'e' && c != 'E')
    let exponent := exponent.tail
    let unsigned := if exponent.head? = some '+' ∨ exponent.head? = some '-' then exponent.tail
      else exponent
    ["inf", "infinity", "nan"].contains (String.ofList (cs.map Char.toLower)) ||
      (isDigits ((mantissa.takeWhile (fun c => c != '.')) ++
          (mantissa.dropWhile (fun c => c != '.')).tail) &&
        (mantissa.length = cs.length || isDigits unsigned))
  | _ => false

/-- The rule with a value that events must come with. What the value has to be is a pattern behind an
equals sign, up to the next one; only within activities are values looked at. -/
def withField? (r : LogRule) (text : List Char) : Option LogRule :=
  let (name, value) := text.span (fun c => c != '=')
  match text, value with
  | [], _ => none
  | _, [] => some { r with field := some (String.ofList name) }
  | _, _ :: value =>
    let pattern := value.takeWhile (fun c => c != '=')
    if isPlusNumber pattern || Text.Pattern.isWellFormed pattern then
      some { r with withinActivity := true }
    else none

/-- The rule with a threshold. Where there is no text for it, everything is logged. -/
def withThreshold? (r : LogRule) : List Char → Option LogRule
  | [] => some r
  | cs => (Threshold.read? cs).map (fun t => { r with threshold := t })

/-- The rule of a single word: a threshold for everything, or else everything about a part. -/
def ofWord (word : List Char) : LogRule :=
  match Threshold.read? word with
  | some t => { threshold := t }
  | none => { part := some (String.ofList word) }

/-! ### Reading -/

/-- What is being read of a rule, with the place where it starts. -/
inductive Reading where
  /-- Nothing yet. -/
  | nothing
  /-- A word, which may become the name of a part. -/
  | word (start : Nat)
  /-- The name of an activity, in brackets. -/
  | activity (start : Nat)
  /-- A value, in braces. -/
  | field (start : Nat)
  /-- What follows the braces. -/
  | fieldEnd
  /-- What follows the brackets. -/
  | activityEnd
  /-- A threshold, behind an equals sign. -/
  | threshold (start : Nat)

/-- The characters of a text from one byte up to another. -/
def slice (start stop : Nat) : (place : Nat) → List Char → List Char
  | _, [] => []
  | place, c :: cs =>
    let rest := slice start stop (place + c.utf8Size) cs
    if start ≤ place ∧ place < stop then c :: rest else rest

/-- One character at a place of the text, of which `piece` gives the part between two places. -/
def step (piece : Nat → Nat → List Char) (r : LogRule) (state : Reading) (place : Nat) (c : Char) :
    Option (LogRule × Reading) :=
  match state with
  | .nothing =>
    if c = '[' then some (r, .activity (place + 1))
    else if isFirstChar c then some (r, .word place)
    else none
  | .word start =>
    if c = '=' ∨ c = '[' then
      some ({ r with part := some (String.ofList (piece start place)) },
        if c = '=' then .threshold (place + 1) else .activity (place + 1))
    else some (r, .word start)
  | .activity start =>
    if c = ']' then some ({ r with withinActivity := true }, .activityEnd)
    else if c = '\x7b' then
      some ({ r with withinActivity := !(piece start place).isEmpty }, .field (place + 1))
    else some (r, .activity start)
  | .field start =>
    if c = '\x7d' then (r.withField? (piece start place)).map (fun r => (r, .fieldEnd))
    else some (r, .field start)
  | .fieldEnd => if c = ']' then some (r, .activityEnd) else none
  | .activityEnd => if c = '=' then some (r, .threshold (place + 1)) else none
  | .threshold start => some (r, .threshold start)

/-- The rule that has been read when the text ends. -/
def finish (piece : Nat → List Char) (r : LogRule) : Reading → Option LogRule
  | .word start => some (ofWord (piece start))
  | .activityEnd => some r
  | .threshold start => r.withThreshold? (piece start)
  | _ => none

/-- Reads characters from a place on. -/
def readFrom (text : List Char) : LogRule → Reading → (place : Nat) → List Char → Option LogRule
  | r, state, _, [] => finish (fun start => slice start (String.ofList text).utf8ByteSize 0 text) r state
  | r, state, place, c :: cs => do
    let (r, state) ← step (fun start stop => slice start stop 0 text) r state place c
    readFrom text r state (place + c.utf8Size) cs

/-- The text without the blanks at its ends. -/
def trim (cs : List Char) : List Char :=
  (Text.dropBlank (Text.dropBlank cs).reverse).reverse

/-- Reads a rule. The characters are read without the blanks at the ends of the text, but places are
those in the whole text, so that a text with blanks in front is hardly ever about anything. -/
def read? (text : List Char) : Option LogRule :=
  readFrom text {} .nothing 0 (trim text)

/-! ### Meaning -/

/-- Whether a rule is about the events of a part of the program that come with these values. -/
def isAbout (r : LogRule) (target : String) (fields : List String) : Bool :=
  !r.withinActivity && r.part.all (fun p => p.toList.isPrefixOf target.toList) &&
    r.field.all fields.contains

/-- How specific a rule is: the length of the name of a part that it asks for, and then the name of a
value. -/
def rank (r : LogRule) : Nat × String :=
  ((r.part.map (fun p => p.length + 1)).getD 0, r.field.getD "")

/-- Whether a rule is at most as specific as another one. -/
def precedes (r s : LogRule) : Bool :=
  r.rank.1 < s.rank.1 || (r.rank.1 == s.rank.1 && r.rank.2 ≤ s.rank.2)

end LogRule

end BareMetal
