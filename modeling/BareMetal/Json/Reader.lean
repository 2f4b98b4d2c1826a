import BareMetal.Json.Document

/-!
Reading JSON text.

* `Scan`: what reading a string or a number comes to;
* `scanString`: a string from behind its opening quote, one character at a time;
* `readNumber`, `scanNumber`: a number, an integer where it is written as one and fits
  64 bits;
* `readValue`, `readItems`, `readMembers`: a value, the rest of an array and the
  rest of an object;
* `Document.read`: a whole text.

The readers of values are given more fuel than a text can use up: every second
call takes a character.
-/

namespace BareMetal.Json

/-- Drops the blanks that may stand between the parts of a text. -/
def skipBlank : List Char → List Char
  | [] => []
  | c :: cs =>
    if c = ' ' ∨ c = '\n' ∨ c = '\t' ∨ c = '\r' then skipBlank cs else c :: cs

/-- What reading a string or a number comes to. -/
inductive Scan (α : Type) where
  /-- A value, and what follows it. -/
  | value (x : α) (rest : List Char)
  /-- The right form, but it stands for no value; and what follows it. -/
  | valueless (rest : List Char)
  /-- The text goes wrong: what one meets who reads, and what one meets who passes over. -/
  | broken (read passed : Fault)

/-! ### Strings -/

/-- Where a reader stands inside a string. -/
inductive StringState where
  /-- Between characters. -/
  | plain
  /-- Behind a backslash. -/
  | escaped
  /-- Inside a hexadecimal escape, with the digits read so far and their value. A leading surrogate
  in front of it waits for its partner. -/
  | hex (lead : Option Nat) (count : Nat) (value : Nat)
  /-- Behind a leading surrogate. -/
  | lead (value : Nat)
  /-- Behind a leading surrogate and a backslash. -/
  | leadEscaped (value : Nat)

/-- The value of a hexadecimal digit. -/
def hexValue? (c : Char) : Option Nat :=
  if '0' ≤ c ∧ c ≤ '9' then some (c.toNat - 48)
  else if 'a' ≤ c ∧ c ≤ 'f' then some (c.toNat - 87)
  else if 'A' ≤ c ∧ c ≤ 'F' then some (c.toNat - 55)
  else none

/-- The character of a short escape. -/
def unescape? (c : Char) : Option Char :=
  if c = '"' ∨ c = '\\' ∨ c = '/' then some c
  else if c = 'b' then some (Char.ofNat 8)
  else if c = 'f' then some (Char.ofNat 12)
  else if c = 'n' then some '\n'
  else if c = 'r' then some '\r'
  else if c = 't' then some '\t'
  else none

/-- The state behind four hexadecimal digits, and the character they complete: none for a leading
surrogate, which waits, and none with `false` where a surrogate has no partner. -/
def completeHex (lead : Option Nat) (value : Nat) : StringState × Bool × List Char :=
  let trailing := 0xDC00 ≤ value ∧ value ≤ 0xDFFF
  match lead with
  | some high =>
    if trailing then
      (.plain, true, [Char.ofNat ((high - 0xD800) * 0x400 + (value - 0xDC00) + 0x10000)])
    else (.plain, false, [])
  | none =>
    if trailing then (.plain, false, [])
    else if 0xD800 ≤ value ∧ value ≤ 0xDBFF then (.lead value, true, [])
    else (.plain, true, [Char.ofNat value])

/-- Reads a string from behind its opening quote. `read` holds the characters so far, last first, and
`sound` whether all escapes were characters: an escape that is none is what a reader meets first,
and nothing to one who passes over. An escape cut short by the end of the text counts as an early
end even if what is there is no digit. -/
def scanString : StringState → (sound : Bool) → (read : List Char) → List Char → Scan String
  | _, sound, _, [] => .broken (if sound then .ended else .malformed) .ended
  | state, sound, read, c :: cs =>
    let plain (sound : Bool) : Scan String :=
      if c = '"' then
        if sound then .value (String.ofList read.reverse) cs else .valueless cs
      else if c = '\\' then scanString .escaped sound read cs
      else if c.toNat < 32 then .broken .malformed .malformed
      else scanString .plain sound (c :: read) cs
    let escaped (sound : Bool) (lead : Option Nat) : Scan String :=
      if c = 'u' then scanString (.hex lead 0 0) sound read cs
      else match unescape? c with
        | some c => scanString .plain (sound && lead.isNone) (c :: read) cs
        | none => .broken .malformed .malformed
    match state with
    | .plain => plain sound
    | .escaped => escaped sound none
    | .lead high => if c = '\\' then scanString (.leadEscaped high) sound read cs else plain false
    | .leadEscaped high => escaped sound (some high)
    | .hex lead count value =>
      match hexValue? c with
      | none =>
        let left := ((c :: cs).take 4).foldl (fun n c => n + c.utf8Size) count
        if left < 4 then .broken (if sound then .ended else .malformed) .ended
        else .broken .malformed .malformed
      | some digit =>
        let value := value * 16 + digit
        if count < 3 then scanString (.hex lead (count + 1) value) sound read cs
        else
          let (state, ok, cs') := completeHex lead value
          scanString state (sound && ok) (cs' ++ read) cs

/-! ### Numbers -/

/-- Splits the decimal digits off the front. -/
def spanDigits (cs : List Char) : List Nat × List Char :=
  ((cs.takeWhile Char.isDigit).map (fun c => c.toNat - 48), cs.dropWhile Char.isDigit)

/-- Appends digits to a significand while it fits 64 bits; the digits left over. -/
def absorb : Nat → List Nat → Nat × List Nat
  | s, [] => (s, [])
  | s, d :: ds => if s * 10 + d < Nat.pow 2 64 then absorb (s * 10 + d) ds else (s, d :: ds)

/-- The value of digits. -/
def digitsValue (ds : List Nat) : Nat :=
  ds.foldl (fun n d => n * 10 + d) 0

/-- An integer as it is written; zero with a sign, and what does not fit 64 bits, is no integer. -/
def integer? (negative : Bool) (s : Nat) : Option Number :=
  if negative then
    if 0 < s ∧ s ≤ Nat.pow 2 63 then some (.int (-(s : Int)))
    else (Binary64.ofDecimal true s 0).map .real
  else some (.int s)

/-- A number that is not written as an integer. Digits of the integer part that do not fit the
significand count as zeros, those of the fraction not at all. -/
def real? (negative : Bool) (whole fraction : List Nat) (exponent : Int) : Option Number :=
  let (s, left) := absorb 0 whole
  let (s, unused) := absorb s fraction
  let power : Int := left.length - (fraction.length - unused.length : Nat)
  (Binary64.ofDecimal negative s (power + exponent)).map .real

/-- The digits behind a point or an exponent mark: there has to be one. -/
def someDigits (cs : List Char) : Except Fault (List Nat × List Char) :=
  match spanDigits cs with
  | ([], []) => .error .ended
  | ([], _) => .error .malformed
  | (ds, cs) => .ok (ds, cs)

/-- Reads a number: its value, none if it is too large, and what follows it. -/
def readNumber (cs : List Char) : Except Fault (Option Number × List Char) := do
  let (negative, cs) := match cs with
    | '-' :: cs => (true, cs)
    | cs => (false, cs)
  let (whole, cs) ← someDigits cs
  if whole.head? = some 0 ∧ 1 < whole.length then throw .malformed
  let (fraction, cs) ← match cs with
    | '.' :: cs => (fun p => (some p.1, p.2)) <$> someDigits cs
    | cs => pure (none, cs)
  let (exponent, cs) ← match cs with
    | c :: cs =>
      if c = 'e' ∨ c = 'E' then
        let (down, cs) := match cs with
          | '-' :: cs => (true, cs)
          | '+' :: cs => (false, cs)
          | cs => (false, cs)
        let (ds, cs) ← someDigits cs
        let e : Int := digitsValue ds
        pure (some (if down then -e else e), cs)
      else pure (none, c :: cs)
    | [] => pure (none, [])
  let value := match fraction, exponent, absorb 0 whole with
    | none, none, (s, []) => integer? negative s
    | _, _, _ => real? negative whole (fraction.getD []) (exponent.getD 0)
  return (value, cs)

/-- Reads a number. To one who passes over, a number that the end of the text cuts short is no better
than one that goes wrong. -/
def scanNumber (cs : List Char) : Scan Number :=
  match readNumber cs with
  | .ok (some n, cs) => .value n cs
  | .ok (none, cs) => .valueless cs
  | .error f => .broken f .malformed

/-! ### Values -/

/-- Reads one of the three words. -/
def scanWord (word : List Char) (value : Document) : List Char → Document × Option (List Char)
  | cs => match word, cs with
    | [], cs => (value, some cs)
    | _ :: _, [] => (.wrong .ended, none)
    | w :: ws, c :: cs => if w = c then scanWord ws value cs else (.wrong .malformed, none)

/-- A string or a number as a document, and what follows it. -/
def Scan.document {α : Type} (value : α → Document) : Scan α → Document × Option (List Char)
  | .value x cs => (value x, some cs)
  | .valueless cs => (.fault .malformed none, some cs)
  | .broken read passed => (.fault read (some passed), none)

mutual

/-- Reads a value, and what follows it unless reading stopped. -/
def readValue : Nat → List Char → Document × Option (List Char)
  | 0, _ => (.wrong .ended, none)
  | fuel + 1, cs =>
    match skipBlank cs with
    | [] => (.wrong .ended, none)
    | c :: cs =>
      if c = '"' then (scanString .plain true [] cs).document .str
      else if c = '[' then
        match skipBlank cs with
        | [] => (.arr [] (some .ended), none)
        | ']' :: cs => (.arr [] none, some cs)
        | cs =>
          let (items, stop, rest) := readItems fuel cs
          (.arr items stop, rest)
      else if c = '{' then
        match skipBlank cs with
        | [] => (.obj [] (some .ended), none)
        | '}' :: cs => (.obj [] none, some cs)
        | cs =>
          let (members, stop, rest) := readMembers fuel cs
          (.obj members stop, rest)
      else if c = 'n' then scanWord "ull".toList .null cs
      else if c = 't' then scanWord "rue".toList (.bool true) cs
      else if c = 'f' then scanWord "alse".toList (.bool false) cs
      else if c = '-' ∨ c.isDigit then (scanNumber (c :: cs)).document .num
      else (.wrong .malformed, none)

/-- Reads the items of an array from where one has to start. -/
def readItems : Nat → List Char → List Document × Option Fault × Option (List Char)
  | 0, _ => ([], some .ended, none)
  | fuel + 1, cs =>
    match readValue fuel cs with
    | (d, none) => ([d], none, none)
    | (d, some cs) =>
      match skipBlank cs with
      | [] => ([d], some .ended, none)
      | c :: cs =>
        if c = ']' then ([d], none, some cs)
        else if c = ',' then
          let (ds, stop, rest) := readItems fuel cs
          (d :: ds, stop, rest)
        else ([d], some .malformed, none)

/-- Reads the members of an object from where one has to start. -/
def readMembers : Nat → List Char →
    List (Option String × Document) × Option Fault × Option (List Char)
  | 0, _ => ([], some .ended, none)
  | fuel + 1, cs =>
    match skipBlank cs with
    | [] => ([], some .ended, none)
    | q :: cs =>
      if q ≠ '"' then ([], some .malformed, none)
      else match scanString .plain true [] cs with
        | .broken read passed =>
          if read = passed then ([], some read, none)
          else ([(none, .fault read (some passed))], none, none)
        | .value key cs => readMember fuel (some key) cs
        | .valueless cs => readMember fuel none cs

/-- Reads the members of an object from behind the first name. -/
def readMember : Nat → Option String → List Char →
    List (Option String × Document) × Option Fault × Option (List Char)
  | 0, _, _ => ([], some .ended, none)
  | fuel + 1, key, cs =>
    match skipBlank cs with
    | [] => ([(key, .wrong .ended)], none, none)
    | c :: cs =>
      if c ≠ ':' then ([(key, .wrong .malformed)], none, none)
      else match readValue fuel cs with
        | (d, none) => ([(key, d)], none, none)
        | (d, some cs) =>
          match skipBlank cs with
          | [] => ([(key, d)], some .ended, none)
          | c :: cs =>
            if c = '}' then ([(key, d)], none, some cs)
            else if c = ',' then
              let (ms, stop, rest) := readMembers fuel cs
              ((key, d) :: ms, stop, rest)
            else ([(key, d)], some .malformed, none)

end

/-- Reads a whole text: the document, and what is wrong with the text behind it. -/
def Document.read (text : String) : Document × Option Fault :=
  let cs := text.toList
  match readValue (2 * cs.length + 2) cs with
  | (d, none) => (d, none)
  | (d, some cs) => (d, if skipBlank cs = [] then none else some .malformed)

/-- The value of a whole text. -/
def read (text : String) : Except Fault Json := do
  let (d, behind) := Document.read text
  let v ← d.toJson
  match behind with
  | some f => .error f
  | none => .ok v

end BareMetal.Json
