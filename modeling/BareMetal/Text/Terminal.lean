/-!
Text without what a terminal takes for something else: control characters, and the
commands that begin with an escape character.

* `Text.TerminalState`: what a character belongs to;
* `Text.Terminal`: the state, and whether a command is broken off for now;
* `Text.Terminal.step`: what follows a character, and whether it shows;
* `Text.printable`: the characters of a text that show.

A blank breaks a command off, and what follows it shows. The command goes on at the next
character that does not show.
-/

namespace BareMetal.Text

/-- What a character belongs to. -/
inductive TerminalState where
  /-- Text. -/
  | text
  /-- The character behind an escape character. -/
  | escape
  /-- The rest of a short command, up to its last character. -/
  | command
  /-- A command with numbers, up to the letter that ends it. -/
  | sequence
  /-- A command with a text, which a bell ends. -/
  | title
  /-- The numbers in front of a string for the terminal. -/
  | header
  /-- A string for the terminal, up to a character with the byte that ends it. -/
  | string
  deriving DecidableEq

/-- How far a terminal has come in a text. -/
structure Terminal where
  /-- What the next character belongs to. -/
  state : TerminalState := .text
  /-- Whether characters show until one comes that does not. -/
  isPaused : Bool := false

/-- The blanks that show even where they stand in the way of a command. -/
def isShownBlank (n : Nat) : Bool :=
  n == 9 || n == 10 || n == 12 || n == 13

/-- What begins with the character behind an escape character. -/
def afterEscape (c : Char) : TerminalState :=
  let n := c.toNat
  if c = '[' then .sequence
  else if c = ']' then .title
  else if c = 'P' then .header
  else if c = 'X' ∨ c = '^' ∨ c = '_' then .string
  else if n < 0x30 then .command
  else if n < 0x7F then .text
  else .escape

/-- Whether a character has the byte that ends a string for the terminal. -/
def endsString (c : Char) : Bool :=
  c.toString.toUTF8.toList.contains 0x9C

namespace Terminal

/-- What follows a character inside a command, and whether it shows. -/
def advance (state : TerminalState) (c : Char) : Terminal × Bool :=
  let n := c.toNat
  match state with
  | .text => ({}, isShownBlank n || (0x20 ≤ n && n != 0x7F))
  | .title => (if n = 7 then {} else { state }, false)
  | .header => (if 0x40 ≤ n ∧ n < 0x7F then { state := .string } else { state }, false)
  | .string => (if endsString c then {} else { state }, false)
  | state =>
    if isShownBlank n then ({ state, isPaused := true }, true)
    else if n < 0x20 then ({ state }, false)
    else
      match state with
      | .command => (if 0x30 ≤ n ∧ n < 0x7F then {} else { state }, false)
      | .sequence => (if 0x40 ≤ n ∧ n < 0x7F then {} else { state }, false)
      | _ => ({ state := afterEscape c }, false)

/-- What follows a character, and whether it shows. A character above ASCII ends a command that is
broken off. -/
def step (t : Terminal) (c : Char) : Terminal × Bool :=
  let n := c.toNat
  if n = 0x1B then ({ state := .escape }, false)
  else if n = 0x18 ∨ n = 0x1A then ({}, false)
  else if t.isPaused && 0x80 ≤ n then ({}, true)
  else if t.isPaused && (isShownBlank n || (0x20 ≤ n && n != 0x7F)) then (t, true)
  else advance t.state c

/-- The characters that show, from a state on. -/
def printable : Terminal → List Char → List Char
  | _, [] => []
  | t, c :: cs =>
    let (next, shows) := t.step c
    if shows then c :: next.printable cs else next.printable cs

end Terminal

/-- The characters of a text that show. -/
def printable (s : String) : String :=
  String.ofList (Terminal.printable {} s.toList)

end BareMetal.Text
