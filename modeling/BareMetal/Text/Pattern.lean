import BareMetal.Text.Alphanumeric

/-!
Which texts are patterns, that is, regular expressions that a machine without memory can
match. Nothing is matched here.

* `Pattern.escape?`: what stands behind a backslash;
* `Pattern.dropClass`: a set of characters in brackets;
* `Pattern.dropGroupHead`: what a group begins with;
* `Pattern.isWellFormed`: whether a text is a pattern.

A repetition with numbers in braces counts as ill formed: the patterns that are looked at
here never hold a closing brace.
-/

namespace BareMetal.Text.Pattern

/-! ### Escapes -/

/-- What an escape stands for. -/
inductive Escape where
  /-- A character. -/
  | character (c : Char)
  /-- A set of characters. -/
  | set
  /-- A place in the text. -/
  | place

/-- The value of a hexadecimal digit. -/
def hexDigit? (c : Char) : Option Nat :=
  if c.isDigit then some (c.toNat - 48)
  else if 'a' ≤ c ∧ c ≤ 'f' then some (c.toNat - 87)
  else if 'A' ≤ c ∧ c ≤ 'F' then some (c.toNat - 55)
  else none

/-- A character by the digits of its number, of which there have to be so many. -/
def hexEscape? (digits : Nat) (cs : List Char) : Option (Escape × List Char) := do
  let word := cs.take digits
  let values ← word.mapM hexDigit?
  let n := values.foldl (fun n d => 16 * n + d) 0
  if word.length = digits ∧ n.isValidChar then
    some (.character (Char.ofNat n), cs.drop digits)
  else none

/-- A set of characters by the first letter of its name. -/
def categoryEscape? : List Char → Option (Escape × List Char)
  | c :: cs => if "clmnpsz".contains c.toLower then some (.set, cs) else none
  | [] => none

/-- What stands behind a backslash, and what follows it. The edges of words are places that cannot
be told apart without memory. -/
def escape? : List Char → Option (Escape × List Char)
  | [] => none
  | c :: cs =>
    if c = 'x' then hexEscape? 2 cs
    else if c = 'u' then hexEscape? 4 cs
    else if c = 'U' then hexEscape? 8 cs
    else if c.toLower = 'p' then categoryEscape? cs
    else if "dswDSW".contains c then some (.set, cs)
    else if c = 'A' ∨ c = 'z' then some (.place, cs)
    else if c = 'a' then some (.character (Char.ofNat 7), cs)
    else if c = 'f' then some (.character (Char.ofNat 12), cs)
    else if c = 't' then some (.character '\t', cs)
    else if c = 'n' then some (.character '\n', cs)
    else if c = 'r' then some (.character '\r', cs)
    else if c = 'v' then some (.character (Char.ofNat 11), cs)
    else if c.isAlphanum ∨ 128 ≤ c.toNat ∨ c = '<' ∨ c = '>' then none
    else some (.character c, cs)

/-! ### Sets of characters -/

/-- A character or a smaller set inside a set: the character, if it is one, and what follows. -/
def setItem? : List Char → Option (Option Char × List Char)
  | [] => none
  | '\\' :: cs =>
    match escape? cs with
    | some (.character c, rest) => some (some c, rest)
    | some (.set, rest) => some (none, rest)
    | _ => none
  | c :: cs => some (some c, cs)

/-- A range inside a set, or a single item of it, and what follows. -/
def setRange? (cs : List Char) : Option (List Char) := do
  let (first, rest) ← setItem? cs
  match rest with
  | [] => none
  | '-' :: ']' :: _ => some rest
  | '-' :: '-' :: _ => some rest
  | '-' :: more => do
    let (last, rest) ← setItem? more
    match first, last with
    | some a, some b => if a ≤ b then some rest else none
    | _, _ => none
  | rest => some rest

/-- The names of sets that are written between colons. -/
def setNames : List String :=
  ["alnum", "alpha", "ascii", "blank", "cntrl", "digit", "graph", "lower", "print", "punct",
    "space", "upper", "word", "xdigit"]

/-- A set by its name between colons, and what follows its bracket. -/
def dropNamedSet? : List Char → Option (List Char)
  | ':' :: cs =>
    let cs := if cs.head? = some '^' then cs.tail else cs
    let name := String.ofList (cs.takeWhile (fun c => c != ':'))
    match cs.dropWhile (fun c => c != ':') with
    | ':' :: ']' :: rest => if setNames.contains name then some rest else none
    | _ => none
  | _ => none

/-- What a set begins with behind its bracket: dashes and a closing bracket stand for themselves
there. -/
def dropSetHead (cs : List Char) : List Char :=
  let cs := if cs.head? = some '^' then cs.tail else cs
  let rest := cs.dropWhile (fun c => c = '-')
  if rest.length = cs.length ∧ rest.head? = some ']' then rest.tail else rest

/-- What follows the set of characters that ends so many sets further out. -/
def dropSets : Nat → Nat → List Char → Option (List Char)
  | 0, _, _ => none
  | fuel + 1, depth, cs =>
    match cs with
    | [] => none
    | '[' :: rest =>
      match dropNamedSet? rest with
      | some rest => dropSets fuel depth rest
      | none => dropSets fuel (depth + 1) (dropSetHead rest)
    | ']' :: rest => if depth = 0 then some rest else dropSets fuel (depth - 1) rest
    | '&' :: '&' :: rest => dropSets fuel depth rest
    | '-' :: '-' :: rest => dropSets fuel depth rest
    | '~' :: '~' :: rest => dropSets fuel depth rest
    | cs => (setRange? cs).bind (dropSets fuel depth)

/-- What follows a set of characters, from behind its bracket. -/
def dropSet (cs : List Char) : Option (List Char) :=
  dropSets (cs.length + 1) 0 (dropSetHead cs)

/-! ### Groups -/

/-- What a group begins with. -/
inductive GroupHead where
  /-- A group, perhaps with a name. -/
  | group (name : Option String)
  /-- Switches for what follows, which are no group. -/
  | switches

/-- Whether a text is a name: it starts with a letter or an underscore. -/
def isName : List Char → Bool
  | [] => false
  | c :: cs =>
    (c == '_' || (isAlphanumeric c && !c.isDigit)) &&
      cs.all (fun c => "_.[]".contains c || isAlphanumeric c)

/-- A group with a name, from behind the angle bracket. -/
def dropName? (cs : List Char) : Option (GroupHead × List Char) :=
  let name := cs.takeWhile (fun c => c != '>')
  match cs.drop name.length with
  | _ :: rest => if isName name then some (.group (some (String.ofList name)), rest) else none
  | [] => none

/-- Whether a text switches something on or, behind a dash, off, and nothing twice. -/
def areSwitches (cs : List Char) : Bool :=
  cs.all (fun c => "imsUuRx-".contains c && cs.count c == 1) && cs.getLast? != some '-'

/-- What a group begins with behind its parenthesis, and what follows. Looking ahead or behind takes
memory. -/
def dropGroupHead : List Char → Option (GroupHead × List Char)
  | '?' :: 'P' :: '<' :: cs => dropName? cs
  | '?' :: '<' :: cs =>
    if cs.head? = some '=' ∨ cs.head? = some '!' then none else dropName? cs
  | '?' :: cs =>
    let switches := cs.takeWhile (fun c => c != ':' && c != ')')
    match cs.drop switches.length with
    | ':' :: rest => if areSwitches switches then some (.group none, rest) else none
    | _ :: rest =>
      if areSwitches switches ∧ switches ≠ [] then some (.switches, rest) else none
    | [] => none
  | cs => some (.group none, cs)

/-! ### Patterns -/

/-- Whether the rest of a pattern is well formed, inside so many groups and behind something that
can be repeated or not. No two groups have the same name. -/
def scan : Nat → (depth : Nat) → (repeatable : Bool) → (names : List String) → List Char → Bool
  | _, depth, _, _, [] => depth == 0
  | 0, _, _, _, _ :: _ => false
  | fuel + 1, depth, repeatable, names, c :: cs =>
    if c = '(' then
      match dropGroupHead cs with
      | some (.group none, rest) => scan fuel (depth + 1) false names rest
      | some (.group (some name), rest) =>
        !names.contains name && scan fuel (depth + 1) false (name :: names) rest
      | some (.switches, rest) => scan fuel depth false names rest
      | none => false
    else if c = ')' then 0 < depth && scan fuel (depth - 1) true names cs
    else if c = '|' then scan fuel depth false names cs
    else if c = '*' ∨ c = '+' ∨ c = '?' then
      repeatable && scan fuel depth true names (if cs.head? = some '?' then cs.tail else cs)
    else if c = '\x7b' then false
    else if c = '[' then (dropSet cs).any (scan fuel depth true names)
    else if c = '\\' then (escape? cs).any (fun e => scan fuel depth true names e.2)
    else scan fuel depth true names cs

/-- Whether a text is a pattern. -/
def isWellFormed (cs : List Char) : Bool :=
  scan cs.length 0 false [] cs

end BareMetal.Text.Pattern
