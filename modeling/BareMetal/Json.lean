import BareMetal.SortedMap
import BareMetal.Binary64.Shortest

/-!
JSON values and their compact text.

* `Json.Number`: an integer of at most 64 bits, or a binary64 number;
* `Json`: the values; an object keeps its members in the order given;
* `Json.write` and `Json.text`: the compact text, which has no blanks and escapes
  a character only where it has to;
* `Json.sorted`: the value with the members of every object in order of their
  names, the last one of a name counting;
* `Json.member?` and the functions beside it: reading single members.
-/

namespace BareMetal

/-- A number: an integer from `-2 ^ 63` to `2 ^ 64 - 1`, or a binary64 number. -/
inductive Json.Number where
  /-- An integer. -/
  | int (n : Int)
  /-- A number written with a fraction or an exponent, or too large for an integer. -/
  | real (x : Binary64)
  deriving DecidableEq

/-- A JSON value. -/
inductive Json where
  /-- The absent value. -/
  | null
  /-- A truth value. -/
  | bool (b : Bool)
  /-- A number. -/
  | num (n : Json.Number)
  /-- A string. -/
  | str (s : String)
  /-- An array. -/
  | arr (items : List Json)
  /-- An object, its members in order. -/
  | obj (members : List (String × Json))
  deriving Inhabited

namespace Json

/-! ### Text -/

/-- Numbers are written positionally from `0.00001` up to sixteen digits before the point. -/
def decimals : DecimalLayout := ⟨-5, 15⟩

/-- The text of a number. -/
def Number.text : Number → String
  | .int n => toString n
  | .real x => decimals.render x

/-- A hexadecimal digit, in lower case. -/
def hexDigit (n : Nat) : Char :=
  if n < 10 then Char.ofNat (48 + n) else Char.ofNat (87 + n)

/-- A character inside a string. -/
def escape (c : Char) : List Char :=
  if c = '"' then ['\\', '"']
  else if c = '\\' then ['\\', '\\']
  else if c.toNat = 8 then ['\\', 'b']
  else if c.toNat = 9 then ['\\', 't']
  else if c.toNat = 10 then ['\\', 'n']
  else if c.toNat = 12 then ['\\', 'f']
  else if c.toNat = 13 then ['\\', 'r']
  else if c.toNat < 32 then
    ['\\', 'u', '0', '0', hexDigit (c.toNat / 16), hexDigit (c.toNat % 16)]
  else [c]

/-- A string in quotes, in front of `rest`. -/
def writeString (s : String) (rest : List Char) : List Char :=
  '"' :: s.toList.flatMap escape ++ '"' :: rest

mutual

/-- The compact text of a value, in front of `rest`. -/
def write : Json → List Char → List Char
  | .null, rest => "null".toList ++ rest
  | .bool b, rest => (if b then "true" else "false").toList ++ rest
  | .num n, rest => n.text.toList ++ rest
  | .str s, rest => writeString s rest
  | .arr items, rest => '[' :: writeItems items (']' :: rest)
  | .obj members, rest => '{' :: writeMembers members ('}' :: rest)

/-- The items of an array with commas between them. -/
def writeItems : List Json → List Char → List Char
  | [], rest => rest
  | [v], rest => write v rest
  | v :: w :: vs, rest => write v (',' :: writeItems (w :: vs) rest)

/-- The members of an object with commas between them. -/
def writeMembers : List (String × Json) → List Char → List Char
  | [], rest => rest
  | [(k, v)], rest => writeString k (':' :: write v rest)
  | (k, v) :: w :: vs, rest => writeString k (':' :: write v (',' :: writeMembers (w :: vs) rest))

end

/-- The compact text of a value. -/
def text (v : Json) : String :=
  String.ofList (v.write [])

/-! ### Members in order of their names -/

mutual

/-- The value with the members of every object in order of their names; of several members with
one name the last counts. -/
def sorted : Json → Json
  | .arr items => .arr (sortedItems items)
  | .obj members => .obj (SortedMap.ofList (sortedMembers members)).entries
  | v => v

/-- Every item sorted. -/
def sortedItems : List Json → List Json
  | [] => []
  | v :: vs => v.sorted :: sortedItems vs

/-- Every member's value sorted. -/
def sortedMembers : List (String × Json) → List (String × Json)
  | [] => []
  | (k, v) :: rest => (k, v.sorted) :: sortedMembers rest

end

/-! ### Making values -/

/-- An integer value. -/
def ofInt (n : Int) : Json := .num (.int n)

/-- An integer value. -/
def ofNat (n : Nat) : Json := ofInt n

/-- An object without the members that are absent. -/
def ofFields (fields : List (String × Option Json)) : Json :=
  .obj (fields.filterMap (fun f => f.2.map (fun v => (f.1, v))))

/-- An array of strings. -/
def ofStrings (ss : List String) : Json :=
  .arr (ss.map .str)

/-- An object with string values. -/
def ofStringMap (m : SortedMap String String) : Json :=
  .obj (m.entries.map (fun e => (e.1, .str e.2)))

/-! ### Reading single members -/

/-- The member of an object with this name; of several the last. -/
def member? (v : Json) (name : String) : Option Json :=
  match v with
  | .obj members => (members.reverse.find? (fun m => m.1 == name)).map Prod.snd
  | _ => none

/-- The text of a string value. -/
def string? : Json → Option String
  | .str s => some s
  | _ => none

/-- The value of a number without sign or fraction. -/
def nat? : Json → Option Nat
  | .num (.int n) => n.toNat?
  | _ => none

/-- The items of an array; nothing else has any. -/
def items : Json → List Json
  | .arr items => items
  | _ => []

end Json

end BareMetal
