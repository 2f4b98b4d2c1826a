/-!
Addresses that a server listens at: a host, by four numbers or by eight groups of
hexadecimal digits in brackets, and a port behind a colon.

* `SocketAddress`: a host and a port;
* `SocketAddress.read?`: the address a text stands for, if the whole text is one;
* `SocketAddress.text`: the text that an address is shown as;
* `SocketAddress.isListenable`: whether any machine can listen at an address.

A text is read by readers that take something off the front and give the rest.
-/

namespace BareMetal

/-- Where a server is. -/
inductive Host where
  /-- Four numbers. -/
  | four (a b c d : UInt8)
  /-- Eight groups, and the zone in which they mean something, or zero. -/
  | eight (groups : Vector UInt16 8) (zone : UInt32)

/-- A host and a port. -/
structure SocketAddress where
  /-- Where the server is. -/
  host : Host
  /-- The port it listens at. -/
  port : UInt16

namespace SocketAddress

/-! ### Reading -/

/-- The value of a digit in a base of at most sixteen. -/
def digitValue? (base : Nat) (c : Char) : Option Nat :=
  let value :=
    if c.isDigit then c.toNat - 48
    else if 'a' ≤ c ∧ c ≤ 'f' then c.toNat - 87
    else if 'A' ≤ c ∧ c ≤ 'F' then c.toNat - 55
    else 16
  if value < base then some value else none

/-- Takes digits off the front of a text. -/
def takeDigits (base : Nat) : List Char → List Nat × List Char
  | [] => ([], [])
  | c :: cs =>
    match digitValue? base c with
    | some d =>
      let (ds, rest) := takeDigits base cs
      (d :: ds, rest)
    | none => ([], c :: cs)

/-- Takes a number below a bound off the front of a text. All digits there belong to it. -/
def takeNumber (base bound : Nat) (cs : List Char) : Option (Nat × List Char) :=
  let (ds, rest) := takeDigits base cs
  let value := ds.foldl (fun v d => base * v + d) 0
  if ds ≠ [] ∧ value < bound then some (value, rest) else none

/-- Takes one given character off the front of a text. -/
def takeChar (c : Char) : List Char → Option (List Char)
  | d :: cs => if c = d then some cs else none
  | [] => none

/-- Takes one of the four numbers: at most three digits, and no zero in front of others. -/
def takeOctet (cs : List Char) : Option (UInt8 × List Char) :=
  let ds := (takeDigits 10 cs).1
  if 3 < ds.length ∨ (1 < ds.length ∧ ds.head? = some 0) then none
  else (takeNumber 10 256 cs).map (fun x => (x.1.toUInt8, x.2))

/-- Takes four numbers with points between them. -/
def takeFour (cs : List Char) : Option ((UInt8 × UInt8 × UInt8 × UInt8) × List Char) := do
  let (a, cs) ← takeOctet cs
  let (b, cs) ← takeOctet (← takeChar '.' cs)
  let (c, cs) ← takeOctet (← takeChar '.' cs)
  let (d, cs) ← takeOctet (← takeChar '.' cs)
  return ((a, b, c, d), cs)

/-- Takes a group of at most four hexadecimal digits. -/
def takeGroup (cs : List Char) : Option (UInt16 × List Char) :=
  if 4 < (takeDigits 16 cs).1.length then none
  else (takeNumber 16 (Nat.pow 2 16) cs).map (fun x => (x.1.toUInt16, x.2))

/-- Two numbers as one group. -/
def groupOf (a b : UInt8) : UInt16 :=
  a.toUInt16 * 256 + b.toUInt16

/-- Takes the colon in front of every group but the first. -/
def takeColon (first : Bool) (cs : List Char) : Option (List Char) :=
  if first then some cs else takeChar ':' cs

/-- Takes groups with colons between them, at most so many. The last two may be written as four
numbers, which is told. -/
def takeGroups : Nat → Bool → List Char → List UInt16 × Bool × List Char
  | 0, _, cs => ([], false, cs)
  | room + 1, first, cs =>
    match if room = 0 then none else (takeColon first cs).bind takeFour with
    | some ((a, b, c, d), rest) => ([groupOf a b, groupOf c d], true, rest)
    | none =>
      match (takeColon first cs).bind takeGroup with
      | some (g, rest) =>
        let (gs, numbers, rest) := takeGroups room false rest
        (g :: gs, numbers, rest)
      | none => ([], false, cs)

/-- Eight groups, zero between the first and the last ones. -/
def spread (front back : List UInt16) : Vector UInt16 8 :=
  let groups := front ++ List.replicate (8 - front.length - back.length) 0 ++ back
  .ofFn (fun i => groups.getD i 0)

/-- Takes eight groups. Two colons stand for one or more groups that are zero; four numbers cannot
stand in front of them. -/
def takeEight (cs : List Char) : Option (Vector UInt16 8 × List Char) := do
  let (front, numbers, cs) := takeGroups 8 true cs
  if front.length = 8 then return (spread front [], cs)
  else if numbers then none
  else
    let cs ← takeChar ':' (← takeChar ':' cs)
    let (back, _, cs) := takeGroups (7 - front.length) true cs
    return (spread front back, cs)

/-- Takes the number of a zone, if there is one. -/
def takeZone (cs : List Char) : UInt32 × List Char :=
  match (takeChar '%' cs).bind (takeNumber 10 (Nat.pow 2 32)) with
  | some (zone, rest) => (zone.toUInt32, rest)
  | none => (0, cs)

/-- Takes the port behind a host. -/
def takePort (cs : List Char) : Option (UInt16 × List Char) := do
  let (port, cs) ← takeNumber 10 (Nat.pow 2 16) (← takeChar ':' cs)
  return (port.toUInt16, cs)

/-- Takes a host of four numbers and a port. -/
def takeWithFour (cs : List Char) : Option (SocketAddress × List Char) := do
  let ((a, b, c, d), cs) ← takeFour cs
  let (port, cs) ← takePort cs
  return (⟨.four a b c d, port⟩, cs)

/-- Takes a host of eight groups in brackets and a port. -/
def takeWithEight (cs : List Char) : Option (SocketAddress × List Char) := do
  let (groups, cs) ← takeEight (← takeChar '[' cs)
  let (zone, cs) := takeZone cs
  let (port, cs) ← takePort (← takeChar ']' cs)
  return (⟨.eight groups zone, port⟩, cs)

/-- The address that a text stands for. -/
def read? (s : String) : Option SocketAddress :=
  match takeWithFour s.toList <|> takeWithEight s.toList with
  | some (a, []) => some a
  | _ => none

/-! ### Showing -/

/-- A group in hexadecimal digits. -/
def groupText (g : UInt16) : String :=
  String.ofList (Nat.toDigits 16 g.toNat)

/-- Four numbers with points between them. -/
def fourText (a b c d : UInt8) : String :=
  ".".intercalate ([a, b, c, d].map (fun x => toString x.toNat))

/-- How many zeros are at the front. -/
def zerosAhead : List UInt16 → Nat
  | [] => 0
  | g :: gs => if g = 0 then zerosAhead gs + 1 else 0

/-- Where the first of the longest runs of zeros starts, and how long it is. -/
def longestZeros : List UInt16 → Nat × Nat
  | [] => (0, 0)
  | g :: gs =>
    let (start, length) := longestZeros gs
    let here := zerosAhead (g :: gs)
    if length ≤ here then (0, here) else (start + 1, length)

/-- Groups with colons between them. -/
def groupsText (gs : List UInt16) : String :=
  ":".intercalate (gs.map groupText)

/-- Eight groups. The longest run of two or more zeros is left out; four numbers that were put into
groups are shown as such. -/
def eightText (groups : Vector UInt16 8) : String :=
  match groups.toList with
  | [0, 0, 0, 0, 0, 0xffff, g, h] =>
    "::ffff:" ++ fourText (g >>> 8).toUInt8 g.toUInt8 (h >>> 8).toUInt8 h.toUInt8
  | gs =>
    let (start, length) := longestZeros gs
    if 1 < length then
      groupsText (gs.take start) ++ "::" ++ groupsText (gs.drop (start + length))
    else groupsText gs

/-- A host, in brackets if it has colons. -/
def hostText : Host → String
  | .four a b c d => fourText a b c d
  | .eight groups zone =>
    "[" ++ eightText groups ++ (if zone = 0 then "" else "%" ++ toString zone.toNat) ++ "]"

/-- The text that an address is shown as. -/
def text (a : SocketAddress) : String :=
  hostText a.host ++ ":" ++ toString a.port.toNat

/-! ### Listening -/

/-- Whether a machine without addresses of its own can listen at four numbers: they stand for all of
its addresses, for the machine itself, for a group of machines or for all of them. -/
def isAnywhere (a b c d : UInt8) : Bool :=
  a == 0 || a == 127 || (224 ≤ a && a < 240) || (a == 255 && b == 255 && c == 255 && d == 255)

/-- Whether a machine without addresses of its own can listen at an address. Eight groups may hold
four numbers. -/
def isListenable (x : SocketAddress) : Bool :=
  match x.host with
  | .four a b c d => isAnywhere a b c d
  | .eight groups _ =>
    match groups.toList with
    | [0, 0, 0, 0, 0, 0xFFFF, g, h] =>
      isAnywhere (g >>> 8).toUInt8 g.toUInt8 (h >>> 8).toUInt8 h.toUInt8
    | [0, 0, 0, 0, 0, 0, 0, h] => h == 0 || h == 1
    | _ => false

end SocketAddress

end BareMetal
