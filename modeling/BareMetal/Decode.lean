import BareMetal.Json.Reader
import BareMetal.Text.Quoted

/-!
Decoding documents into values of other types.

A document is walked once, from front to back, and the first problem ends the
walk: a field of the wrong type is reported before anything that is wrong further
on, and a missing field only at the end of its object.

* `Problem` and `Problem.message`: what can be wrong with a document;
* `Origin`: where a document comes from: a text may only be so deep;
* `Decoder`: a reader of documents; `Decode.bool`, `string`, `int64`, `optional`,
  `list`, `stringMap` and `json` are the simple ones;
* `Slot` and `record`: an object with known fields, which may also be given as an
  array of them in order;
* `keyed` and `extensible`: an object with known fields and no array form; they differ
  in what is done with fields that are there twice, and with others.
-/

namespace BareMetal

/-! ### Problems -/

/-- Why a document does not stand for a value of the type that was asked for. -/
inductive Problem where
  /-- The text is not JSON. -/
  | text (fault : Json.Fault)
  /-- A value of another type. -/
  | wrongType (got want : String)
  /-- A value of the right type that is out of range. -/
  | wrongValue (got want : String)
  /-- An array with too few or too many items. -/
  | wrongLength (n : Nat) (want : String)
  /-- An object lacks a field. -/
  | missing (field : String)
  /-- An object has a field twice. -/
  | duplicate (field : String)
  /-- A text that is no point in time. -/
  | noTime (reason : String)
  deriving DecidableEq

/-- The problem in words; what is wrong with a text that is not JSON is left out. -/
def Problem.message : Problem → String
  | .text _ => ""
  | .wrongType got want => "invalid type: " ++ got ++ ", expected " ++ want
  | .wrongValue got want => "invalid value: " ++ got ++ ", expected " ++ want
  | .wrongLength n want => "invalid length " ++ toString n ++ ", expected " ++ want
  | .missing field => "missing field \x60" ++ field ++ "\x60"
  | .duplicate field => "duplicate field \x60" ++ field ++ "\x60"
  | .noTime reason => reason

/-! ### Decoders -/

/-- Where a document comes from. -/
inductive Origin where
  /-- A text, in which at most so many more arrays and objects may lie inside each other. -/
  | text (room : Nat)
  /-- A value. -/
  | value
  deriving DecidableEq

/-- The origin of what lies inside an array or an object. -/
def Origin.inner : Origin → Origin
  | .text room => .text (room - 1)
  | .value => .value

/-- A reader of documents. -/
abbrev Decoder (α : Type) := Origin → Json.Document → Except Problem α

namespace Decode

open Json (Document Fault)

/-- A fault of the text as a problem. -/
def liftFault {α : Type} : Except Fault α → Except Problem α
  | .ok x => .ok x
  | .error f => .error (.text f)

/-- Succeeds where the text goes on as it should. -/
def proceed : Option Fault → Except Problem Unit
  | some f => .error (.text f)
  | none => .ok ()

/-- What a problem calls a document: its type, and its value if that is simple. -/
def describe : Document → Except Problem String
  | .null => .ok "null"
  | .bool b => .ok ("boolean \x60" ++ (if b then "true" else "false") ++ "\x60")
  | .num (.int n) => .ok ("integer \x60" ++ toString n ++ "\x60")
  | .num (.real x) => .ok ("floating point \x60" ++ Json.decimals.render x ++ "\x60")
  | .str s => .ok ("string " ++ Text.quoted s)
  | .fault read _ => .error (.text read)
  | .arr _ _ => .ok "sequence"
  | .obj _ _ => .ok "map"

/-- Refuses a document of the wrong type. -/
def refuse {α : Type} (want : String) (d : Document) : Except Problem α := do
  let got ← describe d
  throw (.wrongType got want)

/-- A truth value. -/
def bool : Decoder Bool := fun _ d =>
  match d with
  | .bool b => .ok b
  | d => refuse "a boolean" d

/-- A string. -/
def string : Decoder String := fun _ d =>
  match d with
  | .str s => .ok s
  | d => refuse "a string" d

/-- An integer of 64 bits with a sign. -/
def int64 : Decoder Int := fun _ d =>
  match d with
  | .num (.int n) =>
    if -(Int.pow 2 63) ≤ n ∧ n < Int.pow 2 63 then .ok n
    else do
      let got ← describe d
      throw (.wrongValue got "i64")
  | d => refuse "i64" d

/-- A value that may be absent, which null stands for. -/
def optional {α : Type} (decode : Decoder α) : Decoder (Option α) := fun origin d =>
  match d with
  | .null => .ok none
  | d => some <$> decode origin d

/-- The items of an array, in order. -/
def decodeItems {α : Type} (decode : Decoder α) (origin : Origin) :
    List Document → Except Problem (List α)
  | [] => .ok []
  | d :: ds => do
    let x ← decode origin d
    let xs ← decodeItems decode origin ds
    return x :: xs

/-- An array of values of one type. -/
def list {α : Type} (decode : Decoder α) : Decoder (List α) := fun origin d =>
  match d with
  | .arr items stop => do
    let xs ← decodeItems decode origin.inner items
    proceed stop
    return xs
  | d => refuse "a sequence" d

/-- The members of an object whose values are strings. -/
def decodeEntries (origin : Origin) :
    List (Option String × Document) → SortedMap String String →
      Except Problem (SortedMap String String)
  | [], m => .ok m
  | (none, _) :: _, _ => .error (.text .malformed)
  | (some k, d) :: rest, m => do
    let x ← string origin d
    decodeEntries origin rest (m.insert k x)

/-- An object with string values; the last value of a name counts. -/
def stringMap : Decoder (SortedMap String String) := fun origin d =>
  match d with
  | .obj members stop => do
    let m ← decodeEntries origin.inner members .empty
    proceed stop
    return m
  | d => refuse "a map" d

/-- Any value, not too deeply nested. -/
def anything : Decoder Json := fun origin d =>
  match origin with
  | .text room => liftFault (d.truncate room).toJson
  | .value => liftFault d.toJson

/-- Any value, the members of its objects in order of their names. -/
def json : Decoder Json := fun origin d =>
  Json.sorted <$> anything origin d

/-- Passes over a value. -/
def ignored : Decoder Unit := fun _ d =>
  liftFault d.skip

/-- Passes over a value that could be read. -/
def proper : Decoder Unit := fun origin d =>
  (fun _ => ()) <$> anything origin d

/-! ### Objects with known fields -/

/-- A known field of an object that is decoded into a `σ`. -/
structure Slot (σ : Type) where
  /-- The field's name. -/
  name : String
  /-- Decodes a value of the field and puts it into the object. -/
  fill : Decoder (σ → σ)
  /-- Whether an object must have the field. -/
  required : Bool
  /-- Whether an array must be long enough to hold the field. -/
  counted : Bool

/-- A field that may be left out. -/
def Slot.optional {σ α : Type} (name : String) (decode : Decoder α) (set : α → σ → σ) : Slot σ :=
  ⟨name, fun origin d => set <$> decode origin d, false, false⟩

/-- A field that has to be there. -/
def Slot.mandatory {σ α : Type} (name : String) (decode : Decoder α) (set : α → σ → σ) : Slot σ :=
  ⟨name, fun origin d => set <$> decode origin d, true, true⟩

/-- A field that an object may leave out but an array may not. -/
def Slot.positional {σ α : Type} (name : String) (decode : Decoder α) (set : α → σ → σ) : Slot σ :=
  ⟨name, fun origin d => set <$> decode origin d, false, true⟩

/-- Fills the slots from the members of an object, in the order of the members; the others go to
`pass`. Tells the names of the slots that were filled. With `once` a slot is filled at most once. -/
def fillMembers {σ : Type} (slots : List (Slot σ)) (once : Bool) (pass : Decoder Unit)
    (origin : Origin) :
    List (Option String × Document) → List String → σ → Except Problem (List String × σ)
  | [], filled, x => .ok (filled, x)
  | (none, _) :: _, _, _ => .error (.text .malformed)
  | (some k, d) :: rest, filled, x =>
    match slots.find? (fun s => s.name == k) with
    | none => do
      pass origin d
      fillMembers slots once pass origin rest filled x
    | some slot =>
      if once && filled.contains k then .error (.duplicate k)
      else do
        let set ← slot.fill origin d
        fillMembers slots once pass origin rest (k :: filled) (set x)

/-- Succeeds if each slot that has to be filled was. -/
def requireFilled {σ : Type} (filled : List String) : List (Slot σ) → Except Problem Unit
  | [] => .ok ()
  | slot :: slots =>
    if slot.required && !filled.contains slot.name then .error (.missing slot.name)
    else requireFilled filled slots

/-- Fills the slots from the items of an array, the first from the first. `want` says how long the
array should be, and `n` counts the items used. -/
def fillItems {σ : Type} (want : String) (origin : Origin) (stop : Option Fault) :
    List (Slot σ) → Nat → List Document → σ → Except Problem σ
  | [], _, [], x => do
    proceed stop
    return x
  | [], n, items@(_ :: _), _ =>
    match origin with
    | .text _ => .error (.text .malformed)
    | .value => .error (.wrongLength (n + items.length) "fewer elements in array")
  | slot :: slots, n, [], x => do
    proceed stop
    if slot.counted then throw (.wrongLength n want)
    fillItems want origin stop slots n [] x
  | slot :: slots, n, d :: ds, x => do
    let set ← slot.fill origin d
    fillItems want origin stop slots (n + 1) ds (set x)

/-- How a problem tells the length of an array that stands for a record. -/
def lengthText (name : String) (n : Nat) : String :=
  "struct " ++ name ++ " with " ++ toString n ++ (if n = 1 then " element" else " elements")

/-- The slots filled from the members of an object: first each member in turn, then what is wrong
behind them, then the slots that are missing. -/
def fillObject {σ : Type} (slots : List (Slot σ)) (once : Bool) (pass : Decoder Unit)
    (origin : Origin) (members : List (Option String × Document)) (stop : Option Fault)
    (start : σ) : Except Problem σ := do
  let (filled, x) ← fillMembers slots once pass origin.inner members [] start
  proceed stop
  requireFilled filled slots
  return x

/-- A record: an object with known fields, or an array of their values in order. -/
def record {σ : Type} (name : String) (slots : List (Slot σ)) (start : σ) : Decoder σ :=
  fun origin d =>
    match d with
    | .obj members stop => fillObject slots true ignored origin members stop start
    | .arr items stop =>
      fillItems (lengthText name slots.length) origin.inner stop slots 0 items start
    | d => refuse ("struct " ++ name) d

/-- An object with known fields and no array form; of several values of a field the last counts. -/
def keyed {σ : Type} (name : String) (slots : List (Slot σ)) (start : σ) : Decoder σ :=
  fun origin d =>
    match d with
    | .obj members stop => fillObject slots false ignored origin members stop start
    | d => refuse name d

/-- An object with known fields, each of which may be there once, and no array form; all its other
members have to be values that could be read. -/
def extensible {σ : Type} (name : String) (slots : List (Slot σ)) (start : σ) : Decoder σ :=
  fun origin d =>
    match d with
    | .obj members stop => fillObject slots true proper origin members stop start
    | d => refuse ("struct " ++ name) d

/-! ### Whole inputs -/

/-- Decodes a value. -/
def ofJson {α : Type} (decode : Decoder α) (v : Json) : Except Problem α :=
  decode .value (Document.ofJson v.sorted)

/-- How deeply arrays and objects in a text may lie inside each other. -/
def depthLimit : Nat := 127

/-- Decodes a text; what stands behind the value is a problem only if the value has none. -/
def ofText {α : Type} (decode : Decoder α) (text : String) : Except Problem α := do
  let (d, behind) := Document.read text
  let x ← decode (.text depthLimit) d
  proceed behind
  return x

end Decode

end BareMetal
