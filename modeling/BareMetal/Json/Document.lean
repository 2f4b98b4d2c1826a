import BareMetal.Json

/-!
What has been read of a JSON text, up to the first fault.

A text is decoded from left to right, and the first problem met wins: a member of
the wrong shape counts before a comma that is missing further on. So reading does
not give up at a fault; it leaves a `Document` that ends there, and whoever walks
over the document in order meets the fault where the text has it. One who passes over
a value looks less closely than one who reads it, and may meet another fault, or none.

* `Fault`: the text ends too early, or holds something that cannot stand there;
* `Document`: the value read so far;
* `Document.skip`: passes over a value nobody asked for, which only has to be well
  formed;
* `Document.truncate`: cuts off what is nested too deeply;
* `Document.toJson`: the value, if the document holds one;
* `Document.ofJson`: a value as a document without faults.
-/

namespace BareMetal.Json

/-- Why a text is not JSON. -/
inductive Fault where
  /-- The text ends before the value does. -/
  | ended
  /-- Something stands where it cannot. -/
  | malformed
  deriving DecidableEq, Repr

/-- What was read of a JSON text. An array or an object that was not read to its end holds what was
read of it; `stop` tells what is wrong after that, unless the last thing in it does. A name is
absent where it stands for none. -/
inductive Document where
  /-- The absent value. -/
  | null
  /-- A truth value. -/
  | bool (b : Bool)
  /-- A number. -/
  | num (n : Number)
  /-- A string. -/
  | str (s : String)
  /-- No value: what one meets here who reads, and what one meets, if anything, who passes over. -/
  | fault (read : Fault) (passed : Option Fault)
  /-- An array. -/
  | arr (items : List Document) (stop : Option Fault)
  /-- An object. -/
  | obj (members : List (Option String × Document)) (stop : Option Fault)
  deriving Inhabited

namespace Document

/-- The text goes wrong here for everyone. -/
def wrong (f : Fault) : Document :=
  .fault f (some f)

/-- Succeeds where nothing is wrong. -/
def Fault.none : Option Fault → Except Fault Unit
  | some f => .error f
  | .none => .ok ()

/-! ### Passing over a value -/

mutual

/-- Passes over a value: only a fault in it matters. -/
def skip : Document → Except Fault Unit
  | .fault _ passed => Fault.none passed
  | .arr items stop => do
    skipItems items
    Fault.none stop
  | .obj members stop => do
    skipMembers members
    Fault.none stop
  | _ => .ok ()

/-- Passes over the items of an array. -/
def skipItems : List Document → Except Fault Unit
  | [] => .ok ()
  | d :: ds => do
    skip d
    skipItems ds

/-- Passes over the members of an object, names included. -/
def skipMembers : List (Option String × Document) → Except Fault Unit
  | [] => .ok ()
  | (_, d) :: rest => do
    skip d
    skipMembers rest

end

/-! ### Depth -/

mutual

/-- The document with a fault in place of each array or object that lies inside more than so many
others. -/
def truncate : Nat → Document → Document
  | 0, .arr _ _ => .fault .malformed none
  | 0, .obj _ _ => .fault .malformed none
  | n + 1, .arr items stop => .arr (truncateItems n items) stop
  | n + 1, .obj members stop => .obj (truncateMembers n members) stop
  | _, d => d

/-- Every item truncated. -/
def truncateItems (n : Nat) : List Document → List Document
  | [] => []
  | d :: ds => truncate n d :: truncateItems n ds

/-- Every member truncated. -/
def truncateMembers (n : Nat) :
    List (Option String × Document) → List (Option String × Document)
  | [] => []
  | (k, d) :: rest => (k, truncate n d) :: truncateMembers n rest

end

/-! ### Documents and values -/

mutual

/-- The value of a document in which nothing is wrong. -/
def toJson : Document → Except Fault Json
  | .null => .ok .null
  | .bool b => .ok (.bool b)
  | .num n => .ok (.num n)
  | .str s => .ok (.str s)
  | .fault read _ => .error read
  | .arr items stop => do
    let vs ← toItems items
    Fault.none stop
    return .arr vs
  | .obj members stop => do
    let ms ← toMembers members
    Fault.none stop
    return .obj ms

/-- The values of the items of an array. -/
def toItems : List Document → Except Fault (List Json)
  | [] => .ok []
  | d :: ds => do
    let v ← toJson d
    let vs ← toItems ds
    return v :: vs

/-- The values of the members of an object. -/
def toMembers : List (Option String × Document) → Except Fault (List (String × Json))
  | [] => .ok []
  | (none, _) :: _ => .error .malformed
  | (some k, d) :: rest => do
    let v ← toJson d
    let ms ← toMembers rest
    return (k, v) :: ms

end

mutual

/-- A value as a document. -/
def ofJson : Json → Document
  | .null => .null
  | .bool b => .bool b
  | .num n => .num n
  | .str s => .str s
  | .arr items => .arr (ofItems items) none
  | .obj members => .obj (ofMembers members) none

/-- The items of an array as documents. -/
def ofItems : List Json → List Document
  | [] => []
  | v :: vs => ofJson v :: ofItems vs

/-- The members of an object as documents. -/
def ofMembers : List (String × Json) → List (Option String × Document)
  | [] => []
  | (k, v) :: rest => (some k, ofJson v) :: ofMembers rest

end

end Document

end BareMetal.Json
