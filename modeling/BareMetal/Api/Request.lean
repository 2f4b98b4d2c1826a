import BareMetal.MachineClass

/-!
Requests to an interface server.

* `Request`: method, path, query and body;
* `Request.ofTarget`: the request for a target, which may not hold everything: a `?` or
  a `#` ends the path, and some characters cannot stand in it; else why it cannot be made;
* `Request.listAll`, `listPage`, `watch`, `getClass`, `writeStatus`: the requests that
  are made.
-/

namespace BareMetal.Api

/-- What a request does. -/
inductive Method where
  /-- It reads. -/
  | get
  /-- It changes a part. -/
  | patch
  deriving DecidableEq

/-- The name of a method. -/
def Method.text : Method → String
  | .get => "GET"
  | .patch => "PATCH"

/-- A request. -/
structure Request where
  /-- What it does. -/
  method : Method
  /-- Where it goes. -/
  path : String
  /-- What stands behind the path, if there is a question mark. -/
  query : Option String
  /-- What to change. -/
  body : Option Json := none

namespace Request

/-- The type of the body: a merge patch is the only one. -/
def contentType (r : Request) : Option String :=
  r.body.map (fun _ => "application/merge-patch+json")

/-! ### Targets -/

/-- Whether a character can stand in a path. -/
def isPathChar (c : Char) : Bool :=
  let n := c.toNat
  0x21 ≤ n && n != 0x7F && c != '<' && c != '>' && c != '\x60'

/-- Whether a character can stand in a query. -/
def isQueryChar (c : Char) : Bool :=
  let n := c.toNat
  0x21 ≤ n && n != 0x7F && c != '<' && c != '>' && c != '"'

/-- The number of bytes a target cannot reach. -/
def targetLimit : Nat := Nat.pow 2 16 - 1

/-- The request for a target, unless that is too long or has characters that cannot stand in it.
The path ends at the first question mark, and everything at the first number sign. -/
def ofTarget (method : Method) (target : String) (body : Option Json) : Except String Request :=
  let cs := target.toList.takeWhile (· != '#')
  let path := cs.takeWhile (· != '?')
  let query := cs.drop path.length
  if targetLimit ≤ target.utf8ByteSize then .error "failed to build request: uri too long"
  else if path.all isPathChar && (query.drop 1).all isQueryChar then
    .ok ⟨method, String.ofList path,
      if query.isEmpty then none else some (String.ofList (query.drop 1)), body⟩
  else .error "failed to build request: invalid uri character"

/-- Why there is no request without a name. -/
def nameless : String := "failed to validate request: A non-empty name is required"

/-- A hexadecimal digit, in upper case. -/
def upperHexDigit (n : Nat) : Char :=
  if n < 10 then Char.ofNat (48 + n) else Char.ofNat (55 + n)

/-- A byte as it is written in a query. -/
def encodeByte (b : UInt8) : List Char :=
  let n := b.toNat
  let c := Char.ofNat n
  if n < 128 && (c.isAlphanum || c == '*' || c == '-' || c == '.' || c == '_') then [c]
  else if n == 32 then ['+']
  else ['%', upperHexDigit (n / 16), upperHexDigit (n % 16)]

/-- A value as it is written in a query. -/
def encodeValue (s : String) : String :=
  String.ofList (s.toUTF8.toList.flatMap encodeByte)

/-! ### The requests that are made -/

/-- The machines of all namespaces. -/
def machines : String := Resource.machines.path none

/-- The classes of all namespaces. -/
def classes : String := Resource.classes.path none

/-- The classes of a namespace. -/
def classesIn (scope : String) : String := Resource.classes.path (some scope)

/-- Reads everything at a place. -/
def listAll (place : String) : Except String Request :=
  ofTarget .get (place ++ "?") none

/-- Reads up to 500 objects at a place, from where an earlier answer left off. -/
def listPage (place : String) (token : Option String) : Except String Request :=
  let next := match token with
    | some t => "&continue=" ++ encodeValue t
    | none => ""
  ofTarget .get (place ++ "?&limit=500" ++ next) none

/-- Waits for changes at a place since a version. -/
def watch (place version : String) : Except String Request :=
  ofTarget .get
    (place ++ "?&watch=true&timeoutSeconds=290&allowWatchBookmarks=true&resourceVersion=" ++
      encodeValue version) none

/-- Reads a class; it has to have a name. -/
def getClass (scope name : String) : Except String Request :=
  if name.isEmpty then .error nameless else ofTarget .get (classesIn scope ++ "/" ++ name) none

/-- What to change in a class to give it a status: the version goes along, so that the write fails
if the class has another one by then. -/
def statusPatch (version : String) (s : MachineClassStatus) : Json :=
  .obj [("metadata", .obj [("resourceVersion", .str version)]), ("status", s.toJson)]

/-- Writes the status of a class; the class has to have a name. -/
def writeStatus (scope name version : String) (s : MachineClassStatus) : Except String Request :=
  if name.isEmpty then .error nameless
  else ofTarget .patch (classesIn scope ++ "/" ++ name ++ "/status?") (some (statusPatch version s))

end Request

end BareMetal.Api
