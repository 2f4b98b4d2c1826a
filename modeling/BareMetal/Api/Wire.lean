import BareMetal.Reconcile
import BareMetal.Api.Request
import BareMetal.Api.Reply

/-!
A store behind an interface server.

* `Wire`: the replies that are still to come, and what has passed so far; a request
  for which no reply is left is never answered;
* `Wire.call`: a request for an object;
* `Wire.listMachines`, `listClasses`, `getClass`, `writeStatus`: the calls of a store;
* `Api.backend`: the calls of a reconcile, each cut off after some time.
-/

namespace BareMetal.Api

/-- A request with what came back for it. -/
structure Exchange where
  /-- The request. -/
  request : Request
  /-- The reply, if there was one. -/
  reply : Option Reply

/-- The way to a server. -/
structure Wire where
  /-- The replies that are still to come. -/
  replies : List Reply
  /-- What has passed so far. -/
  exchanges : List Exchange := []

namespace Wire

/-- Sends a request and takes the next reply. -/
def ask (w : Wire) (r : Request) : Option Reply × Wire :=
  match w.replies with
  | [] => (none, { w with exchanges := w.exchanges ++ [⟨r, none⟩] })
  | reply :: rest => (some reply, ⟨rest, w.exchanges ++ [⟨r, some reply⟩]⟩)

/-- A request for an object: none if there is never an answer. A request that cannot be made is
not sent. -/
def call {α : Type} (w : Wire) (r : Except String Request) (d : Decoder α) :
    Option (Except ApiFailure α) × Wire :=
  match r with
  | .error text => (some (.error (.broken ("Failed to build request: " ++ text))), w)
  | .ok r =>
    match w.ask r with
    | (none, w) => (none, w)
    | (some reply, w) => (if reply.isWhole then some (reply.decode d) else none, w)

/-! ### The calls of a store -/

/-- Lists all machines. -/
def listMachines (w : Wire) : Option (Except StoreError (List Machine)) × Wire :=
  let (answer, w) := w.call (Request.listAll Request.machines) (Page.decode Machine.decode)
  (answer.map (fun a => (a.map Page.items).mapError .api), w)

/-- Lists all classes. -/
def listClasses (w : Wire) : Option (Except StoreError (List MachineClass)) × Wire :=
  let (answer, w) := w.call (Request.listAll Request.classes) (Page.decode MachineClass.decode)
  (answer.map (fun a => (a.map Page.items).mapError .api), w)

/-- The namespace of a key, or the one that stands for none. -/
def scopeOf (fallback : String) (key : ClassKey) : String :=
  key.scope.getD fallback

/-- The class that an answer stands for: none where the reason of a refusal says that there is
none. -/
def classOf : Except ApiFailure MachineClass → Except StoreError (Option MachineClass)
  | .ok c => .ok (some c)
  | .error (.refused _ "NotFound" _) => .ok none
  | .error e => .error (.api e)

/-- Reads a class. -/
def getClass (fallback : String) (key : ClassKey) (w : Wire) :
    Option (Except StoreError (Option MachineClass)) × Wire :=
  let (answer, w) := w.call (Request.getClass (scopeOf fallback key) key.name) MachineClass.decode
  (answer.map classOf, w)

/-- How a write went: the code of a refusal tells a class that has changed or is gone. -/
def writeResult (key : ClassKey) : Except ApiFailure MachineClass → Except StoreError Unit
  | .ok _ => .ok ()
  | .error (.refused code reason text) =>
    if code = 409 then .error (.conflict key)
    else if code = 404 then .error (.notFound key)
    else .error (.api (.refused code reason text))
  | .error (.broken text) => .error (.api (.broken text))

/-- Writes the status of a class. -/
def writeStatus (fallback : String) (key : ClassKey) (version : String) (s : MachineClassStatus)
    (w : Wire) : Option (Except StoreError Unit) × Wire :=
  let (answer, w) :=
    w.call (Request.writeStatus (scopeOf fallback key) key.name version s) MachineClass.decode
  (answer.map (writeResult key), w)

end Wire

/-- An answer that has to be there after so many milliseconds. -/
def bounded {α : Type} (limit : Nat) (p : Option (Except StoreError α) × Wire) :
    Except StoreError α × Wire :=
  (p.1.getD (.error (.timeout (.ofMilliseconds limit))), p.2)

/-- The calls of a reconcile, each cut off after `limit` milliseconds. -/
def backend (fallback : String) (limit : Nat) : Backend Wire where
  getClass key w := bounded limit (w.getClass fallback key)
  listMachines w := bounded limit w.listMachines
  writeStatus key version s w := bounded limit (w.writeStatus fallback key version s)

end BareMetal.Api
