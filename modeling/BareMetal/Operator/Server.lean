import BareMetal.Api.Wire
import BareMetal.Store

/-!
An interface server, as a reconcile meets it: a store whose answers can be told in
advance.

* `Answers`: the codes that the next answers to one kind of request have;
* `Inquiry`: a request about a class with the code of its answer;
* `Server`: the store, the codes to come, and what was asked;
* `Server.backend`: the calls of a reconcile.
-/

namespace BareMetal

/-- The codes that the next answers to one kind of request have. Where there is none, or it is
zero, the answer is the one that the store gives. -/
abbrev Answers := List Nat

/-- The code of an answer without problems. -/
def okCode : Nat := 200

/-- The reason that goes with the code of a refusal. -/
def reasonOf (code : Nat) : String :=
  if code = 404 then "NotFound" else if code = 409 then "Conflict" else "InternalError"

/-- The next code, if it is that of a refusal, and the codes behind it. -/
def nextRefusal : Answers → Option Nat × Answers
  | [] => (none, [])
  | code :: rest => (if code = 0 ∨ code = okCode then none else some code, rest)

/-- A request about a class with the code of its answer. -/
inductive Inquiry where
  /-- The class was read. -/
  | read (code : Nat)
  /-- A status was to be written. -/
  | write (code : Nat) (status : MachineClassStatus)
  deriving DecidableEq

/-- An interface server. -/
structure Server where
  /-- What it stores. -/
  store : Store := {}
  /-- The codes for reading a class. -/
  readCodes : Answers := []
  /-- The codes for listing the machines. -/
  listCodes : Answers := []
  /-- The codes for writing a status. -/
  writeCodes : Answers := []
  /-- What was asked about classes, the last request at the end. -/
  inquiries : List (ClassKey × Inquiry) := []

namespace Server

/-- A refusal with a code, of which nothing but the reason is told. -/
def refusal (code : Nat) : ApiFailure :=
  ({ status := "Failure", reason := reasonOf code, code := code } : Api.ErrorBody).failure

/-- The server once a class was read. -/
def afterRead (s : Server) (key : ClassKey) (code : Nat) (rest : Answers) : Server :=
  { s with readCodes := rest, inquiries := s.inquiries ++ [(key, .read code)] }

/-- Reads a class. -/
def getClass (key : ClassKey) (s : Server) : Except StoreError (Option MachineClass) × Server :=
  match nextRefusal s.readCodes with
  | (some code, rest) =>
    (Api.Wire.classOf (.error (refusal code)), s.afterRead key code rest)
  | (none, rest) =>
    match s.store.getClass key with
    | some c => (.ok (some c), s.afterRead key okCode rest)
    | none => (.ok none, s.afterRead key 404 rest)

/-- Lists the machines. -/
def listMachines (s : Server) : Except StoreError (List Machine) × Server :=
  match nextRefusal s.listCodes with
  | (some code, rest) => (.error (.api (refusal code)), { s with listCodes := rest })
  | (none, rest) => (s.store.listMachines, { s with listCodes := rest })

/-- The code that tells how a write went. -/
def writeCode : Except StoreError Unit → Nat
  | .ok () => okCode
  | .error (.conflict _) => 409
  | .error _ => 404

/-- The server once a status was to be written. -/
def afterWrite (s : Server) (key : ClassKey) (code : Nat) (status : MachineClassStatus)
    (rest : Answers) : Server :=
  { s with writeCodes := rest, inquiries := s.inquiries ++ [(key, .write code status)] }

/-- Writes the status of a class over a version. -/
def writeStatus (key : ClassKey) (version : String) (status : MachineClassStatus) (s : Server) :
    Except StoreError Unit × Server :=
  match nextRefusal s.writeCodes with
  | (some code, rest) =>
    (Api.Wire.writeResult key (.error (refusal code)), s.afterWrite key code status rest)
  | (none, rest) =>
    let (answer, store) := s.store.writeStatus key version status
    (answer, { s with store := store }.afterWrite key (writeCode answer) status rest)

/-- The calls of a reconcile. -/
def backend : Backend Server where
  getClass := getClass
  listMachines := listMachines
  writeStatus := writeStatus

end Server

end BareMetal
