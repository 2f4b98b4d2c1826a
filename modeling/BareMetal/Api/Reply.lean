import BareMetal.StoreError

/-!
Replies of an interface server.

* `Reply`: what comes back, if anything does;
* `codeText`: what the code of a refusal stands for;
* `ErrorBody`: what a refusal says about itself, and `ErrorBody.text`: how the client puts it;
* `Reply.refusal`: the failure that a refusal stands for;
* `Reply.decode`: the object that a reply holds;
* `Page`: a list of objects, with what is needed to go on.
-/

namespace BareMetal.Api

/-- What comes back for a request. -/
inductive Reply where
  /-- The way to the server failed. The text is how the client puts it. -/
  | broken (text : String)
  /-- The server answers with a code and a body, which may never end. -/
  | answer (code : Nat) (body : String) (ends : Bool)

/-! ### Refusals -/

/-- The phrase for the code of a refusal. -/
def phrase? : Nat → Option String
  | 400 => some "Bad Request"
  | 401 => some "Unauthorized"
  | 402 => some "Payment Required"
  | 403 => some "Forbidden"
  | 404 => some "Not Found"
  | 405 => some "Method Not Allowed"
  | 406 => some "Not Acceptable"
  | 407 => some "Proxy Authentication Required"
  | 408 => some "Request Timeout"
  | 409 => some "Conflict"
  | 410 => some "Gone"
  | 411 => some "Length Required"
  | 412 => some "Precondition Failed"
  | 413 => some "Payload Too Large"
  | 414 => some "URI Too Long"
  | 415 => some "Unsupported Media Type"
  | 416 => some "Range Not Satisfiable"
  | 417 => some "Expectation Failed"
  | 418 => some "I'm a teapot"
  | 421 => some "Misdirected Request"
  | 422 => some "Unprocessable Entity"
  | 423 => some "Locked"
  | 424 => some "Failed Dependency"
  | 425 => some "Too Early"
  | 426 => some "Upgrade Required"
  | 428 => some "Precondition Required"
  | 429 => some "Too Many Requests"
  | 431 => some "Request Header Fields Too Large"
  | 451 => some "Unavailable For Legal Reasons"
  | 500 => some "Internal Server Error"
  | 501 => some "Not Implemented"
  | 502 => some "Bad Gateway"
  | 503 => some "Service Unavailable"
  | 504 => some "Gateway Timeout"
  | 505 => some "HTTP Version Not Supported"
  | 506 => some "Variant Also Negotiates"
  | 507 => some "Insufficient Storage"
  | 508 => some "Loop Detected"
  | 510 => some "Not Extended"
  | 511 => some "Network Authentication Required"
  | _ => none

/-- The code of a refusal with its phrase. -/
def codeText (code : Nat) : String :=
  toString code ++ " " ++ (phrase? code).getD "<unknown status code>"

/-- What a refusal says about itself. -/
structure ErrorBody where
  /-- How it went. -/
  status : String := ""
  /-- What was wrong, in words. -/
  message : String := ""
  /-- What was wrong, as one word. -/
  reason : String := ""
  /-- What was wrong, as a number. -/
  code : Nat := 0

namespace ErrorBody

open Decode

/-- An integer of 16 bits without a sign. -/
def uint16 : Decoder Nat := fun _ d =>
  match d with
  | .num (.int n) =>
    if 0 ≤ n ∧ n < Int.pow 2 16 then .ok n.toNat
    else do
      let got ← describe d
      throw (.wrongValue got "u16")
  | d => refuse "u16" d

/-- The known fields. -/
def slots : List (Slot ErrorBody) :=
  [.mandatory "status" string (fun x e => { e with status := x }),
    .optional "message" string (fun x e => { e with message := x }),
    .optional "reason" string (fun x e => { e with reason := x }),
    .mandatory "code" uint16 (fun x e => { e with code := x })]

/-- Reads what a refusal says about itself. -/
def decode : Decoder ErrorBody := record "ErrorResponse" slots {}

/-- What stands for a refusal that says nothing of the kind. -/
def ofUnreadable (code : Nat) (body : String) : ErrorBody where
  status := codeText code
  message := Text.quoted body
  reason := "Failed to parse error data"
  code := code

/-- How the client puts it: the message and the reason, and then everything field by field. -/
def text (e : ErrorBody) : String :=
  "ApiError: " ++ e.message ++ ": " ++ e.reason ++ " (ErrorResponse \x7b status: " ++
    Text.quoted e.status ++ ", message: " ++ Text.quoted e.message ++ ", reason: " ++
    Text.quoted e.reason ++ ", code: " ++ toString e.code ++ " \x7d)"

/-- The failure it stands for. -/
def failure (e : ErrorBody) : ApiFailure := .refused e.code e.reason e.text

end ErrorBody

namespace Reply

/-- Whether a code tells of a refusal. -/
def isRefusal (code : Nat) : Bool := 400 ≤ code && code < 600

/-- The failure of a refusal: what it says about itself, else its code. -/
def refusal (code : Nat) (body : String) : ApiFailure :=
  match Decode.ofText ErrorBody.decode body with
  | .ok e => e.failure
  | .error _ => (ErrorBody.ofUnreadable code body).failure

/-- The object in a reply that has ended. The place of a problem is left out of its text. -/
def decode {α : Type} (d : Decoder α) : Reply → Except ApiFailure α
  | .broken text => .error (.broken text)
  | .answer code body _ =>
    if isRefusal code then .error (refusal code body)
    else match Decode.ofText d body with
      | .ok x => .ok x
      | .error problem => .error (.broken ("Error deserializing response: " ++ problem.message))

/-- Whether the whole of a reply will ever be there. -/
def isWhole : Reply → Bool
  | .broken _ => true
  | .answer _ _ ends => ends

end Reply

/-! ### Lists -/

/-- What a list says about itself. -/
structure PageInfo where
  /-- Where to go on, if there is more. -/
  token : Option String := none
  /-- How many objects are left. -/
  remaining : Option Int := none
  /-- The version of the list. -/
  version : Option String := none
  /-- Its address. -/
  selfLink : Option String := none

/-- A list of objects. -/
structure Page (α : Type) where
  /-- What it says about itself. -/
  info : PageInfo := {}
  /-- The objects. -/
  items : List α := []

namespace PageInfo

open Decode

/-- The known fields. -/
def slots : List (Slot PageInfo) :=
  [.optional "continue" (optional string) (fun x p => { p with token := x }),
    .optional "remainingItemCount" (optional int64) (fun x p => { p with remaining := x }),
    .optional "resourceVersion" (optional string) (fun x p => { p with version := x }),
    .optional "selfLink" (optional string) (fun x p => { p with selfLink := x })]

/-- Reads what a list says about itself. -/
def decode : Decoder PageInfo := keyed "ListMeta" slots {}

end PageInfo

namespace Page

open Decode

variable {α : Type}

/-- The known fields; null stands for no objects. -/
def slots (item : Decoder α) : List (Slot (Page α)) :=
  [.optional "metadata" PageInfo.decode (fun x p => { p with info := x }),
    .mandatory "items" (optional (list item)) (fun x p => { p with items := x.getD [] })]

/-- Reads a list of objects. -/
def decode (item : Decoder α) : Decoder (Page α) := extensible "ObjectList" (slots item) {}

end Page

end BareMetal.Api
