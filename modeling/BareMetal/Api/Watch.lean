import BareMetal.Feed
import BareMetal.Api.Wire

/-!
Following the changes of machines on an interface server.

All machines are listed, page by page, and then changes since the version of the list
are waited for. Each machine listed and each change is told. Without a version to go on
from, everything is listed again.

* `WatchEvent`: a line of the stream of changes;
* `Follower`: what is done with the name of a machine that was listed or has changed;
* `Watch.run`: follows the changes while there are replies;
* `Watch.changes`, `Watch.triggers`: the names that are told, and the keys of the
  classes to be reconciled.
-/

namespace BareMetal.Api

/-! ### Events -/

/-- How far a stream has come, told without a change. -/
structure Bookmark where
  /-- The version of the interface. -/
  apiVersion : String := ""
  /-- The kind of object that is followed. -/
  kind : String := ""
  /-- How far the stream has come. -/
  version : String := ""

/-- A line of the stream of changes. -/
inductive WatchEvent where
  /-- A machine has appeared, changed or gone. -/
  | change (m : Machine)
  /-- How far the stream has come. -/
  | bookmark (b : Bookmark)
  /-- Something went wrong. -/
  | failed (e : ErrorBody)

namespace Bookmark

open Decode

/-- The known fields of the metadata. -/
def metadataSlots : List (Slot String) :=
  [.mandatory "resourceVersion" string (fun x _ => x),
    .optional "annotations" stringMap (fun _ v => v)]

/-- The known fields. -/
def slots : List (Slot Bookmark) :=
  [.mandatory "metadata" (record "BookmarkMeta" metadataSlots "") (fun x b => { b with version := x }),
    .mandatory "apiVersion" string (fun x b => { b with apiVersion := x }),
    .mandatory "kind" string (fun x b => { b with kind := x })]

/-- Reads a bookmark. -/
def decode : Decoder Bookmark := extensible "Bookmark" slots {}

end Bookmark

namespace WatchEvent

open Decode

/-- The event of a type, with its object. -/
def ofParts (type : String) (object : Json.Document) (origin : Origin) :
    Except Problem WatchEvent :=
  match type with
  | "ADDED" => change <$> Machine.decode origin object
  | "MODIFIED" => change <$> Machine.decode origin object
  | "DELETED" => change <$> Machine.decode origin object
  | "BOOKMARK" => bookmark <$> Bookmark.decode origin object
  | "ERROR" => failed <$> ErrorBody.decode origin object
  | _ => .error (.wrongValue type "event")

/-- The type of an event: a word, or an object whose only member has it for a name and no value. -/
def type : Decoder String := fun origin d =>
  match d with
  | .obj [(some word, .null)] none => .ok word
  | d => string origin d

/-- The type of an event and its object, each of which is there once. -/
structure Parts where
  /-- The type. -/
  type : Option String := none
  /-- The object. -/
  object : Json.Document := .null
  /-- Where the object comes from. -/
  origin : Origin := .value
  /-- Whether the object is there before its type. -/
  early : Bool := false

/-- The known fields. -/
def slots : List (Slot Parts) :=
  [.mandatory "type" type (fun x p => { p with type := some x }),
    .mandatory "object" (fun origin d => .ok (origin, d))
      (fun x p => { p with origin := x.1, object := x.2, early := p.type.isNone })]

/-- Reads an event. An object that is there before its type is kept as a value until the type is
known, so all of it has to be one. -/
def decode : Decoder WatchEvent := fun origin d => do
  let p ← record "WatchEvent" slots {} origin d
  if p.early then
    proper p.origin p.object
    ofParts (p.type.getD "") p.object .value
  else ofParts (p.type.getD "") p.object p.origin

/-- The lines of a body; what stands behind the last break is one only if the body has ended. -/
def lines (body : String) (ends : Bool) : List String :=
  let parts := body.splitOn "\n"
  let whole := parts.dropLast
  let last := parts.getLast?.getD ""
  if ends && last != "" then whole ++ [last] else whole

/-- The event of a line; none if it cannot be read. -/
def ofLine (line : String) : Option WatchEvent :=
  (Decode.ofText decode line).toOption

end WatchEvent

/-! ### Following -/

/-- What is done with the name of a machine that was listed or has changed; none if that never
ends. `α` is what is told. -/
abbrev Follower (α : Type) := String → Wire → Option (List α) × Wire

/-- How far following has come. -/
inductive Watch where
  /-- A page is to be listed. -/
  | listing (token : Option String)
  /-- Changes since a version are to be waited for. -/
  | watching (version : String)
  /-- Nothing will follow. -/
  | stalled

namespace Watch

variable {α : Type}

/-- Tells machines one after the other; false if telling one never ends. -/
def tellAll (tell : Follower α) : List Machine → List α → Wire → Bool × List α × Wire
  | [], told, w => (true, told, w)
  | m :: ms, told, w =>
    match tell m.name w with
    | (none, w) => (false, told, w)
    | (some more, w) => tellAll tell ms (told ++ more) w

/-- A text that is there and not empty. -/
def nonEmpty (s : Option String) : Option String :=
  s.filter (fun t => t != "")

/-- What follows a page whose machines were told. -/
def afterPage (info : PageInfo) : Watch :=
  match nonEmpty info.token, nonEmpty info.version with
  | some t, _ => .listing (some t)
  | none, some v => .watching v
  | none, none => .listing none

/-- Tells the changes of a stream, which began at a version. -/
def follow (tell : Follower α) (ends : Bool) :
    List String → String → List α → Wire → Watch × List α × Wire
  | [], version, told, w => (if ends then .watching version else .stalled, told, w)
  | line :: rest, version, told, w =>
    match WatchEvent.ofLine line with
    | none => follow tell ends rest version told w
    | some (.bookmark b) => follow tell ends rest b.version told w
    | some (.failed e) =>
      if e.code = 410 then (.listing none, told, w) else follow tell ends rest version told w
    | some (.change m) =>
      match nonEmpty m.metadata.resourceVersion with
      | none => (.listing none, told, w)
      | some v =>
        match tell m.name w with
        | (none, w) => (.stalled, told, w)
        | (some more, w) => follow tell ends rest v (told ++ more) w

/-- Takes following one request further. -/
def step (tell : Follower α) (state : Watch) (told : List α) (w : Wire) : Watch × List α × Wire :=
  match state with
  | .stalled => (.stalled, told, w)
  | .listing token =>
    match w.call (Request.listPage Request.machines token) (Page.decode Machine.decode) with
    | (none, w) => (.stalled, told, w)
    | (some (.error _), w) => (.listing none, told, w)
    | (some (.ok page), w) =>
      if (nonEmpty page.info.token).isNone && (nonEmpty page.info.version).isNone then
        (.listing none, told, w)
      else
        match tellAll tell page.items told w with
        | (true, told, w) => (afterPage page.info, told, w)
        | (false, told, w) => (.stalled, told, w)
  | .watching version =>
    match Request.watch Request.machines version with
    | .error _ => (.watching version, told, w)
    | .ok r =>
      match w.ask r with
      | (none, w) => (.stalled, told, w)
      | (some (.broken _), w) => (.watching version, told, w)
      | (some (.answer _ body ends), w) =>
        follow tell ends (WatchEvent.lines body ends) version told w

/-- Follows the changes for so many requests. -/
def run (tell : Follower α) : Nat → Watch → List α → Wire → List α × Wire
  | 0, _, told, w => (told, w)
  | n + 1, state, told, w =>
    let (state, told, w) := step tell state told w
    run tell n state told w

/-- Follows the changes while there are replies: each step takes at least one, and the last one
none. -/
def runAll (tell : Follower α) (w : Wire) : List α × Wire :=
  run tell (w.replies.length + 1) (.listing none) [] w

/-- The names of the machines that are listed or change. -/
def changes (w : Wire) : List String × Wire :=
  runAll (fun name w => (some [name], w)) w

/-- The classes to be reconciled. For each machine that is listed or changes the classes are listed
before anything else is asked. -/
def triggers (w : Wire) : List ClassKey × Wire :=
  runAll (fun _ w =>
    match w.listClasses with
    | (none, w) => (none, w)
    | (some classes, w) => (some (fanOut classes).1, w)) w

end Watch

end BareMetal.Api
