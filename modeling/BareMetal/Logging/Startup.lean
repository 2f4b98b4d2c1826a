import BareMetal.Json.Document
import BareMetal.Logging.Filter
import BareMetal.Settings

/-!
What the operator logs while it starts. Without a cluster this is all it logs.

* `Notice`: an event by the part of the program it comes from, with its values;
* `Notice.line`, `Notice.toJson`: a notice as a line of text and as a JSON object;
* `Startup.notices`: the notices of a start that finds no cluster;
* `Startup.log`: those that a filter admits.
-/

namespace BareMetal

/-- A value that comes with a notice. -/
inductive NoticeValue where
  /-- A number. -/
  | number (n : Nat)
  /-- A text. -/
  | text (s : String)
  /-- A failure, with the failures it was caused by. -/
  | failure (s : String) (causes : List String)

/-- An event by the part of the program it comes from. -/
structure Notice where
  /-- How important it is. -/
  level : Level
  /-- The part of the program. -/
  target : String
  /-- What has happened. -/
  message : String
  /-- The values that come with it. -/
  fields : List (String × NoticeValue)

namespace Notice

/-- The names of all that comes with a notice, what has happened among them. -/
def fieldNames (n : Notice) : List String :=
  "message" :: n.fields.map (fun f => f.1)

/-- A value behind its name. -/
def fieldText : String × NoticeValue → String
  | (name, .number n) => name ++ "=" ++ toString n
  | (name, .text s) => name ++ "=" ++ s
  | (name, .failure s causes) =>
    name ++ "=" ++ s ++ " " ++ name ++ ".sources=[" ++ ", ".intercalate causes ++ "]"

/-- A value as JSON. -/
def fieldJson : NoticeValue → Json
  | .number n => .ofNat n
  | .text s => .str s
  | .failure s _ => .str s

/-- A notice as a line of text. -/
def line (n : Notice) : String :=
  n.level.text ++ " " ++ n.target ++ ": " ++ n.message ++
    String.join (n.fields.map (fun f => " " ++ fieldText f))

/-- A notice as a JSON object. -/
def toJson (n : Notice) : Json :=
  .obj [("level", .str n.level.text),
    ("fields", .obj (("message", .str n.message) :: n.fields.map (fun f => (f.1, fieldJson f.2)))),
    ("target", .str n.target)]

end Notice

namespace Startup

/-- Logging was set up. -/
def loggingReady (s : Settings) : Notice where
  level := .debug
  target := "metalclass_operator::observability::logging"
  message := "Logging initialized"
  fields := [("format", .text s.logFormat.label)]

/-- The metrics can be read at an address. -/
def metricsReady (a : SocketAddress) : Notice where
  level := .info
  target := "metalclass_operator::observability::metrics"
  message := "Prometheus metrics endpoint listening"
  fields := [("addr", .text a.text)]

/-- The operator starts. -/
def starting (s : Settings) : Notice where
  level := .info
  target := "metalclass_operator"
  message := "Starting metalclass-operator"
  fields := [("concurrency", .number s.concurrency.toNat), ("resync_secs", .number s.resync.toNat)]

/-- The user's directory has no file that names a cluster. -/
def clusterUnknown (home : String) : Notice where
  level := .trace
  target := "kube_client::config"
  message := "no local config found, falling back to local in-cluster config"
  fields :=
    [("error", .failure
      ("failed to read kubeconfig from '\"" ++ home ++
        "/.kube/config\"': No such file or directory (os error 2)")
      ["No such file or directory (os error 2)"])]

/-- Whether a start gets as far as looking for a cluster: if metrics are to be read at an address, the
operator has to listen there first. -/
def isListening (s : Settings) : Bool :=
  s.metricsAddress.all SocketAddress.isListenable

/-- The notices of a start that finds no cluster. -/
def notices (home : String) (s : Settings) : List Notice :=
  [loggingReady s] ++
    if isListening s then
      (s.metricsAddress.map metricsReady).toList ++ [starting s, clusterUnknown home]
    else []

/-- The notices that a filter admits. -/
def log (home : String) (f : LogFilter) (s : Settings) : List Notice :=
  (notices home s).filter (fun n => f.admits n.target n.fieldNames n.level)

end Startup

end BareMetal
