import BareMetal.SocketAddress

/-!
What can be set when the operator starts.

* `LogFormat`: how the operator logs;
* `Settings`: everything that can be set, with what holds where nothing is.
-/

namespace BareMetal

/-- How the operator logs. -/
inductive LogFormat where
  /-- A line of text for each event. -/
  | text
  /-- A JSON object for each event. -/
  | json
  deriving DecidableEq

namespace LogFormat

/-- All formats. -/
def all : List LogFormat := [.text, .json]

/-- The word that a format is chosen by. -/
def word : LogFormat → String
  | .text => "text"
  | .json => "json"

/-- The name that a format is shown by. -/
def label : LogFormat → String
  | .text => "Text"
  | .json => "Json"

end LogFormat

/-- What can be set. -/
structure Settings where
  /-- How many classes are reconciled at the same time, at most. -/
  concurrency : UInt16 := 4
  /-- How many seconds a call to the store may take. -/
  storeTimeout : UInt64 := 10
  /-- After how many seconds a class is reconciled again. -/
  resync : UInt64 := 300
  /-- After how many seconds a reconcile that failed is tried again. -/
  errorRequeue : UInt64 := 60
  /-- After how many seconds a reconcile that lost a race is tried again. -/
  conflictRequeue : UInt64 := 1
  /-- Where the metrics can be read, if anywhere. -/
  metricsAddress : Option SocketAddress := none
  /-- How the operator logs. -/
  logFormat : LogFormat := .text

end BareMetal
