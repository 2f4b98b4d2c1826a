import BareMetal.Settings

/-!
The flags that settings are given by. Each has a variable of the environment that
holds where the flag is not given.

* `Flag`, `Flag.name`, `Flag.variableName`: the flags and what they are called;
* `ValueProblem`: why a text is not the value of a flag;
* `Flag.set`: the settings with the value of a flag;
* `Flag.value`: the value of a flag as text.
-/

namespace BareMetal

/-- The flags in the order in which they are listed. -/
inductive Flag where
  /-- How many classes are reconciled at the same time. -/
  | concurrency
  /-- How long a call to the store may take. -/
  | storeTimeout
  /-- When a class is reconciled again. -/
  | resync
  /-- When a reconcile that failed is tried again. -/
  | errorRequeue
  /-- When a reconcile that lost a race is tried again. -/
  | conflictRequeue
  /-- Where the metrics can be read. -/
  | metricsAddress
  /-- How the operator logs. -/
  | logFormat
  deriving DecidableEq

/-- Why a text is not the value of a flag. -/
inductive ValueProblem where
  /-- It should be a number and is empty. -/
  | empty
  /-- It should be a number and has a character that is no digit. -/
  | digit
  /-- The number is larger than what can be stored. -/
  | tooLarge
  /-- The number is smaller than what can be stored. -/
  | tooSmall
  /-- The number is not in the range of the flag. -/
  | range (value : Int)
  /-- It is not an address. -/
  | address
  /-- It is none of the words to choose from. -/
  | choice
  deriving DecidableEq

namespace ValueProblem

/-- The problem in words. -/
def message : ValueProblem → String
  | .empty => "cannot parse integer from empty string"
  | .digit => "invalid digit found in string"
  | .tooLarge => "number too large to fit in target type"
  | .tooSmall => "number too small to fit in target type"
  | .range value => toString value ++ " is not in 0..=65535"
  | .address => "invalid socket address syntax"
  | .choice => "invalid value"

end ValueProblem

namespace Flag

/-- All flags in the order in which they are listed. -/
def all : List Flag :=
  [.concurrency, .storeTimeout, .resync, .errorRequeue, .conflictRequeue, .metricsAddress,
    .logFormat]

/-- The name of a flag. -/
def name : Flag → String
  | .concurrency => "concurrency"
  | .storeTimeout => "store-timeout-secs"
  | .resync => "resync-secs"
  | .errorRequeue => "error-requeue-secs"
  | .conflictRequeue => "conflict-requeue-secs"
  | .metricsAddress => "metrics-addr"
  | .logFormat => "log-format"

/-- The flag of a name. -/
def ofName? (s : String) : Option Flag :=
  all.find? (fun f => f.name = s)

/-- The word that stands for the value of a flag. -/
def placeholder : Flag → String
  | .concurrency => "CONCURRENCY"
  | .storeTimeout => "STORE_TIMEOUT_SECS"
  | .resync => "RESYNC_SECS"
  | .errorRequeue => "ERROR_REQUEUE_SECS"
  | .conflictRequeue => "CONFLICT_REQUEUE_SECS"
  | .metricsAddress => "METRICS_ADDR"
  | .logFormat => "LOG_FORMAT"

/-- The variable of the environment that holds where a flag is not given. -/
def variableName : Flag → String
  | .logFormat => "LOG_FORMAT"
  | f => "METALCLASS_" ++ f.placeholder

/-- A flag with its value, as it is written. -/
def text (f : Flag) : String :=
  "--" ++ f.name ++ " <" ++ f.placeholder ++ ">"

/-- The words that the value of a flag is chosen from, if there are such. -/
def choices : Flag → List String
  | .logFormat => LogFormat.all.map LogFormat.word
  | _ => []

/-! ### Values -/

/-- Reads digits behind the number read so far. The first character that is no digit, or that makes
the number larger than the limit, is a problem. -/
def readDigits (limit : Nat) (beyond : ValueProblem) : Nat → List Char → Except ValueProblem Nat
  | n, [] => .ok n
  | n, c :: cs =>
    if c.isDigit then
      let n := 10 * n + (c.toNat - 48)
      if limit < n then .error beyond else readDigits limit beyond n cs
    else .error .digit

/-- Reads a number of 64 bits without a sign; a plus may stand in front. -/
def readNatural (s : String) : Except ValueProblem Nat :=
  match s.toList with
  | [] => .error .empty
  | '+' :: c :: cs => readDigits (Nat.pow 2 64 - 1) .tooLarge 0 (c :: cs)
  | cs => readDigits (Nat.pow 2 64 - 1) .tooLarge 0 cs

/-- Reads a number of 64 bits with a sign. -/
def readInteger (s : String) : Except ValueProblem Int :=
  match s.toList with
  | [] => .error .empty
  | '+' :: c :: cs => Int.ofNat <$> readDigits (Nat.pow 2 63 - 1) .tooLarge 0 (c :: cs)
  | '-' :: c :: cs =>
    (fun n : Nat => -(n : Int)) <$> readDigits (Nat.pow 2 63) .tooSmall 0 (c :: cs)
  | cs => Int.ofNat <$> readDigits (Nat.pow 2 63 - 1) .tooLarge 0 cs

/-- Reads seconds. -/
def readSeconds (s : String) : Except ValueProblem UInt64 :=
  Nat.toUInt64 <$> readNatural s

/-- Reads a number of 16 bits without a sign. -/
def readCount (s : String) : Except ValueProblem UInt16 := do
  let n ← readInteger s
  if 0 ≤ n ∧ n < Int.pow 2 16 then return n.toNat.toUInt16 else throw (.range n)

/-- The settings with the value of a flag. -/
def set (f : Flag) (value : String) (s : Settings) : Except ValueProblem Settings :=
  match f with
  | .concurrency => (fun n => { s with concurrency := n }) <$> readCount value
  | .storeTimeout => (fun n => { s with storeTimeout := n }) <$> readSeconds value
  | .resync => (fun n => { s with resync := n }) <$> readSeconds value
  | .errorRequeue => (fun n => { s with errorRequeue := n }) <$> readSeconds value
  | .conflictRequeue => (fun n => { s with conflictRequeue := n }) <$> readSeconds value
  | .metricsAddress =>
    match SocketAddress.read? value with
    | some a => .ok { s with metricsAddress := some a }
    | none => .error .address
  | .logFormat =>
    match LogFormat.all.find? (fun l => l.word = value) with
    | some l => .ok { s with logFormat := l }
    | none => .error .choice

/-- The value of a flag in some settings, as text. -/
def value (f : Flag) (s : Settings) : Option String :=
  match f with
  | .concurrency => some (toString s.concurrency.toNat)
  | .storeTimeout => some (toString s.storeTimeout.toNat)
  | .resync => some (toString s.resync.toNat)
  | .errorRequeue => some (toString s.errorRequeue.toNat)
  | .conflictRequeue => some (toString s.conflictRequeue.toNat)
  | .metricsAddress => s.metricsAddress.map SocketAddress.text
  | .logFormat => some s.logFormat.word

end Flag

end BareMetal
