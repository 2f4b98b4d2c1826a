/-!
Spans of time, and the short text that messages show them in: the largest unit of
which there is at least one, with a fraction where needed.

* `Span`: nanoseconds;
* `Span.ofParts`: seconds and nanoseconds, which overflow above 64 bits of seconds;
* `Span.text`: the span in seconds, milliseconds, microseconds or nanoseconds.
-/

namespace BareMetal

/-- A span of time. -/
structure Span where
  /-- Its length in nanoseconds. -/
  nanoseconds : Nat
  deriving DecidableEq

namespace Span

/-- A span of whole seconds. -/
def ofSeconds (n : Nat) : Span := ⟨n * Nat.pow 10 9⟩

/-- A span of whole milliseconds. -/
def ofMilliseconds (n : Nat) : Span := ⟨n * Nat.pow 10 6⟩

/-- A span of seconds and nanoseconds, if its whole seconds fit 64 bits. -/
def ofParts (seconds nanoseconds : Nat) : Option Span :=
  if seconds + nanoseconds / Nat.pow 10 9 < Nat.pow 2 64 then
    some ⟨seconds * Nat.pow 10 9 + nanoseconds⟩
  else none

/-- The whole seconds of a span. -/
def seconds (s : Span) : Nat := s.nanoseconds / Nat.pow 10 9

/-- So many of a unit of `10 ^ places` nanoseconds, the fraction without zeros at its end. -/
def inUnit (s : Span) (places : Nat) : String :=
  let whole := s.nanoseconds / Nat.pow 10 places
  let part := toString (s.nanoseconds % Nat.pow 10 places)
  let digits := List.replicate (places - part.length) '0' ++ part.toList
  let fraction := (digits.reverse.dropWhile (· == '0')).reverse
  toString whole ++
    (if s.nanoseconds % Nat.pow 10 places = 0 then "" else "." ++ String.ofList fraction)

/-- The span in the largest unit of which it holds at least one. -/
def text (s : Span) : String :=
  if Nat.pow 10 9 ≤ s.nanoseconds then s.inUnit 9 ++ "s"
  else if Nat.pow 10 6 ≤ s.nanoseconds then s.inUnit 6 ++ "ms"
  else if Nat.pow 10 3 ≤ s.nanoseconds then s.inUnit 3 ++ "µs"
  else toString s.nanoseconds ++ "ns"

end Span

end BareMetal
