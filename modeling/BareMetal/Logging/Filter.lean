import BareMetal.Logging.Rule

/-!
Which events are logged. Of the rules of a filter that are about an event, the most
specific one decides.

* `LogFilter.read`: the filter of a text, in which rules stand between commas;
* `LogFilter.decisive`: the rule that decides about an event;
* `LogFilter.admits`: whether an event is logged.
-/

namespace BareMetal

/-- Which events are logged. -/
structure LogFilter where
  /-- The rules, in the order in which they were given. -/
  rules : List LogRule

namespace LogFilter

/-- Splits a text at commas. -/
def splitCommas : List Char → List (List Char)
  | [] => [[]]
  | ',' :: cs => [] :: splitCommas cs
  | c :: cs =>
    match splitCommas cs with
    | part :: parts => (c :: part) :: parts
    | [] => [[c]]

/-- The filter of a text. What is not a rule is left out. Without any rule, what is worth knowing is
logged. -/
def read (s : String) : LogFilter :=
  match (splitCommas s.toList).filterMap LogRule.read? with
  | [] => ⟨[{ threshold := .level .info }]⟩
  | rules => ⟨rules⟩

/-- The rule that decides about the events of a part of the program that come with these values: the
most specific one, and of several the last one. -/
def decisive (f : LogFilter) (target : String) (fields : List String) : Option LogRule :=
  let step (best : Option LogRule) (r : LogRule) : Option LogRule :=
    if !r.isAbout target fields then best
    else if best.all (fun b => b.precedes r) then some r
    else best
  f.rules.foldl step none

/-- Whether an event is logged, given its level, the part of the program it comes from and the names
of the values it comes with. -/
def admits (f : LogFilter) (target : String) (fields : List String) (l : Level) : Bool :=
  (f.decisive target fields).any (fun r => r.threshold.admits l)

end LogFilter

end BareMetal
