/-!
How similar two words are, for telling what was perhaps meant.

Letters of two words match if they are equal and not too far apart, each letter being
used once. The similarity of two words is the mean of three fractions: the letters of
the first word that match, those of the second, and the matching letters that stand in
the same order. It is a binary64 number, and rounding decides where it is at the limit.

* `Similarity.of`: how similar two words are;
* `Similarity.candidates`: the words that are similar enough, from the least similar to
  the most similar.
-/

namespace BareMetal.Similarity

/-- The place of the first letter, from one place on and before another, that is equal to a given
one and not used. -/
def findFrom (c : Char) (used : List Nat) (start stop : Nat) : Nat → List Char → Option Nat
  | _, [] => none
  | i, d :: ds =>
    if start ≤ i ∧ i < stop ∧ c = d ∧ !used.contains i then some i
    else findFrom c used start stop (i + 1) ds

/-- The pairs of places of letters that match, where `reach` is how far they may be apart. -/
def pairs (reach : Nat) (word : List Char) : Nat → List Nat → List Char → List (Nat × Nat)
  | _, _, [] => []
  | i, used, c :: cs =>
    match findFrom c used (i - reach) (i + reach + 1) 0 word with
    | some j => (i, j) :: pairs reach word (i + 1) (j :: used) cs
    | none => pairs reach word (i + 1) used cs

/-- One number as a part of another. -/
def fraction (m n : Nat) : Float :=
  m.toFloat / n.toFloat

/-- How similar two words are. -/
def of (a b : String) : Float :=
  let (x, y) := (a.toList, b.toList)
  let (m, n) := (x.length, y.length)
  let matching := pairs (max m n / 2 - 1) y 0 [] x
  let k := matching.length
  let first := matching.filterMap (fun p => x[p.1]?)
  let second := (matching.map (fun p => p.2)).mergeSort.filterMap (fun j => y[j]?)
  let swapped := ((first.zip second).filter (fun p => p.1 != p.2)).length / 2
  if m = 0 ∧ n = 0 then 1.0
  else if k = 0 then 0.0
  else (fraction k m + fraction k n + fraction (k - swapped) k) / 3.0

/-- What the similarity of words has to exceed. -/
def limit : Float := 0.7

/-- Puts a word behind those that are not more similar. -/
def place (x : Float × String) : List (Float × String) → List (Float × String)
  | [] => [x]
  | y :: ys => if x.1 < y.1 then x :: y :: ys else y :: place x ys

/-- The words that are similar enough to the given one, from the least similar to the most similar. -/
def candidates (word : String) (words : List String) : List String :=
  let scored := words.map (fun w => (of word w, w))
  let close := scored.filter (fun x => limit < x.1)
  (close.foldl (fun xs x => place x xs) []).map (fun x => x.2)

/-- The most similar of the words that are similar enough. -/
def best? (word : String) (words : List String) : Option String :=
  (candidates word words).getLast?

end BareMetal.Similarity
