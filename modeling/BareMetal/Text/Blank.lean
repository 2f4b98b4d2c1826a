/-!
Blank characters: the spaces, tabs, line breaks and separators of any script.

* `Text.isBlank`: whether a character is blank;
* `Text.dropBlank`: a text without the blanks it starts with.
-/

namespace BareMetal.Text

/-- The ranges of blank characters above ASCII. -/
def blankRanges : List (Nat × Nat) :=
  [(0x85, 0x85), (0xA0, 0xA0), (0x1680, 0x1680), (0x2000, 0x200A), (0x2028, 0x2029),
    (0x202F, 0x202F), (0x205F, 0x205F), (0x3000, 0x3000)]

/-- Whether a character has the property White_Space. -/
def isBlank (c : Char) : Bool :=
  let n := c.toNat
  (9 ≤ n && n ≤ 13) || n == 32 || blankRanges.any (fun r => r.1 ≤ n && n ≤ r.2)

/-- The ASCII blanks are blank. -/
theorem isBlank_of_isWhitespace {c : Char} (h : c.isWhitespace = true) : isBlank c = true := by
  simp only [Char.isWhitespace, Bool.or_eq_true, decide_eq_true_eq] at h
  rcases h with ((rfl | rfl) | rfl) | rfl <;> rfl

/-- The text from its first character that is not blank. -/
def dropBlank (cs : List Char) : List Char :=
  cs.dropWhile isBlank

end BareMetal.Text
