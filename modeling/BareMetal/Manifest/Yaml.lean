import BareMetal.Manifest.Definition

/-!
JSON values in indented lines, as people read and write manifests.

Members of objects stand on lines of their own, items of arrays behind dashes at the
same depth as the name of the array. A string stands as it is where nothing in it
could be taken for something else; one of several lines stands below its name.

* `Json.isPlain`: whether a string can stand as it is;
* `Json.yaml`: a value in indented lines;
* `Definition.manifests`: all definitions, each behind three dashes.
-/

namespace BareMetal

namespace Json

/-! ### Strings -/

/-- The words that stand for other values than strings. -/
def reservedWords : List String :=
  ["null", "Null", "NULL", "~", "true", "True", "TRUE", "false", "False", "FALSE", "yes", "Yes",
    "YES", "no", "No", "NO", "on", "On", "ON", "off", "Off", "OFF", "y", "Y", "n", "N", ".inf",
    ".Inf", ".INF", ".nan", ".NaN", ".NAN"]

/-- The characters that mean something at the front of a string. -/
def leadingMarks : List Char :=
  ['-', '?', ':', ',', '[', ']', '\x7b', '\x7d', '#', '&', '*', '!', '|', '>', '\'', '"', '%',
    '@', '\x60', '+']

/-- Whether a colon stands in front of a blank or at the end, or a number sign behind a blank. -/
def hasMark : List Char → Bool
  | [] => false
  | [c] => c = ':'
  | c :: d :: cs => (c = ':' && d = ' ') || (c = ' ' && d = '#') || hasMark (d :: cs)

/-- Whether a string can stand as it is: it is not empty, does not start or end with a blank, looks
like no number, and holds nothing that means something. -/
def isPlain (s : String) : Bool :=
  match s.toList with
  | [] => false
  | c :: cs =>
    !reservedWords.contains s && !leadingMarks.contains c && !c.isDigit && c != ' ' &&
      !((c = '.') && (cs.headD ' ').isDigit) && (c :: cs).getLast? != some ' ' &&
      (c :: cs).all (fun d => 32 ≤ d.toNat && d.toNat != 127) && !hasMark (c :: cs)

/-- A character between single quotes. -/
def singleQuoted (c : Char) : List Char :=
  if c = '\'' then ['\'', '\''] else [c]

/-- A string of one line. -/
def lineText (s : String) : String :=
  if isPlain s then s
  else if s.toList.all (fun c => 32 ≤ c.toNat && c.toNat != 127) then
    "'" ++ String.ofList (s.toList.flatMap singleQuoted) ++ "'"
  else (Json.str s).text

/-- So many blanks. -/
def blanks (n : Nat) : String := String.ofList (List.replicate n ' ')

/-- A line of a string of several lines; an empty one has no blanks in front. -/
def deepLine (depth : Nat) (line : String) : String :=
  (if line.isEmpty then "" else blanks depth ++ line) ++ "\n"

/-- Whether a string stands on several lines: it has more than one, and the last one does not end
with a line break. -/
def hasLines (s : String) : Bool :=
  s.toList.contains '\n' && s.toList.getLast? != some '\n' &&
    s.toList.all (fun c => c = '\n' || (32 ≤ c.toNat && c.toNat != 127)) &&
    (s.toList.head?.any (fun c => c != ' ' && c != '\n'))

/-- A value without parts, behind a name or a dash. -/
def scalarText (depth : Nat) : Json → String
  | .str s =>
    if hasLines s then " |-\n" ++ String.join ((s.splitOn "\n").map (deepLine depth))
    else " " ++ lineText s ++ "\n"
  | v => " " ++ v.text ++ "\n"

/-! ### Values -/

/-- The blanks in front of a line, unless something stands there. -/
def margin (first : Bool) (depth : Nat) : String :=
  if first then "" else blanks depth

mutual

/-- A value behind a name that stands at a depth. -/
def behindName (depth : Nat) : Json → String
  | .arr [] => " []\n"
  | .arr (v :: vs) => "\n" ++ itemLines false depth (v :: vs)
  | .obj [] => " \x7b\x7d\n"
  | .obj (m :: ms) => "\n" ++ memberLines false (depth + 2) (m :: ms)
  | v => scalarText (depth + 2) v

/-- A value behind a dash that stands at a depth. -/
def behindDash (depth : Nat) : Json → String
  | .arr [] => " []\n"
  | .arr (v :: vs) => " " ++ itemLines true (depth + 2) (v :: vs)
  | .obj [] => " \x7b\x7d\n"
  | .obj (m :: ms) => " " ++ memberLines true (depth + 2) (m :: ms)
  | v => scalarText (depth + 2) v

/-- Items at a depth, each behind a dash. -/
def itemLines (first : Bool) (depth : Nat) : List Json → String
  | [] => ""
  | v :: vs => margin first depth ++ "-" ++ behindDash depth v ++ itemLines false depth vs

/-- Members at a depth, each behind its name. -/
def memberLines (first : Bool) (depth : Nat) : List (String × Json) → String
  | [] => ""
  | (name, v) :: ms =>
    margin first depth ++ lineText name ++ ":" ++ behindName depth v ++ memberLines false depth ms

end

/-- A value in indented lines. -/
def yaml : Json → String
  | .obj (m :: ms) => memberLines false 0 (m :: ms)
  | .arr (v :: vs) => itemLines false 0 (v :: vs)
  | .obj [] => "\x7b\x7d\n"
  | .arr [] => "[]\n"
  | .str s => lineText s ++ "\n"
  | v => v.text ++ "\n"

end Json

namespace Definition

/-- All definitions, each behind three dashes and in front of an empty line. -/
def manifests : String :=
  String.join ([machine, machineClass].map (fun d => "---\n" ++ d.toJson.yaml ++ "\n"))

end Definition

end BareMetal
