import Mathlib.Data.List.TakeWhile
import Mathlib.Tactic.Lemma
import BareMetal.Api.Wire

/-!
The requests that a reconcile makes, and the keys for which they can be made.

A target may not hold everything: some characters cannot stand in it, two of them cut
it, and its length has a limit. A key without such characters is found where one looks
for it.

* `isPlain`, `Plain`: characters that stand for themselves in a path;
* `ofTarget_of_plain`, `ofTarget_of_question`: a target of such characters is its own
  path, and a question mark behind it makes the query empty;
* `classPath`, `Addressable`: where a class is found, and the keys that can be asked for;
* `fetchRequest`, `listRequest`, `statusRequest`: the three requests, and
  `getClass_eq`, `listAll_machines`, `writeStatus_eq`: they are the ones that are made;
* `Addressable.of_names`: names as a server allows them can always be asked for.
-/

namespace BareMetal.Api

/-! ### Targets -/

/-- A character that stands for itself in a path and does not end it. -/
def isPlain (c : Char) : Bool :=
  Request.isPathChar c && c != '?' && c != '#'

/-- A text of such characters only. -/
def Plain (path : String) : Prop := path.toList.all isPlain = true

instance (path : String) : Decidable (Plain path) :=
  inferInstanceAs (Decidable (path.toList.all isPlain = true))

variable {path rest : String} {method : Method} {body : Option Json}

lemma Plain.append (hpath : Plain path) (hrest : Plain rest) : Plain (path ++ rest) := by
  rw [Plain, String.toList_append, List.all_append, hpath, hrest]
  rfl

/-- Nothing is cut off in the middle of such a text. -/
lemma Plain.takeWhile_append (h : Plain path) {p : Char → Bool}
    (hp : ∀ c, isPlain c = true → p c = true) (rest : List Char) :
    (path.toList ++ rest).takeWhile p = path.toList ++ rest.takeWhile p :=
  List.takeWhile_append_of_pos fun c hc => hp c (List.all_eq_true.mp h c hc)

lemma ne_number_of_isPlain (c : Char) (h : isPlain c = true) : (c != '#') = true := by
  simp_all [isPlain]

lemma ne_question_of_isPlain (c : Char) (h : isPlain c = true) : (c != '?') = true := by
  simp_all [isPlain]

lemma isPathChar_of_isPlain (c : Char) (h : isPlain c = true) : Request.isPathChar c = true := by
  simp_all [isPlain]

lemma Plain.all_isPathChar (h : Plain path) : path.toList.all Request.isPathChar = true :=
  List.all_eq_true.mpr fun c hc => isPathChar_of_isPlain c (List.all_eq_true.mp h c hc)

/-- A target of plain characters is its own path. -/
lemma ofTarget_of_plain (h : Plain path) (hshort : path.utf8ByteSize < Request.targetLimit) :
    Request.ofTarget method path body = .ok ⟨method, path, none, body⟩ := by
  have hnumber : path.toList.takeWhile (· != '#') = path.toList := by
    simpa using h.takeWhile_append ne_number_of_isPlain []
  have hquestion : path.toList.takeWhile (· != '?') = path.toList := by
    simpa using h.takeWhile_append ne_question_of_isPlain []
  simp only [Request.ofTarget, hnumber, hquestion, h.all_isPathChar, if_neg (Nat.not_le.mpr hshort),
    List.drop_length, String.ofList_toList]
  rfl

/-- A question mark behind the path makes the query empty. -/
lemma ofTarget_of_question (h : Plain path)
    (hshort : (path ++ "?").utf8ByteSize < Request.targetLimit) :
    Request.ofTarget method (path ++ "?") body = .ok ⟨method, path, some "", body⟩ := by
  have htarget : (path ++ "?").toList = path.toList ++ ['?'] := String.toList_append
  have hnumber : (path.toList ++ ['?']).takeWhile (· != '#') = path.toList ++ ['?'] :=
    h.takeWhile_append ne_number_of_isPlain ['?']
  have hquestion : (path.toList ++ ['?']).takeWhile (· != '?') = path.toList := by
    simpa using h.takeWhile_append ne_question_of_isPlain ['?']
  simp only [Request.ofTarget, htarget, hnumber, hquestion, h.all_isPathChar,
    if_neg (Nat.not_le.mpr hshort), List.drop_left, String.ofList_toList]
  rfl

/-! ### Keys -/

/-- Where a class is found. -/
def classPath (fallback : String) (key : ClassKey) : String :=
  Request.classesIn (Wire.scopeOf fallback key) ++ "/" ++ key.name

/-- **Addressable**: a key whose class can be asked for. Its name and its namespace (or the one
that stands for none) have no characters that a target cannot hold, and are not too long. -/
structure Addressable (fallback : String) (key : ClassKey) : Prop where
  /-- There is a name. -/
  named : key.name ≠ ""
  /-- The namespace stands for itself in a path. -/
  scope : Plain (Wire.scopeOf fallback key)
  /-- So does the name. -/
  name : Plain key.name
  /-- The longest target, that of a write, is short enough. -/
  short : (classPath fallback key ++ "/status" ++ "?").utf8ByteSize < Request.targetLimit

variable {fallback : String} {key : ClassKey}

lemma plain_classesIn {scope : String} (h : Plain scope) : Plain (Request.classesIn scope) := by
  have hfront : Plain ("/apis/" ++ apiVersion ++ "/") := by decide +kernel
  have hscope : Plain ("namespaces/" ++ scope ++ "/") :=
    (Plain.append (by decide +kernel) h).append (by decide +kernel)
  exact (hfront.append hscope).append (by decide +kernel)

lemma Addressable.plain_classPath (h : Addressable fallback key) : Plain (classPath fallback key) :=
  ((plain_classesIn h.scope).append (by decide +kernel)).append h.name

/-! ### The requests of a reconcile -/

/-- Reads a class. -/
def fetchRequest (fallback : String) (key : ClassKey) : Request :=
  ⟨.get, classPath fallback key, none, none⟩

/-- Lists all machines. -/
def listRequest : Request :=
  ⟨.get, "/apis/metalclass.dev/v1alpha1/machines", some "", none⟩

/-- Writes a status over a version. -/
def statusRequest (fallback : String) (key : ClassKey) (version : String)
    (status : MachineClassStatus) : Request :=
  ⟨.patch, classPath fallback key ++ "/status", some "",
    some (.obj [("metadata", .obj [("resourceVersion", .str version)]),
      ("status", status.toJson)])⟩

lemma Addressable.getClass_eq (h : Addressable fallback key) :
    Request.getClass (Wire.scopeOf fallback key) key.name = .ok (fetchRequest fallback key) := by
  have hshort : (classPath fallback key).utf8ByteSize < Request.targetLimit := by
    have hlong := h.short
    rw [String.utf8ByteSize_append, String.utf8ByteSize_append] at hlong
    omega
  rw [Request.getClass, if_neg (by simpa using h.named)]
  exact ofTarget_of_plain h.plain_classPath hshort

lemma listAll_machines : Request.listAll Request.machines = .ok listRequest :=
  ofTarget_of_question (by decide +kernel) (by decide +kernel)

lemma Addressable.writeStatus_eq (h : Addressable fallback key) (version : String)
    (status : MachineClassStatus) :
    Request.writeStatus (Wire.scopeOf fallback key) key.name version status =
      .ok (statusRequest fallback key version status) := by
  have hplain : Plain (classPath fallback key ++ "/status") :=
    h.plain_classPath.append (by decide +kernel)
  have htarget : classPath fallback key ++ "/status?" =
      classPath fallback key ++ "/status" ++ "?" := by
    rw [String.append_assoc]
    rfl
  rw [Request.writeStatus, if_neg (by simpa using h.named)]
  change Request.ofTarget .patch (classPath fallback key ++ "/status?") _ = _
  rw [htarget]
  exact ofTarget_of_question hplain h.short

/-! ### Names -/

/-- A character of a name that a server allows. -/
def isNameChar (c : Char) : Bool := c.isLower || c.isDigit || c == '-' || c == '.'

/-- Letters and digits are plain: the characters that are not have other numbers. -/
lemma isPlain_of_toNat {c : Char}
    (h : 48 ≤ c.toNat ∧ c.toNat ≤ 57 ∨ 97 ≤ c.toNat ∧ c.toNat ≤ 122) : isPlain c = true := by
  have hne : ∀ d : Char, (d.toNat < 48 ∨ 57 < d.toNat ∧ d.toNat < 97) → c ≠ d := by
    rintro d hd rfl
    omega
  have hrange : 0x21 ≤ c.toNat ∧ c.toNat ≠ 0x7F := by omega
  simp [isPlain, Request.isPathChar, hrange, hne '<' (by decide), hne '>' (by decide),
    hne '\x60' (by decide), hne '?' (by decide), hne '#' (by decide)]

lemma isPlain_of_isNameChar {c : Char} (h : isNameChar c = true) : isPlain c = true := by
  simp only [isNameChar, Bool.or_eq_true, beq_iff_eq] at h
  obtain ((hlower | hdigit) | rfl) | rfl := h
  · obtain ⟨hlow, hhigh⟩ := Bool.and_eq_true_iff.mp hlower
    exact isPlain_of_toNat (Or.inr ⟨of_decide_eq_true hlow, of_decide_eq_true hhigh⟩)
  · exact isPlain_of_toNat (Or.inl (Char.isDigit_iff_toNat.mp hdigit))
  · decide
  · decide

lemma plain_of_names (h : path.toList.all isNameChar = true) : Plain path :=
  List.all_eq_true.mpr fun c hc => isPlain_of_isNameChar (List.all_eq_true.mp h c hc)

/-- **Names can be asked for**: a key with a name of up to 253 bytes and a namespace of up to 63,
both of the characters that a server allows in names, is addressable. -/
lemma Addressable.of_names (hnamed : key.name ≠ "")
    (hscope : (Wire.scopeOf fallback key).toList.all isNameChar = true)
    (hname : key.name.toList.all isNameChar = true)
    (hscope63 : (Wire.scopeOf fallback key).utf8ByteSize ≤ 63)
    (hname253 : key.name.utf8ByteSize ≤ 253) : Addressable fallback key where
  named := hnamed
  scope := plain_of_names hscope
  name := plain_of_names hname
  short := by
    have hconst : ("/apis/" ++ apiVersion ++ "/").utf8ByteSize + "namespaces/".utf8ByteSize +
        "/".utf8ByteSize + Resource.classes.plural.utf8ByteSize + "/".utf8ByteSize +
          "/status".utf8ByteSize + "?".utf8ByteSize = 65 := by decide +kernel
    have hlimit : Request.targetLimit = 65535 := rfl
    simp only [classPath, Request.classesIn, Resource.path, Option.map_some, Option.getD_some,
      String.utf8ByteSize_append] at hconst ⊢
    omega

end BareMetal.Api
