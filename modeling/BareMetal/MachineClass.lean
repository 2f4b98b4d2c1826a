import BareMetal.Machine

/-!
Machine classes: named sets of qualifiers, with a status that lists the machines
that satisfy them.

* `Qualifiers`: what a class asks for, in three independent categories;
* `MachineClassStatus`: the machines of a class, available ones and those in use;
* `MachineClass`: metadata, qualifiers and status;
* `ClassKey`: namespace and name of a class; keys are ordered by namespace, none
  first, then by name;
* `decode` and `toJson` beside each type: its JSON form.
-/

namespace BareMetal

/-! ### Classes -/

/-- What a class asks for. A machine belongs to it when it satisfies every category that is not
empty. -/
structure Qualifiers where
  /-- Processors, one of which has to match. -/
  cpu : List CpuInformation := []
  /-- Machines as a whole, one of which has to match. -/
  systemInformation : List SystemInformation := []
  /-- Sets of labels, one label of one of which has to be there. -/
  labelSelectors : List (SortedMap String String) := []
  deriving DecidableEq

/-- Whether nothing is asked for. -/
def Qualifiers.isEmpty (q : Qualifiers) : Bool :=
  q.cpu.isEmpty && q.systemInformation.isEmpty && q.labelSelectors.isEmpty

/-- What a class asks for, as its owner states it. -/
structure MachineClassSpec where
  /-- The qualifiers. -/
  qualifiers : Qualifiers := {}
  deriving DecidableEq

/-- The machines of a class. -/
structure MachineClassStatus where
  /-- The machines nobody has claimed. -/
  machinesAvailable : List String := []
  /-- The machines someone has claimed. -/
  machinesInUse : List String := []
  deriving DecidableEq

/-- A class of machines. -/
structure MachineClass where
  /-- Its metadata. -/
  metadata : ObjectMeta := {}
  /-- What it asks for. -/
  spec : MachineClassSpec := {}
  /-- The machines that satisfy it, once they have been determined. -/
  status : Option MachineClassStatus := none

/-! ### Keys -/

/-- Namespace and name of a class. -/
structure ClassKey where
  /-- The namespace, if there is one. -/
  scope : Option String
  /-- The name. -/
  name : String
  deriving DecidableEq

namespace ClassKey

instance : Ord ClassKey where
  compare := compareLex (compareOn ClassKey.scope) (compareOn ClassKey.name)

instance : Std.TransOrd ClassKey :=
  inferInstanceAs (Std.TransCmp (compareLex (compareOn ClassKey.scope) (compareOn ClassKey.name)))

/-- Keys that compare equal are equal. -/
theorem eq_of_compare {k l : ClassKey} (h : compare k l = .eq) : k = l := by
  have h : compareLex (compareOn ClassKey.scope) (compareOn ClassKey.name) k l = .eq := h
  rw [compareLex_eq_eq] at h
  have hs : k.scope = l.scope := Std.LawfulEqOrd.eq_of_compare h.1
  have hn : k.name = l.name := Std.LawfulEqOrd.eq_of_compare h.2
  cases k
  cases l
  simp_all

instance : Std.LawfulEqOrd ClassKey where
  eq_of_compare := eq_of_compare

/-- The key as text: the name, behind its namespace if there is one. -/
def text (k : ClassKey) : String :=
  match k.scope with
  | some ns => ns ++ "/" ++ k.name
  | none => k.name

/-- A reference to the class. -/
def reference (k : ClassKey) : ObjectReference := ⟨.classes, k.scope, k.name⟩

/-- The key of the class that a reference is to. -/
def ofReference (r : ObjectReference) : ClassKey := ⟨r.scope, r.name⟩

@[simp]
theorem ofReference_reference (k : ClassKey) : ofReference k.reference = k := rfl

end ClassKey

namespace MachineClass

/-- The key the class is found under. -/
def key (c : MachineClass) : ClassKey :=
  ⟨c.metadata.scope, c.metadata.displayName⟩

/-- The version of this copy of the class. -/
def version (c : MachineClass) : Option String :=
  c.metadata.resourceVersion

/-- The class as the copy with this version. -/
def withVersion (c : MachineClass) (version : String) : MachineClass :=
  { c with metadata := { c.metadata with resourceVersion := some version } }

end MachineClass

/-! ### JSON -/

open Decode

namespace Qualifiers

/-- The known fields. -/
def slots : List (Slot Qualifiers) :=
  [.optional "cpu" (list CpuInformation.decode) (fun x q => { q with cpu := x }),
    .optional "systemInformation" (list SystemInformation.decode)
      (fun x q => { q with systemInformation := x }),
    .optional "labelSelectors" (list stringMap) (fun x q => { q with labelSelectors := x })]

/-- Reads qualifiers. -/
def decode : Decoder Qualifiers := record "Qualifiers" slots {}

/-- An array, unless it is empty. -/
def nonEmpty {α : Type} (toJson : α → Json) (xs : List α) : Option Json :=
  if xs.isEmpty then none else some (.arr (xs.map toJson))

/-- The JSON form. -/
def toJson (q : Qualifiers) : Json :=
  Json.ofFields
    [("cpu", nonEmpty CpuInformation.toJson q.cpu),
      ("systemInformation", nonEmpty SystemInformation.toJson q.systemInformation),
      ("labelSelectors", nonEmpty Json.ofStringMap q.labelSelectors)]

end Qualifiers

namespace MachineClassSpec

/-- The known fields. -/
def slots : List (Slot MachineClassSpec) :=
  [.optional "qualifiers" Qualifiers.decode (fun x _ => { qualifiers := x })]

/-- Reads what a class asks for. -/
def decode : Decoder MachineClassSpec := record "MachineClassSpec" slots {}

/-- The JSON form. -/
def toJson (s : MachineClassSpec) : Json :=
  Json.ofFields [("qualifiers", some s.qualifiers.toJson)]

end MachineClassSpec

namespace MachineClassStatus

/-- The known fields. -/
def slots : List (Slot MachineClassStatus) :=
  [.optional "machinesAvailable" (list string) (fun x s => { s with machinesAvailable := x }),
    .optional "machinesInUse" (list string) (fun x s => { s with machinesInUse := x })]

/-- Reads the machines of a class. -/
def decode : Decoder MachineClassStatus := record "MachineClassStatus" slots {}

/-- The JSON form; lists are written even if they are empty, so that a write of the status empties
the lists that were there. -/
def toJson (s : MachineClassStatus) : Json :=
  Json.ofFields
    [("machinesAvailable", some (Json.ofStrings s.machinesAvailable)),
      ("machinesInUse", some (Json.ofStrings s.machinesInUse))]

end MachineClassStatus

namespace MachineClass

/-- The known fields; an array has to hold even the status. -/
def slots : List (Slot MachineClass) :=
  [.mandatory "metadata" ObjectMeta.decode (fun x c => { c with metadata := x }),
    .mandatory "spec" MachineClassSpec.decode (fun x c => { c with spec := x }),
    .positional "status" (optional MachineClassStatus.decode) (fun x c => { c with status := x })]

/-- Reads a class. -/
def decode : Decoder MachineClass := record "MachineClass" slots {}

/-- The JSON form. -/
def toJson (c : MachineClass) : Json :=
  Json.ofFields
    [("apiVersion", some (.str apiVersion)),
      ("kind", some (.str Resource.classes.kind)),
      ("metadata", some c.metadata.toJson),
      ("spec", some c.spec.toJson),
      ("status", c.status.map MachineClassStatus.toJson)]

end MachineClass

end BareMetal
