import BareMetal.ObjectMeta
import BareMetal.Resource

/-!
Machines: the physical hosts that were discovered, with the facts about their
hardware.

* `CpuInformation`, `SystemInformation`: descriptors, which are facts about a
  machine and also what a class asks for;
* `partialMatches`: whether a descriptor agrees with another wherever it says
  something;
* `Machine`: metadata, acceptance, facts and use;
* `decode` and `toJson` beside each type: its JSON form.
-/

namespace BareMetal

/-! ### Descriptors -/

/-- What is known, or asked, about a processor. -/
structure CpuInformation where
  /-- Who made it. -/
  manufacturer : Option String := none
  /-- Its model. -/
  version : Option String := none
  deriving DecidableEq

/-- What is known, or asked, about a machine as a whole. -/
structure SystemInformation where
  /-- Who made it. -/
  manufacturer : Option String := none
  /-- The product it is. -/
  productName : Option String := none
  /-- The version of the product. -/
  version : Option String := none
  /-- Its serial number. -/
  serialNumber : Option String := none
  /-- Its stock number. -/
  skuNumber : Option String := none
  /-- The family of the product. -/
  family : Option String := none
  deriving DecidableEq

/-- Whether a wanted value is met: an absent or empty one always is, any other one only by
itself. -/
def fieldMatches (wanted actual : Option String) : Bool :=
  match wanted with
  | none => true
  | some w => w == "" || actual == some w

/-- Whether the other descriptor has every value that this one asks for. -/
def CpuInformation.partialMatches (wanted actual : CpuInformation) : Bool :=
  fieldMatches wanted.manufacturer actual.manufacturer &&
    fieldMatches wanted.version actual.version

/-- Whether the other descriptor has every value that this one asks for. -/
def SystemInformation.partialMatches (wanted actual : SystemInformation) : Bool :=
  fieldMatches wanted.manufacturer actual.manufacturer &&
    fieldMatches wanted.productName actual.productName &&
    fieldMatches wanted.version actual.version &&
    fieldMatches wanted.serialNumber actual.serialNumber &&
    fieldMatches wanted.skuNumber actual.skuNumber &&
    fieldMatches wanted.family actual.family

/-! ### Machines -/

/-- What is known about a machine. -/
structure MachineSpec where
  /-- Whether classes may list the machine. -/
  accepted : Bool := false
  /-- Its processor. -/
  cpu : Option CpuInformation := none
  /-- The machine as a whole. -/
  systemInformation : Option SystemInformation := none
  deriving DecidableEq

/-- What is going on with a machine. -/
structure MachineStatus where
  /-- Whether someone has claimed it. -/
  inUse : Bool := false
  deriving DecidableEq

/-- A discovered host. -/
structure Machine where
  /-- Its metadata. -/
  metadata : ObjectMeta := {}
  /-- What is known about it. -/
  spec : MachineSpec := {}
  /-- What is going on with it. -/
  status : Option MachineStatus := none

namespace Machine

/-- The name the machine goes by. -/
def name (m : Machine) : String := m.metadata.displayName

/-- Whether someone has claimed the machine; without a status nobody has. -/
def inUse (m : Machine) : Bool :=
  match m.status with
  | some s => s.inUse
  | none => false

/-- The labels of the machine. -/
def labels (m : Machine) : SortedMap String String := m.metadata.labelMap

/-- The machine as the copy with this version. -/
def withVersion (m : Machine) (version : String) : Machine :=
  { m with metadata := { m.metadata with resourceVersion := some version } }

end Machine

/-! ### JSON -/

open Decode

namespace CpuInformation

/-- The known fields. -/
def slots : List (Slot CpuInformation) :=
  [.optional "manufacturer" (optional string) (fun x c => { c with manufacturer := x }),
    .optional "version" (optional string) (fun x c => { c with version := x })]

/-- Reads the descriptor. -/
def decode : Decoder CpuInformation := record "CpuInformation" slots {}

/-- The JSON form. -/
def toJson (c : CpuInformation) : Json :=
  Json.ofFields [("manufacturer", c.manufacturer.map .str), ("version", c.version.map .str)]

end CpuInformation

namespace SystemInformation

/-- The known fields. -/
def slots : List (Slot SystemInformation) :=
  [.optional "manufacturer" (optional string) (fun x s => { s with manufacturer := x }),
    .optional "productName" (optional string) (fun x s => { s with productName := x }),
    .optional "version" (optional string) (fun x s => { s with version := x }),
    .optional "serialNumber" (optional string) (fun x s => { s with serialNumber := x }),
    .optional "skuNumber" (optional string) (fun x s => { s with skuNumber := x }),
    .optional "family" (optional string) (fun x s => { s with family := x })]

/-- Reads the descriptor. -/
def decode : Decoder SystemInformation := record "SystemInformation" slots {}

/-- The JSON form. -/
def toJson (s : SystemInformation) : Json :=
  Json.ofFields
    [("manufacturer", s.manufacturer.map .str),
      ("productName", s.productName.map .str),
      ("version", s.version.map .str),
      ("serialNumber", s.serialNumber.map .str),
      ("skuNumber", s.skuNumber.map .str),
      ("family", s.family.map .str)]

end SystemInformation

namespace MachineSpec

/-- The known fields. -/
def slots : List (Slot MachineSpec) :=
  [.optional "accepted" bool (fun x s => { s with accepted := x }),
    .optional "cpu" (optional CpuInformation.decode) (fun x s => { s with cpu := x }),
    .optional "systemInformation" (optional SystemInformation.decode)
      (fun x s => { s with systemInformation := x })]

/-- Reads what is known about a machine. -/
def decode : Decoder MachineSpec := record "MachineSpec" slots {}

/-- The JSON form. -/
def toJson (s : MachineSpec) : Json :=
  Json.ofFields
    [("accepted", some (.bool s.accepted)),
      ("cpu", s.cpu.map CpuInformation.toJson),
      ("systemInformation", s.systemInformation.map SystemInformation.toJson)]

end MachineSpec

namespace MachineStatus

/-- The known fields. -/
def slots : List (Slot MachineStatus) :=
  [.optional "inUse" bool (fun x _ => { inUse := x })]

/-- Reads what is going on with a machine. -/
def decode : Decoder MachineStatus := record "MachineStatus" slots {}

/-- The JSON form. -/
def toJson (s : MachineStatus) : Json :=
  Json.ofFields [("inUse", some (.bool s.inUse))]

end MachineStatus

namespace Machine

/-- The known fields; an array has to hold even the status. -/
def slots : List (Slot Machine) :=
  [.mandatory "metadata" ObjectMeta.decode (fun x m => { m with metadata := x }),
    .mandatory "spec" MachineSpec.decode (fun x m => { m with spec := x }),
    .positional "status" (optional MachineStatus.decode) (fun x m => { m with status := x })]

/-- Reads a machine. -/
def decode : Decoder Machine := record "Machine" slots {}

/-- The JSON form. -/
def toJson (m : Machine) : Json :=
  Json.ofFields
    [("apiVersion", some (.str apiVersion)),
      ("kind", some (.str Resource.machines.kind)),
      ("metadata", some m.metadata.toJson),
      ("spec", some m.spec.toJson),
      ("status", m.status.map MachineStatus.toJson)]

end Machine

end BareMetal
