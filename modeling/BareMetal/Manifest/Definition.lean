import BareMetal.Manifest.Schema
import BareMetal.Resource

/-!
The definitions of the kinds of objects, as an interface server is given them.

* `Definition`: a kind with its columns and the schema of its objects;
* `Definition.machine`, `Definition.machineClass`: the two definitions;
* `Definition.toJson`: a definition as it is published.

Members stand in order of their names.
-/

namespace BareMetal

/-- A column in which a value of each object is shown. -/
structure Column where
  /-- What stands above it. -/
  name : String
  /-- What kind of value it holds. -/
  kind : String
  /-- Where the value is found. -/
  path : String

/-- The definition of a kind of objects. -/
structure Definition where
  /-- The kind. -/
  resource : Resource
  /-- The columns. -/
  columns : List Column
  /-- What the objects look like. -/
  schema : Schema

namespace Definition

/-! ### Schemas -/

/-- A string that may be absent. -/
def optionalText : Schema := .text { nullable := true }

/-- The fields of a processor's descriptor. -/
def cpuProperties : List (String × Schema) :=
  [("manufacturer", optionalText), ("version", optionalText)]

/-- The fields of a machine's descriptor. -/
def systemProperties : List (String × Schema) :=
  [("family", optionalText), ("manufacturer", optionalText), ("productName", optionalText),
    ("serialNumber", optionalText), ("skuNumber", optionalText), ("version", optionalText)]

/-- What is known about a machine. -/
def machineSpec : Schema :=
  .record {
    description := some (
      "Machine represents a discovered physical host.\n\n" ++
      "A machine is invisible to every class until it has been accepted. " ++
      "The hardware facts it carries are what class qualifiers match against: " ++
      "- CPU descriptor - System (SMBIOS) information - Labels on the object metadata") }
    []
    [("accepted", .flag {
        description := some "Only accepted machines are eligible for any class."
        default := some (.bool false) }),
      ("cpu", .record {
        description := some "CPU descriptor reported by the machine."
        nullable := true } [] cpuProperties),
      ("systemInformation", .record {
        description := some "System information reported by the machine."
        nullable := true } [] systemProperties)]

/-- The use of a machine. -/
def machineStatus : Schema :=
  .record {
    description := some "Runtime state of a machine, set by whoever claims it."
    nullable := true }
    []
    [("inUse", .flag { default := some (.bool false) })]

/-- What a class asks for. -/
def qualifiers : Schema :=
  .record {
    description := some
      "Hardware and label qualifiers. Empty qualifiers match every accepted machine."
    default := some (.obj []) }
    []
    [("cpu", .list {
        description := some
          "Accepted CPU descriptors; a machine must partially match at least one." }
        (.record {
          description := some (
            "CPU descriptor.\n\nUsed both as a machine fact and as a class qualifier. " ++
            "As a qualifier, unset fields match anything.") } [] cpuProperties)),
      ("labelSelectors", .list {
        description := some (
          "Label selectors; a machine must carry at least one key/value pair from any " ++
          "selector.") }
        (.dictionary {} (.text {}))),
      ("systemInformation", .list {
        description := some (
          "Accepted system information descriptors; a machine must partially match at " ++
          "least one.") }
        (.record {
          description := some (
            "System information descriptor.\n\nSame wildcard rules as " ++
            "[\x60CpuInformation\x60].") } [] systemProperties))]

/-- The specification of a class. -/
def classSpec : Schema :=
  .record {
    description := some (
      "MachineClass lets an operator ask for \"any machine like this\" instead of naming " ++
      "machines.\n\nThe status is a derived view owned by the operator. " ++
      "It can be recomputed from the current set of machines at any time.") }
    []
    [("qualifiers", qualifiers)]

/-- A list of machines, empty where none is given. -/
def machineList : Schema :=
  .list { default := some (.arr []) } (.text {})

/-- The status of a class. -/
def classStatus : Schema :=
  .record {
    description := some (
      "Machines currently matching the class, split by claim status.\n\n" ++
      "Both lists are sorted ascending and never share a name. " ++
      "Empty lists are serialized so that a status patch clears stale entries.")
    nullable := true }
    []
    [("machinesAvailable", machineList), ("machinesInUse", machineList)]

/-- The schema of whole objects: they have to have a specification. -/
def objectSchema (r : Resource) (spec status : Schema) : Schema :=
  .record {
    title := some r.kind
    description := some (
      "Auto-generated derived type for " ++ r.kind ++ "Spec via \x60CustomResource\x60") }
    ["spec"]
    [("spec", spec), ("status", status)]

/-! ### The definitions -/

/-- The column of the time since an object was made. -/
def age : Column := ⟨"Age", "date", ".metadata.creationTimestamp"⟩

/-- The definition of the machines. -/
def machine : Definition where
  resource := .machines
  columns :=
    [⟨"Accepted", "boolean", ".spec.accepted"⟩, ⟨"In Use", "boolean", ".status.inUse"⟩, age]
  schema := objectSchema .machines machineSpec machineStatus

/-- The definition of the classes. -/
def machineClass : Definition where
  resource := .classes
  columns :=
    [⟨"Available", "string", ".status.machinesAvailable"⟩,
      ⟨"In Use", "string", ".status.machinesInUse"⟩, age]
  schema := objectSchema .classes classSpec classStatus

/-! ### JSON -/

/-- A column as it is published. -/
def columnJson (c : Column) : Json :=
  .obj [("jsonPath", .str c.path), ("name", .str c.name), ("type", .str c.kind)]

/-- The names of a kind as they are published. -/
def namesJson (r : Resource) : Json :=
  .obj [("categories", .arr []), ("kind", .str r.kind), ("plural", .str r.plural),
    ("shortNames", .arr (r.shortNames.map .str)), ("singular", .str r.singular)]

/-- The form of a kind's objects as it is published: the only version is the one that is stored, and
the status is written on its own. -/
def versionJson (d : Definition) : Json :=
  .obj [
    ("additionalPrinterColumns", .arr (d.columns.map columnJson)),
    ("name", .str formVersion),
    ("schema", .obj [("openAPIV3Schema", d.schema.toJson)]),
    ("served", .bool true),
    ("storage", .bool true),
    ("subresources", .obj [("status", .obj [])])]

/-- A definition as it is published. -/
def toJson (d : Definition) : Json :=
  .obj [
    ("apiVersion", .str "apiextensions.k8s.io/v1"),
    ("kind", .str "CustomResourceDefinition"),
    ("metadata", .obj [("name", .str d.resource.fullName)]),
    ("spec", .obj [
      ("group", .str apiGroup),
      ("names", namesJson d.resource),
      ("scope", .str (if d.resource.namespaced then "Namespaced" else "Cluster")),
      ("versions", .arr [d.versionJson])])]

end Definition

end BareMetal
