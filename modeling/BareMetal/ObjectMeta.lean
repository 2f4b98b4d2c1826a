import BareMetal.Decode
import BareMetal.Timestamp

/-!
What every stored object carries beside its own fields: names, labels, versions,
owners and times.

* `OwnerReference`, `ManagedFields`, `ObjectMeta`: the parts;
* `ObjectMeta.displayName`: the name an object goes by;
* `ObjectMeta.decode` and `ObjectMeta.toJson`: its JSON form, in which every field
  may be left out and the fields stand in order of their names.
-/

namespace BareMetal

/-- Another object that owns this one. -/
structure OwnerReference where
  /-- The version of the owner's interface. -/
  apiVersion : String := ""
  /-- Whether deleting the owner waits for this object. -/
  blockOwnerDeletion : Option Bool := none
  /-- Whether the owner manages this object. -/
  controller : Option Bool := none
  /-- The owner's kind. -/
  kind : String := ""
  /-- The owner's name. -/
  name : String := ""
  /-- The owner's identifier. -/
  uid : String := ""
  deriving DecidableEq

/-- Which fields of an object a writer looks after. -/
structure ManagedFields where
  /-- The version of the interface the fields belong to. -/
  apiVersion : Option String := none
  /-- The kind of field set. -/
  fieldsType : Option String := none
  /-- The field set. -/
  fieldsV1 : Option Json := none
  /-- The writer. -/
  manager : Option String := none
  /-- How the fields were written. -/
  operation : Option String := none
  /-- The part of the object that was written. -/
  subresource : Option String := none
  /-- When the fields were last written. -/
  time : Option Timestamp := none

/-- The metadata of an object. -/
structure ObjectMeta where
  /-- Free notes. -/
  annotations : Option (SortedMap String String) := none
  /-- When the object was created. -/
  creationTimestamp : Option Timestamp := none
  /-- How long a deletion may take. -/
  deletionGracePeriodSeconds : Option Int := none
  /-- When the object will be deleted. -/
  deletionTimestamp : Option Timestamp := none
  /-- Who has to agree to a deletion. -/
  finalizers : Option (List String) := none
  /-- The start of a name to be generated. -/
  generateName : Option String := none
  /-- How often the wanted state has changed. -/
  generation : Option Int := none
  /-- The labels. -/
  labels : Option (SortedMap String String) := none
  /-- Who writes which fields. -/
  managedFields : Option (List ManagedFields) := none
  /-- The name. -/
  name : Option String := none
  /-- The namespace. -/
  scope : Option String := none
  /-- The objects that own this one. -/
  ownerReferences : Option (List OwnerReference) := none
  /-- The version of the stored copy. -/
  resourceVersion : Option String := none
  /-- The object's address. -/
  selfLink : Option String := none
  /-- The object's identifier. -/
  uid : Option String := none

namespace Decode

/-- A point in time. -/
def timestamp : Decoder Timestamp := fun _ d =>
  match d with
  | .str s =>
    match Timestamp.ofText s with
    | .ok t => .ok t
    | .error f => .error (.noTime f.message)
  | d => refuse "an RFC 3339 formatted date and time string" d

end Decode

namespace OwnerReference

open Decode

/-- The known fields. -/
def slots : List (Slot OwnerReference) :=
  [.optional "apiVersion" (optional string) (fun x o => { o with apiVersion := x.getD "" }),
    .optional "blockOwnerDeletion" (optional bool) (fun x o => { o with blockOwnerDeletion := x }),
    .optional "controller" (optional bool) (fun x o => { o with controller := x }),
    .optional "kind" (optional string) (fun x o => { o with kind := x.getD "" }),
    .optional "name" (optional string) (fun x o => { o with name := x.getD "" }),
    .optional "uid" (optional string) (fun x o => { o with uid := x.getD "" })]

/-- Reads an owner. -/
def decode : Decoder OwnerReference := keyed "OwnerReference" slots {}

/-- The JSON form. -/
def toJson (o : OwnerReference) : Json :=
  Json.ofFields
    [("apiVersion", some (.str o.apiVersion)),
      ("blockOwnerDeletion", o.blockOwnerDeletion.map .bool),
      ("controller", o.controller.map .bool),
      ("kind", some (.str o.kind)),
      ("name", some (.str o.name)),
      ("uid", some (.str o.uid))]

end OwnerReference

namespace ManagedFields

open Decode

/-- The known fields. -/
def slots : List (Slot ManagedFields) :=
  [.optional "apiVersion" (optional string) (fun x o => { o with apiVersion := x }),
    .optional "fieldsType" (optional string) (fun x o => { o with fieldsType := x }),
    .optional "fieldsV1" (optional json) (fun x o => { o with fieldsV1 := x }),
    .optional "manager" (optional string) (fun x o => { o with manager := x }),
    .optional "operation" (optional string) (fun x o => { o with operation := x }),
    .optional "subresource" (optional string) (fun x o => { o with subresource := x }),
    .optional "time" (optional timestamp) (fun x o => { o with time := x })]

/-- Reads who writes which fields. -/
def decode : Decoder ManagedFields := keyed "ManagedFieldsEntry" slots {}

/-- The JSON form. -/
def toJson (m : ManagedFields) : Json :=
  Json.ofFields
    [("apiVersion", m.apiVersion.map .str),
      ("fieldsType", m.fieldsType.map .str),
      ("fieldsV1", m.fieldsV1),
      ("manager", m.manager.map .str),
      ("operation", m.operation.map .str),
      ("subresource", m.subresource.map .str),
      ("time", m.time.map (fun t => .str t.text))]

end ManagedFields

namespace ObjectMeta

open Decode

/-- The name an object goes by: its own, else the start of the one to be generated. -/
def displayName (m : ObjectMeta) : String :=
  (m.name.or m.generateName).getD ""

/-- The labels; none are the same as an empty set of them. -/
def labelMap (m : ObjectMeta) : SortedMap String String :=
  m.labels.getD .empty

/-- The known fields. -/
def slots : List (Slot ObjectMeta) :=
  [.optional "annotations" (optional stringMap) (fun x m => { m with annotations := x }),
    .optional "creationTimestamp" (optional timestamp)
      (fun x m => { m with creationTimestamp := x }),
    .optional "deletionGracePeriodSeconds" (optional int64)
      (fun x m => { m with deletionGracePeriodSeconds := x }),
    .optional "deletionTimestamp" (optional timestamp)
      (fun x m => { m with deletionTimestamp := x }),
    .optional "finalizers" (optional (list string)) (fun x m => { m with finalizers := x }),
    .optional "generateName" (optional string) (fun x m => { m with generateName := x }),
    .optional "generation" (optional int64) (fun x m => { m with generation := x }),
    .optional "labels" (optional stringMap) (fun x m => { m with labels := x }),
    .optional "managedFields" (optional (list ManagedFields.decode))
      (fun x m => { m with managedFields := x }),
    .optional "name" (optional string) (fun x m => { m with name := x }),
    .optional "namespace" (optional string) (fun x m => { m with scope := x }),
    .optional "ownerReferences" (optional (list OwnerReference.decode))
      (fun x m => { m with ownerReferences := x }),
    .optional "resourceVersion" (optional string) (fun x m => { m with resourceVersion := x }),
    .optional "selfLink" (optional string) (fun x m => { m with selfLink := x }),
    .optional "uid" (optional string) (fun x m => { m with uid := x })]

/-- Reads the metadata. -/
def decode : Decoder ObjectMeta := keyed "ObjectMeta" slots {}

/-- The JSON form. -/
def toJson (m : ObjectMeta) : Json :=
  Json.ofFields
    [("annotations", m.annotations.map Json.ofStringMap),
      ("creationTimestamp", m.creationTimestamp.map (fun t => .str t.text)),
      ("deletionGracePeriodSeconds", m.deletionGracePeriodSeconds.map Json.ofInt),
      ("deletionTimestamp", m.deletionTimestamp.map (fun t => .str t.text)),
      ("finalizers", m.finalizers.map Json.ofStrings),
      ("generateName", m.generateName.map .str),
      ("generation", m.generation.map Json.ofInt),
      ("labels", m.labels.map Json.ofStringMap),
      ("managedFields", m.managedFields.map (fun ms => .arr (ms.map ManagedFields.toJson))),
      ("name", m.name.map .str),
      ("namespace", m.scope.map .str),
      ("ownerReferences", m.ownerReferences.map (fun os => .arr (os.map OwnerReference.toJson))),
      ("resourceVersion", m.resourceVersion.map .str),
      ("selfLink", m.selfLink.map .str),
      ("uid", m.uid.map .str)]

end ObjectMeta

end BareMetal
