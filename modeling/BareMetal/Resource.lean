/-!
The kinds of objects that an interface server keeps for the operator.

* `Resource`: a kind with its names;
* `Resource.machines`, `Resource.classes`: the two kinds there are;
* `Resource.path`: where the objects of a kind are found;
* `ObjectReference`: one object of a kind.
-/

namespace BareMetal

/-- The group that all kinds belong to. -/
def apiGroup : String := "metalclass.dev"

/-- The version of their form. -/
def formVersion : String := "v1alpha1"

/-- The version of the interface that all objects here belong to. -/
def apiVersion : String := apiGroup ++ "/" ++ formVersion

/-- A kind of objects. -/
structure Resource where
  /-- The name of the kind. -/
  kind : String
  /-- What one object is called. -/
  singular : String
  /-- What several objects are called. -/
  plural : String
  /-- Shorter names. -/
  shortNames : List String
  /-- Whether the objects are in namespaces. -/
  namespaced : Bool

namespace Resource

/-- The machines. They are in no namespace. -/
def machines : Resource where
  kind := "Machine"
  singular := "machine"
  plural := "machines"
  shortNames := []
  namespaced := false

/-- The classes. -/
def classes : Resource where
  kind := "MachineClass"
  singular := "machineclass"
  plural := "machineclasses"
  shortNames := ["mclass"]
  namespaced := true

/-- The full name of a kind. -/
def fullName (r : Resource) : String := r.plural ++ "." ++ apiGroup

/-- Where the objects of a kind are found, in all namespaces or in one. -/
def path (r : Resource) (scope : Option String) : String :=
  "/apis/" ++ apiVersion ++ "/" ++
    ((scope.map (fun s => "namespaces/" ++ s ++ "/")).getD "") ++ r.plural

end Resource

/-- One object of a kind. -/
structure ObjectReference where
  /-- The kind. -/
  resource : Resource
  /-- The namespace, if there is one. -/
  scope : Option String
  /-- The name. -/
  name : String

/-- The reference as text: the kind, its version and group, the name, and the namespace. -/
def ObjectReference.text (r : ObjectReference) : String :=
  r.resource.kind ++ "." ++ formVersion ++ "." ++ apiGroup ++ "/" ++ r.name ++
    ((r.scope.map (fun ns => "." ++ ns)).getD "")

end BareMetal
