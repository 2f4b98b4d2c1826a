import BareMetal.Decode

/-!
Schemas: what JSON values of a kind look like.

* `Schema.Remarks`: what a schema says besides the shape of the values;
* `Schema`: the shapes;
* `Schema.toJson`: a schema as it is published.
-/

namespace BareMetal

/-- What a schema says besides the shape of the values. -/
structure Schema.Remarks where
  /-- What the values are. -/
  title : Option String := none
  /-- What they are for. -/
  description : Option String := none
  /-- The value that holds where none is given. -/
  default : Option Json := none
  /-- Whether there may be the null value instead. -/
  nullable : Bool := false

/-- What JSON values of a kind look like. -/
inductive Schema where
  /-- A truth value. -/
  | flag (r : Schema.Remarks)
  /-- A string. -/
  | text (r : Schema.Remarks)
  /-- An array of values of one kind. -/
  | list (r : Schema.Remarks) (items : Schema)
  /-- An object with values of one kind under any names. -/
  | dictionary (r : Schema.Remarks) (values : Schema)
  /-- An object with members of certain names, of which some have to be there. -/
  | record (r : Schema.Remarks) (required : List String) (properties : List (String × Schema))

namespace Schema

/-- Everything that is published about a schema, in order of the names. -/
def Remarks.toJson (r : Remarks) (kind : String) (values items properties : Option Json)
    (required : List String) : Json :=
  Json.ofFields [
    ("additionalProperties", values),
    ("default", r.default),
    ("description", r.description.map .str),
    ("items", items),
    ("nullable", if r.nullable then some (.bool true) else none),
    ("properties", properties),
    ("required", if required.isEmpty then none else some (.arr (required.map .str))),
    ("title", r.title.map .str),
    ("type", some (.str kind))]

mutual

/-- A schema as it is published. -/
def toJson : Schema → Json
  | .flag r => r.toJson "boolean" none none none []
  | .text r => r.toJson "string" none none none []
  | .list r items => r.toJson "array" none (some (toJson items)) none []
  | .dictionary r values => r.toJson "object" (some (toJson values)) none none []
  | .record r required properties =>
    r.toJson "object" none none (some (.obj (propertiesJson properties))) required

/-- The schemas of the members of an object. -/
def propertiesJson : List (String × Schema) → List (String × Json)
  | [] => []
  | (name, s) :: rest => (name, toJson s) :: propertiesJson rest

end

end Schema

end BareMetal
