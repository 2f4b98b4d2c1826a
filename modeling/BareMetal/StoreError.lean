import BareMetal.MachineClass
import BareMetal.Span

/-!
Why a reconcile can fail.

* `ApiFailure`: what an interface server or the way to it answered instead of a
  result, and `ApiFailure.text`: how the client puts it;
* `StoreError`: the causes;
* `StoreError.kind`, `StoreError.message`, `StoreError.isConflict`: the short label
  of a cause, its wording, and whether a retry is cheap.
-/

namespace BareMetal

/-- A request that did not lead to a result. The text is how the client puts it. -/
inductive ApiFailure where
  /-- The server refused the request. -/
  | refused (code : Nat) (reason : String) (text : String)
  /-- The request could not be made, or the answer could not be understood. -/
  | broken (text : String)
  deriving DecidableEq

/-- The failure as the client puts it. -/
def ApiFailure.text : ApiFailure → String
  | .refused _ _ text => text
  | .broken text => text

/-- Why a reconcile, or a single call to a store, failed. -/
inductive StoreError where
  /-- The class is gone. -/
  | notFound (key : ClassKey)
  /-- The class has changed since it was read. -/
  | conflict (key : ClassKey)
  /-- The class was read without a version to guard the write with. -/
  | missingVersion (key : ClassKey)
  /-- The server did not do what it was asked. -/
  | api (failure : ApiFailure)
  /-- The store cannot be reached. -/
  | unavailable (text : String)
  /-- The call took longer than it may. -/
  | timeout (limit : Span)
  /-- A document does not have the right shape. -/
  | undecodable (problem : Problem)
  deriving DecidableEq

namespace StoreError

/-- The label under which the error is counted. -/
def kind : StoreError → String
  | .notFound _ => "not_found"
  | .conflict _ => "conflict"
  | .missingVersion _ => "missing_version"
  | .api _ => "kube"
  | .unavailable _ => "unavailable"
  | .timeout _ => "timeout"
  | .undecodable _ => "serialization"

/-- Whether the write lost a race, so that trying again soon will do. -/
def isConflict : StoreError → Bool
  | .conflict _ => true
  | _ => false

/-- The error in words. -/
def message : StoreError → String
  | .notFound key => "machine class not found: " ++ key.text
  | .conflict key => "version conflict writing status of " ++ key.text
  | .missingVersion key => "machine class " ++ key.text ++ " has no resource version"
  | .api failure => "Kubernetes error: " ++ failure.text
  | .unavailable text => "store unavailable: " ++ text
  | .timeout limit => "store call timed out after " ++ limit.text
  | .undecodable problem => "serialization error: " ++ problem.message

end StoreError

end BareMetal
