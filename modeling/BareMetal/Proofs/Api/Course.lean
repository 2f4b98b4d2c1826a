import BareMetal.Proofs.Api.Target
import BareMetal.Proofs.Reconcile.Step

/-!
A reconcile over a server, for every script of replies.

* `Wire.after`: the way to a server on which some requests have been made, and
  `call_after`: the next request is answered by the next reply;
* `fetched`, `listed`, `written`: what the replies to the three requests come to, and
  `Due`: the write that they call for;
* `Course`: the ways in which a reconcile can go, each with its requests and its end;
* `Course.total`, `Course.reconcile`, `Course.unique`: there is one for all replies, **a
  reconcile takes it**, and there is only one.
-/

namespace BareMetal.Api

/-! ### Requests and replies -/

/-- What a request comes to: an object or a failure, and nothing as long as no reply to it has
ended. -/
def answer {α : Type} (d : Decoder α) (reply : Option Reply) : Option (Except ApiFailure α) :=
  reply.bind fun r => if r.isWhole then some (r.decode d) else none

namespace Wire

/-- The way to a server on which these requests have been made: each has the reply whose turn it
was. -/
def after (replies : List Reply) (requests : List Request) : Wire where
  replies := replies.drop requests.length
  exchanges := requests.mapIdx fun i r => ⟨r, replies[i]?⟩

/-- These are the requests that were made. -/
lemma requests_after (replies : List Reply) (requests : List Request) :
    (after replies requests).exchanges.map Exchange.request = requests := by
  apply List.ext_getElem
  · simp [after]
  · intro i h h'
    simp [after]

/-- The next request is answered by the next reply. -/
lemma call_after {α : Type} (replies : List Reply) (requests : List Request) (r : Request)
    (d : Decoder α) :
    (after replies requests).call (.ok r) d =
      (answer d replies[requests.length]?, after replies (requests ++ [r])) := by
  have hnext : replies[requests.length]? = (replies.drop requests.length).head? := by
    rw [List.head?_drop]
  have hrest : replies.drop (requests ++ [r]).length = (replies.drop requests.length).tail := by
    rw [List.tail_drop, List.length_append, List.length_singleton]
  simp only [after, call, ask, hrest, hnext, List.mapIdx_concat]
  cases replies.drop requests.length with
  | nil => rfl
  | cons reply rest => rfl

end Wire

/-! ### What the replies come to -/

/-- The class that was read. -/
def fetched (replies : List Reply) : Option (Except ApiFailure MachineClass) :=
  answer MachineClass.decode replies[0]?

/-- The machines that were listed. -/
def listed (replies : List Reply) : Option (Except ApiFailure (Page Machine)) :=
  answer (Page.decode Machine.decode) replies[1]?

/-- The class as it was written. -/
def written (replies : List Reply) : Option (Except ApiFailure MachineClass) :=
  answer MachineClass.decode replies[2]?

/-- **Due**: the class that was read has this version, and another status than this one, which its
qualifiers and the listed machines give. -/
def Due (replies : List Reply) (version : String) (status : MachineClassStatus) : Prop :=
  ∃ c page, fetched replies = some (.ok c) ∧ listed replies = some (.ok page) ∧
    c.version = some version ∧ status = statusOf c.spec.qualifiers page.items ∧
    c.status ≠ some status

/-- The class that the requests about a key go to. -/
def address (fallback : String) (key : ClassKey) : ClassKey :=
  ⟨some (Wire.scopeOf fallback key), key.name⟩

lemma Addressable.address {fallback : String} {key : ClassKey} (h : Addressable fallback key) :
    Addressable fallback (address fallback key) :=
  ⟨h.named, h.scope, h.name, h.short⟩

/-- A request fails if it is not answered in time, or with a failure. -/
def Failed {α : Type} (limit : ℕ) (a : Option (Except ApiFailure α)) (e : StoreError) : Prop :=
  a = none ∧ e = .timeout (.ofMilliseconds limit) ∨ ∃ f, a = some (.error f) ∧ e = .api f

section Failed

variable {α : Type} {limit : ℕ} {a : Option (Except ApiFailure α)}

/-- A request that has failed has not succeeded. -/
lemma Failed.ne_ok {e : StoreError} (h : Failed limit a e) (x : α) : a ≠ some (.ok x) := by
  rcases h with ⟨rfl, -⟩ | ⟨f, rfl, -⟩ <;> simp

@[simp]
lemma failed_timeout_iff {span : Span} :
    Failed limit a (.timeout span) ↔ a = none ∧ span = .ofMilliseconds limit := by
  simp [Failed]

@[simp]
lemma failed_api_iff {f : ApiFailure} : Failed limit a (.api f) ↔ a = some (.error f) := by
  simp [Failed]

@[simp]
lemma not_failed_conflict {k : ClassKey} : ¬ Failed limit a (.conflict k) := by
  simp [Failed]

@[simp]
lemma not_failed_missingVersion {k : ClassKey} : ¬ Failed limit a (.missingVersion k) := by
  simp [Failed]

end Failed

/-! ### The courses -/

section Courses

variable (fallback : String) (limit : ℕ) (key : ClassKey) (replies : List Reply)

/-- **The ways in which a reconcile can go**, each with the requests that are made and its end. -/
inductive Course : List Request → Result → Prop
  /-- The class is found absent. -/
  | absent {code : ℕ} {text : String}
      (h : fetched replies = some (.error (.refused code "NotFound" text))) :
      Course [fetchRequest fallback key] (.ok .missing)
  /-- The class cannot be read. -/
  | unread {e : StoreError} (h : Failed limit (fetched replies) e)
      (hpresent : ∀ code text, fetched replies ≠ some (.error (.refused code "NotFound" text))) :
      Course [fetchRequest fallback key] (.error e)
  /-- The machines cannot be listed. -/
  | unlisted {c : MachineClass} {e : StoreError} (hc : fetched replies = some (.ok c))
      (h : Failed limit (listed replies) e) :
      Course [fetchRequest fallback key, listRequest] (.error e)
  /-- The class has the right status. -/
  | same {c : MachineClass} {page : Page Machine} (hc : fetched replies = some (.ok c))
      (hpage : listed replies = some (.ok page))
      (h : c.status = some (statusOf c.spec.qualifiers page.items)) :
      Course [fetchRequest fallback key, listRequest]
        (.ok (.unchanged (statusOf c.spec.qualifiers page.items)))
  /-- The class has another status, but no version. -/
  | unversioned {c : MachineClass} {page : Page Machine} (hc : fetched replies = some (.ok c))
      (hpage : listed replies = some (.ok page))
      (h : c.status ≠ some (statusOf c.spec.qualifiers page.items)) (hversion : c.version = none) :
      Course [fetchRequest fallback key, listRequest]
        (.error (.missingVersion (address fallback key)))
  /-- The class is gone when it is written. -/
  | gone {version reason text : String} {status : MachineClassStatus}
      (hdue : Due replies version status)
      (h : written replies = some (.error (.refused 404 reason text))) :
      Course [fetchRequest fallback key, listRequest, statusRequest fallback key version status]
        (.ok .missing)
  /-- The class has changed when it is written. -/
  | raced {version reason text : String} {status : MachineClassStatus}
      (hdue : Due replies version status)
      (h : written replies = some (.error (.refused 409 reason text))) :
      Course [fetchRequest fallback key, listRequest, statusRequest fallback key version status]
        (.error (.conflict (address fallback key)))
  /-- The class cannot be written for another reason. -/
  | unwritten {version : String} {status : MachineClassStatus} {e : StoreError}
      (hdue : Due replies version status) (h : Failed limit (written replies) e)
      (hother : ∀ reason text, written replies ≠ some (.error (.refused 404 reason text)) ∧
        written replies ≠ some (.error (.refused 409 reason text))) :
      Course [fetchRequest fallback key, listRequest, statusRequest fallback key version status]
        (.error e)
  /-- The class is written. -/
  | updated {version : String} {status : MachineClassStatus} {c : MachineClass}
      (hdue : Due replies version status) (h : written replies = some (.ok c)) :
      Course [fetchRequest fallback key, listRequest, statusRequest fallback key version status]
        (.ok (.updated status))

end Courses

variable {fallback : String} {limit : ℕ} {key : ClassKey} {replies : List Reply}

/-- A request succeeds or fails. -/
lemma ok_or_failed {α : Type} (limit : ℕ) (a : Option (Except ApiFailure α)) :
    (∃ x, a = some (.ok x)) ∨ ∃ e, Failed limit a e := by
  cases a with
  | none => exact Or.inr ⟨_, failed_timeout_iff.mpr ⟨rfl, rfl⟩⟩
  | some a =>
    cases a with
    | ok x => exact Or.inl ⟨x, rfl⟩
    | error f => exact Or.inr ⟨_, failed_api_iff.mpr rfl⟩

/-- Whatever the reply to a write that is due, there is a course for it. -/
lemma Course.of_due (limit : ℕ) {version : String} {status : MachineClassStatus}
    (hdue : Due replies version status) :
    ∃ result, Course fallback limit key replies
      [fetchRequest fallback key, listRequest, statusRequest fallback key version status]
      result := by
  rcases ok_or_failed limit (written replies) with ⟨c, hc⟩ | ⟨e, he⟩
  · exact ⟨_, .updated hdue hc⟩
  by_cases hgone : ∃ reason text, written replies = some (.error (.refused 404 reason text))
  · obtain ⟨reason, text, h⟩ := hgone
    exact ⟨_, .gone hdue h⟩
  by_cases hraced : ∃ reason text, written replies = some (.error (.refused 409 reason text))
  · obtain ⟨reason, text, h⟩ := hraced
    exact ⟨_, .raced hdue h⟩
  · exact ⟨_, .unwritten hdue he fun reason text =>
      ⟨fun h => hgone ⟨reason, text, h⟩, fun h => hraced ⟨reason, text, h⟩⟩⟩

/-- Whatever the replies are, there is a course for them. -/
lemma Course.total (fallback : String) (limit : ℕ) (key : ClassKey) (replies : List Reply) :
    ∃ requests result, Course fallback limit key replies requests result := by
  rcases ok_or_failed limit (fetched replies) with ⟨c, hc⟩ | ⟨e, he⟩
  swap
  · by_cases habsent : ∃ code text, fetched replies = some (.error (.refused code "NotFound" text))
    · obtain ⟨code, text, h⟩ := habsent
      exact ⟨_, _, .absent h⟩
    · exact ⟨_, _, .unread he fun code text h => habsent ⟨code, text, h⟩⟩
  rcases ok_or_failed limit (listed replies) with ⟨page, hpage⟩ | ⟨e, he⟩
  swap
  · exact ⟨_, _, .unlisted hc he⟩
  by_cases hsame : c.status = some (statusOf c.spec.qualifiers page.items)
  · exact ⟨_, _, .same hc hpage hsame⟩
  cases hversion : c.version with
  | none => exact ⟨_, _, .unversioned hc hpage hsame hversion⟩
  | some version =>
    have hdue : Due replies version (statusOf c.spec.qualifiers page.items) :=
      ⟨c, page, hc, hpage, hversion, rfl, hsame⟩
    obtain ⟨result, hcourse⟩ := Course.of_due limit hdue
    exact ⟨_, result, hcourse⟩

/-! ### The calls of a reconcile -/

/-- What a call answers in time. -/
def inTime {α β : Type} (limit : ℕ) (a : Option (Except ApiFailure α))
    (read : Except ApiFailure α → Except StoreError β) : Except StoreError β :=
  (a.map read).getD (.error (.timeout (.ofMilliseconds limit)))

/-- A request that fails makes its call fail, unless the failure stands for something else. -/
lemma Failed.inTime_eq {α β : Type} {a : Option (Except ApiFailure α)} {e : StoreError}
    {read : Except ApiFailure α → Except StoreError β} (h : Failed limit a e)
    (hread : ∀ f, a = some (.error f) → read (.error f) = .error (.api f)) :
    inTime limit a read = .error e := by
  rcases h with ⟨rfl, rfl⟩ | ⟨f, ha, rfl⟩
  · rfl
  · rw [inTime, ha]
    exact hread f ha

/-- A reconcile whose write fails so fails so, too. -/
lemma Failed.onWritten {α : Type} {a : Option (Except ApiFailure α)} {e : StoreError}
    {c : MachineClass} {status : MachineClassStatus} (h : Failed limit a e) :
    (Progress.onWritten key c status (.error e)).1 = .finished (.error e) := by
  rcases h with ⟨-, rfl⟩ | ⟨f, -, rfl⟩ <;> rfl

lemma getClass_after (hkey : Addressable fallback key) :
    (backend fallback limit).getClass key (.after replies []) =
      (inTime limit (fetched replies) Wire.classOf,
        .after replies [fetchRequest fallback key]) := by
  change bounded limit (Wire.getClass fallback key (.after replies [])) = _
  rw [Wire.getClass, hkey.getClass_eq, Wire.call_after]
  rfl

lemma listMachines_after (r : Request) :
    (backend fallback limit).listMachines (.after replies [r]) =
      (inTime limit (listed replies) fun a => (a.map Page.items).mapError .api,
        .after replies [r, listRequest]) := by
  change bounded limit (Wire.listMachines (.after replies [r])) = _
  rw [Wire.listMachines, listAll_machines, Wire.call_after]
  rfl

lemma listMachines_of_ok {page : Page Machine} (hpage : listed replies = some (.ok page))
    (r : Request) : (backend fallback limit).listMachines (.after replies [r]) =
      (.ok page.items, .after replies [r, listRequest]) := by
  rw [listMachines_after, hpage]
  rfl

lemma writeStatus_after (hkey : Addressable fallback key) (requests : List Request)
    (version : String) (status : MachineClassStatus) :
    (backend fallback limit).writeStatus key version status (.after replies requests) =
      (inTime limit (answer MachineClass.decode replies[requests.length]?) (Wire.writeResult key),
        .after replies (requests ++ [statusRequest fallback key version status])) := by
  change bounded limit (Wire.writeStatus fallback key version status _) = _
  rw [Wire.writeStatus, hkey.writeStatus_eq, Wire.call_after]
  rfl

lemma classOf_error {f : ApiFailure} (h : ∀ code text, f ≠ .refused code "NotFound" text) :
    Wire.classOf (.error f) = .error (.api f) := by
  rw [Wire.classOf]
  rintro code text rfl
  exact h code text rfl

lemma writeResult_error {f : ApiFailure}
    (h : ∀ reason text, f ≠ .refused 404 reason text ∧ f ≠ .refused 409 reason text) :
    Wire.writeResult key (.error f) = .error (.api f) := by
  cases f with
  | broken text => rfl
  | refused code reason text =>
    have h404 : code ≠ 404 := by
      rintro rfl
      exact (h reason text).1 rfl
    have h409 : code ≠ 409 := by
      rintro rfl
      exact (h reason text).2 rfl
    rw [Wire.writeResult, if_neg h409, if_neg h404]

/-! ### The course that is taken -/

/-- The class that was read, if there is one, is the one that was asked for. -/
def Faithful (fallback : String) (key : ClassKey) (replies : List Reply) : Prop :=
  ∀ c, fetched replies = some (.ok c) →
    c.metadata.name = some key.name ∧ c.metadata.scope = some (Wire.scopeOf fallback key)

/-- It has the key that the requests go to. -/
lemma Faithful.key_eq {c : MachineClass} (h : Faithful fallback key replies)
    (hc : fetched replies = some (.ok c)) : c.key = address fallback key := by
  obtain ⟨hname, hscope⟩ := h c hc
  rw [MachineClass.key, ObjectMeta.displayName, hname, hscope]
  rfl

section Calls

variable {requests : List Request} {result : Result} (hkey : Addressable fallback key)
include hkey

lemma getClass_of_ok {c : MachineClass} (hc : fetched replies = some (.ok c)) :
    (backend fallback limit).getClass key (.after replies []) =
      (.ok (some c), .after replies [fetchRequest fallback key]) := by
  rw [getClass_after hkey, hc]
  rfl

/-- A reconcile for which a write is due ends as the write does. -/
lemma reconcile_of_due {version : String} {status : MachineClassStatus} {result : Result}
    (hclass : Faithful fallback key replies) (hdue : Due replies version status)
    (h : ∀ c, (Progress.onWritten key c status
      (inTime limit (written replies) (Wire.writeResult (address fallback key)))).1 =
        .finished result) :
    ∃ rs, (backend fallback limit).reconcile key (.after replies []) = ((result, rs),
      .after replies
        [fetchRequest fallback key, listRequest, statusRequest fallback key version status]) := by
  obtain ⟨c, page, hc, hpage, hversion, rfl, hother⟩ := hdue
  have hwrite : (backend fallback limit).writeStatus c.key version
      (statusOf c.spec.qualifiers page.items)
        (.after replies [fetchRequest fallback key, listRequest]) =
      (inTime limit (written replies) (Wire.writeResult (address fallback key)),
        .after replies [fetchRequest fallback key, listRequest,
          statusRequest fallback key version (statusOf c.spec.qualifiers page.items)]) := by
    rw [hclass.key_eq hc]
    exact writeStatus_after hkey.address _ _ _
  exact ⟨_, Backend.reconcile_of_written (getClass_of_ok hkey hc)
    (listMachines_of_ok hpage _) hversion hother hwrite (h c)⟩

/-- **A reconcile takes every course that there is for its replies**, so that there is only one. -/
lemma Course.reconcile (hclass : Faithful fallback key replies)
    (h : Course fallback limit key replies requests result) :
    ∃ rs, (backend fallback limit).reconcile key (.after replies []) =
      ((result, rs), .after replies requests) := by
  cases h with
  | absent h =>
    exact ⟨_, Backend.reconcile_of_fetched (getClass_after hkey) (by rw [h]; rfl)⟩
  | unread h hpresent =>
    have hget : inTime limit (fetched replies) Wire.classOf = _ :=
      h.inTime_eq fun f hf => classOf_error fun code text heq => hpresent code text (heq ▸ hf)
    exact ⟨_, Backend.reconcile_of_fetched (getClass_after hkey) (by rw [hget]; rfl)⟩
  | unlisted hc h =>
    exact ⟨_, Backend.reconcile_of_listed (getClass_of_ok hkey hc)
      (listMachines_after _) (by rw [h.inTime_eq fun f _ => rfl]; rfl)⟩
  | same hc hpage h =>
    exact ⟨_, Backend.reconcile_of_listed (getClass_of_ok hkey hc)
      (listMachines_of_ok hpage _) (by rw [Progress.onMachines_of_same h]; rfl)⟩
  | unversioned hc hpage h hversion =>
    exact ⟨_, Backend.reconcile_of_listed (getClass_of_ok hkey hc)
      (listMachines_of_ok hpage _) (by
        rw [Progress.onMachines_of_unversioned h hversion, hclass.key_eq hc]
        rfl)⟩
  | gone hdue h => exact reconcile_of_due hkey hclass hdue fun c => by rw [h]; rfl
  | raced hdue h => exact reconcile_of_due hkey hclass hdue fun c => by rw [h]; rfl
  | unwritten hdue h hother =>
    have hwrite : inTime limit (written replies) (Wire.writeResult (address fallback key)) = _ :=
      h.inTime_eq fun f hf => writeResult_error fun reason text =>
        ⟨fun heq => (hother reason text).1 (heq ▸ hf), fun heq => (hother reason text).2 (heq ▸ hf)⟩
    exact reconcile_of_due hkey hclass hdue fun c => by rw [hwrite]; exact h.onWritten
  | updated hdue h => exact reconcile_of_due hkey hclass hdue fun c => by rw [h]; rfl

/-- There is only one course for some replies. -/
lemma Course.unique {requests' : List Request} {result' : Result}
    (hclass : Faithful fallback key replies) (h : Course fallback limit key replies requests result)
    (h' : Course fallback limit key replies requests' result') :
    requests = requests' ∧ result = result' := by
  obtain ⟨rs, hend⟩ := h.reconcile hkey hclass
  obtain ⟨rs', hend'⟩ := h'.reconcile hkey hclass
  have hsame : ((result, rs), Wire.after replies requests) =
      ((result', rs'), Wire.after replies requests') := hend.symm.trans hend'
  obtain ⟨⟨hresult, -⟩, hwire⟩ := Prod.mk.inj hsame |>.imp_left Prod.mk.inj
  refine ⟨?_, hresult⟩
  rw [← Wire.requests_after replies requests, hwire, Wire.requests_after]

/-- A reconcile takes a course. -/
lemma exists_course (limit : ℕ) (hclass : Faithful fallback key replies) :
    let run := (backend fallback limit).reconcile key { replies }
    ∃ requests, Course fallback limit key replies requests run.1.1 ∧
      run.2 = .after replies requests := by
  obtain ⟨requests, result, hcourse⟩ := Course.total fallback limit key replies
  obtain ⟨rs, hend⟩ := hcourse.reconcile hkey hclass
  have hrun : (backend fallback limit).reconcile key { replies } = _ := hend
  rw [hrun]
  exact ⟨requests, hcourse, rfl⟩

end Calls

end BareMetal.Api
