import BareMetal.Operator
import BareMetal.Proofs.Api.Course

/-!
What a reconcile over a server sends, and how it ends.

* `OutcomeLaw`: which requests are sent, which of them stands behind each end, and what
  an error leads to;
* `Course.missing_iff`, `conflict_iff`, `timeout_iff`, `failure_iff`,
  `missingVersion_iff`, `unchanged_iff`, `updated_iff`: which courses have this end;
* `outcome_law`: **every reconcile of a class that can be asked for obeys the law**,
  whatever the replies are.
-/

namespace BareMetal.Api

/-- **The outcome law** for the requests that a reconcile sends and the result that it has, given
the script of replies. -/
structure OutcomeLaw (fallback : String) (limit : ℕ) (key : ClassKey) (replies : List Reply)
    (requests : List Request) (result : Result) : Prop where
  /-- The class is read, then the machines are listed, then a status of the class is written; the
  reconcile may stop before the end. -/
  order : ∃ version status, requests <+:
    [fetchRequest fallback key, listRequest, statusRequest fallback key version status]
  /-- The class is always read. -/
  reads : 0 < requests.length
  /-- The machines are listed if and only if the class was read in time. -/
  lists : 1 < requests.length ↔ ∃ c, fetched replies = some (.ok c)
  /-- A status is written if and only if a write is due. -/
  writes : 2 < requests.length ↔ ∃ version status, Due replies version status
  /-- It is the status that is due, over the version of the class that was read. -/
  guards : ∀ version status, Due replies version status → requests =
    [fetchRequest fallback key, listRequest, statusRequest fallback key version status]
  /-- The class is missing if and only if it is absent by reason when it is read, or by code when it
  is written. -/
  missing : result = .ok .missing ↔
    (∃ code text, fetched replies = some (.error (.refused code "NotFound" text))) ∨
      (∃ version status, Due replies version status) ∧
        ∃ reason text, written replies = some (.error (.refused 404 reason text))
  /-- A race is lost if and only if the write says so by code. -/
  conflict : ∀ k, result = .error (.conflict k) ↔ k = address fallback key ∧
    (∃ version status, Due replies version status) ∧
      ∃ reason text, written replies = some (.error (.refused 409 reason text))
  /-- A class that is gone is never an error. -/
  notFound : ∀ k, result ≠ .error (.notFound k)
  /-- Silence is a timeout. -/
  timeout : ∀ span, result = .error (.timeout span) ↔ span = .ofMilliseconds limit ∧
    (fetched replies = none ∨
      (∃ c, fetched replies = some (.ok c)) ∧ listed replies = none ∨
        (∃ version status, Due replies version status) ∧ written replies = none)
  /-- Every other failure of a request is the failure of the reconcile. -/
  failure : ∀ f, result = .error (.api f) ↔
    fetched replies = some (.error f) ∧ (∀ code text, f ≠ .refused code "NotFound" text) ∨
      (∃ c, fetched replies = some (.ok c)) ∧ listed replies = some (.error f) ∨
        (∃ version status, Due replies version status) ∧ written replies = some (.error f) ∧
          ∀ reason text, f ≠ .refused 404 reason text ∧ f ≠ .refused 409 reason text
  /-- A class without a version cannot be written, if there is something to write. -/
  missingVersion : ∀ k, result = .error (.missingVersion k) ↔ k = address fallback key ∧
    ∃ c page, fetched replies = some (.ok c) ∧ listed replies = some (.ok page) ∧
      c.version = none ∧ c.status ≠ some (statusOf c.spec.qualifiers page.items)
  /-- A class that has the right status is left alone. -/
  unchanged : ∀ status, result = .ok (.unchanged status) ↔
    ∃ c page, fetched replies = some (.ok c) ∧ listed replies = some (.ok page) ∧
      status = statusOf c.spec.qualifiers page.items ∧ c.status = some status
  /-- The status is updated if and only if its write succeeds. -/
  updated : ∀ status, result = .ok (.updated status) ↔
    (∃ version, Due replies version status) ∧ ∃ c, written replies = some (.ok c)
  /-- There are no other errors. A lost race is retried after the delay for races, and every other
  error after the error delay. -/
  errors : ∀ e, result = .error e →
    (∃ k, e = .conflict k) ∧ (∀ d : Delays, d.after result = some d.conflict) ∨
      ((∃ span, e = .timeout span) ∨ (∃ f, e = .api f) ∨ ∃ k, e = .missingVersion k) ∧
        ∀ d : Delays, d.after result = some d.error

variable {fallback : String} {limit : ℕ} {key : ClassKey} {replies : List Reply}
  {requests : List Request} {result : Result}

/-! ### Failures and writes that are due -/

/-- A request that fails is out of time or a failure of its own, and retried after the error
delay. -/
lemma Failed.retry {α : Type} {a : Option (Except ApiFailure α)} {e : StoreError}
    (h : Failed limit a e) :
    ((∃ span, e = .timeout span) ∨ (∃ f, e = .api f) ∨ ∃ k, e = .missingVersion k) ∧
      ∀ d : Delays, d.after (.error e) = some d.error := by
  rcases h with ⟨-, rfl⟩ | ⟨f, -, rfl⟩
  · exact ⟨Or.inl ⟨_, rfl⟩, fun _ => rfl⟩
  · exact ⟨Or.inr (Or.inl ⟨_, rfl⟩), fun _ => rfl⟩

lemma Due.exists_fetched {version : String} {status : MachineClassStatus}
    (h : Due replies version status) : ∃ c, fetched replies = some (.ok c) := by
  obtain ⟨c, page, hc, -⟩ := h
  exact ⟨c, hc⟩

/-! ### What a course shows -/

namespace Course

/-- The requests of a course: one if the class was not read, two if it was, and three if there was
a write to make. -/
lemma requests_cases (h : Course fallback limit key replies requests result) :
    (requests = [fetchRequest fallback key] ∧ ∀ c, fetched replies ≠ some (.ok c)) ∨
      (requests = [fetchRequest fallback key, listRequest] ∧ ∃ c, fetched replies = some (.ok c)) ∨
        ∃ version status, Due replies version status ∧ requests =
          [fetchRequest fallback key, listRequest, statusRequest fallback key version status] := by
  cases h with
  | absent h => exact Or.inl ⟨rfl, by simp [h]⟩
  | unread h hpresent => exact Or.inl ⟨rfl, h.ne_ok⟩
  | unlisted hc h => exact Or.inr (Or.inl ⟨rfl, _, hc⟩)
  | same hc hpage h => exact Or.inr (Or.inl ⟨rfl, _, hc⟩)
  | unversioned hc hpage h hversion => exact Or.inr (Or.inl ⟨rfl, _, hc⟩)
  | gone hdue h => exact Or.inr (Or.inr ⟨_, _, hdue, rfl⟩)
  | raced hdue h => exact Or.inr (Or.inr ⟨_, _, hdue, rfl⟩)
  | unwritten hdue h hother => exact Or.inr (Or.inr ⟨_, _, hdue, rfl⟩)
  | updated hdue h => exact Or.inr (Or.inr ⟨_, _, hdue, rfl⟩)

lemma order (h : Course fallback limit key replies requests result) :
    ∃ version status, requests <+:
      [fetchRequest fallback key, listRequest, statusRequest fallback key version status] := by
  rcases h.requests_cases with ⟨rfl, -⟩ | ⟨rfl, -⟩ | ⟨version, status, -, rfl⟩
  · exact ⟨"", {}, by simp⟩
  · exact ⟨"", {}, by simp⟩
  · exact ⟨version, status, List.prefix_rfl⟩

lemma reads (h : Course fallback limit key replies requests result) : 0 < requests.length := by
  rcases h.requests_cases with ⟨rfl, -⟩ | ⟨rfl, -⟩ | ⟨version, status, -, rfl⟩ <;> simp

lemma lists_iff (h : Course fallback limit key replies requests result) :
    1 < requests.length ↔ ∃ c, fetched replies = some (.ok c) := by
  rcases h.requests_cases with ⟨rfl, hunread⟩ | ⟨rfl, hread⟩ | ⟨version, status, hdue, rfl⟩
  · simp [hunread]
  · simp [hread]
  · simp [hdue.exists_fetched]

/-- A third request is a write that is due. -/
lemma due_of_lt (h : Course fallback limit key replies requests result)
    (hlength : 2 < requests.length) : ∃ version status, Due replies version status := by
  rcases h.requests_cases with ⟨rfl, -⟩ | ⟨rfl, -⟩ | ⟨version, status, hdue, rfl⟩
  · simp at hlength
  · simp at hlength
  · exact ⟨version, status, hdue⟩

/-- The errors that a course can end with. -/
lemma errors {e : StoreError} (h : Course fallback limit key replies requests (.error e)) :
    (∃ k, e = .conflict k) ∧ (∀ d : Delays, d.after (.error e) = some d.conflict) ∨
      ((∃ span, e = .timeout span) ∨ (∃ f, e = .api f) ∨ ∃ k, e = .missingVersion k) ∧
        ∀ d : Delays, d.after (.error e) = some d.error := by
  cases h with
  | unread h hpresent => exact Or.inr h.retry
  | unlisted hc h => exact Or.inr h.retry
  | unwritten hdue h hother => exact Or.inr h.retry
  | raced hdue h => exact Or.inl ⟨⟨_, rfl⟩, fun _ => rfl⟩
  | unversioned hc hpage h hversion =>
    exact Or.inr ⟨Or.inr (Or.inr ⟨_, rfl⟩), fun _ => rfl⟩

variable (hkey : Addressable fallback key) (hclass : Faithful fallback key replies)
include hkey hclass

/-- The requests where a write is due. -/
lemma requests_of_due (h : Course fallback limit key replies requests result) {version : String}
    {status : MachineClassStatus} (hdue : Due replies version status) : requests =
      [fetchRequest fallback key, listRequest, statusRequest fallback key version status] := by
  obtain ⟨result', h'⟩ := of_due limit hdue
  exact (h.unique hkey hclass h').1

lemma missing_iff (h : Course fallback limit key replies requests result) :
    result = .ok .missing ↔
      (∃ code text, fetched replies = some (.error (.refused code "NotFound" text))) ∨
        (∃ version status, Due replies version status) ∧
          ∃ reason text, written replies = some (.error (.refused 404 reason text)) := by
  constructor
  · rintro rfl
    cases h with
    | absent h => exact Or.inl ⟨_, _, h⟩
    | gone hdue h => exact Or.inr ⟨⟨_, _, hdue⟩, _, _, h⟩
  · rintro (⟨code, text, hfetched⟩ | ⟨⟨version, status, hdue⟩, reason, text, hwritten⟩)
    · exact (h.unique hkey hclass (.absent hfetched)).2
    · exact (h.unique hkey hclass (.gone hdue hwritten)).2

lemma conflict_iff (h : Course fallback limit key replies requests result) (k : ClassKey) :
    result = .error (.conflict k) ↔ k = address fallback key ∧
      (∃ version status, Due replies version status) ∧
        ∃ reason text, written replies = some (.error (.refused 409 reason text)) := by
  constructor
  · rintro rfl
    cases h with
    | raced hdue h => exact ⟨rfl, ⟨_, _, hdue⟩, _, _, h⟩
    | unread h hpresent => exact absurd h not_failed_conflict
    | unlisted hc h => exact absurd h not_failed_conflict
    | unwritten hdue h hother => exact absurd h not_failed_conflict
  · rintro ⟨rfl, ⟨version, status, hdue⟩, reason, text, hwritten⟩
    exact (h.unique hkey hclass (.raced hdue hwritten)).2

lemma timeout_iff (h : Course fallback limit key replies requests result) (span : Span) :
    result = .error (.timeout span) ↔ span = .ofMilliseconds limit ∧
      (fetched replies = none ∨
        (∃ c, fetched replies = some (.ok c)) ∧ listed replies = none ∨
          (∃ version status, Due replies version status) ∧ written replies = none) := by
  constructor
  · rintro rfl
    cases h with
    | unread h hpresent =>
      obtain ⟨hsilent, hspan⟩ := failed_timeout_iff.mp h
      exact ⟨hspan, Or.inl hsilent⟩
    | unlisted hc h =>
      obtain ⟨hsilent, hspan⟩ := failed_timeout_iff.mp h
      exact ⟨hspan, Or.inr (Or.inl ⟨⟨_, hc⟩, hsilent⟩)⟩
    | unwritten hdue h hother =>
      obtain ⟨hsilent, hspan⟩ := failed_timeout_iff.mp h
      exact ⟨hspan, Or.inr (Or.inr ⟨⟨_, _, hdue⟩, hsilent⟩)⟩
  · rintro ⟨hspan, hfetched | ⟨⟨c, hc⟩, hlisted⟩ | ⟨⟨version, status, hdue⟩, hwritten⟩⟩
    · have hpresent : ∀ code text,
          fetched replies ≠ some (.error (.refused code "NotFound" text)) := by simp [hfetched]
      exact (h.unique hkey hclass
        (.unread (failed_timeout_iff.mpr ⟨hfetched, hspan⟩) hpresent)).2
    · exact (h.unique hkey hclass
        (.unlisted hc (failed_timeout_iff.mpr ⟨hlisted, hspan⟩))).2
    · exact (h.unique hkey hclass
        (.unwritten hdue (failed_timeout_iff.mpr ⟨hwritten, hspan⟩) (by simp [hwritten]))).2

lemma failure_iff (h : Course fallback limit key replies requests result) (f : ApiFailure) :
    result = .error (.api f) ↔
      fetched replies = some (.error f) ∧ (∀ code text, f ≠ .refused code "NotFound" text) ∨
        (∃ c, fetched replies = some (.ok c)) ∧ listed replies = some (.error f) ∨
          (∃ version status, Due replies version status) ∧ written replies = some (.error f) ∧
            ∀ reason text, f ≠ .refused 404 reason text ∧ f ≠ .refused 409 reason text := by
  constructor
  · rintro rfl
    cases h with
    | unread h hpresent =>
      have hfetched := failed_api_iff.mp h
      exact Or.inl ⟨hfetched, by simpa [hfetched] using hpresent⟩
    | unlisted hc h => exact Or.inr (Or.inl ⟨⟨_, hc⟩, failed_api_iff.mp h⟩)
    | unwritten hdue h hother =>
      have hwritten := failed_api_iff.mp h
      exact Or.inr (Or.inr ⟨⟨_, _, hdue⟩, hwritten, by simpa [hwritten] using hother⟩)
  · rintro (⟨hfetched, hpresent⟩ | ⟨⟨c, hc⟩, hlisted⟩ | ⟨⟨version, status, hdue⟩, hwritten, hother⟩)
    · refine (h.unique hkey hclass (.unread (failed_api_iff.mpr hfetched) ?_)).2
      simpa [hfetched] using hpresent
    · exact (h.unique hkey hclass (.unlisted hc (failed_api_iff.mpr hlisted))).2
    · refine (h.unique hkey hclass (.unwritten hdue (failed_api_iff.mpr hwritten) ?_)).2
      simpa [hwritten] using hother

lemma missingVersion_iff (h : Course fallback limit key replies requests result) (k : ClassKey) :
    result = .error (.missingVersion k) ↔ k = address fallback key ∧
      ∃ c page, fetched replies = some (.ok c) ∧ listed replies = some (.ok page) ∧
        c.version = none ∧ c.status ≠ some (statusOf c.spec.qualifiers page.items) := by
  constructor
  · rintro rfl
    cases h with
    | unversioned hc hpage h hversion => exact ⟨rfl, _, _, hc, hpage, hversion, h⟩
    | unread h hpresent => exact absurd h not_failed_missingVersion
    | unlisted hc h => exact absurd h not_failed_missingVersion
    | unwritten hdue h hother => exact absurd h not_failed_missingVersion
  · rintro ⟨rfl, c, page, hc, hpage, hversion, hother⟩
    exact (h.unique hkey hclass (.unversioned hc hpage hother hversion)).2

lemma unchanged_iff (h : Course fallback limit key replies requests result)
    (status : MachineClassStatus) :
    result = .ok (.unchanged status) ↔
      ∃ c page, fetched replies = some (.ok c) ∧ listed replies = some (.ok page) ∧
        status = statusOf c.spec.qualifiers page.items ∧ c.status = some status := by
  constructor
  · rintro rfl
    cases h with
    | same hc hpage h => exact ⟨_, _, hc, hpage, rfl, h⟩
  · rintro ⟨c, page, hc, hpage, rfl, hsame⟩
    exact (h.unique hkey hclass (.same hc hpage hsame)).2

lemma updated_iff (h : Course fallback limit key replies requests result)
    (status : MachineClassStatus) :
    result = .ok (.updated status) ↔
      (∃ version, Due replies version status) ∧ ∃ c, written replies = some (.ok c) := by
  constructor
  · rintro rfl
    cases h with
    | updated hdue h => exact ⟨⟨_, hdue⟩, _, h⟩
  · rintro ⟨⟨version, hdue⟩, c, hwritten⟩
    exact (h.unique hkey hclass (.updated hdue hwritten)).2

/-- **A course obeys the outcome law.** -/
lemma outcomeLaw (h : Course fallback limit key replies requests result) :
    OutcomeLaw fallback limit key replies requests result where
  order := h.order
  reads := h.reads
  lists := h.lists_iff
  writes := by
    refine ⟨h.due_of_lt, ?_⟩
    rintro ⟨version, status, hdue⟩
    rw [h.requests_of_due hkey hclass hdue]
    simp
  guards version status hdue := h.requests_of_due hkey hclass hdue
  missing := h.missing_iff hkey hclass
  conflict := h.conflict_iff hkey hclass
  notFound k := by
    rintro rfl
    rcases h.errors with ⟨⟨k', h⟩, -⟩ | ⟨⟨span, h⟩ | ⟨f, h⟩ | ⟨k', h⟩, -⟩ <;> cases h
  timeout := h.timeout_iff hkey hclass
  failure := h.failure_iff hkey hclass
  missingVersion := h.missingVersion_iff hkey hclass
  unchanged := h.unchanged_iff hkey hclass
  updated := h.updated_iff hkey hclass
  errors e := by
    rintro rfl
    exact h.errors

end Course

/-- **The outcome law of a reconcile over a server.** For every key that can be asked for, every
limit and every script of replies that does not pass another class off as the one that was asked
for, each request meets the reply whose turn it is, and the requests and the result obey the law. -/
theorem outcome_law (limit : ℕ) (hkey : Addressable fallback key)
    (hclass : Faithful fallback key replies) :
    let run := (backend fallback limit).reconcile key { replies }
    ∃ requests, run.2.exchanges = requests.mapIdx (fun i r => ⟨r, replies[i]?⟩) ∧
      OutcomeLaw fallback limit key replies requests run.1.1 := by
  obtain ⟨requests, hcourse, hwire⟩ := exists_course hkey limit hclass
  exact ⟨requests, congrArg Wire.exchanges hwire, hcourse.outcomeLaw hkey hclass⟩

/-! ### A script -/

/-- A class without qualifiers, as it is read. -/
def sampleClass : Reply :=
  .answer 200 ("\x7b\"metadata\":\x7b\"name\":\"gpu\",\"namespace\":\"lab\"," ++
    "\"resourceVersion\":\"7\"\x7d,\"spec\":\x7b\x7d\x7d") true

/-- A machine that is accepted, as it is listed. -/
def sampleMachines : Reply :=
  .answer 200 ("\x7b\"items\":[\x7b\"metadata\":\x7b\"name\":\"m1\"\x7d," ++
    "\"spec\":\x7b\"accepted\":true\x7d\x7d]\x7d") true

/-- The key of the class. -/
def sampleKey : ClassKey := ⟨some "lab", "gpu"⟩

lemma addressable_sample : Addressable "default" sampleKey :=
  .of_names (by decide) (by decide) (by decide) (by decide) (by decide)

lemma fetched_sample (rest : List Reply) :
    fetched (sampleClass :: rest) = some (.ok { metadata :=
      { name := some "gpu", scope := some "lab", resourceVersion := some "7" } }) := by
  have hdecode : answer MachineClass.decode (some sampleClass) = some (.ok { metadata :=
      { name := some "gpu", scope := some "lab", resourceVersion := some "7" } }) := by cbv
  exact hdecode

lemma listed_sample (first : Reply) (rest : List Reply) :
    listed (first :: sampleMachines :: rest) = some (.ok { items :=
      [{ metadata := { name := some "m1" }, spec := { accepted := true } }] }) := by
  have hdecode : answer (Page.decode Machine.decode) (some sampleMachines) = some (.ok { items :=
      [{ metadata := { name := some "m1" }, spec := { accepted := true } }] }) := by cbv
  exact hdecode

lemma faithful_sample (rest : List Reply) : Faithful "default" sampleKey (sampleClass :: rest) := by
  intro c h
  cases (fetched_sample rest).symm.trans h
  exact ⟨rfl, rfl⟩

lemma due_sample (rest : List Reply) :
    Due (sampleClass :: sampleMachines :: rest) "7" { machinesAvailable := ["m1"] } :=
  ⟨_, _, fetched_sample _, listed_sample _ _, rfl, by cbv, by simp⟩

/-- All three requests are sent, the last one with the version that was read, and a class that has
changed by then is a race that is lost. -/
theorem outcome_law_lostRace :
    let replies := [sampleClass, sampleMachines, .answer 409 "stale" true]
    let run := (backend "default" 5000).reconcile sampleKey { replies }
    Addressable "default" sampleKey ∧ Faithful "default" sampleKey replies ∧
      run.2.exchanges.map Exchange.request = [fetchRequest "default" sampleKey, listRequest,
        statusRequest "default" sampleKey "7" { machinesAvailable := ["m1"] }] ∧
      run.1.1 = .error (.conflict sampleKey) := by
  intro replies
  dsimp only
  have hwritten : written replies = some (.error (.refused 409 "Failed to parse error data"
      (ErrorBody.ofUnreadable 409 "stale").text)) := rfl
  have hclass : Faithful "default" sampleKey replies := faithful_sample _
  have hdue : Due replies "7" { machinesAvailable := ["m1"] } := due_sample _
  obtain ⟨requests, hsent, hlaw⟩ := outcome_law 5000 addressable_sample hclass
  refine ⟨addressable_sample, hclass, ?_,
    (hlaw.conflict sampleKey).mpr ⟨rfl, ⟨_, _, hdue⟩, _, _, hwritten⟩⟩
  rw [hsent, hlaw.guards _ _ hdue]
  rfl

end BareMetal.Api
