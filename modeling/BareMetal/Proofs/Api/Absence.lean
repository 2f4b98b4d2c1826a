import BareMetal.Proofs.Api.Outcome
import BareMetal.Proofs.Reconcile.Outcome

/-!
Whether a class is gone, as a refusal tells it.

One who reads a class goes by the reason of the refusal, one who writes it by the code.

* `verdict`: what a refusal says, with or without a body that can be read;
* `getClass_of_refused`, `writeStatus_of_refused`: when a call takes it for the absence of
  the class, and `missing_at_fetch_iff`, `missing_at_write_iff`: when a reconcile does;
* `Concordant`, `absence_agrees_iff`: **both agree on a refusal exactly if its reason and
  its code do**, and `absence_disagrees`: they do not on every refusal.
-/

namespace BareMetal.Api

/-! ### What a refusal says -/

/-- What a refusal says: its body, or else its code with a reason that stands for no body. -/
def verdict (code : ℕ) (body : String) : ErrorBody :=
  match Decode.ofText ErrorBody.decode body with
  | .ok e => e
  | .error _ => .ofUnreadable code body

lemma refusal_eq (code : ℕ) (body : String) :
    Reply.refusal code body = (verdict code body).failure := by
  rw [Reply.refusal, verdict]
  cases Decode.ofText ErrorBody.decode body <;> rfl

variable {fallback : String} {limit code : ℕ} {key : ClassKey} {body version : String}
  {status : MachineClassStatus}

/-- A refusal is a failure, whatever was asked for. -/
lemma answer_refused {α : Type} (d : Decoder α) (hcode : Reply.isRefusal code = true) :
    answer d (some (.answer code body true)) = some (.error (verdict code body).failure) := by
  rw [← refusal_eq]
  simp [answer, Reply.isWhole, Reply.decode, hcode]

/-- One who reads a class goes by the reason. -/
lemma classOf_eq_none_iff (e : ErrorBody) :
    Wire.classOf (.error e.failure) = .ok none ↔ e.reason = "NotFound" := by
  constructor
  · intro h
    by_contra hreason
    rw [classOf_error] at h
    · cases h
    · rintro code text heq
      rw [ErrorBody.failure, ApiFailure.refused.injEq] at heq
      exact hreason heq.2.1
  · intro h
    rw [ErrorBody.failure, h]
    rfl

/-- One who writes it goes by the code. -/
lemma writeResult_eq_notFound_iff (e : ErrorBody) :
    Wire.writeResult key (.error e.failure) = .error (.notFound key) ↔ e.code = 404 := by
  rw [ErrorBody.failure, Wire.writeResult]
  split_ifs with h409 h404
  · simp [h409]
  · simp [h404]
  · simp [h404]

/-- **Concordant**: a refusal whose reason and code agree on whether the class is gone. -/
def Concordant (code : ℕ) (body : String) : Prop :=
  (verdict code body).reason = "NotFound" ↔ (verdict code body).code = 404

instance (code : ℕ) (body : String) : Decidable (Concordant code body) :=
  inferInstanceAs (Decidable (_ ↔ _))

/-! ### Calls -/

lemma getClass_of_refused (hkey : Addressable fallback key) (hcode : Reply.isRefusal code = true) :
    ((backend fallback limit).getClass key { replies := [.answer code body true] }).1 = .ok none ↔
      (verdict code body).reason = "NotFound" := by
  have hcall : (backend fallback limit).getClass key { replies := [.answer code body true] } = _ :=
    getClass_after hkey
  have hfetched : fetched [.answer code body true] = some (.error (verdict code body).failure) :=
    answer_refused _ hcode
  rw [hcall, hfetched]
  exact classOf_eq_none_iff _

lemma writeStatus_of_refused (hkey : Addressable fallback key)
    (hcode : Reply.isRefusal code = true) :
    ((backend fallback limit).writeStatus key version status
        { replies := [.answer code body true] }).1 = .error (.notFound key) ↔
      (verdict code body).code = 404 := by
  have hcall : (backend fallback limit).writeStatus key version status
      { replies := [.answer code body true] } = _ := writeStatus_after hkey [] version status
  rw [hcall, List.length_nil, List.getElem?_cons_zero, answer_refused _ hcode]
  exact writeResult_eq_notFound_iff _

/-! ### Reconciles -/

/-- When a reconcile finds its class missing. -/
lemma reconcile_missing_iff {replies : List Reply} (hkey : Addressable fallback key)
    (hclass : Faithful fallback key replies) :
    ((backend fallback limit).reconcile key { replies }).1.1 = .ok .missing ↔
      (∃ code text, fetched replies = some (.error (.refused code "NotFound" text))) ∨
        (∃ version status, Due replies version status) ∧
          ∃ reason text, written replies = some (.error (.refused 404 reason text)) := by
  obtain ⟨requests, hcourse, -⟩ := exists_course hkey limit hclass
  exact hcourse.missing_iff hkey hclass

/-- Where reading the class is refused. -/
lemma missing_at_fetch_iff (hkey : Addressable fallback key)
    (hcode : Reply.isRefusal code = true) :
    ((backend fallback limit).reconcile key { replies := [.answer code body true] }).1.1 =
        .ok .missing ↔
      (verdict code body).reason = "NotFound" := by
  have hfetched : fetched [.answer code body true] = some (.error (verdict code body).failure) :=
    answer_refused _ hcode
  have hclass : Faithful fallback key [.answer code body true] := by
    intro c hc
    rw [hfetched] at hc
    cases hc
  rw [reconcile_missing_iff hkey hclass]
  constructor
  · rintro (⟨code', text, habsent⟩ | ⟨⟨version, status, hdue⟩, -⟩)
    · rw [hfetched, ErrorBody.failure] at habsent
      simp only [Option.some.injEq, Except.error.injEq, ApiFailure.refused.injEq] at habsent
      exact habsent.2.1
    · -- nothing was read, so no write is due
      obtain ⟨c, hc⟩ := hdue.exists_fetched
      exact absurd (hfetched.symm.trans hc) (by simp)
  · intro hreason
    refine Or.inl ⟨(verdict code body).code, (verdict code body).text, ?_⟩
    rw [hfetched, ErrorBody.failure, hreason]

/-- Where writing its status is refused. -/
lemma missing_at_write_iff {g l : Reply} (hkey : Addressable fallback key)
    (hcode : Reply.isRefusal code = true) (hclass : Faithful fallback key [g, l])
    (hdue : Due [g, l] version status) :
    ((backend fallback limit).reconcile key { replies := [g, l, .answer code body true] }).1.1 =
        .ok .missing ↔
      (verdict code body).code = 404 := by
  have hwritten : written [g, l, .answer code body true] =
      some (.error (verdict code body).failure) := answer_refused _ hcode
  have hclass' : Faithful fallback key [g, l, .answer code body true] := hclass
  have hdue' : Due [g, l, .answer code body true] version status := hdue
  rw [reconcile_missing_iff hkey hclass']
  constructor
  · rintro (⟨code', text, habsent⟩ | ⟨-, reason, text, hgone⟩)
    · obtain ⟨c, hc⟩ := hdue'.exists_fetched
      exact absurd (habsent.symm.trans hc) (by simp)
    · rw [hwritten, ErrorBody.failure] at hgone
      simp only [Option.some.injEq, Except.error.injEq, ApiFailure.refused.injEq] at hgone
      exact hgone.1
  · intro hgone
    refine Or.inr ⟨⟨_, _, hdue'⟩, (verdict code body).reason, (verdict code body).text, ?_⟩
    rw [hwritten, ErrorBody.failure, hgone]

/-- A class that is found missing, whenever that is, is left alone and has its gauges at zero. -/
lemma left_alone_of_missing {replies : List Reply}
    (h : ((backend fallback limit).reconcile key { replies }).1.1 = .ok .missing) (d : Delays)
    (m : Metrics) :
    d.after ((backend fallback limit).reconcile key { replies }).1.1 = none ∧
      (m.recordAll ((backend fallback limit).reconcile key { replies }).1.2).gauges key.text =
        (some (.number 0), some (.number 0)) := by
  obtain ⟨rs, hreports⟩ := Backend.reports_of_missing h
  rw [h, hreports]
  exact ⟨rfl, Progress.gauges_missing m key rs⟩

/-! ### Agreement -/

/-- **Reading and writing agree on whether a class is gone exactly if the refusal is concordant**:
for every code and every body, both of the calls by themselves, and a reconcile that meets the
refusal where it reads the class and one that meets it where it writes the status. A reconcile that
finds its class missing leaves it alone, and its gauges are at zero. -/
theorem absence_agrees_iff (limit : ℕ) (body version : String) (status : MachineClassStatus)
    (hkey : Addressable fallback key) (hcode : Reply.isRefusal code = true) :
    let store := backend fallback limit
    let refused := Reply.answer code body true
    (((store.getClass key { replies := [refused] }).1 = .ok none ↔
        (store.writeStatus key version status { replies := [refused] }).1 =
          .error (.notFound key)) ↔ Concordant code body) ∧
      (∀ g l due computed, Faithful fallback key [g, l] → Due [g, l] due computed →
        (((store.reconcile key { replies := [refused] }).1.1 = .ok .missing ↔
          (store.reconcile key { replies := [g, l, refused] }).1.1 = .ok .missing) ↔
            Concordant code body)) ∧
      ∀ replies, (store.reconcile key { replies }).1.1 = .ok .missing →
        ∀ (d : Delays) (m : Metrics), d.after (store.reconcile key { replies }).1.1 = none ∧
          (m.recordAll (store.reconcile key { replies }).1.2).gauges key.text =
            (some (.number 0), some (.number 0)) := by
  intro store refused
  refine ⟨?_, ?_, fun replies h d m => left_alone_of_missing h d m⟩
  · rw [getClass_of_refused hkey hcode, writeStatus_of_refused hkey hcode]
    exact Iff.rfl
  · intro g l due computed hclass hdue
    rw [missing_at_fetch_iff hkey hcode, missing_at_write_iff hkey hcode hclass hdue]
    exact Iff.rfl

/-- What a server says of an object that is not there. -/
def goneText : String :=
  "\x7b\"status\":\"Failure\",\"reason\":\"NotFound\",\"code\":404\x7d"

/-- A refusal that says the same in both ways is taken in the same way by all four. -/
theorem absence_agrees_iff_goneText :
    let store := backend "default" 5000
    let refused := Reply.answer 404 goneText true
    Addressable "default" sampleKey ∧ Reply.isRefusal 404 = true ∧
      Faithful "default" sampleKey [sampleClass, sampleMachines] ∧
      Due [sampleClass, sampleMachines] "7" { machinesAvailable := ["m1"] } ∧
      (store.getClass sampleKey { replies := [refused] }).1 = .ok none ∧
      (store.writeStatus sampleKey "7" {} { replies := [refused] }).1 =
        .error (.notFound sampleKey) ∧
      (store.reconcile sampleKey { replies := [refused] }).1.1 = .ok .missing ∧
      (store.reconcile sampleKey { replies := [sampleClass, sampleMachines, refused] }).1.1 =
        .ok .missing := by
  dsimp only
  have hcode : Reply.isRefusal 404 = true := by decide
  have hclass := faithful_sample [sampleMachines]
  have hdue := due_sample []
  obtain ⟨hcalls, hreconciles, -⟩ :=
    absence_agrees_iff 5000 goneText "7" {} addressable_sample hcode
  have hconcordant : Concordant 404 goneText := by decide +kernel
  have hreason : (verdict 404 goneText).reason = "NotFound" := by decide +kernel
  have hread : ((backend "default" 5000).getClass sampleKey
      { replies := [.answer 404 goneText true] }).1 = .ok none :=
    (getClass_of_refused addressable_sample hcode).mpr hreason
  have hfetch : ((backend "default" 5000).reconcile sampleKey
      { replies := [.answer 404 goneText true] }).1.1 = .ok .missing :=
    (missing_at_fetch_iff addressable_sample hcode).mpr hreason
  exact ⟨addressable_sample, hcode, hclass, hdue, hread, (hcalls.mpr hconcordant).mp hread, hfetch,
    ((hreconciles _ _ _ _ hclass hdue).mpr hconcordant).mp hfetch⟩

/-- A refusal by code without a body that can be read, as one in front of the server gives it, is no
absence to one who reads the class, but is one to one who writes it. -/
theorem absence_disagrees :
    let store := backend "default" 5000
    let refused := Reply.answer 404 "page not found" true
    Reply.isRefusal 404 = true ∧
      ¬ ((store.getClass sampleKey { replies := [refused] }).1 = .ok none ↔
        (store.writeStatus sampleKey "7" {} { replies := [refused] }).1 =
          .error (.notFound sampleKey)) ∧
      ¬ ((store.reconcile sampleKey { replies := [refused] }).1.1 = .ok .missing ↔
        (store.reconcile sampleKey { replies := [sampleClass, sampleMachines, refused] }).1.1 =
          .ok .missing) := by
  dsimp only
  have hcode : Reply.isRefusal 404 = true := by decide
  have hdiscordant : ¬ Concordant 404 "page not found" := by decide +kernel
  refine ⟨hcode, ?_, ?_⟩
  · rw [getClass_of_refused addressable_sample hcode,
      writeStatus_of_refused addressable_sample hcode]
    exact hdiscordant
  · rw [missing_at_fetch_iff addressable_sample hcode,
      missing_at_write_iff addressable_sample hcode (faithful_sample _) (due_sample _)]
    exact hdiscordant

end BareMetal.Api
