import BareMetal.Api.Wire
import BareMetal.Proofs.Decode
import BareMetal.Proofs.Store.Write

/-!
What the patch that writes a status does to a class on a server.

* `ObjectMeta.field_resourceVersion`, `MachineClass.field_metadata` and their like: the parts of
  a class that the patch touches, each of which is decoded apart from the others;
* `decode_merge_version`, `decode_merge_status`: **the patch replaces the version and the whole
  status**, whatever they were before;
* `decode_merge_statusPatch`: **merged into any document of a class, the patch changes these two
  and nothing else**;
* `Api.merge_sent_patch`: **what a write sends means what a write in memory does**.
-/

namespace BareMetal

open Decode

/-! ### Simple values -/

namespace Decode

/-- An object that has no array form is decoded from objects only. -/
lemma exists_obj_of_keyed {σ : Type} {name : String} {slots : List (Slot σ)} {start y : σ}
    {v : Json} (h : Decode.ofJson (keyed name slots start) v = .ok y) : ∃ ms, v = .obj ms := by
  cases v with
  | obj ms => exact ⟨ms, rfl⟩
  | _ => exact absurd h (refuse_ne_ok _ _ _)

/-- An array of strings is decoded to the strings. -/
lemma ofJson_ofStrings (ss : List String) :
    Decode.ofJson (list string) (Json.ofStrings ss) = .ok ss := by
  have hitems : ∀ ss : List String, decodeItems string .value
      (Json.Document.ofItems (Json.sortedItems (ss.map .str))) = .ok ss := by
    intro ss
    induction ss with
    | nil => rfl
    | cons s ss ih =>
      simp only [List.map_cons, Json.sortedItems, Json.sorted, Json.Document.ofItems,
        Json.Document.ofJson, decodeItems, ih]
      rfl
  change (do
    let xs ← decodeItems string .value (Json.Document.ofItems (Json.sortedItems (ss.map .str)))
    proceed none
    return xs) = _
  rw [hitems]
  rfl

end Decode

/-! ### The parts of a class -/

lemma ObjectMeta.field_resourceVersion :
    Slot.Field ObjectMeta.slots "resourceVersion" (optional string) ObjectMeta.resourceVersion
      (fun x m => { m with resourceVersion := x }) where
  named := ⟨_, rfl, fun _ _ => rfl⟩
  get_set _ _ := rfl
  set_set _ _ _ := rfl
  apart _ := by simp [Slot.Apart, ObjectMeta.slots, Slot.optional, Slot.Leaves.of_set]

lemma MachineClass.field_metadata :
    Slot.Field MachineClass.slots "metadata" ObjectMeta.decode MachineClass.metadata
      (fun x c => { c with metadata := x }) where
  named := ⟨_, rfl, fun _ _ => rfl⟩
  get_set _ _ := rfl
  set_set _ _ _ := rfl
  apart _ := by simp [Slot.Apart, MachineClass.slots, Slot.mandatory, Slot.positional, Slot.Leaves.of_set]

lemma MachineClass.field_status :
    Slot.Field MachineClass.slots "status" (optional MachineClassStatus.decode)
      MachineClass.status (fun x c => { c with status := x }) where
  named := ⟨_, rfl, fun _ _ => rfl⟩
  get_set _ _ := rfl
  set_set _ _ _ := rfl
  apart _ := by simp [Slot.Apart, MachineClass.slots, Slot.mandatory, Slot.positional, Slot.Leaves.of_set]

lemma MachineClassStatus.field_machinesAvailable :
    Slot.Field MachineClassStatus.slots "machinesAvailable" (list string)
      MachineClassStatus.machinesAvailable (fun x s => { s with machinesAvailable := x }) where
  named := ⟨_, rfl, fun _ _ => rfl⟩
  get_set _ _ := rfl
  set_set _ _ _ := rfl
  apart _ := by simp [Slot.Apart, MachineClassStatus.slots, Slot.optional, Slot.Leaves.of_set]

lemma MachineClassStatus.field_machinesInUse :
    Slot.Field MachineClassStatus.slots "machinesInUse" (list string)
      MachineClassStatus.machinesInUse (fun x s => { s with machinesInUse := x }) where
  named := ⟨_, rfl, fun _ _ => rfl⟩
  get_set _ _ := rfl
  set_set _ _ _ := rfl
  apart _ := by simp [Slot.Apart, MachineClassStatus.slots, Slot.optional, Slot.Leaves.of_set]

/-! ### The parts of the patch -/

/-- **The version in the patch takes the place of the one that was there**, and the other metadata
are left alone. -/
lemma decode_merge_version {v : Json} {m : ObjectMeta}
    (h : Decode.ofJson ObjectMeta.decode v = .ok m) (version : String) :
    Decode.ofJson ObjectMeta.decode (v.merge (.obj [("resourceVersion", .str version)])) =
      .ok { m with resourceVersion := some version } := by
  obtain ⟨ms, rfl⟩ := exists_obj_of_keyed h
  obtain ⟨⟨f, hf, rfl⟩, -⟩ := Slot.keyed_eq_ok_iff.mp h
  have hversion : Decode.ofJson (optional string) (.str version) = .ok (some version) := rfl
  obtain ⟨f', hf', hset⟩ := ObjectMeta.field_resourceVersion.setMember hf hversion
  refine Slot.keyed_eq_ok_iff.mpr ⟨⟨f', hf', hset {}⟩, ?_⟩
  simp [ObjectMeta.slots, Slot.optional]

/-- What a status holds can be decoded, if the status can, and no status holds nothing. -/
lemma exists_fills_members {v : Json} {o : Option MachineClassStatus}
    (h : Decode.ofJson (optional MachineClassStatus.decode) v = .ok o) :
    ∃ f, Slot.Fills MachineClassStatus.slots .value (Json.table v.members).entries f := by
  cases v with
  | obj ms =>
    obtain ⟨status, hstatus, -⟩ := map_eq_ok_iff.mp h
    obtain ⟨⟨f, hf, -⟩, -⟩ := Slot.record_eq_ok_iff.mp hstatus
    exact ⟨f, hf⟩
  | _ => exact ⟨_, .nil⟩

/-- **The status in the patch takes the place of the whole status that was there.** -/
lemma decode_merge_status {v : Json}
    (h : ∃ f, Slot.Fills MachineClassStatus.slots .value (Json.table v.members).entries f)
    (status : MachineClassStatus) :
    Decode.ofJson MachineClassStatus.decode (v.merge status.toJson) = .ok status := by
  obtain ⟨f, hf⟩ := h
  obtain ⟨f₁, hf₁, hset₁⟩ := MachineClassStatus.field_machinesAvailable.setMember hf
    (ofJson_ofStrings status.machinesAvailable)
  obtain ⟨f₂, hf₂, hset₂⟩ := MachineClassStatus.field_machinesInUse.setMember hf₁
    (ofJson_ofStrings status.machinesInUse)
  refine Slot.record_eq_ok_iff.mpr ⟨⟨f₂, hf₂, ?_⟩, ?_⟩
  · rw [hset₂, hset₁]
  · simp [MachineClassStatus.slots, Slot.optional]

/-! ### The whole patch -/

/-- The patch sets two members of a class, each to what its own part makes of the member that was
there. -/
lemma merge_statusPatch_eq (ms : List (String × Json)) (version : String)
    (status : MachineClassStatus) :
    (Json.obj ms).merge (Api.Request.statusPatch version status) =
      .obj (Json.setMember
        (Json.setMember ms "metadata" ((((Json.obj ms).member? "metadata").getD .null).merge
          (.obj [("resourceVersion", .str version)])))
        "status" ((((Json.obj ms).member? "status").getD .null).merge status.toJson)) := by
  have hname : "metadata" ≠ "status" := by decide
  rw [← Json.member?_setMember_of_ne hname]
  rfl

/-- A class has the metadata in its document. -/
lemma exists_metadata {ms : List (String × Json)} {c : MachineClass}
    (h : Decode.ofJson MachineClass.decode (.obj ms) = .ok c) :
    ∃ v, (Json.obj ms).member? "metadata" = some v ∧
      Decode.ofJson ObjectMeta.decode v = .ok c.metadata := by
  obtain ⟨⟨f, hf, rfl⟩, hrequired⟩ := Slot.record_eq_ok_iff.mp h
  obtain ⟨w, hw⟩ := SortedMap.mem_keys_iff.mp (hrequired _ List.mem_cons_self rfl)
  obtain ⟨v, hv, rfl⟩ := Option.map_eq_some_iff.mp ((Json.get?_table ms _).symm.trans hw)
  exact ⟨v, hv, MachineClass.field_metadata.ofJson_eq hf hv {}⟩

/-- **Merged into any document of a class**, the patch changes the version and the whole status and
nothing else. -/
lemma decode_merge_statusPatch {ms : List (String × Json)} {c : MachineClass}
    (h : Decode.ofJson MachineClass.decode (.obj ms) = .ok c) (version : String)
    (status : MachineClassStatus) :
    Decode.ofJson MachineClass.decode
        ((Json.obj ms).merge (Api.Request.statusPatch version status)) =
      .ok { c with
        metadata := { c.metadata with resourceVersion := some version }
        status := some status } := by
  obtain ⟨v, hv, hmetadata⟩ := exists_metadata h
  obtain ⟨⟨f, hf, rfl⟩, hrequired⟩ := Slot.record_eq_ok_iff.mp h
  have hold : ∃ f, Slot.Fills MachineClassStatus.slots .value
      (Json.table (((Json.obj ms).member? "status").getD .null).members).entries f := by
    cases hw : (Json.obj ms).member? "status" with
    | none => exact ⟨_, .nil⟩
    | some w => exact exists_fills_members (MachineClass.field_status.ofJson_eq hf hw {})
  obtain ⟨f₁, hf₁, hset₁⟩ :=
    MachineClass.field_metadata.setMember hf (decode_merge_version hmetadata version)
  have hstatus : Decode.ofJson (optional MachineClassStatus.decode)
      ((((Json.obj ms).member? "status").getD .null).merge status.toJson) = .ok (some status) :=
    map_eq_ok_iff.mpr ⟨status, decode_merge_status hold status, rfl⟩
  obtain ⟨f₂, hf₂, hset₂⟩ := MachineClass.field_status.setMember hf₁ hstatus
  rw [merge_statusPatch_eq, hv]
  refine Slot.record_eq_ok_iff.mpr ⟨⟨f₂, hf₂, ?_⟩, ?_⟩
  · rw [hset₂, hset₁]
  · intro slot hslot hreq
    exact Slot.mem_keys_setMember (Slot.mem_keys_setMember (hrequired slot hslot hreq))

namespace Api

/-! ### What is sent -/

/-- A request has the body that it was made with. -/
lemma body_of_ofTarget {method : Method} {target : String} {body : Option Json} {r : Request}
    (h : Request.ofTarget method target body = .ok r) : r.body = body := by
  rw [Request.ofTarget] at h
  split at h
  · cases h
  · split at h
    · cases h
      rfl
    · cases h

/-- What a call adds to the exchanges is its request. -/
lemma request_of_call {α : Type} {w : Wire} {r : Except String Request} {d : Decoder α}
    {e : Exchange} (h : (w.call r d).2.exchanges = w.exchanges ++ [e]) : r = .ok e.request := by
  cases r with
  | error text =>
    have hlength := congrArg List.length h
    rw [List.length_append, List.length_singleton] at hlength
    exact absurd hlength (Nat.ne_add_one _)
  | ok r =>
    rw [Wire.call, Wire.ask] at h
    cases hreplies : w.replies <;> simp only [hreplies] at h
    all_goals
      have hlast := List.append_cancel_left h
      cases hlast
      rfl

/-- A write sends the patch of its status. -/
lemma body_of_writeStatus {w : Wire} {fallback : String} {key : ClassKey} {version : String}
    {status : MachineClassStatus} {e : Exchange}
    (h : (w.writeStatus fallback key version status).2.exchanges = w.exchanges ++ [e]) :
    e.request.body = some (Request.statusPatch version status) := by
  have hrequest := request_of_call h
  rw [Request.writeStatus] at hrequest
  split at hrequest
  · cases hrequest
  · exact body_of_ofTarget hrequest

/-- **Writing a status on a server means what writing it in memory means.** Take any document that
is decoded as a class, whatever else it holds and whatever status it has. Merge into it the patch
that a write of a status over a version sends, and the outcome is decoded as this class with the
status, the version and nothing else changed. A store in memory that holds the class makes the same
of it, but for the version, which it gives itself. -/
theorem merge_sent_patch {fallback : String} {key : ClassKey} {version : String}
    {status : MachineClassStatus} {w : Wire} {e : Exchange}
    (hsent : (w.writeStatus fallback key version status).2.exchanges = w.exchanges ++ [e])
    {ms : List (String × Json)} {c : MachineClass}
    (hc : Decode.ofJson MachineClass.decode (.obj ms) = .ok c) :
    ∃ patch written, e.request.body = some patch ∧
      e.request.contentType = some "application/merge-patch+json" ∧
      Decode.ofJson MachineClass.decode ((Json.obj ms).merge patch) = .ok written ∧
      written = { c with
        metadata := { c.metadata with resourceVersion := some version }
        status := some status } ∧
      ∀ (s : Store) (k : ClassKey) (old : String),
        s.getClass k = some c → c.version = some old →
          (s.writeStatus k old status).1 = .ok () ∧
            (s.writeStatus k old status).2.getClass k =
              some (written.withVersion s.nextVersion) := by
  have hbody := body_of_writeStatus hsent
  refine ⟨_, _, hbody, ?_, decode_merge_statusPatch hc version status, rfl, ?_⟩
  · rw [Request.contentType, hbody, Option.map_some]
  · intro s k old hfound hold
    have hcurrent : (s.writeStatus k old status).1 = .ok () ∧
        s.Rewritten k c status (s.writeStatus k old status).2 :=
      Store.writeStatus_of_current hfound hold
    exact ⟨hcurrent.1, hcurrent.2.found⟩

/-- A document of a class with two machines, one in use, and with members that nobody asked for. -/
def staleMembers : List (String × Json) :=
  [("apiVersion", .str apiVersion),
    ("metadata", .obj [("name", .str "gpu"), ("namespace", .str "lab"), ("color", .null),
      ("resourceVersion", .str "3"), ("labels", .obj [("rack", .str "7")])]),
    ("spec", .obj [("qualifiers", .obj [("labelSelectors", .arr [.obj [("gpu", .str "yes")]])])]),
    ("status", .obj [("machinesInUse", Json.ofStrings ["m2"]), ("note", .arr [.null]),
      ("machinesAvailable", Json.ofStrings ["m1"])]),
    ("extra", .arr [.bool true])]

/-- When the machines are gone, the patch empties both lists. -/
theorem merge_sent_patch_emptied :
    ∃ e c patch written,
      (({ replies := [] } : Wire).writeStatus "default" ⟨some "lab", "gpu"⟩ "7" {}).2.exchanges =
        [] ++ [e] ∧
      Decode.ofJson MachineClass.decode (.obj staleMembers) = .ok c ∧
      c.status = some { machinesAvailable := ["m1"], machinesInUse := ["m2"] } ∧
      e.request.body = some patch ∧
      Decode.ofJson MachineClass.decode ((Json.obj staleMembers).merge patch) = .ok written ∧
      written.status = some {} ∧ written.version = some "7" ∧ written.spec = c.spec ∧
      written.metadata.labels = c.metadata.labels := by
  have hsent : ∃ e, (({ replies := [] } : Wire).writeStatus "default" ⟨some "lab", "gpu"⟩ "7"
      {}).2.exchanges = [] ++ [e] := ⟨_, by rfl⟩
  have hc : ∃ c, Decode.ofJson MachineClass.decode (.obj staleMembers) = .ok c ∧
      c.status = some { machinesAvailable := ["m1"], machinesInUse := ["m2"] } :=
    ⟨_, by rfl, by rfl⟩
  obtain ⟨e, hsent⟩ := hsent
  obtain ⟨c, hc, hstatus⟩ := hc
  obtain ⟨patch, written, hbody, -, hmerged, rfl, -⟩ := merge_sent_patch hsent hc
  exact ⟨e, c, patch, _, hsent, hc, hstatus, hbody, hmerged, rfl, rfl, rfl, rfl⟩

end Api

end BareMetal
