import BareMetal.Proofs.FanOut
import BareMetal.Proofs.Reconcile.Count

/-!
What can be seen of a list of machines in the status of a class.

* `Machine.Facts`, `view`: what a class looks at in a machine, and the facts of the machine that
  stands for each name; `view_cons`, `view_append`: the view of a list from its parts;
* `Unseen`: changes of a list that its view does not show, and `view_eq_of_perm`: **the order of
  machines with different names is not seen**;
* `statusOf_eq_of_view`: **what is not seen does not matter**;
* `Store.Call.Spares`: a call that leaves a class alone;
* `Store.reconcile_unchanged`: **a reconcile of a class that was left alone writes nothing as long
  as the same is seen of the machines**;
* `Store.view_decides`: all of this for the status of a class and for its reconciles.
-/

namespace BareMetal

/-! ### Views -/

/-- What a class looks at in a machine. -/
structure Machine.Facts where
  /-- Its processor. -/
  cpu : Option CpuInformation
  /-- The machine as a whole. -/
  systemInformation : Option SystemInformation
  /-- Its labels; absent ones are no labels. -/
  labels : SortedMap String String
  /-- Whether someone has claimed it; without a status nobody has. -/
  inUse : Bool
  deriving DecidableEq

/-- What a class looks at in this machine. -/
def Machine.facts (m : Machine) : Facts where
  cpu := m.spec.cpu
  systemInformation := m.spec.systemInformation
  labels := m.labels
  inUse := m.inUse

/-- **The view of a list of machines**: under each name that an accepted machine bears, the facts of
the last such machine. -/
def view (machines : List Machine) (n : String) : Option Machine.Facts :=
  (bearer machines n).map Machine.facts

/-- What a machine shows under a name: its facts, if it is accepted and bears the name. -/
def Machine.shown (m : Machine) (n : String) : Option Facts :=
  if m.spec.accepted && m.name == n then some m.facts else none

section View

variable {machines others : List Machine} {m m' : Machine} {n : String}

/-- The later machines of a list are seen before the earlier ones. -/
lemma view_append (machines others : List Machine) (n : String) :
    view (machines ++ others) n = (view others n).or (view machines n) := by
  rw [view, bearer, List.filter_append, List.getLast?_append, Option.map_or]
  rfl

/-- The first machine of a list is seen if no later one stands for its name. -/
lemma view_cons (m : Machine) (machines : List Machine) (n : String) :
    view (m :: machines) n = (view machines n).or (m.shown n) := by
  have hsingle : view [m] n = m.shown n := by
    rw [view, bearer, Machine.shown, List.filter_singleton]
    cases m.spec.accepted && m.name == n <;> rfl
  rw [← List.singleton_append, view_append, hsingle]

/-- A machine that is not accepted shows nothing. -/
lemma shown_of_unaccepted (h : m.spec.accepted = false) (n : String) : m.shown n = none := by
  rw [Machine.shown, h, Bool.false_and, if_neg Bool.false_ne_true]

/-- A machine shows nothing under another name. -/
lemma shown_of_ne (h : m.name ≠ n) : m.shown n = none := by
  rw [Machine.shown, beq_eq_false_iff_ne.mpr h, Bool.and_false, if_neg Bool.false_ne_true]

/-- Something is seen under the name of an accepted machine. -/
lemma exists_view (hm : m ∈ machines) (haccepted : m.spec.accepted = true) :
    ∃ facts, view machines m.name = some facts := by
  induction machines with
  | nil => cases hm
  | cons first machines ih =>
    rw [view_cons]
    rcases List.mem_cons.mp hm with rfl | hm
    · rw [Machine.shown, haccepted, beq_self_eq_true, Bool.and_self, if_pos rfl]
      cases view machines m.name with
      | none => exact ⟨m.facts, rfl⟩
      | some facts => exact ⟨facts, rfl⟩
    · obtain ⟨facts, hfacts⟩ := ih hm
      exact ⟨facts, by rw [hfacts, Option.some_or]⟩

/-- Two machines may change places if they do not show themselves under one name. -/
lemma view_swap (h : ∀ n, m.shown n = none ∨ m'.shown n = none) :
    view (m :: m' :: machines) = view (m' :: m :: machines) := by
  funext n
  rw [view_cons, view_cons, view_cons, view_cons, Option.or_assoc, Option.or_assoc]
  rcases h n with hnone | hnone <;> simp [hnone]

/-! ### What is not seen -/

/-- **Unseen**: a change of a list of machines that its view does not show. -/
inductive Unseen : List Machine → List Machine → Prop
  /-- A machine that is not accepted is taken out. -/
  | unaccepted (before after : List Machine) {m : Machine} (h : m.spec.accepted = false) :
      Unseen (before ++ m :: after) (before ++ after)
  /-- A machine is taken out that has an accepted namesake behind it. -/
  | shadowed (before after : List Machine) {m m' : Machine} (hmem : m' ∈ after)
      (haccepted : m'.spec.accepted = true) (hname : m'.name = m.name) :
      Unseen (before ++ m :: after) (before ++ after)
  /-- A machine is changed in something else than its name, its acceptance and its facts. -/
  | edited (before after : List Machine) {m m' : Machine} (hname : m.name = m'.name)
      (haccepted : m.spec.accepted = m'.spec.accepted) (hfacts : m.facts = m'.facts) :
      Unseen (before ++ m :: after) (before ++ m' :: after)
  /-- Two machines with different names change places. -/
  | swapped (before after : List Machine) {m m' : Machine} (hname : m.name ≠ m'.name) :
      Unseen (before ++ m :: m' :: after) (before ++ m' :: m :: after)

/-- A change that is not seen leaves the view as it was. -/
lemma Unseen.view_eq (h : Unseen machines others) : view machines = view others := by
  have hbehind : ∀ {before rest rest' : List Machine}, view rest = view rest' →
      view (before ++ rest) = view (before ++ rest') := by
    intro before rest rest' hrest
    funext n
    rw [view_append, view_append, hrest]
  cases h with
  | unaccepted before after h =>
    refine hbehind (funext fun n => ?_)
    rw [view_cons, shown_of_unaccepted h, Option.or_none]
  | @shadowed before after m m' hmem haccepted hname =>
    refine hbehind (funext fun n => ?_)
    rw [view_cons]
    by_cases hn : m.name = n
    · obtain ⟨facts, hfacts⟩ := exists_view hmem haccepted
      rw [hname, hn] at hfacts
      rw [hfacts, Option.some_or]
    · rw [shown_of_ne hn, Option.or_none]
  | edited before after hname haccepted hfacts =>
    refine hbehind (funext fun n => ?_)
    rw [view_cons, view_cons, Machine.shown, Machine.shown, hname, haccepted, hfacts]
  | @swapped before after m m' hname =>
    refine hbehind (view_swap fun n => ?_)
    by_cases hn : m.name = n
    · exact .inr (shown_of_ne fun hn' => hname (hn.trans hn'.symm))
    · exact .inl (shown_of_ne hn)

/-- **The order of machines with different names is not seen**, however those stand that are not
accepted. -/
lemma view_eq_of_perm (h : machines.Perm others)
    (hnames : ((machines.filter (fun m => m.spec.accepted)).map Machine.name).Nodup) :
    view machines = view others := by
  induction h with
  | nil => rfl
  | cons m h ih =>
    have htail : ((List.filter (fun m => m.spec.accepted) _).map Machine.name).Nodup :=
      hnames.sublist (((List.sublist_cons_self m _).filter _).map _)
    funext n
    rw [view_cons, view_cons, ih htail]
  | swap m m' machines =>
    refine view_swap fun n => ?_
    by_cases hm : m.spec.accepted = true
    · by_cases hm' : m'.spec.accepted = true
      · -- both are accepted, and so their names differ
        have hname : m'.name ≠ m.name := by
          simp only [List.filter_cons, hm, hm', if_true, List.map_cons, List.nodup_cons] at hnames
          exact fun heq => hnames.1 (heq ▸ List.mem_cons_self)
        by_cases hn : m.name = n
        · exact .inl (shown_of_ne fun hn' => hname (hn'.trans hn.symm))
        · exact .inr (shown_of_ne hn)
      · exact .inl (shown_of_unaccepted (Bool.eq_false_iff.mpr hm') n)
    · exact .inr (shown_of_unaccepted (Bool.eq_false_iff.mpr hm) n)
  | trans h _ ih ih' =>
    exact (ih hnames).trans (ih' (((h.filter _).map _).nodup_iff.mp hnames))

/-! ### The status -/

/-- Whether a machine meets qualifiers can be seen. -/
lemma Qualifiers.Meets.of_facts {q : Qualifiers} (h : q.Meets m) (hfacts : m.facts = m'.facts) :
    q.Meets m' := by
  have hcpu : m.spec.cpu = m'.spec.cpu := congrArg Machine.Facts.cpu hfacts
  have hsystem : m.spec.systemInformation = m'.spec.systemInformation :=
    congrArg Machine.Facts.systemInformation hfacts
  have hlabels : m.labels = m'.labels := congrArg Machine.Facts.labels hfacts
  exact ⟨hcpu ▸ h.cpu, hsystem ▸ h.system, hlabels ▸ h.labels⟩

/-- Lists that are seen alike have bearers with the same facts. -/
lemma exists_bearer (hview : view machines = view others) (hm : bearer machines n = some m) :
    ∃ m', bearer others n = some m' ∧ m.facts = m'.facts := by
  have hothers : view others n = some m.facts := by rw [← hview, view, hm, Option.map_some]
  obtain ⟨m', hm', hfacts⟩ := Option.map_eq_some_iff.mp hothers
  exact ⟨m', hm', hfacts.symm⟩

/-- Lists that are seen alike have bearers of the same use that meet the same qualifiers. -/
lemma exists_listed {q : Qualifiers} {used : Bool} (hview : view machines = view others)
    (h : ∃ m, bearer machines n = some m ∧ q.Meets m ∧ m.inUse = used) :
    ∃ m, bearer others n = some m ∧ q.Meets m ∧ m.inUse = used := by
  obtain ⟨m, hm, hmeets, hused⟩ := h
  obtain ⟨m', hm', hfacts⟩ := exists_bearer hview hm
  have hinUse : m.inUse = m'.inUse := congrArg Machine.Facts.inUse hfacts
  exact ⟨m', hm', hmeets.of_facts hfacts, hinUse ▸ hused⟩

/-- **What is not seen does not matter**: lists that are seen alike give every class the same
status. -/
lemma statusOf_eq_of_view (q : Qualifiers) (hview : view machines = view others) :
    statusOf q machines = statusOf q others := by
  have h := isStatus_statusOf q machines
  refine isStatus_iff.mp ⟨fun n => ?_, fun n => ?_, h.available_ascending, h.inUse_ascending,
    h.disjoint⟩
  · rw [h.mem_available]
    exact ⟨exists_listed hview, exists_listed hview.symm⟩
  · rw [h.mem_inUse]
    exact ⟨exists_listed hview, exists_listed hview.symm⟩

end View

/-! ### Reconciles -/

namespace Store

/-- **Spares**: a call does nothing to the class with a key. -/
def Call.Spares (key : ClassKey) : Call → Prop
  | .putClass c => c.key ≠ key
  | .deleteClass k => k ≠ key
  | .touchClass k => k ≠ key
  | .writeStatus k _ _ => k ≠ key
  | _ => True

variable {s : Store} {key : ClassKey} {c : MachineClass} {status : MachineClassStatus}

/-- A class is found as before after a call that spares it. -/
lemma Call.Spares.getClass_perform {a : Call} (h : a.Spares key) :
    (a.perform s).getClass key = s.getClass key := by
  cases a with
  | putClass c => exact SortedMap.get?_insert_of_ne _ _ (mt Std.LawfulEqOrd.eq_of_compare h)
  | deleteClass k =>
    exact (SortedMap.get?_erase _ _ _).trans (if_neg (mt Std.LawfulEqOrd.eq_of_compare h))
  | touchClass k =>
    rw [Call.perform, Store.touchClass]
    split
    · exact SortedMap.get?_insert_of_ne _ _ (mt Std.LawfulEqOrd.eq_of_compare h)
    · rfl
  | writeStatus k version status => exact getClass_writeStatus s (Ne.symm h)
  | updateMachine name edit => rw [Call.perform, getClass, updateMachine_classes, ← getClass]
  | putMachine m => rfl
  | deleteMachine name => rfl
  | failMachineList on => rfl
  | failClassList on => rfl

/-- A class is found as before after calls that spare it. -/
lemma getClass_after_of_spares {calls : List Call} (h : ∀ a ∈ calls, a.Spares key) :
    (s.after calls).getClass key = s.getClass key := by
  induction calls generalizing s with
  | nil => rfl
  | cons a calls ih =>
    have hfirst : a.Spares key := h a List.mem_cons_self
    rw [after_cons, ih fun b hb => h b (List.mem_cons_of_mem a hb), hfirst.getClass_perform]

/-- A reconcile that tells a status leaves it with the class, and it is the one that the machines
give. -/
lemma found_of_reconcile (hfiled : s.Filed) {outcome : Outcome}
    (hend : (backend.reconcile key s).1.1 = .ok outcome) (hstatus : outcome.status? = some status) :
    ∃ c, (backend.reconcile key s).2.getClass key = some c ∧ c.status = some status ∧
      status = statusOf c.spec.qualifiers s.machines.values := by
  cases hfound : s.getClass key with
  | none =>
    rw [reconcile_eq (reconcileAmid_of_absent [] [] hfound)] at hend
    cases hend
    cases hstatus
  | some c =>
    cases hlist : s.machineListFails with
    | true =>
      rw [reconcile_eq (reconcileAmid_of_unlisted [] [] hfound hlist)] at hend
      cases hend
    | false =>
      by_cases hsame : c.status = some (statusOf c.spec.qualifiers s.machines.values)
      · obtain ⟨hresult, hstore⟩ := reconcile_of_same hfound hlist rfl hsame
        cases hresult.symm.trans hend
        cases hstatus
        exact ⟨c, by rw [hstore, hfound], hsame, rfl⟩
      · obtain ⟨hresult, hrewritten⟩ := reconcile_of_other hfiled hfound hlist rfl hsame
        cases hresult.symm.trans hend
        cases hstatus
        exact ⟨_, hrewritten.found, rfl, rfl⟩

/-- A reconcile of a class that has the right status counts what is due at its end and no write. -/
lemma measurements_of_same (h : s.getClass key = some c) (hlist : s.machineListFails = false)
    (hsame : c.status = some (statusOf c.spec.qualifiers s.machines.values)) :
    Measurement.statusWrite ∉ Report.measurements (backend.reconcile key s).1.2 := by
  have hamid := reconcileAmid_of_found [] [] h
  rw [after_nil, listMachines_eq_ok hlist, Progress.onMachines_of_same hsame] at hamid
  rw [reconcile_eq hamid]
  change Measurement.statusWrite ∉ Progress.tally key (.finished (.ok (.unchanged _)))
  simp [Progress.tally]

/-- **A second reconcile writes nothing**: if the first one told a status, the class was left alone
and the same is seen of the machines, then the status is found right, no write is tried and the
store stays as it is. -/
lemma reconcile_unchanged (hfiled : s.Filed) {outcome : Outcome}
    (hend : (backend.reconcile key s).1.1 = .ok outcome) (hstatus : outcome.status? = some status)
    {calls : List Call} (hspares : ∀ a ∈ calls, a.Spares key) {s' : Store}
    (hs' : s' = (backend.reconcile key s).2.after calls) (hlist : s'.machineListFails = false)
    (hview : view s'.machines.values = view s.machines.values) :
    (backend.reconcile key s').1.1 = .ok (.unchanged status) ∧
      Measurement.statusWrite ∉ Report.measurements (backend.reconcile key s').1.2 ∧
        (backend.reconcile key s').2 = s' := by
  obtain ⟨c, hc, hold, hright⟩ := found_of_reconcile hfiled hend hstatus
  have hfound : s'.getClass key = some c := by
    rw [hs', getClass_after_of_spares hspares, hc]
  have hsame : status = statusOf c.spec.qualifiers s'.machines.values := by
    rw [hright, statusOf_eq_of_view _ hview]
  obtain ⟨hend', hstore⟩ := reconcile_of_same hfound hlist hsame.symm hold
  exact ⟨hend', measurements_of_same hfound hlist (hsame ▸ hold), hstore⟩

/-- **The view of the machines decides.** Lists of machines that are seen alike give every class the
same status. It is not seen, for instance, whether machines that are not accepted are there, nor
those with an accepted namesake behind them, what else is known of a machine, or how machines with
different names are ordered; so if no two accepted machines share a name their order does not matter
at all. After a reconcile that told a status, let any calls come that leave the class alone, after
which the machines can be listed and the same is seen of them: then a reconcile finds the status
unchanged, and does not try to write. -/
theorem view_decides :
    (∀ q machines others, view machines = view others →
        statusOf q machines = statusOf q others) ∧
      (∀ machines others, Relation.EqvGen Unseen machines others →
        view machines = view others) ∧
      (∀ machines others : List Machine, machines.Perm others →
        ((machines.filter (fun m => m.spec.accepted)).map Machine.name).Nodup →
          view machines = view others ∧ ∀ q, statusOf q machines = statusOf q others) ∧
      ∀ (before calls : List Call) (key : ClassKey) (status : MachineClassStatus),
        let s := ({} : Store).after before
        let first := backend.reconcile key s
        let s' := first.2.after calls
        let second := backend.reconcile key s'
        first.1.1 = .ok (.updated status) ∨ first.1.1 = .ok (.unchanged status) →
        (∀ a ∈ calls, a.Spares key) → s'.machineListFails = false →
        view s'.machines.values = view s.machines.values →
          second.1.1 = .ok (.unchanged status) ∧
            Measurement.statusWrite ∉ Report.measurements second.1.2 ∧ second.2 = s' := by
  refine ⟨fun q _ _ => statusOf_eq_of_view q, fun machines others h => ?_, ?_, ?_⟩
  · induction h with
    | rel _ _ h => exact h.view_eq
    | refl _ => rfl
    | symm _ _ _ ih => exact ih.symm
    | trans _ _ _ _ _ ih ih' => exact ih.trans ih'
  · intro machines others hperm hnames
    have hview := view_eq_of_perm hperm hnames
    exact ⟨hview, fun q => statusOf_eq_of_view q hview⟩
  · intro before calls key status s first s' second hend hspares hlist hview
    have hfiled : s.Filed := filed_empty.after before
    rcases hend with hend | hend
    · exact reconcile_unchanged hfiled hend rfl hspares rfl hlist hview
    · exact reconcile_unchanged hfiled hend rfl hspares rfl hlist hview

/-- The machine of a small store with more that is known of it. -/
def noted (m : Machine) : Machine :=
  { m with
    metadata := { m.metadata with generation := some 2, labels := some .empty }
    status := some { inUse := false } }

/-- What is not seen happens to a small store: a machine turns up that is not accepted, more is
known of the one that is there, and another one comes and goes. -/
def unseen : List Call :=
  [.putMachine { metadata := { name := some "m0" } }, .updateMachine "m1" noted,
    .putMachine { Machine.sample with metadata := { name := some "m2" } }, .deleteMachine "m2"]

/-- The machines that are there then. -/
def left : List Machine :=
  [({ metadata := { name := some "m0" } } : Machine).withVersion "4",
    (noted (Machine.sample.withVersion "1")).withVersion "5"]

/-- After a reconcile has listed the one machine, a second one finds the status unchanged, though
none of the machines is the one that was there. -/
theorem view_decides_unseen :
    let s := ({} : Store).after Call.samples
    let key := MachineClass.sample.key
    let first := backend.reconcile key s
    let s' := first.2.after unseen
    let second := backend.reconcile key s'
    let status : MachineClassStatus := { machinesAvailable := ["m1"] }
    let others := s'.machines.values.reverse
    first.1.1 = .ok (.updated status) ∧ (∀ a ∈ unseen, a.Spares key) ∧
      s'.machineListFails = false ∧
      Relation.EqvGen Unseen s'.machines.values s.machines.values ∧
      view s'.machines.values = view s.machines.values ∧
      second.1.1 = .ok (.unchanged status) ∧
      Measurement.statusWrite ∉ Report.measurements second.1.2 ∧ second.2 = s' ∧
      (∀ q, statusOf q s'.machines.values = statusOf q s.machines.values) ∧
      s'.machines.values.Perm others ∧
      ((s'.machines.values.filter (fun m => m.spec.accepted)).map Machine.name).Nodup ∧
      ∀ q, statusOf q s'.machines.values = statusOf q others := by
  -- the stores are written out here, as they are evaluated
  have hfirst : (backend.reconcile MachineClass.sample.key (({} : Store).after Call.samples)).1.1 =
      .ok (.updated { machinesAvailable := ["m1"] }) := by cbv
  have hspares : ∀ a ∈ unseen, a.Spares MachineClass.sample.key := by simp [unseen, Call.Spares]
  have hlist : ((backend.reconcile MachineClass.sample.key
      (({} : Store).after Call.samples)).2.after unseen).machineListFails = false := by cbv
  have hleft : ((backend.reconcile MachineClass.sample.key
      (({} : Store).after Call.samples)).2.after unseen).machines.values = left := by cbv
  have hbefore : (({} : Store).after Call.samples).machines.values =
      [Machine.sample.withVersion "1"] := by cbv
  have hfew : Relation.EqvGen Unseen left [Machine.sample.withVersion "1"] := by
    refine .trans _ _ _ (.rel _ _ (.unaccepted [] _ rfl)) (.rel _ _ ?_)
    exact .edited [] [] rfl rfl rfl
  have hnames : ((left.filter (fun m => m.spec.accepted)).map Machine.name).Nodup := by decide
  rw [← hleft, ← hbefore] at hfew
  rw [← hleft] at hnames
  obtain ⟨hstatus, hunseen, hperm, hagain⟩ := view_decides
  have hview := hunseen _ _ hfew
  have hreverse := (List.reverse_perm ((backend.reconcile MachineClass.sample.key
      (({} : Store).after Call.samples)).2.after unseen).machines.values).symm
  obtain ⟨hsecond, hwrite, hstore⟩ := hagain Call.samples unseen MachineClass.sample.key
    { machinesAvailable := ["m1"] } (.inl hfirst) hspares hlist hview
  exact ⟨hfirst, hspares, hlist, hfew, hview, hsecond, hwrite, hstore,
    fun q => hstatus q _ _ hview, hreverse, hnames, (hperm _ _ hreverse hnames).2⟩

end Store

end BareMetal
