import BareMetal.Proofs.Reference

/-!
When one class contains another, whatever machines there are.

* `fieldMatches_trans`, `CpuInformation.partialMatches_trans` and their like: what
  descriptors ask for is a preorder;
* `Asks.Met`, `Asks.Covers`: what a list of descriptors asks for, and when one list asks for
  no more than another; `Asks.met_imp_iff`: **a list is covered exactly if whatever meets it
  meets the other**, and `Labels.met_imp_iff` says so of selectors;
* `Qualifiers.Contained`: the test for a class to be contained in another, category by category;
* `Qualifiers.meets_imp_iff`: **the test is complete**: where it fails there is a machine that
  tells the classes apart;
* `Qualifiers.Reworded`: other words for the same class, which are within each other;
* `Inventory.contained_iff`: **a class is contained in another in every inventory exactly if it
  passes the test**.
-/

namespace BareMetal

/-! ### Descriptors -/

/-- A wanted value is met if it is absent, empty, or the value that is there. -/
lemma fieldMatches_iff {wanted actual : Option String} :
    fieldMatches wanted actual = true ↔ ∀ w, wanted = some w → w ≠ "" → actual = some w := by
  cases wanted with
  | none => simp [fieldMatches]
  | some w => by_cases hw : w = "" <;> simp [fieldMatches, hw]

/-- A value meets itself. -/
lemma fieldMatches_refl (x : Option String) : fieldMatches x x = true :=
  fieldMatches_iff.mpr fun _ hx _ => hx

/-- What meets a value that meets another one meets that one too. -/
lemma fieldMatches_trans {x y z : Option String} (hxy : fieldMatches x y = true)
    (hyz : fieldMatches y z = true) : fieldMatches x z = true := by
  rw [fieldMatches_iff] at *
  intro w hw hne
  exact hyz w (hxy w hw hne) hne

/-- **Blank**: one value is the other, but may be written as an empty one where that is absent. -/
def Blank (x y : Option String) : Prop := x = y ∨ x = none ∧ y = some ""

/-- A value that is written otherwise meets the value. -/
lemma Blank.fieldMatches {x y : Option String} (h : Blank x y) :
    BareMetal.fieldMatches x y = true ∧ BareMetal.fieldMatches y x = true := by
  rcases h with rfl | ⟨rfl, rfl⟩
  · exact ⟨fieldMatches_refl x, fieldMatches_refl x⟩
  · exact ⟨rfl, rfl⟩

namespace CpuInformation

variable {a b c : CpuInformation}

lemma partialMatches_iff : a.partialMatches b = true ↔
    fieldMatches a.manufacturer b.manufacturer = true ∧
      fieldMatches a.version b.version = true := by
  rw [partialMatches, Bool.and_eq_true]

lemma partialMatches_refl (a : CpuInformation) : a.partialMatches a = true := by
  simp [partialMatches, fieldMatches_refl]

lemma partialMatches_trans (hab : a.partialMatches b = true) (hbc : b.partialMatches c = true) :
    a.partialMatches c = true := by
  rw [partialMatches_iff] at *
  exact ⟨fieldMatches_trans hab.1 hbc.1, fieldMatches_trans hab.2 hbc.2⟩

/-- **Blanked**: the same descriptor, with some absent values written as empty ones. -/
structure Blanked (a b : CpuInformation) : Prop where
  manufacturer : Blank a.manufacturer b.manufacturer
  version : Blank a.version b.version

lemma Blanked.partialMatches (h : Blanked a b) :
    a.partialMatches b = true ∧ b.partialMatches a = true := by
  simp only [partialMatches_iff]
  exact ⟨⟨h.manufacturer.fieldMatches.1, h.version.fieldMatches.1⟩,
    ⟨h.manufacturer.fieldMatches.2, h.version.fieldMatches.2⟩⟩

end CpuInformation

namespace SystemInformation

variable {a b c : SystemInformation}

lemma partialMatches_iff : a.partialMatches b = true ↔
    fieldMatches a.manufacturer b.manufacturer = true ∧
      fieldMatches a.productName b.productName = true ∧
      fieldMatches a.version b.version = true ∧
      fieldMatches a.serialNumber b.serialNumber = true ∧
      fieldMatches a.skuNumber b.skuNumber = true ∧
      fieldMatches a.family b.family = true := by
  simp only [partialMatches, Bool.and_eq_true, and_assoc]

lemma partialMatches_refl (a : SystemInformation) : a.partialMatches a = true := by
  simp [partialMatches, fieldMatches_refl]

lemma partialMatches_trans (hab : a.partialMatches b = true) (hbc : b.partialMatches c = true) :
    a.partialMatches c = true := by
  rw [partialMatches_iff] at *
  obtain ⟨h₁, h₂, h₃, h₄, h₅, h₆⟩ := hab
  obtain ⟨g₁, g₂, g₃, g₄, g₅, g₆⟩ := hbc
  exact ⟨fieldMatches_trans h₁ g₁, fieldMatches_trans h₂ g₂, fieldMatches_trans h₃ g₃,
    fieldMatches_trans h₄ g₄, fieldMatches_trans h₅ g₅, fieldMatches_trans h₆ g₆⟩

/-- **Blanked**: the same descriptor, with some absent values written as empty ones. -/
structure Blanked (a b : SystemInformation) : Prop where
  manufacturer : Blank a.manufacturer b.manufacturer
  productName : Blank a.productName b.productName
  version : Blank a.version b.version
  serialNumber : Blank a.serialNumber b.serialNumber
  skuNumber : Blank a.skuNumber b.skuNumber
  family : Blank a.family b.family

lemma Blanked.partialMatches (h : Blanked a b) :
    a.partialMatches b = true ∧ b.partialMatches a = true := by
  simp only [partialMatches_iff]
  obtain ⟨h₁, h₂, h₃, h₄, h₅, h₆⟩ := h
  exact ⟨⟨h₁.fieldMatches.1, h₂.fieldMatches.1, h₃.fieldMatches.1, h₄.fieldMatches.1,
      h₅.fieldMatches.1, h₆.fieldMatches.1⟩,
    ⟨h₁.fieldMatches.2, h₂.fieldMatches.2, h₃.fieldMatches.2, h₄.fieldMatches.2,
      h₅.fieldMatches.2, h₆.fieldMatches.2⟩⟩

end SystemInformation

/-! ### Lists of descriptors -/

namespace Asks

variable {δ : Type} {test : δ → δ → Bool} {ps qs : List δ}

/-- **Met**: one of the descriptors that are asked for matches the one that is found, unless none
is asked for. -/
def Met (test : δ → δ → Bool) (wanted : List δ) (found : Option δ) : Prop :=
  wanted ≠ [] → ∃ d, found = some d ∧ ∃ w ∈ wanted, test w d = true

/-- **Covers**: the second list asks for nothing, or the first one asks for something and each of
its descriptors is matched by one of the second. -/
def Covers (test : δ → δ → Bool) (ps qs : List δ) : Prop :=
  qs = [] ∨ ps ≠ [] ∧ ∀ a ∈ ps, ∃ b ∈ qs, test b a = true

instance : Decidable (Covers test ps qs) :=
  inferInstanceAs (Decidable (qs = [] ∨ ps ≠ [] ∧ ∀ a ∈ ps, ∃ b ∈ qs, test b a = true))

/-- Something meets each list: its own first descriptor. -/
lemma exists_met (hrefl : ∀ a, test a a = true) (ps : List δ) : ∃ found, Met test ps found := by
  cases ps with
  | nil => exact ⟨none, fun h => absurd rfl h⟩
  | cons a ps => exact ⟨some a, fun _ => ⟨a, rfl, a, List.mem_cons_self, hrefl a⟩⟩

/-- **A list is covered by another exactly if whatever meets it meets the other one.** The
descriptors of the list themselves, and no descriptor at all, are what tells the lists apart
otherwise. -/
lemma met_imp_iff (hrefl : ∀ a, test a a = true)
    (htrans : ∀ {a b c}, test a b = true → test b c = true → test a c = true) :
    (∀ found, Met test ps found → Met test qs found) ↔ Covers test ps qs := by
  constructor
  · intro h
    by_cases hqs : qs = []
    · exact .inl hqs
    refine .inr ⟨?_, fun a ha => ?_⟩
    · rintro rfl
      obtain ⟨d, hd, -⟩ := h none (fun hne => absurd rfl hne) hqs
      cases hd
    · obtain ⟨d, hd, b, hb, hbd⟩ := h (some a) (fun _ => ⟨a, rfl, a, ha, hrefl a⟩) hqs
      cases hd
      exact ⟨b, hb, hbd⟩
  · rintro (rfl | ⟨hps, hcover⟩) found hmet hqs
    · exact absurd rfl hqs
    · obtain ⟨d, hd, a, ha, had⟩ := hmet hps
      obtain ⟨b, hb, hba⟩ := hcover a ha
      exact ⟨d, hd, b, hb, htrans hba had⟩

/-- A list is covered by one that matches each of its descriptors and is not longer than it if it
is empty. -/
lemma Covers.of_matched (h : ∀ a ∈ ps, ∃ b ∈ qs, test b a = true) (hempty : ps = [] → qs = []) :
    Covers test ps qs := by
  by_cases hps : ps = []
  · exact .inl (hempty hps)
  · exact .inr ⟨hps, h⟩

/-- Lists with the same descriptors cover each other. -/
lemma Covers.of_mem_iff (hrefl : ∀ a, test a a = true) (h : ∀ a, a ∈ ps ↔ a ∈ qs) :
    Covers test ps qs := by
  refine .of_matched (fun a ha => ⟨a, (h a).mp ha, hrefl a⟩) ?_
  rintro rfl
  exact List.eq_nil_iff_forall_not_mem.mpr fun a ha => List.not_mem_nil ((h a).mpr ha)

/-- Lists whose descriptors match each other one by one cover each other. -/
lemma covers_of_forall₂ (h : List.Forall₂ (fun a b => test a b = true ∧ test b a = true) ps qs) :
    Covers test ps qs ∧ Covers test qs ps := by
  have hmatched : (∀ a ∈ ps, ∃ b ∈ qs, test b a = true) ∧ ∀ b ∈ qs, ∃ a ∈ ps, test a b = true := by
    induction h with
    | nil => simp
    | @cons a b ps qs hab _ ih =>
      constructor
      · rintro x (_ | ⟨_, hx⟩)
        · exact ⟨b, List.mem_cons_self, hab.2⟩
        · obtain ⟨y, hy, hyx⟩ := ih.1 x hx
          exact ⟨y, List.mem_cons_of_mem _ hy, hyx⟩
      · rintro y (_ | ⟨_, hy⟩)
        · exact ⟨a, List.mem_cons_self, hab.1⟩
        · obtain ⟨x, hx, hxy⟩ := ih.2 y hy
          exact ⟨x, List.mem_cons_of_mem _ hx, hxy⟩
  have hlength : ps = [] ↔ qs = [] := by
    rw [← List.length_eq_zero_iff, ← List.length_eq_zero_iff, h.length_eq]
  exact ⟨.of_matched hmatched.1 hlength.mp, .of_matched hmatched.2 hlength.mpr⟩

end Asks

/-! ### Selectors -/

namespace Labels

variable {ps qs : List (SortedMap String String)}

/-- **Met**: one of the labels of one of the selectors is there, unless there is no selector. -/
def Met (selectors : List (SortedMap String String)) (labels : SortedMap String String) : Prop :=
  selectors ≠ [] → ∃ s ∈ selectors, ∃ label ∈ s.entries, label ∈ labels.entries

/-- **Covers**: there is no second selector, or there is a first one and every label of the first
selectors is one of the second. -/
def Covers (ps qs : List (SortedMap String String)) : Prop :=
  qs = [] ∨ ps ≠ [] ∧ ∀ s ∈ ps, ∀ label ∈ s.entries, ∃ t ∈ qs, label ∈ t.entries

instance : Decidable (Covers ps qs) :=
  inferInstanceAs (Decidable
    (qs = [] ∨ ps ≠ [] ∧ ∀ s ∈ ps, ∀ label ∈ s.entries, ∃ t ∈ qs, label ∈ t.entries))

/-- A single label. -/
def single (name value : String) : SortedMap String String :=
  SortedMap.empty.insert name value

lemma mem_single {name value : String} {label : String × String} :
    label ∈ (single name value).entries ↔ label = (name, value) :=
  List.mem_singleton

/-- **Selectors are covered by others exactly if the labels that meet them meet the others.** -/
lemma met_imp_iff : (∀ labels, Met ps labels → Met qs labels) ↔ Covers ps qs := by
  constructor
  · intro h
    by_cases hqs : qs = []
    · exact .inl hqs
    refine .inr ⟨?_, fun s hs label hlabel => ?_⟩
    · rintro rfl
      obtain ⟨t, -, label, -, hnone⟩ := h .empty (fun hne => absurd rfl hne) hqs
      cases hnone
    · -- nothing but this label is there, so it is the one that meets the others
      have hmet : Met ps (single label.1 label.2) :=
        fun _ => ⟨s, hs, label, hlabel, mem_single.mpr rfl⟩
      obtain ⟨t, ht, label', ht', hsingle⟩ := h _ hmet hqs
      rw [mem_single.mp hsingle] at ht'
      exact ⟨t, ht, ht'⟩
  · rintro (rfl | ⟨hps, hcover⟩) labels hmet hqs
    · exact absurd rfl hqs
    · obtain ⟨s, hs, label, hlabel, hcarried⟩ := hmet hps
      obtain ⟨t, ht, hlabel⟩ := hcover s hs label hlabel
      exact ⟨t, ht, label, hlabel, hcarried⟩

/-- Selectors with the same labels cover each other, if there are none where there are none. -/
lemma Covers.of_labels (hempty : ps = [] → qs = [])
    (h : ∀ s ∈ ps, ∀ label ∈ s.entries, ∃ t ∈ qs, label ∈ t.entries) : Covers ps qs := by
  by_cases hps : ps = []
  · exact .inl (hempty hps)
  · exact .inr ⟨hps, h⟩

/-- The same selectors cover each other. -/
lemma Covers.of_mem_iff (h : ∀ s, s ∈ ps ↔ s ∈ qs) : Covers ps qs := by
  refine .of_labels ?_ fun s hs label hlabel => ⟨s, (h s).mp hs, hlabel⟩
  rintro rfl
  exact List.eq_nil_iff_forall_not_mem.mpr fun s hs => List.not_mem_nil ((h s).mpr hs)

/-- The labels of a selector, each as a selector of its own. -/
def singles (s : SortedMap String String) : List (SortedMap String String) :=
  s.entries.map (fun label => single label.1 label.2)

/-- The labels are the same. -/
lemma exists_mem_singles {s : SortedMap String String} {label : String × String} :
    (∃ t ∈ singles s, label ∈ t.entries) ↔ label ∈ s.entries := by
  simp only [singles, List.mem_map, exists_exists_and_eq_and, mem_single]
  exact ⟨fun ⟨_, hmem, hlabel⟩ => hlabel ▸ hmem, fun hmem => ⟨label, hmem, rfl⟩⟩

/-- A selector that has labels may be split into them. -/
lemma covers_split (before after : List (SortedMap String String))
    {s : SortedMap String String} (hs : s.entries ≠ []) :
    Covers (before ++ s :: after) (before ++ singles s ++ after) ∧
      Covers (before ++ singles s ++ after) (before ++ s :: after) := by
  constructor
  · refine .of_labels (by simp) fun t ht label hlabel => ?_
    rcases List.mem_append.mp ht with hbefore | hrest
    · exact ⟨t, by simp [hbefore], hlabel⟩
    rcases List.mem_cons.mp hrest with rfl | hafter
    · obtain ⟨u, hu, hlabel⟩ := exists_mem_singles.mpr hlabel
      exact ⟨u, by simp [hu], hlabel⟩
    · exact ⟨t, by simp [hafter], hlabel⟩
  · have hsome : singles s ≠ [] := by simpa [singles] using hs
    refine .of_labels (by simp [hsome]) fun t ht label hlabel => ?_
    rcases List.mem_append.mp ht with hfront | hafter
    · rcases List.mem_append.mp hfront with hbefore | hsingle
      · exact ⟨t, by simp [hbefore], hlabel⟩
      · exact ⟨s, by simp, exists_mem_singles.mp ⟨t, hsingle, hlabel⟩⟩
    · exact ⟨t, by simp [hafter], hlabel⟩

end Labels

namespace Qualifiers

variable {p q : Qualifiers} {m : Machine}

/-! ### The test -/

/-- A machine meets qualifiers if it meets each of their categories. -/
lemma meets_iff : q.Meets m ↔
    Asks.Met CpuInformation.partialMatches q.cpu m.spec.cpu ∧
      Asks.Met SystemInformation.partialMatches q.systemInformation m.spec.systemInformation ∧
      Labels.Met q.labelSelectors m.labels := by
  have hlabels : Labels.Met q.labelSelectors m.labels ↔
      (q.labelSelectors ≠ [] → ∃ s ∈ q.labelSelectors, ∃ name value,
        s.get? name = some value ∧ m.labels.get? name = some value) := by
    simp only [Labels.Met, Prod.exists, SortedMap.mem_entries_iff]
  rw [hlabels]
  exact ⟨fun h => ⟨h.cpu, h.system, h.labels⟩, fun h => ⟨h.1, h.2.1, h.2.2⟩⟩

/-- **Unsatisfiable**: there are selectors, but none of them has a label. -/
def Unsatisfiable (p : Qualifiers) : Prop :=
  p.labelSelectors ≠ [] ∧ ∀ s ∈ p.labelSelectors, s.entries = []

/-- **Within**: in each category the second qualifiers ask for nothing, or the first ones ask for
something and for no more than the second ones do. A descriptor asks for no more than one that
matches it, and selectors for no more than others that have all their labels. -/
def Within (p q : Qualifiers) : Prop :=
  Asks.Covers CpuInformation.partialMatches p.cpu q.cpu ∧
    Asks.Covers SystemInformation.partialMatches p.systemInformation q.systemInformation ∧
    Labels.Covers p.labelSelectors q.labelSelectors

/-- **Contained**: the test for one class to be contained in another. -/
def Contained (p q : Qualifiers) : Prop := p.Unsatisfiable ∨ p.Within q

instance : Decidable p.Unsatisfiable :=
  inferInstanceAs (Decidable (p.labelSelectors ≠ [] ∧ ∀ s ∈ p.labelSelectors, s.entries = []))

instance : Decidable (p.Within q) :=
  inferInstanceAs (Decidable (Asks.Covers CpuInformation.partialMatches p.cpu q.cpu ∧
    Asks.Covers SystemInformation.partialMatches p.systemInformation q.systemInformation ∧
    Labels.Covers p.labelSelectors q.labelSelectors))

instance : Decidable (p.Contained q) :=
  inferInstanceAs (Decidable (p.Unsatisfiable ∨ p.Within q))

/-- Some labels meet the selectors, unless these have none. -/
lemma exists_labels_met (h : ¬ p.Unsatisfiable) : ∃ labels, Labels.Met p.labelSelectors labels := by
  by_cases hnone : p.labelSelectors = []
  · exact ⟨.empty, fun hne => absurd hnone hne⟩
  · simp only [Unsatisfiable, not_and, not_forall] at h
    obtain ⟨s, hs, hentries⟩ := h hnone
    obtain ⟨label, hlabel⟩ := List.exists_mem_of_ne_nil _ hentries
    exact ⟨Labels.single label.1 label.2, fun _ =>
      ⟨s, hs, label, hlabel, Labels.mem_single.mpr rfl⟩⟩

/-- No machine meets what is unsatisfiable. -/
lemma Unsatisfiable.not_meets (h : p.Unsatisfiable) : ¬ p.Meets m := by
  intro hm
  obtain ⟨s, hs, label, hlabel, -⟩ := (meets_iff.mp hm).2.2 h.1
  rw [h.2 s hs] at hlabel
  cases hlabel

/-- An accepted machine with these facts. -/
def machineWith (cpu : Option CpuInformation) (info : Option SystemInformation)
    (labels : SortedMap String String) : Machine where
  metadata := { name := some "m", labels := some labels }
  spec := { accepted := true, cpu := cpu, systemInformation := info }

/-- A machine that meets contained qualifiers meets those that contain them. -/
lemma Contained.meets (h : p.Contained q) (hm : p.Meets m) : q.Meets m := by
  rcases h with hp | ⟨hcpu, hsystem, hlabels⟩
  · exact absurd hm hp.not_meets
  · obtain ⟨hc, hi, hl⟩ := meets_iff.mp hm
    refine meets_iff.mpr ⟨?_, ?_, Labels.met_imp_iff.mpr hlabels _ hl⟩
    · exact (Asks.met_imp_iff CpuInformation.partialMatches_refl
        CpuInformation.partialMatches_trans).mpr hcpu _ hc
    · exact (Asks.met_imp_iff SystemInformation.partialMatches_refl
        SystemInformation.partialMatches_trans).mpr hsystem _ hi

/-- **The test is complete.** If it fails there is an accepted machine that meets the first
qualifiers and not the second ones: it meets the first ones in each category, and in the one where
the test fails by something that tells the two apart. -/
lemma meets_imp_iff :
    (∀ m, m.spec.accepted = true → p.Meets m → q.Meets m) ↔ p.Contained q := by
  constructor
  · intro h
    by_cases hp : p.Unsatisfiable
    · exact .inl hp
    obtain ⟨cpu, hcpu⟩ := Asks.exists_met CpuInformation.partialMatches_refl p.cpu
    obtain ⟨info, hinfo⟩ := Asks.exists_met SystemInformation.partialMatches_refl
      p.systemInformation
    obtain ⟨labels, hlabels⟩ := exists_labels_met hp
    have hmeets : ∀ {cpu info labels}, Asks.Met CpuInformation.partialMatches p.cpu cpu →
        Asks.Met SystemInformation.partialMatches p.systemInformation info →
        Labels.Met p.labelSelectors labels → q.Meets (machineWith cpu info labels) :=
      fun hc hi hl => h _ rfl (meets_iff.mpr ⟨hc, hi, hl⟩)
    refine .inr ⟨?_, ?_, ?_⟩
    · refine (Asks.met_imp_iff CpuInformation.partialMatches_refl
        CpuInformation.partialMatches_trans).mp fun found hfound => ?_
      exact (meets_iff.mp (hmeets hfound hinfo hlabels)).1
    · refine (Asks.met_imp_iff SystemInformation.partialMatches_refl
        SystemInformation.partialMatches_trans).mp fun found hfound => ?_
      exact (meets_iff.mp (hmeets hcpu hfound hlabels)).2.1
    · refine Labels.met_imp_iff.mp fun found hfound => ?_
      exact (meets_iff.mp (hmeets hcpu hinfo hfound)).2.2
  · exact fun h m _ hm => h.meets hm

/-! ### Other words for the same class -/

/-- **Reworded**: the same qualifiers in other words. -/
inductive Reworded : Qualifiers → Qualifiers → Prop
  /-- The entries of each category stand in another order or are repeated. -/
  | rearranged {p q : Qualifiers} (hcpu : ∀ a, a ∈ p.cpu ↔ a ∈ q.cpu)
      (hsystem : ∀ a, a ∈ p.systemInformation ↔ a ∈ q.systemInformation)
      (hlabels : ∀ s, s ∈ p.labelSelectors ↔ s ∈ q.labelSelectors) : Reworded p q
  /-- Absent values of descriptors are written as empty ones. -/
  | blanked {p q : Qualifiers} (hcpu : List.Forall₂ CpuInformation.Blanked p.cpu q.cpu)
      (hsystem : List.Forall₂ SystemInformation.Blanked p.systemInformation q.systemInformation)
      (hlabels : p.labelSelectors = q.labelSelectors) : Reworded p q
  /-- A selector with labels is split into selectors with one label each. -/
  | split {p : Qualifiers} (before after : List (SortedMap String String))
      {s : SortedMap String String} (hs : s.entries ≠ [])
      (hp : p.labelSelectors = before ++ s :: after) :
      Reworded p { p with labelSelectors := before ++ Labels.singles s ++ after }

/-- Other words for a class are within it, and it is within them. -/
lemma Reworded.within (h : Reworded p q) : p.Within q ∧ q.Within p := by
  cases h with
  | rearranged hcpu hsystem hlabels =>
    constructor
    · exact ⟨.of_mem_iff CpuInformation.partialMatches_refl hcpu,
        .of_mem_iff SystemInformation.partialMatches_refl hsystem, .of_mem_iff hlabels⟩
    · exact ⟨.of_mem_iff CpuInformation.partialMatches_refl (fun a => (hcpu a).symm),
        .of_mem_iff SystemInformation.partialMatches_refl (fun a => (hsystem a).symm),
        .of_mem_iff (fun s => (hlabels s).symm)⟩
  | blanked hcpu hsystem hlabels =>
    have hcpus := Asks.covers_of_forall₂ (hcpu.imp fun _ _ h => h.partialMatches)
    have hsystems := Asks.covers_of_forall₂ (hsystem.imp fun _ _ h => h.partialMatches)
    constructor
    · exact ⟨hcpus.1, hsystems.1, .of_mem_iff fun s => by rw [hlabels]⟩
    · exact ⟨hcpus.2, hsystems.2, .of_mem_iff fun s => by rw [hlabels]⟩
  | split before after hs hp =>
    have hsplit := Labels.covers_split before after hs
    rw [← hp] at hsplit
    have hcpu : Asks.Covers CpuInformation.partialMatches p.cpu p.cpu :=
      .of_mem_iff CpuInformation.partialMatches_refl (fun _ => Iff.rfl)
    have hsystem : Asks.Covers SystemInformation.partialMatches p.systemInformation
        p.systemInformation :=
      .of_mem_iff SystemInformation.partialMatches_refl (fun _ => Iff.rfl)
    exact ⟨⟨hcpu, hsystem, hsplit.1⟩, ⟨hcpu, hsystem, hsplit.2⟩⟩

end Qualifiers

namespace Inventory

/-! ### Inventories -/

variable {p q : Qualifiers}

/-- What is left of an inventory of a single machine. -/
lemma mem_apply_single {m : Machine} (hm : m.spec.accepted = true) :
    (m.name, m) ∈ ((ofMachines [m]).apply q).entries ↔ q.Meets m := by
  have hbearer : bearer [m] m.name = some m := by simp [bearer, hm]
  rw [SortedMap.mem_entries_iff, get?_apply, get?_ofMachines, hbearer]
  simp

/-- It is enough to look at inventories of accepted machines. -/
lemma contained_of_entries_subset (h : ∀ machines, ((ofMachines machines).apply p).entries ⊆
    ((ofMachines machines).apply q).entries) : p.Contained q := by
  refine Qualifiers.meets_imp_iff.mp fun m hm hp => ?_
  exact (mem_apply_single hm).mp (h [m] ((mem_apply_single hm).mpr hp))

/-- **What one class selects from any inventory another one selects too, exactly if the test says
so.** -/
lemma entries_subset_iff :
    (∀ inv : Inventory, (inv.apply p).entries ⊆ (inv.apply q).entries) ↔ p.Contained q := by
  constructor
  · exact fun h => contained_of_entries_subset fun machines => h (ofMachines machines)
  · rintro h inv ⟨n, m⟩ hmem
    rw [SortedMap.mem_entries_iff, get?_apply] at hmem ⊢
    exact ⟨hmem.1, h.meets hmem.2⟩

/-- Two classes select the same machines from every inventory exactly if each is contained in the
other. -/
lemma apply_eq_iff :
    (∀ inv : Inventory, inv.apply p = inv.apply q) ↔ p.Contained q ∧ q.Contained p := by
  rw [← entries_subset_iff, ← entries_subset_iff]
  constructor
  · intro h
    exact ⟨fun inv => (h inv ▸ List.Subset.refl _), fun inv => (h inv ▸ List.Subset.refl _)⟩
  · rintro ⟨hpq, hqp⟩ inv
    apply SortedMap.ext_get?
    intro n
    refine Option.ext fun m => ?_
    rw [← SortedMap.mem_entries_iff, ← SortedMap.mem_entries_iff]
    exact ⟨fun hm => hpq inv hm, fun hm => hqp inv hm⟩

/-- Other words for a class never change what it selects. -/
lemma apply_eq_of_reworded (h : Relation.EqvGen Qualifiers.Reworded p q) (inv : Inventory) :
    inv.apply p = inv.apply q := by
  induction h with
  | rel p q h => exact apply_eq_iff.mpr ⟨.inr h.within.1, .inr h.within.2⟩ inv
  | refl p => rfl
  | symm p q _ ih => exact ih.symm
  | trans p q r _ _ ihp ihq => exact ihp.trans ihq

/-- **When a class contains another.** What the one selects the other selects too, from every
inventory or only from those of accepted machines, exactly if the test says so, which looks at each
category of the qualifiers alone. So two classes select the same from every inventory exactly if
each is contained in the other. In particular nothing changes if the entries of a category stand in
another order or are repeated, if absent values are written as empty ones, or if a selector with
labels is split into selectors with one label each. -/
theorem contained_iff (p q : Qualifiers) :
    ((∀ inv : Inventory, (inv.apply p).entries ⊆ (inv.apply q).entries) ↔ p.Contained q) ∧
      ((∀ machines, ((ofMachines machines).apply p).entries ⊆
        ((ofMachines machines).apply q).entries) ↔ p.Contained q) ∧
      ((∀ inv : Inventory, inv.apply p = inv.apply q) ↔ p.Contained q ∧ q.Contained p) ∧
      (Relation.EqvGen Qualifiers.Reworded p q → ∀ inv : Inventory, inv.apply p = inv.apply q) :=
  ⟨entries_subset_iff,
    ⟨contained_of_entries_subset, fun h machines => entries_subset_iff.mpr h (ofMachines machines)⟩,
    apply_eq_iff, apply_eq_of_reworded⟩

/-- Qualifiers of machines with a certain processor in a certain rack or zone. -/
def rackOrZone : Qualifiers where
  cpu := [{ version := some "7543" }]
  labelSelectors := [SortedMap.ofList [("rack", "7"), ("zone", "a")]]

/-- The same in other words: the maker of the processor is empty, and the selector is split. -/
def rackThenZone : Qualifiers where
  cpu := [{ manufacturer := some "", version := some "7543" }]
  labelSelectors := [Labels.single "rack" "7", Labels.single "zone" "a"]

/-- The classes are the same, and both are within that of the machines with any processor. This one
is smaller than that of all machines: one without a processor is not in it. -/
theorem contained_iff_rackOrZone :
    Relation.EqvGen Qualifiers.Reworded rackOrZone rackThenZone ∧
      (∀ inv : Inventory, inv.apply rackOrZone = inv.apply rackThenZone) ∧
      (∀ inv : Inventory, (inv.apply rackOrZone).entries ⊆ (inv.apply { cpu := [{}] }).entries) ∧
      ¬ ∀ inv : Inventory, (inv.apply {}).entries ⊆ (inv.apply { cpu := [{}] }).entries := by
  have hreworded : Relation.EqvGen Qualifiers.Reworded rackOrZone rackThenZone := by
    refine .trans _ { rackOrZone with cpu := rackThenZone.cpu } _ (.rel _ _ ?_) (.rel _ _ ?_)
    · refine .blanked (.cons ⟨.inr ⟨rfl, rfl⟩, .inl rfl⟩ .nil) .nil rfl
    · have hlabels : (SortedMap.ofList [("rack", "7"), ("zone", "a")]).entries ≠ [] := by decide
      exact .split [] [] hlabels rfl
  refine ⟨hreworded, (contained_iff _ _).2.2.2 hreworded, ?_, ?_⟩
  · exact (contained_iff _ _).1.mpr (by decide)
  · exact fun h => absurd ((contained_iff _ _).1.mp h) (by decide)

end Inventory

end BareMetal
