import BareMetal.Proofs.Json.Order

/-!
Printed values are read back.

* `scanString_escape`, `scanString_writeString`: **every string is read back**, character by
  character, whatever escapes stand for it;
* `Json.Numberless`: a value without numbers;
* `readValue_write`: such a value is read off the front of a text that begins with it, if the fuel
  goes further than the text;
* `Document.read_text`: **the text of such a value is read as the value**, and nothing is left.
-/

namespace BareMetal

namespace Json

/-! ### Strings -/

lemma hexValue?_hexDigit : ∀ d < 16, hexValue? (hexDigit d) = some d := by decide

/-- One of the first digits of a hexadecimal escape. -/
lemma scanString_digit {c : Char} {d count value : Nat} {read cs : List Char}
    (h : hexValue? c = some d) (hcount : count < 3) :
    scanString (.hex none count value) true read (c :: cs) =
      scanString (.hex none (count + 1) (value * 16 + d)) true read cs := by
  simp [scanString, h, hcount]

/-- The last digit of one that stands for a control character. -/
lemma scanString_lastDigit {c : Char} {d value : Nat} {read cs : List Char}
    (h : hexValue? c = some d) (hvalue : value * 16 + d < 32) :
    scanString (.hex none 3 value) true read (c :: cs) =
      scanString .plain true (Char.ofNat (value * 16 + d) :: read) cs := by
  have hcomplete : completeHex none (value * 16 + d) =
      (.plain, true, [Char.ofNat (value * 16 + d)]) := by
    rw [completeHex]
    have hlead : ¬ 0xD800 ≤ value * 16 + d := by omega
    have htrailing : ¬ 0xDC00 ≤ value * 16 + d := by omega
    simp [hlead, htrailing]
  simp [scanString, h, hcomplete]

/-- A character of a string is read off the front of what is written for it. -/
lemma scanString_escape (c : Char) (read cs : List Char) :
    scanString .plain true read (escape c ++ cs) = scanString .plain true (c :: read) cs := by
  have hcode : ∀ n, c.toNat = n → c = Char.ofNat n := by
    rintro n rfl
    exact c.ofNat_toNat.symm
  rw [escape]
  split_ifs with hquote hslash h8 h9 h10 h12 h13 hcontrol
  · subst hquote
    rfl
  · subst hslash
    rfl
  · rw [hcode 8 h8]
    rfl
  · rw [hcode 9 h9]
    rfl
  · rw [hcode 10 h10]
    rfl
  · rw [hcode 12 h12]
    rfl
  · rw [hcode 13 h13]
    rfl
  · -- four hexadecimal digits, of which the first two are zeros
    have hhigh := hexValue?_hexDigit (c.toNat / 16) (by omega)
    have hlow := hexValue?_hexDigit (c.toNat % 16) (by omega)
    have hvalue : (0 * 16 + 0) * 16 + c.toNat / 16 = c.toNat / 16 := by omega
    have hcode : c.toNat / 16 * 16 + c.toNat % 16 = c.toNat := Nat.div_add_mod' _ _
    have hstart : scanString .plain true read
        (['\\', 'u', '0', '0', hexDigit (c.toNat / 16), hexDigit (c.toNat % 16)] ++ cs) =
          scanString (.hex none 2 0) true read
            (hexDigit (c.toNat / 16) :: hexDigit (c.toNat % 16) :: cs) := rfl
    rw [hstart, scanString_digit hhigh (by decide), Nat.zero_mul, Nat.zero_add,
      scanString_lastDigit hlow (by omega), hcode, Char.ofNat_toNat]
  · simp [scanString, hquote, hslash, hcontrol]

/-- **Every string is read back**, with what stands behind it. -/
lemma scanString_flatMap_escape (cs read rest : List Char) :
    scanString .plain true read (cs.flatMap escape ++ '"' :: rest) =
      .value (String.ofList (read.reverse ++ cs)) rest := by
  induction cs generalizing read with
  | nil => simp [scanString]
  | cons c cs ih =>
    rw [List.flatMap_cons, List.append_assoc, scanString_escape, ih, List.reverse_cons,
      List.append_assoc, List.singleton_append]

lemma scanString_writeString (s : String) (rest : List Char) :
    scanString .plain true [] (s.toList.flatMap escape ++ '"' :: rest) = .value s rest := by
  rw [scanString_flatMap_escape, List.reverse_nil, List.nil_append, String.ofList_toList]

/-! ### Values -/

/-- **Numberless**: a value without numbers. -/
inductive Numberless : Json → Prop
  /-- The absent value is none. -/
  | null : Numberless .null
  /-- Nor is a truth value. -/
  | bool (b : Bool) : Numberless (.bool b)
  /-- Nor is a string. -/
  | str (s : String) : Numberless (.str s)
  /-- An array without any. -/
  | arr {items : List Json} (h : ∀ v ∈ items, Numberless v) : Numberless (.arr items)
  /-- An object without any. -/
  | obj {members : List (String × Json)} (h : ∀ m ∈ members, Numberless m.2) :
      Numberless (.obj members)

variable {v : Json} {vs : List Json} {ms : List (String × Json)} {fuel : ℕ} {rest : List Char}

lemma length_lt_writeString (s : String) (rest : List Char) :
    rest.length < (writeString s rest).length := by
  simp only [writeString, List.length_cons, List.length_append]
  omega

lemma length_le_writeItems (h : ∀ v ∈ vs, ∀ rest, rest.length < (v.write rest).length)
    (rest : List Char) : rest.length ≤ (writeItems vs rest).length := by
  induction vs with
  | nil => exact le_rfl
  | cons v vs ih =>
    obtain ⟨hv, hvs⟩ := List.forall_mem_cons.mp h
    cases vs with
    | nil => exact (hv rest).le
    | cons w vs =>
      have hfirst := hv (',' :: writeItems (w :: vs) rest)
      have hothers := ih hvs
      rw [writeItems]
      rw [List.length_cons] at hfirst
      omega

lemma length_le_writeMembers (h : ∀ m ∈ ms, ∀ rest, rest.length < (m.2.write rest).length)
    (rest : List Char) : rest.length ≤ (writeMembers ms rest).length := by
  induction ms with
  | nil => exact le_rfl
  | cons m ms ih =>
    obtain ⟨k, v⟩ := m
    obtain ⟨hv, hms⟩ : (∀ rest, rest.length < (v.write rest).length) ∧ _ :=
      List.forall_mem_cons.mp h
    cases ms with
    | nil =>
      have hname := length_lt_writeString k (':' :: v.write rest)
      have hvalue := hv rest
      rw [writeMembers]
      rw [List.length_cons] at hname
      omega
    | cons n ms =>
      have hname := length_lt_writeString k (':' :: v.write (',' :: writeMembers (n :: ms) rest))
      have hvalue := hv (',' :: writeMembers (n :: ms) rest)
      have hothers := ih hms
      rw [writeMembers]
      rw [List.length_cons] at hname hvalue
      omega

/-- Something is written for each value. -/
lemma Numberless.length_lt_write (hv : v.Numberless) (rest : List Char) :
    rest.length < (v.write rest).length := by
  induction hv generalizing rest with
  | null =>
    simp only [write, List.length_append]
    exact Nat.lt_add_of_pos_left (by decide)
  | bool b =>
    simp only [write, List.length_append]
    exact Nat.lt_add_of_pos_left (by cases b <;> decide)
  | str s => exact length_lt_writeString s rest
  | arr _ ih =>
    have hitems := length_le_writeItems ih (']' :: rest)
    rw [write, List.length_cons]
    rw [List.length_cons] at hitems
    omega
  | obj _ ih =>
    have hmembers := length_le_writeMembers ih ('}' :: rest)
    rw [write, List.length_cons]
    rw [List.length_cons] at hmembers
    omega

/-- What is written for a value starts with no blank and does not look like the end of an array. -/
lemma Numberless.write_eq_cons (hv : v.Numberless) (rest : List Char) :
    ∃ c cs, v.write rest = c :: cs ∧ skipBlank (c :: cs) = c :: cs ∧ c ≠ ']' := by
  cases hv with
  | bool b =>
    cases b
    · exact ⟨_, _, rfl, rfl, by decide⟩
    · exact ⟨_, _, rfl, rfl, by decide⟩
  | _ => exact ⟨_, _, rfl, rfl, by decide⟩

/-- The items of an array are read, if each of them is. -/
lemma readItems_writeItems (hvs : ∀ v ∈ vs, v.Numberless) (hne : vs ≠ [])
    (h : ∀ v ∈ vs, ∀ fuel rest, 2 * (v.write rest).length < fuel →
      readValue fuel (v.write rest) = (.ofJson v, some rest))
    (hfuel : 2 * (writeItems vs (']' :: rest)).length + 1 < fuel) :
    readItems fuel (writeItems vs (']' :: rest)) = (Document.ofItems vs, none, some rest) := by
  induction vs generalizing fuel with
  | nil => exact absurd rfl hne
  | cons v vs ih =>
    obtain ⟨hv, hvs⟩ := List.forall_mem_cons.mp hvs
    obtain ⟨hread, hreads⟩ := List.forall_mem_cons.mp h
    obtain ⟨fuel, rfl⟩ := Nat.exists_eq_succ_of_ne_zero (Nat.ne_zero_of_lt hfuel)
    cases vs with
    | nil =>
      rw [writeItems] at hfuel ⊢
      rw [readItems, hread fuel _ (by omega)]
      rfl
    | cons w vs =>
      rw [writeItems] at hfuel ⊢
      have hlength := hv.length_lt_write (',' :: writeItems (w :: vs) (']' :: rest))
      rw [List.length_cons] at hlength
      rw [readItems, hread fuel _ (by omega)]
      have hrest : readItems fuel (writeItems (w :: vs) (']' :: rest)) = _ :=
        ih hvs (by simp) hreads (by omega)
      simp only [skipBlank, Char.reduceEq, or_self, if_false, if_true, hrest]
      rfl

/-- The name of a member is read off the front. -/
lemma readMembers_writeString (k : String) (cs : List Char) :
    readMembers (fuel + 1) (writeString k cs) = readMember fuel (some k) cs := by
  rw [writeString, List.cons_append, readMembers]
  simp [skipBlank, scanString_writeString]

/-- The members of an object are read, if the value of each of them is. -/
lemma readMembers_writeMembers (hms : ∀ m ∈ ms, m.2.Numberless) (hne : ms ≠ [])
    (h : ∀ m ∈ ms, ∀ fuel rest, 2 * (m.2.write rest).length < fuel →
      readValue fuel (m.2.write rest) = (.ofJson m.2, some rest))
    (hfuel : 2 * (writeMembers ms ('}' :: rest)).length + 1 < fuel) :
    readMembers fuel (writeMembers ms ('}' :: rest)) =
      (Document.ofMembers ms, none, some rest) := by
  induction ms generalizing fuel with
  | nil => exact absurd rfl hne
  | cons m ms ih =>
    obtain ⟨k, v⟩ := m
    obtain ⟨hv, hms⟩ : v.Numberless ∧ ∀ m ∈ ms, m.2.Numberless := List.forall_mem_cons.mp hms
    obtain ⟨hread, hreads⟩ : (∀ fuel rest, 2 * (v.write rest).length < fuel →
        readValue fuel (v.write rest) = (.ofJson v, some rest)) ∧ _ := List.forall_mem_cons.mp h
    -- one step of the fuel goes to the name, and one to what stands behind it
    obtain ⟨fuel, rfl⟩ : ∃ n, fuel = n + 2 := ⟨fuel - 2, by omega⟩
    cases ms with
    | nil =>
      have hname := length_lt_writeString k (':' :: v.write ('}' :: rest))
      rw [List.length_cons] at hname
      rw [writeMembers] at hfuel ⊢
      rw [readMembers_writeString, readMember, skipBlank]
      simp only [Char.reduceEq, or_self, if_false, ne_eq, not_true_eq_false,
        hread fuel ('}' :: rest) (by omega)]
      rfl
    | cons n ms =>
      have hname :=
        length_lt_writeString k (':' :: v.write (',' :: writeMembers (n :: ms) ('}' :: rest)))
      have hvalue := hv.length_lt_write (',' :: writeMembers (n :: ms) ('}' :: rest))
      rw [List.length_cons] at hname hvalue
      rw [writeMembers] at hfuel ⊢
      have hrest : readMembers fuel (writeMembers (n :: ms) ('}' :: rest)) = _ :=
        ih hms (by simp) hreads (by omega)
      rw [readMembers_writeString, readMember, skipBlank]
      simp only [Char.reduceEq, or_self, if_false, ne_eq, not_true_eq_false, skipBlank, if_true,
        hread fuel (',' :: writeMembers (n :: ms) ('}' :: rest)) (by omega), hrest]
      rfl

/-- An array that has items is read if they are. -/
lemma readValue_bracket {c : Char} {cs : List Char} {ds : List Document}
    (hblank : skipBlank (c :: cs) = c :: cs) (hend : c ≠ ']')
    (hread : readItems fuel (c :: cs) = (ds, none, some rest)) :
    readValue (fuel + 1) ('[' :: c :: cs) = (.arr ds none, some rest) := by
  have hstart : skipBlank ('[' :: c :: cs) = '[' :: c :: cs := by simp [skipBlank]
  simp [readValue, hstart, hblank, hend, hread]

/-- An object that has members is read if they are. -/
lemma readValue_brace {cs : List Char} {ds : List (Option String × Document)}
    (hread : readMembers fuel ('"' :: cs) = (ds, none, some rest)) :
    readValue (fuel + 1) ('{' :: '"' :: cs) = (.obj ds none, some rest) := by
  simp [readValue, skipBlank, hread]

/-- **A value without numbers is read** off the front of a text that begins with it. -/
lemma Numberless.readValue_write (hv : v.Numberless) :
    ∀ fuel rest, 2 * (v.write rest).length < fuel →
      readValue fuel (v.write rest) = (.ofJson v, some rest) := by
  intro fuel
  induction hv generalizing fuel with
  | null =>
    rintro rest hfuel
    obtain ⟨fuel, rfl⟩ := Nat.exists_eq_add_one_of_ne_zero (Nat.ne_zero_of_lt hfuel)
    simp [write, readValue, skipBlank, scanWord, Document.ofJson]
  | bool b =>
    intro rest hfuel
    obtain ⟨fuel, rfl⟩ := Nat.exists_eq_add_one_of_ne_zero (Nat.ne_zero_of_lt hfuel)
    cases b <;> simp [write, readValue, skipBlank, scanWord, Document.ofJson]
  | str s =>
    intro rest hfuel
    obtain ⟨fuel, rfl⟩ := Nat.exists_eq_add_one_of_ne_zero (Nat.ne_zero_of_lt hfuel)
    simp [write, writeString, readValue, skipBlank, scanString_writeString, Scan.document,
      Document.ofJson]
  | @arr items hitems ih =>
    intro rest hfuel
    obtain ⟨fuel, rfl⟩ := Nat.exists_eq_add_one_of_ne_zero (Nat.ne_zero_of_lt hfuel)
    cases items with
    | nil => simp [write, writeItems, readValue, skipBlank, Document.ofJson, Document.ofItems]
    | cons v vs =>
      rw [write, List.length_cons] at hfuel
      have hread : readItems fuel (writeItems (v :: vs) (']' :: rest)) = _ :=
        readItems_writeItems hitems (by simp) ih (by omega)
      obtain ⟨c, cs, hcons, hblank, hend⟩ : ∃ c cs, writeItems (v :: vs) (']' :: rest) = c :: cs ∧
          skipBlank (c :: cs) = c :: cs ∧ c ≠ ']' := by
        have hfirst := hitems v List.mem_cons_self
        cases vs with
        | nil => exact hfirst.write_eq_cons _
        | cons w vs => exact hfirst.write_eq_cons _
      rw [hcons] at hread
      rw [write, hcons, readValue_bracket hblank hend hread]
      rfl
  | @obj members hmembers ih =>
    intro rest hfuel
    obtain ⟨fuel, rfl⟩ := Nat.exists_eq_add_one_of_ne_zero (Nat.ne_zero_of_lt hfuel)
    cases members with
    | nil => simp [write, writeMembers, readValue, skipBlank, Document.ofJson, Document.ofMembers]
    | cons m ms =>
      rw [write, List.length_cons] at hfuel
      have hread : readMembers fuel (writeMembers (m :: ms) ('}' :: rest)) = _ :=
        readMembers_writeMembers hmembers (by simp) ih (by omega)
      obtain ⟨cs, hcons⟩ : ∃ cs, writeMembers (m :: ms) ('}' :: rest) = '"' :: cs := by
        cases ms <;> exact ⟨_, rfl⟩
      rw [hcons] at hread
      rw [write, hcons, readValue_brace hread]
      rfl

/-- **The text of a value without numbers is read as the value.** -/
lemma Numberless.read_text (hv : v.Numberless) : Document.read v.text = (.ofJson v, none) := by
  rw [Document.read, text, String.toList_ofList, hv.readValue_write _ _ (by omega)]
  rfl

end Json

end BareMetal
