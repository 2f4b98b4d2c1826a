import BareMetal.Proofs.Store.Version

/-!
Runs of parties that work on one store, whatever the parties are.

* `System`: a move of one of the parties, and the calls by which it changes the store;
* `System.run`, `System.callsOf`: what a list of moves leads to, and all calls that are
  made on the way;
* `System.outputs`: what the moves of a run put out;
* `System.moment`: where things stand before the `n`-th move of a run;
* `System.invariant`: what every move of a run keeps holds after the run;
* `System.later_moment`: **the store only moves on to later stores**.
-/

namespace BareMetal

/-- Parties that work on one store. -/
structure System (σ μ : Type) where
  /-- The store. -/
  store : σ → Store
  /-- What a move leads to. -/
  step : σ → μ → σ
  /-- The calls by which a move changes the store. -/
  calls : σ → μ → List Store.Call
  /-- A move changes the store by its calls and in no other way. -/
  store_step : ∀ x m, store (step x m) = (store x).after (calls x m)

namespace System

variable {σ μ : Type} (S : System σ μ)

/-- What some moves lead to. -/
def run (x : σ) (moves : List μ) : σ :=
  moves.foldl S.step x

/-- The calls that some moves make. -/
def callsOf (x : σ) : List μ → List Store.Call
  | [] => []
  | m :: moves => S.calls x m ++ callsOf (S.step x m) moves

/-- Where things stand before the `n`-th move of a run, counted from zero. -/
def moment (x : σ) (moves : List μ) (n : ℕ) : σ :=
  S.run x (moves.take n)

/-- What the moves of a run put out, one after the other. -/
def outputs {α : Type} (out : σ → μ → List α) (x : σ) : List μ → List α
  | [] => []
  | m :: moves => out x m ++ outputs out (S.step x m) moves

@[simp] lemma run_nil (x : σ) : S.run x [] = x := rfl

@[simp] lemma run_cons (x : σ) (m : μ) (moves : List μ) :
    S.run x (m :: moves) = S.run (S.step x m) moves := rfl

lemma run_append (x : σ) (as bs : List μ) : S.run x (as ++ bs) = S.run (S.run x as) bs :=
  List.foldl_append

lemma callsOf_append (x : σ) (as bs : List μ) :
    S.callsOf x (as ++ bs) = S.callsOf x as ++ S.callsOf (S.run x as) bs := by
  induction as generalizing x with
  | nil => rfl
  | cons m as ih =>
    rw [List.cons_append, callsOf, ih, callsOf, List.append_assoc, run_cons]

lemma outputs_append {α : Type} (out : σ → μ → List α) (x : σ) (as bs : List μ) :
    S.outputs out x (as ++ bs) = S.outputs out x as ++ S.outputs out (S.run x as) bs := by
  induction as generalizing x with
  | nil => rfl
  | cons m as ih => rw [List.cons_append, outputs, ih, outputs, List.append_assoc, run_cons]

/-- A choice from what a run puts out is put out by the run. -/
lemma filterMap_outputs {α β : Type} (out : σ → μ → List α) (g : α → Option β) (x : σ)
    (moves : List μ) : (S.outputs out x moves).filterMap g =
      S.outputs (fun x m => (out x m).filterMap g) x moves := by
  induction moves generalizing x with
  | nil => rfl
  | cons m moves ih => rw [outputs, outputs, List.filterMap_append, ih]

/-- The store after a run. -/
lemma store_run (x : σ) (moves : List μ) :
    S.store (S.run x moves) = (S.store x).after (S.callsOf x moves) := by
  induction moves generalizing x with
  | nil => rfl
  | cons m moves ih => rw [run_cons, ih, S.store_step, callsOf, Store.after_append]

/-- **What every move of a run keeps holds after the run.** -/
lemma invariant {P : σ → Prop} {moves : List μ} (hstep : ∀ x, ∀ m ∈ moves, P x → P (S.step x m))
    {x : σ} (h : P x) : P (S.run x moves) := by
  induction moves generalizing x with
  | nil => exact h
  | cons m moves ih =>
    have hfirst : P (S.step x m) := hstep x m List.mem_cons_self h
    exact ih (fun y m' hm' => hstep y m' (List.mem_cons_of_mem m hm')) hfirst

/-! ### Moments of a run -/

variable {x : σ} {moves : List μ}

/-- The next move leads from one moment to the next. -/
lemma moment_succ {n : ℕ} {m : μ} (h : moves[n]? = some m) :
    S.moment x moves (n + 1) = S.step (S.moment x moves n) m := by
  rw [moment, List.take_add_one, h, Option.toList_some, run_append]
  rfl

/-- What the next move puts out comes behind what was put out so far. -/
lemma outputs_take_succ {α : Type} (out : σ → μ → List α) {n : ℕ} {m : μ} (h : moves[n]? = some m) :
    S.outputs out x (moves.take (n + 1)) =
      S.outputs out x (moves.take n) ++ out (S.moment x moves n) m := by
  rw [List.take_add_one, h, Option.toList_some, outputs_append, outputs, outputs, List.append_nil]
  rfl

/-- A later moment is reached from an earlier one by the moves between them. -/
lemma moment_eq_run {m n : ℕ} (h : m ≤ n) :
    S.moment x moves n = S.run (S.moment x moves m) ((moves.take n).drop m) := by
  have hsplit : (moves.take n).take m = moves.take m := by
    rw [List.take_take, Nat.min_eq_left h]
  rw [moment, moment, ← run_append, ← hsplit, List.take_append_drop]

/-- After the last move nothing happens any more. -/
lemma moment_of_none {n : ℕ} (h : moves[n]? = none) :
    S.moment x moves (n + 1) = S.moment x moves n := by
  rw [List.getElem?_eq_none_iff] at h
  rw [moment, moment, List.take_of_length_le h, List.take_of_length_le (by omega)]

/-- At every moment the classes are stored under their own keys. -/
lemma filed_moment (h : (S.store x).Filed) (n : ℕ) : (S.store (S.moment x moves n)).Filed := by
  rw [moment, store_run]
  exact h.after _

/-- **The store only moves on to later stores**, as long as the counter does not overflow. -/
theorem later_moment (hfiled : (S.store x).Filed)
    (hroom : (S.store x).revision.toNat + Store.stamps (S.callsOf x moves) < 2 ^ 64) {m n : ℕ}
    (h : m ≤ n) : (S.store (S.moment x moves m)).Later (S.store (S.moment x moves n)) := by
  -- the run in three parts: up to `m`, from `m` to `n`, and from `n` on
  have hparts : moves = moves.take m ++ ((moves.take n).drop m ++ moves.drop n) := by
    rw [← List.append_assoc, ← Nat.min_eq_left h, ← List.take_take, Nat.min_eq_left h,
      List.take_append_drop, List.take_append_drop]
  have hstamps : Store.stamps (S.callsOf x moves) =
      Store.stamps (S.callsOf x (moves.take m)) +
        (Store.stamps (S.callsOf (S.moment x moves m) ((moves.take n).drop m)) +
          Store.stamps (S.callsOf (S.moment x moves n) (moves.drop n))) := by
    calc Store.stamps (S.callsOf x moves)
        = Store.stamps (S.callsOf x
            (moves.take m ++ ((moves.take n).drop m ++ moves.drop n))) := by rw [← hparts]
      _ = _ := by
          rw [callsOf_append, callsOf_append, Store.stamps_append, Store.stamps_append,
            S.moment_eq_run h]
          rfl
  have hrev : (S.store (S.moment x moves m)).revision.toNat =
      (S.store x).revision.toNat + Store.stamps (S.callsOf x (moves.take m)) := by
    rw [moment, store_run]
    exact Store.toNat_after_revision (by omega)
  rw [S.moment_eq_run h, store_run]
  exact Store.Later.after (S.filed_moment hfiled m) (by omega)

end System

end BareMetal
