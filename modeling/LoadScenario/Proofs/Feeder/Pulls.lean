import LoadScenario.Proofs.Random.Draws
import LoadScenario.Feeder.Basic

/-!
# What a feeder hands out

A feeder is pulled one record at a time. `Feeder.pull` is one pull, with the
feeder it leaves (a refused pull leaves the feeder as it was), and
`Feeder.pulls f k` is `k` pulls in a row. Each strategy's answers are stated
for every number of pulls:

* a queue hands out the records from its cursor on, in order and each once,
  then refuses every pull and stays where it is (`pulls_queue`);
* a shuffle does the same along an order drawn at its first pull
  (`pulls_shuffle`), and that order holds every record once (`drawnOrder_perm`);
* a circular feeder hands out pull `i` the record at `i mod 2^64 mod len`,
  its cursor counting pulls modulo `2^64` (`pulls_circular`);
* a random feeder never refuses (`pulls_random`).

The cursor counts modulo `2^64` while records are held in an array of any
size, so the statements about queues and shuffles ask for fewer than `2^64`
records.
-/

namespace LoadScenario

namespace Feeder

/-- One pull: the answer, and the feeder after it. A pull that gives no record
leaves the feeder as it was. -/
def pull (f : Feeder) : Except FeederError Record × Feeder :=
  match f.next with
  | .ok (r, f') => (.ok r, f')
  | .error e => (.error e, f)

/-- `k` pulls in a row: their answers in order, and the feeder after them. -/
def pulls (f : Feeder) : Nat → List (Except FeederError Record) × Feeder
  | 0 => ([], f)
  | k + 1 =>
    let (r, f') := f.pull
    let (rs, f'') := f'.pulls k
    (r :: rs, f'')

variable {f : Feeder}

/-! ## Pulls one after another -/

@[simp] theorem pulls_zero : f.pulls 0 = ([], f) := rfl

/-- The first pull, then the rest from the feeder it leaves. -/
theorem pulls_succ (k : Nat) :
    f.pulls (k + 1) = (f.pull.1 :: (f.pull.2.pulls k).1, (f.pull.2.pulls k).2) := rfl

/-! ## The fields a pull and a change of strategy touch -/

@[simp] theorem name_advance : f.advance.name = f.name := rfl
@[simp] theorem records_advance : f.advance.records = f.records := rfl
@[simp] theorem strategy_advance : f.advance.strategy = f.strategy := rfl
@[simp] theorem order_advance : f.advance.order = f.order := rfl
@[simp] theorem cursor_advance : f.advance.cursor = (f.cursor + 1) % Nat.pow 2 64 := rfl
@[simp] theorem len_advance : f.advance.len = f.len := rfl

@[simp] theorem name_withStrategy (s : Strategy) : (f.withStrategy s).name = f.name := rfl
@[simp] theorem records_withStrategy (s : Strategy) : (f.withStrategy s).records = f.records := rfl
@[simp] theorem strategy_withStrategy (s : Strategy) : (f.withStrategy s).strategy = s := rfl
@[simp] theorem cursor_withStrategy (s : Strategy) : (f.withStrategy s).cursor = f.cursor := rfl
@[simp] theorem order_withStrategy (s : Strategy) : (f.withStrategy s).order = none := rfl
@[simp] theorem len_withStrategy (s : Strategy) : (f.withStrategy s).len = f.len := rfl

/-! ## Queue -/

/-- A queue pull before the end hands out the record at the cursor and moves on. -/
theorem pull_queue_lt (hq : f.strategy = .queue) (hc : f.cursor < f.len) :
    f.pull = (.ok (f.records.getD f.cursor []), f.advance) := by
  simp [pull, next, hq, hc]

/-- A queue pull at the end is refused, and leaves the feeder as it was. -/
theorem pull_queue_end (hq : f.strategy = .queue) (hc : f.len ≤ f.cursor) :
    f.pull = (.error (.exhausted f.name), f) := by
  simp [pull, next, hq, Nat.not_lt.mpr hc]

/-- From a cursor at or before the end, a queue hands out the records from the
cursor on, in order and each once, then refuses every further pull and stays
where it is. -/
theorem pulls_queue (hq : f.strategy = .queue) (hc : f.cursor ≤ f.len)
    (hlen : f.len < Nat.pow 2 64) (k : Nat) :
    f.pulls k = ((List.range' f.cursor (min k (f.len - f.cursor))).map
        (fun i => .ok (f.records.getD i [])) ++
        List.replicate (k - (f.len - f.cursor)) (.error (.exhausted f.name)),
      { f with cursor := f.cursor + min k (f.len - f.cursor) }) := by
  induction k generalizing f with
  | zero => simp
  | succ k ih =>
    rw [pulls_succ]
    by_cases hlt : f.cursor < f.len
    · -- the record at the cursor, then the rest from one further on
      have hcur : f.advance.cursor = f.cursor + 1 := by
        rw [cursor_advance, Nat.mod_eq_of_lt (by omega)]
      have hmin : min (k + 1) (f.len - f.cursor) = min k (f.len - (f.cursor + 1)) + 1 := by
        omega
      have hrep : k + 1 - (f.len - f.cursor) = k - (f.len - (f.cursor + 1)) := by omega
      rw [pull_queue_lt hq hlt, ih (by simpa using hq) (by simp only [hcur, len_advance]; omega) (by simpa using hlen)]
      simp only [hcur, len_advance, records_advance, name_advance, hmin, hrep, List.range'_succ]
      simp [advance, Nat.add_assoc, Nat.add_comm 1]
    · -- at the end: refused, and the feeder stays
      have hend : f.cursor = f.len := by omega
      rw [pull_queue_end hq (by omega), ih hq hc hlen]
      simp [hend, List.replicate_succ]

/-! ## Shuffle -/

/-- The order a shuffle feeder hands its records out in: the one drawn at its
first pull, or, before that, the one its generator will draw. -/
def drawnOrder (f : Feeder) : Array Nat :=
  match f.order with
  | some o => o
  | none => (f.rng.permutation f.len).1

/-- The order a fresh shuffle feeder will draw holds each record's index once. -/
theorem drawnOrder_perm (ho : f.order = none) : f.drawnOrder.toList.Perm (List.range f.len) := by
  rw [drawnOrder, ho]
  exact Random.ChaCha.permutation_perm f.rng f.len

/-- A shuffle pull before the end hands out the record its order gives at the
cursor, fixes the order, and moves on. -/
theorem pull_shuffle_lt (hs : f.strategy = .shuffle) (hc : f.cursor < f.len) :
    ∃ f', f.pull = (.ok (f.records.getD (f.drawnOrder.getD f.cursor 0) []), f') ∧
      f'.drawnOrder = f.drawnOrder ∧ f'.strategy = .shuffle ∧ f'.records = f.records ∧
      f'.name = f.name ∧ f'.cursor = (f.cursor + 1) % Nat.pow 2 64 := by
  have hc' : ¬ f.len ≤ f.cursor := Nat.not_le.mpr hc
  cases ho : f.order with
  | none =>
    let drawn : Feeder :=
      { f with rng := (f.rng.permutation f.len).2, order := some (f.rng.permutation f.len).1 }
    refine ⟨drawn.advance, ?_⟩
    simp [pull, next, hs, hc', ho, drawnOrder, advance, drawn]
  | some o =>
    refine ⟨f.advance, ?_⟩
    simp [pull, next, hs, hc', ho, drawnOrder]

/-- A shuffle pull at the end is refused, and leaves the feeder as it was. -/
theorem pull_shuffle_end (hs : f.strategy = .shuffle) (hc : f.len ≤ f.cursor) :
    f.pull = (.error (.exhausted f.name), f) := by
  simp [pull, next, hs, hc]

/-- From a cursor at or before the end, a shuffle hands out the records in
its order from the cursor on, then refuses every further pull and stays where
it is. -/
theorem pulls_shuffle (hs : f.strategy = .shuffle) (hc : f.cursor ≤ f.len)
    (hsize : f.drawnOrder.size = f.len) (hlen : f.len < Nat.pow 2 64) (k : Nat) :
    (f.pulls k).1 = ((f.drawnOrder.toList.drop f.cursor).take k).map
        (fun i => .ok (f.records.getD i [])) ++
        List.replicate (k - (f.len - f.cursor)) (.error (.exhausted f.name)) ∧
      (f.pulls k).2.cursor = f.cursor + min k (f.len - f.cursor) := by
  induction k generalizing f with
  | zero => simp
  | succ k ih =>
    rw [pulls_succ]
    by_cases hlt : f.cursor < f.len
    · obtain ⟨f', hpull, hord, hstr, hrec, hname, hcur⟩ := pull_shuffle_lt hs hlt
      rw [Nat.mod_eq_of_lt (by omega)] at hcur
      have hlen' : f'.len = f.len := by rw [len, hrec, len]
      obtain ⟨hans, hcur'⟩ := ih hstr (by omega) (by rw [hord, hlen', hsize]) (by rw [hlen']; exact hlen)
      -- the order's entry at the cursor, then the rest of the order
      have hdrop : f.drawnOrder.toList.drop f.cursor =
          f.drawnOrder.getD f.cursor 0 :: f.drawnOrder.toList.drop (f.cursor + 1) := by
        rw [List.drop_eq_getElem_cons (by simp; omega)]
        simp [Array.getD_eq_getD_getElem?, Array.getElem?_eq_getElem (by omega : f.cursor < f.drawnOrder.size)]
      rw [hpull]
      refine ⟨?_, ?_⟩
      · have hrep : k + 1 - (f.len - f.cursor) = k - (f.len - (f.cursor + 1)) := by omega
        simp only [hans, hord, hcur, hrec, hname, hlen', hdrop, hrep, List.take_succ_cons,
          List.map_cons, List.cons_append]
      · show (f'.pulls k).2.cursor = _
        rw [hcur', hcur, hlen']
        omega
    · have hend : f.cursor = f.len := by omega
      rw [pull_shuffle_end hs (by omega)]
      obtain ⟨hans, hcur'⟩ := ih hs hc hsize hlen
      have hnil : f.drawnOrder.toList.drop f.cursor = [] :=
        List.drop_eq_nil_of_le (by simp [hend, hsize])
      refine ⟨?_, ?_⟩
      · rw [hans, hnil]
        simp [hend, List.replicate_succ]
      · simp [hcur', hend]

/-! ## Circular and random -/

/-- A circular pull hands out the record at the cursor modulo the number of
records, and moves on. -/
theorem pull_circular (hs : f.strategy = .circular) :
    f.pull = (.ok (f.records.getD (f.cursor % f.len) []), f.advance) := by
  simp [pull, next, hs]

/-- A circular feeder whose cursor is `a` modulo `2^64` hands out, at the pull
counted `i` from `a` on, the record at `i mod 2^64 mod len`: the cursor counts
pulls modulo `2^64`. -/
theorem pulls_circular (hs : f.strategy = .circular) (a : Nat) (ha : a % Nat.pow 2 64 = f.cursor)
    (k : Nat) :
    (f.pulls k).1 =
      (List.range' a k).map fun i => .ok (f.records.getD (i % Nat.pow 2 64 % f.len) []) := by
  induction k generalizing f a with
  | zero => rfl
  | succ k ih =>
    rw [pulls_succ, pull_circular hs, List.range'_succ, List.map_cons]
    -- the cursor after the pull is the count one further on
    have hnext : (a + 1) % Nat.pow 2 64 = f.advance.cursor := by
      rw [cursor_advance, ← ha, Nat.mod_add_mod]
    simp only [ih (by simpa using hs) (a + 1) hnext, ha, records_advance, len_advance]

/-- A record at an index below the number of records is one of them. -/
theorem getD_mem {i : Nat} (h : i < f.len) : f.records.getD i [] ∈ f.records := by
  rw [Array.getD_eq_getD_getElem?, Array.getElem?_eq_getElem h]
  exact Array.getElem_mem h

/-- A random pull hands out the record at an index drawn below the number of
records, and moves on. -/
theorem pull_random (hs : f.strategy = .random) :
    f.pull = (.ok (f.records.getD (f.rng.below f.len).1 []),
      { f with rng := (f.rng.below f.len).2 }.advance) := by
  simp [pull, next, hs]

/-- A random feeder never refuses: every pull hands out one of its records. -/
theorem pulls_random (hs : f.strategy = .random) (hpos : 0 < f.len) (k : Nat) :
    ∀ r ∈ (f.pulls k).1, ∃ rec ∈ f.records, r = .ok rec := by
  induction k generalizing f with
  | zero => simp
  | succ k ih =>
    intro r hr
    rw [pulls_succ, pull_random hs, List.mem_cons] at hr
    rcases hr with rfl | hr
    · exact ⟨_, getD_mem (Random.ChaCha.below_lt f.rng hpos), rfl⟩
    · -- the rest comes from the feeder after the pull, with the same records
      obtain ⟨rec, hmem, rfl⟩ := ih (by simpa using hs) (by exact hpos) r hr
      exact ⟨rec, hmem, rfl⟩

/-! ## What a pull keeps -/

/-- A pull keeps the feeder's name, records and strategy. -/
theorem pull_keeps (f : Feeder) :
    f.pull.2.name = f.name ∧ f.pull.2.records = f.records ∧ f.pull.2.strategy = f.strategy := by
  cases hs : f.strategy with
  | queue =>
    by_cases hc : f.cursor < f.len
    · simp [pull_queue_lt hs hc, hs]
    · simp [pull_queue_end hs (Nat.le_of_not_lt hc), hs]
  | circular => simp [pull_circular hs, hs]
  | random => simp [pull_random hs, hs]
  | shuffle =>
    by_cases hc : f.cursor < f.len
    · obtain ⟨f', hpull, -, hs', hrec, hname, -⟩ := pull_shuffle_lt hs hc
      simp [hpull, hs', hrec, hname]
    · simp [pull_shuffle_end hs (Nat.le_of_not_lt hc), hs]

/-- Pulls keep the feeder's name, records and strategy. -/
theorem pulls_keeps (f : Feeder) (k : Nat) :
    (f.pulls k).2.name = f.name ∧ (f.pulls k).2.records = f.records ∧
      (f.pulls k).2.strategy = f.strategy := by
  induction k generalizing f with
  | zero => exact ⟨rfl, rfl, rfl⟩
  | succ k ih =>
    obtain ⟨h1, h2, h3⟩ := ih f.pull.2
    obtain ⟨k1, k2, k3⟩ := pull_keeps f
    exact ⟨h1.trans k1, h2.trans k2, h3.trans k3⟩

/-! ## From the first pull on -/

/-- The records a queue or a shuffle feeder reports remaining. -/
theorem remaining_eq (h : f.strategy = .queue ∨ f.strategy = .shuffle) :
    f.remaining = some (f.len - f.cursor) := by
  rcases h with h | h <;> simp [remaining, h]

/-- A queue never pulled hands out its records in order, each once, then
refuses every further pull and stays as it is. -/
theorem pulls_queue_start (hq : f.strategy = .queue) (hc : f.cursor = 0)
    (hlen : f.len < Nat.pow 2 64) (k : Nat) :
    f.pulls k = ((List.range (min k f.len)).map (fun i => .ok (f.records.getD i [])) ++
        List.replicate (k - f.len) (.error (.exhausted f.name)), { f with cursor := min k f.len }) := by
  rw [pulls_queue hq (by omega) hlen, hc, List.range_eq_range']
  simp

/-- A shuffle feeder never pulled hands out every record once, in an order
drawn at its first pull, then refuses every further pull. -/
theorem pulls_shuffle_start (hs : f.strategy = .shuffle) (hc : f.cursor = 0) (ho : f.order = none)
    (hlen : f.len < Nat.pow 2 64) :
    ∃ order : List Nat, order.Perm (List.range f.len) ∧ ∀ k, (f.pulls k).1 =
      (order.take k).map (fun i => .ok (f.records.getD i [])) ++
        List.replicate (k - f.len) (.error (.exhausted f.name)) := by
  have hperm := drawnOrder_perm ho
  have hsize : f.drawnOrder.size = f.len := by simpa using hperm.length_eq
  refine ⟨f.drawnOrder.toList, hperm, fun k => ?_⟩
  rw [(pulls_shuffle hs (by omega) hsize hlen k).1, hc]
  simp

/-- A circular feeder never pulled hands out at pull `i` the record at
`i mod 2^64 mod len`. -/
theorem pulls_circular_start (hs : f.strategy = .circular) (hc : f.cursor = 0) (k : Nat) :
    (f.pulls k).1 =
      (List.range k).map fun i => .ok (f.records.getD (i % Nat.pow 2 64 % f.len) []) := by
  rw [pulls_circular hs 0 (by simp [hc]), List.range_eq_range']

/-- Among answers that are records then refusals, the successful pulls are the records. -/
theorem countP_answers (l : List Nat) (g : Nat → Record) (n : Nat) (e : FeederError) :
    (l.map (fun i => Except.ok (g i)) ++ List.replicate n (Except.error e)).countP
      Except.toBool = l.length := by
  have hok : l.countP (Except.toBool ∘ fun i => (Except.ok (g i) : Except FeederError Record)) =
      l.length := List.countP_eq_length.mpr fun _ _ => rfl
  rw [List.countP_append, List.countP_map, List.countP_replicate, hok]
  simp [Except.toBool]

/-- A queue or a shuffle feeder never pulled reports as remaining its records
less its successful pulls. -/
theorem remaining_pulls (h : f.strategy = .queue ∨ f.strategy = .shuffle) (hc : f.cursor = 0)
    (ho : f.order = none) (hlen : f.len < Nat.pow 2 64) (k : Nat) :
    (f.pulls k).2.remaining = some (f.len - (f.pulls k).1.countP Except.toBool) := by
  obtain ⟨-, hrec, hstr⟩ := pulls_keeps f k
  have hlen' : (f.pulls k).2.len = f.len := by rw [len, hrec, len]
  rw [remaining_eq (hstr ▸ h), hlen']
  rcases h with hq | hs
  · rw [pulls_queue_start hq hc hlen k, countP_answers]
    simp
  · have hsize : f.drawnOrder.size = f.len := by simpa using (drawnOrder_perm ho).length_eq
    obtain ⟨hans, hcur⟩ := pulls_shuffle hs (by omega) hsize hlen k
    rw [hans, hcur, countP_answers, hc]
    simp [hsize]

end Feeder

end LoadScenario
