import LoadScenario.Runner.Scope

/-!
# What each session operation changes

A session is a record, and each operation rewrites a few of its fields. This
module says, once per operation, what becomes of the status, of the stack of
counters in use and of each counter, so that the invariants of the runner are
stated and proved over these facts and never over the record itself.

Counters are kept in a list sorted by name; `Fields.get?_insert` is what reading
a counter back after an update rests on.
-/

namespace LoadScenario

/-! ## Fields sorted by key -/

namespace Fields

variable {α : Type}

/-- Reading a key after setting it gives the new value; any other key is untouched. -/
theorem get?_insert (fs : List (String × α)) (key key' : String) (v : α) :
    get? (insert fs key v) key' = if key' = key then some v else get? fs key' := by
  induction fs with
  | nil =>
    by_cases h : key' = key
    · simp [insert, get?, h]
    · simp [insert, get?, h, Ne.symm h]
  | cons p rest ih =>
    obtain ⟨k, x⟩ := p
    by_cases hlt : key < k
    · by_cases h : key' = key
      · simp [insert, get?, hlt, h]
      · simp [insert, get?, hlt, h, Ne.symm h]
    · by_cases heq : key = k
      · subst heq
        by_cases h : key' = key
        · simp [insert, get?, h]
        · simp [insert, get?, h, Ne.symm h]
      · have ih' : get? (insert rest key v) key' = if key' = key then some v else get? rest key' := ih
        by_cases h : key' = k
        · subst h
          simp [insert, get?, hlt, heq, Ne.symm heq]
        · have hk : ((k, x).fst == key') = false := by simpa using Ne.symm h
          simp only [insert, hlt, heq, if_false, get?, List.find?_cons, hk] at ih' ⊢
          exact ih'

@[simp]
theorem get?_insert_self (fs : List (String × α)) (key : String) (v : α) :
    get? (insert fs key v) key = some v := by
  simp [get?_insert]

theorem get?_insert_of_ne (fs : List (String × α)) {key key' : String} (v : α) (h : key' ≠ key) :
    get? (insert fs key v) key' = get? fs key' := by
  simp [get?_insert, h]

end Fields

namespace Session

variable {s s' : Session} {name : String}

/-! ## Status -/

@[simp] theorem status_withStatus (st : Status) : (s.withStatus st).status = st := rfl
@[simp] theorem status_markFailed : s.markFailed.status = .failed := rfl
@[simp] theorem status_markSucceeded : s.markSucceeded.status = .active := rfl
@[simp] theorem status_set (key : String) (v : Value) : (s.set key v).status = s.status := rfl

theorem isFailed_iff : s.isFailed = true ↔ s.status = .failed := by
  simp [isFailed]

/-- Whether a session is failed is read off its status alone. -/
theorem isFailed_eq_of_status (h : s'.status = s.status) : s'.isFailed = s.isFailed := by
  simp [isFailed, h]

@[simp] theorem isFailed_markFailed : s.markFailed.isFailed = true := rfl
@[simp] theorem isFailed_markSucceeded : s.markSucceeded.isFailed = false := rfl

/-- Setting attributes one by one leaves the status, the counters and their stack. -/
theorem setAll_bookkeeping (entries : List (String × Value)) :
    (s.setAll entries).status = s.status ∧ (s.setAll entries).counters = s.counters ∧
      (s.setAll entries).active = s.active := by
  induction entries generalizing s with
  | nil => exact ⟨rfl, rfl, rfl⟩
  | cons p rest ih => exact ih

/-- Setting attributes in order: each key reads the last value the entries give
it, and a key they do not give keeps its value. -/
theorem get?_setAll (entries : List (String × Value)) (key : String) :
    (s.setAll entries).get? key = (entries.reverse.lookup key).or (s.get? key) := by
  induction entries generalizing s with
  | nil => simp [setAll]
  | cons p rest ih =>
    obtain ⟨k, v⟩ := p
    have hset : (s.set k v).get? key = ([(k, v)].lookup key).or (s.get? key) := by
      by_cases h : key = k
      · simp [get?, set, h]
      · have hb : (key == k) = false := beq_eq_false_iff_ne.mpr h
        simp [get?, set, Fields.get?_insert, List.lookup_cons, h, hb]
    calc (s.setAll ((k, v) :: rest)).get? key
        = (rest.reverse.lookup key).or ((s.set k v).get? key) := ih
      _ = (((k, v) :: rest).reverse.lookup key).or (s.get? key) := by
        rw [hset, List.reverse_cons, List.lookup_append, Option.or_assoc]

@[simp] theorem status_withPaceDeadline (c : String) (d : Nat) :
    (s.withPaceDeadline c d).status = s.status := rfl

/-! ## The stack of counters in use -/

theorem isCounterActive_iff : s.isCounterActive name = true ↔ name ∈ s.active := by
  simp [isCounterActive]

@[simp] theorem active_withStatus (st : Status) : (s.withStatus st).active = s.active := rfl
@[simp] theorem counters_withStatus (st : Status) : (s.withStatus st).counters = s.counters := rfl
@[simp] theorem active_set (key : String) (v : Value) : (s.set key v).active = s.active := rfl
@[simp] theorem counters_set (key : String) (v : Value) : (s.set key v).counters = s.counters := rfl
@[simp] theorem active_withPaceDeadline (c : String) (d : Nat) :
    (s.withPaceDeadline c d).active = s.active := rfl
@[simp] theorem counters_withPaceDeadline (c : String) (d : Nat) :
    (s.withPaceDeadline c d).counters = s.counters := rfl

/-- Taking the last occurrence of a name off a stack that ends with it leaves the rest. -/
@[simp]
theorem eraseLast_append_singleton (xs : List String) (name : String) :
    eraseLast (xs ++ [name]) name = xs := by
  simp [eraseLast]

/-! ## Entering, counting and leaving a counter -/

/-- Entering a counter succeeds exactly when it is not in use; it pushes the
name, starts the counter afresh and touches no other counter or the status. -/
theorem enterCounter_ok {now : Nat} (h : s.enterCounter name now = .ok s') :
    name ∉ s.active ∧ s'.active = s.active ++ [name] ∧
      s'.counter? name = some ⟨0, now, none⟩ ∧
      (∀ n, n ≠ name → s'.counter? n = s.counter? n) ∧ s'.status = s.status := by
  unfold enterCounter at h
  split at h
  · cases h
  · next hna =>
    cases h
    refine ⟨fun hm => hna (isCounterActive_iff.mpr hm), rfl, ?_, fun n hn => ?_, rfl⟩
    · simp [counter?]
    · exact Fields.get?_insert_of_ne _ _ hn

/-- A counter not in use can always be entered. -/
theorem enterCounter_ok_of_not_mem (h : name ∉ s.active) (now : Nat) :
    ∃ s', s.enterCounter name now = .ok s' := by
  have hna : s.isCounterActive name = false := by
    rw [← Bool.not_eq_true, isCounterActive_iff]
    exact h
  exact ⟨_, by rw [enterCounter, if_neg (by rw [hna]; decide)]⟩

/-- Counting an iteration keeps the stack and the status, and changes only the
counter's own entry, which was unfinished and stays so. -/
theorem incrementCounter_ok (h : s.incrementCounter name = .ok s') :
    s'.active = s.active ∧ s'.status = s.status ∧
      (∃ k, s.counter? name = some k ∧ k.finishedAt = none ∧
        s'.counter? name = some { k with iteration := k.iteration + 1 }) ∧
      ∀ n, n ≠ name → s'.counter? n = s.counter? n := by
  unfold incrementCounter at h
  split at h
  · next k hk =>
    split at h
    · cases h
    · next hfin =>
      cases h
      refine ⟨rfl, rfl, ⟨k, hk, ?_, ?_⟩, fun n hn => Fields.get?_insert_of_ne _ _ hn⟩
      · simpa [LoopCounter.isFinished] using hfin
      · simp [counter?]
  · cases h

/-- Leaving a counter keeps the status, whether or not the counter was in use. -/
@[simp]
theorem status_leave (t : Nat) : (s.leave name t).status = s.status := by
  unfold leave exitCounter
  split
  · next s'' h =>
    split at h
    · cases h; rfl
    · cases h
  · rfl

theorem isFailed_leave (t : Nat) : (s.leave name t).isFailed = s.isFailed := by
  simp [isFailed]

/-- Leaving a counter never clears a failure. -/
theorem isFailed_leave_of (hs : s.isFailed = true) (t : Nat) : (s.leave name t).isFailed = true :=
  (isFailed_leave t).trans hs

/-- Leaving a counter in use takes its last occurrence off the stack and marks
its entry finished at `t`, with its iteration count kept; no other counter and
not the status change. -/
theorem leave_of_mem {t : Nat} (h : name ∈ s.active) :
    (s.leave name t).active = eraseLast s.active name ∧
      (s.leave name t).counter? name = (s.counter? name).map ({ · with finishedAt := some t }) ∧
      ∀ n, n ≠ name → (s.leave name t).counter? n = s.counter? n := by
  have hact : s.isCounterActive name = true := isCounterActive_iff.mpr h
  unfold leave exitCounter
  rw [if_pos hact]
  refine ⟨rfl, ?_, fun n hn => ?_⟩
  · cases hk : s.counter? name with
    | none => exact hk
    | some k => simp [counter?]
  · cases hk : s.counter? name with
    | none => rfl
    | some k => exact Fields.get?_insert_of_ne _ _ hn

end Session

end LoadScenario
