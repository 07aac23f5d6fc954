import Mathlib.Data.List.Nodup
import LoadScenario.Proofs.Session.Operations

/-!
# The stack of counters in use agrees with the counters

A session keeps its loop and retry counters twice: as a map from names to
counters, each with the time its block was left if it was, and as the stack of
the names in use. Entering a counter checks the stack, counting an iteration
checks the map, and leaving one takes its last entry off the stack; nothing
but the way the operations are written keeps the two in step.

`Session.ScopesAgree` is that agreement: no name is on the stack twice, and a
name is on it exactly when the map holds its counter unfinished. Every
operation keeps it (`ScopesAgree.run`), so every session that a sequence of
operations reaches from a fresh one has it (`ScopesAgree.replay`). On such a
session the counter operations obey their contract: entering fails exactly on
names in use, counting succeeds exactly on them, and leaving takes a name off
the stack for good while its counter stays readable. Resetting keeps exactly
the attributes of the counters in use (`get?_reset`).
-/

namespace LoadScenario

/-! ## Fields kept by a test -/

namespace Fields

variable {α : Type}

/-- A key is read at the first field, or further on if that field has another key. -/
theorem get?_cons (k key : String) (v : α) (rest : List (String × α)) :
    get? ((k, v) :: rest) key = if k = key then some v else get? rest key := by
  by_cases hk : k = key
  · simp [get?, hk]
  · simp [get?, hk]

/-- Keeping the fields whose keys pass a test keeps a key's value exactly when
the key passes. -/
theorem get?_filter (fs : List (String × α)) (keep : String → Bool) (key : String) :
    get? (fs.filter fun p => keep p.1) key = if keep key then get? fs key else none := by
  induction fs with
  | nil => simp [get?]
  | cons p rest ih =>
    obtain ⟨k, v⟩ := p
    rw [List.filter_cons]
    by_cases hkeep : keep k = true
    · rw [if_pos hkeep, get?_cons, get?_cons, ih]
      by_cases hk : k = key
      · subst hk; simp [hkeep]
      · simp [hk]
    · rw [if_neg hkeep, ih, get?_cons]
      by_cases hk : k = key
      · subst hk; simp [hkeep]
      · simp [hk]

end Fields

namespace Session

/-! ## Operations and their replay -/

/-- An operation on a session. -/
inductive Op where
  | set (key : String) (v : Value)
  | setAll (entries : List (String × Value))
  | remove (key : String)
  | removeAll (keys : List String)
  | reset
  | markFailed
  | markSucceeded
  | withStatus (st : Status)
  | enterCounter (name : String) (now : Nat)
  | incrementCounter (name : String)
  | exitCounter (name : String) (now : Nat)
  | withPaceDeadline (name : String) (deadline : Nat)

/-- What an operation makes of a session; only the counter operations can be refused. -/
def Op.apply : Op → Session → Except SessionError Session
  | .set key v, s => .ok (s.set key v)
  | .setAll entries, s => .ok (s.setAll entries)
  | .remove key, s => .ok (s.remove key)
  | .removeAll keys, s => .ok (s.removeAll keys)
  | .reset, s => .ok s.reset
  | .markFailed, s => .ok s.markFailed
  | .markSucceeded, s => .ok s.markSucceeded
  | .withStatus st, s => .ok (s.withStatus st)
  | .enterCounter name now, s => s.enterCounter name now
  | .incrementCounter name, s => s.incrementCounter name
  | .exitCounter name now, s => s.exitCounter name now
  | .withPaceDeadline name deadline, s => .ok (s.withPaceDeadline name deadline)

/-- The session after an operation; a refused operation leaves it as it was. -/
def Op.run (s : Session) (op : Op) : Session :=
  match op.apply s with
  | .ok s' => s'
  | .error _ => s

/-- The session after operations in order. -/
def replay (s : Session) (ops : List Op) : Session := ops.foldl Op.run s

variable {s s' : Session} {name : String}

/-! ## What the attribute operations keep -/

@[simp] theorem active_remove (key : String) : (s.remove key).active = s.active := rfl
@[simp] theorem counters_remove (key : String) : (s.remove key).counters = s.counters := rfl
@[simp] theorem active_reset : s.reset.active = s.active := rfl
@[simp] theorem counters_reset : s.reset.counters = s.counters := rfl
@[simp] theorem status_reset : s.reset.status = s.status := rfl
@[simp] theorem paceDeadlines_reset : s.reset.paceDeadlines = s.paceDeadlines := rfl

/-- Removing attributes one by one leaves the counters and their stack. -/
theorem removeAll_bookkeeping (keys : List String) :
    (s.removeAll keys).counters = s.counters ∧ (s.removeAll keys).active = s.active := by
  induction keys generalizing s with
  | nil => exact ⟨rfl, rfl⟩
  | cons key rest ih => exact ih


/-- Resetting keeps an attribute exactly when a counter of its name is in use. -/
theorem get?_reset (key : String) :
    s.reset.get? key = if key ∈ s.active then s.get? key else none := by
  simp only [get?, reset]
  rw [Fields.get?_filter s.attributes (fun k => s.active.contains k) key]
  simp

/-! ## Leaving a counter -/

/-- Leaving a counter succeeds exactly when it is in use; it takes the name's
last entry off the stack, marks the counter finished at `now` with its iteration
and start kept, and touches no other counter. -/
theorem exitCounter_ok {now : Nat} (h : s.exitCounter name now = .ok s') :
    name ∈ s.active ∧ s'.active = eraseLast s.active name ∧
      s'.counter? name = (s.counter? name).map ({ · with finishedAt := some now }) ∧
      ∀ n, n ≠ name → s'.counter? n = s.counter? n := by
  unfold exitCounter at h
  split at h
  · next hact =>
    cases h
    refine ⟨isCounterActive_iff.mp hact, rfl, ?_, fun n hn => ?_⟩
    · cases hk : s.counter? name with
      | none => exact hk
      | some k => simp [counter?]
    · cases hk : s.counter? name with
      | none => rfl
      | some k => exact Fields.get?_insert_of_ne _ _ hn
  · cases h

/-- On a stack without repeats, taking the last entry of a name off leaves
every other name and no entry of that one. -/
theorem mem_eraseLast_iff {xs : List String} (hxs : xs.Nodup) (n : String) :
    n ∈ eraseLast xs name ↔ n ≠ name ∧ n ∈ xs := by
  simp only [eraseLast, List.mem_reverse]
  exact (List.nodup_reverse.mpr hxs).mem_erase_iff.trans (by simp)

theorem nodup_eraseLast {xs : List String} (hxs : xs.Nodup) : (eraseLast xs name).Nodup := by
  simp only [eraseLast, List.nodup_reverse]
  exact (List.nodup_reverse.mpr hxs).erase name

/-! ## The agreement and its preservation -/

/-- The stack of counters in use and the counters agree: no name is on the
stack twice, and a name is on it exactly when its counter is there unfinished. -/
structure ScopesAgree (s : Session) : Prop where
  nodup : s.active.Nodup
  mem_iff : ∀ n, n ∈ s.active ↔ ∃ c, s.counter? n = some c ∧ c.finishedAt = none

namespace ScopesAgree

/-- A fresh session has no counter and none in use. -/
theorem new (scenario : String) (userId : Nat) : (Session.new scenario userId).ScopesAgree :=
  ⟨List.nodup_nil, fun n => by simp [Session.new, counter?, Fields.get?]⟩

/-- An operation that keeps the counters and their stack keeps the agreement. -/
theorem of_bookkeeping (h : s.ScopesAgree) (ha : s'.active = s.active)
    (hc : s'.counters = s.counters) : s'.ScopesAgree :=
  ⟨ha ▸ h.nodup, fun n => by simp only [ha, counter?, hc]; exact h.mem_iff n⟩

theorem enter {now : Nat} (h : s.ScopesAgree) (he : s.enterCounter name now = .ok s') :
    s'.ScopesAgree := by
  obtain ⟨hna, hact, hnew, hother, -⟩ := enterCounter_ok he
  refine ⟨?_, fun n => ?_⟩
  · rw [hact, List.nodup_append]
    exact ⟨h.nodup, List.nodup_singleton name, fun a ha b hb => by
      rw [List.mem_singleton.mp hb]; exact fun hab => hna (hab ▸ ha)⟩
  · rw [hact, List.mem_append, List.mem_singleton]
    by_cases hn : n = name
    · subst hn
      simp [hnew]
    · rw [hother n hn, ← h.mem_iff n]
      simp [hn]

theorem increment (h : s.ScopesAgree) (he : s.incrementCounter name = .ok s') :
    s'.ScopesAgree := by
  obtain ⟨hact, -, ⟨k, hk, hfin, hnew⟩, hother⟩ := incrementCounter_ok he
  refine ⟨hact ▸ h.nodup, fun n => ?_⟩
  rw [hact]
  by_cases hn : n = name
  · subst hn
    -- the counter was unfinished, so the name was in use, and counting keeps it unfinished
    have hmem : n ∈ s.active := (h.mem_iff n).mpr ⟨k, hk, hfin⟩
    simp [hnew, hfin, hmem]
  · rw [hother n hn]
    exact h.mem_iff n

theorem exit {now : Nat} (h : s.ScopesAgree) (he : s.exitCounter name now = .ok s') :
    s'.ScopesAgree := by
  obtain ⟨-, hact, hnew, hother⟩ := exitCounter_ok he
  refine ⟨hact ▸ nodup_eraseLast h.nodup, fun n => ?_⟩
  rw [hact, mem_eraseLast_iff h.nodup]
  by_cases hn : n = name
  · -- the counter left is finished, and no second entry of its name stays on the stack
    subst hn
    cases hk : s.counter? n with
    | none => simp [hnew, hk]
    | some k => simp [hnew, hk]
  · rw [hother n hn, ← h.mem_iff n]
    simp [hn]

/-- Every operation keeps the agreement, a refused one trivially. -/
theorem run (h : s.ScopesAgree) (op : Op) : (op.run s).ScopesAgree := by
  unfold Op.run
  split
  · next s' hop =>
    cases op with
    | set key v => cases hop; exact h.of_bookkeeping rfl rfl
    | setAll entries =>
      cases hop
      exact h.of_bookkeeping (setAll_bookkeeping entries).2.2 (setAll_bookkeeping entries).2.1
    | remove key => cases hop; exact h.of_bookkeeping rfl rfl
    | removeAll keys =>
      cases hop
      exact h.of_bookkeeping (removeAll_bookkeeping keys).2 (removeAll_bookkeeping keys).1
    | reset => cases hop; exact h.of_bookkeeping rfl rfl
    | markFailed => cases hop; exact h.of_bookkeeping rfl rfl
    | markSucceeded => cases hop; exact h.of_bookkeeping rfl rfl
    | withStatus st => cases hop; exact h.of_bookkeeping rfl rfl
    | enterCounter n now => exact h.enter hop
    | incrementCounter n => exact h.increment hop
    | exitCounter n now => exact h.exit hop
    | withPaceDeadline n d => cases hop; exact h.of_bookkeeping rfl rfl
  · exact h

/-- Replaying operations keeps the agreement. -/
theorem replay (h : s.ScopesAgree) (ops : List Op) : (s.replay ops).ScopesAgree := by
  induction ops generalizing s with
  | nil => exact h
  | cons op rest ih => exact ih (h.run op)

/-! ## The counter operations on sessions where the stack agrees -/

/-- Counting an iteration succeeds exactly on a counter in use. -/
theorem incrementCounter_ok_iff (h : s.ScopesAgree) :
    (∃ s', s.incrementCounter name = .ok s') ↔ name ∈ s.active := by
  constructor
  · rintro ⟨s', he⟩
    obtain ⟨-, -, ⟨k, hk, hfin, -⟩, -⟩ := incrementCounter_ok he
    exact (h.mem_iff name).mpr ⟨k, hk, hfin⟩
  · intro hmem
    obtain ⟨k, hk, hfin⟩ := (h.mem_iff name).mp hmem
    have hunfinished : k.isFinished = false := by simp [LoopCounter.isFinished, hfin]
    cases hr : s.incrementCounter name with
    | ok s' => exact ⟨s', rfl⟩
    | error e => simp [incrementCounter, hk, hunfinished] at hr

/-- Leaving a counter takes its name off the stack altogether, and the counter
stays with its iteration and start, finished at `now`. -/
theorem exitCounter_removes {now : Nat} (h : s.ScopesAgree) (he : s.exitCounter name now = .ok s') :
    name ∉ s'.active ∧
      ∃ c, s.counter? name = some c ∧ s'.counter? name = some { c with finishedAt := some now } := by
  obtain ⟨hmem, hact, hnew, -⟩ := exitCounter_ok he
  obtain ⟨c, hc, -⟩ := (h.mem_iff name).mp hmem
  refine ⟨?_, c, hc, by rw [hnew, hc]; rfl⟩
  rw [hact, mem_eraseLast_iff h.nodup]
  exact fun hn => hn.1 rfl

end ScopesAgree

/-- Entering a counter is refused exactly when it is in use. -/
theorem enterCounter_refused_iff {now : Nat} :
    (∃ e, s.enterCounter name now = .error e) ↔ name ∈ s.active := by
  unfold enterCounter
  by_cases h : s.isCounterActive name = true
  · simp [h, isCounterActive_iff.mp h]
  · have hna : name ∉ s.active := fun hm => h (isCounterActive_iff.mpr hm)
    simp [h, hna]

/-- Counting an iteration advances the counter by one and writes the new
iteration into the attribute of the counter's name. -/
theorem incrementCounter_advances (he : s.incrementCounter name = .ok s') :
    ∃ c, s.counter? name = some c ∧ s'.counter? name = some { c with iteration := c.iteration + 1 } ∧
      s'.get? name = some (Value.ofNat (c.iteration + 1)) := by
  unfold incrementCounter at he
  split at he
  · next k hk =>
    split at he
    · cases he
    · cases he
      exact ⟨k, hk, by simp [counter?], by simp [get?]⟩
  · cases he

end Session

/-- On every session reached from a fresh one by session operations, the stack
of counters in use holds no name twice and holds exactly the names whose
counters are unfinished; entering a counter is refused exactly on names in use;
counting an iteration succeeds exactly on them, advancing the counter by one and
mirroring it in the attribute; leaving a counter takes its name off the stack
for good and keeps its iteration and start readable; and resetting keeps
exactly the attributes named by counters in use and nothing else of the session
changes. -/
theorem counter_scopes_consistent (scenario : String) (userId : Nat) (ops : List Session.Op) :
    let s := (Session.new scenario userId).replay ops
    s.ScopesAgree ∧
    (∀ name now, (∃ e, s.enterCounter name now = .error e) ↔ name ∈ s.active) ∧
    (∀ name, (∃ s', s.incrementCounter name = .ok s') ↔ name ∈ s.active) ∧
    (∀ name s', s.incrementCounter name = .ok s' →
      ∃ c, s.counter? name = some c ∧ s'.counter? name = some { c with iteration := c.iteration + 1 } ∧
        s'.get? name = some (Value.ofNat (c.iteration + 1))) ∧
    (∀ name now s', s.exitCounter name now = .ok s' →
      name ∉ s'.active ∧
        ∃ c, s.counter? name = some c ∧ s'.counter? name = some { c with finishedAt := some now }) ∧
    (∀ key, s.reset.get? key = if key ∈ s.active then s.get? key else none) ∧
    s.reset.counters = s.counters ∧ s.reset.active = s.active ∧ s.reset.status = s.status ∧
    s.reset.paceDeadlines = s.paceDeadlines := by
  intro s
  have h : s.ScopesAgree := (Session.ScopesAgree.new scenario userId).replay ops
  exact ⟨h, fun _ _ => Session.enterCounter_refused_iff, fun _ => h.incrementCounter_ok_iff,
    fun _ _ he => Session.incrementCounter_advances he, fun _ _ _ he => h.exitCounter_removes he,
    Session.get?_reset, rfl, rfl, rfl, rfl⟩

example : ((Session.new "test" 0).replay
    [.enterCounter "i" 0, .enterCounter "j" 1, .enterCounter "i" 2, .exitCounter "j" 3]).active = ["i"] := by
  decide

end LoadScenario
