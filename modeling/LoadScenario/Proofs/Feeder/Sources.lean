import LoadScenario.Proofs.Feeder.Pulls
import LoadScenario.Proofs.Runner.Steps
import LoadScenario.Scheduler

/-!
# Record sources shared by a run

The users of a run pull from record sources kept in the shared world, one
pull at a time and in whatever order the scheduler runs them. `World.pullEach`
makes a sequence of pulls by source name. Pulls of other sources leave a
source as it was (`World.pull_other`), so a feeder answers its own pulls as if
it were pulled alone, however they interleave (`World.pullEach_feeder`). A feed
action makes one such pull and merges the record into the session, or marks
the session failed (`Runner.feed_pulls`).

`feeders_hand_out_records` puts the strategies of the feeder, the interleaving
and the feed action together.
-/

namespace LoadScenario

namespace World

/-- Pulls from the run's record sources by name, one after another: their
answers in order, and the world after them. -/
def pullEach (w : World) : List String → List (Except FeederError Record) × World
  | [] => ([], w)
  | n :: ns =>
    let (r, w') := w.pull n
    let (rs, w'') := w'.pullEach ns
    (r :: rs, w'')

/-- A pull from one source leaves every other source as it was. -/
theorem pull_other (w : World) {name other : String} (h : other ≠ name) :
    Fields.get? (w.pull name).2.sources other = Fields.get? w.sources other := by
  unfold pull
  split
  · rfl
  · split
    · exact Fields.get?_insert_of_ne _ _ h
    · rfl

/-- A pull from a feeder source answers as the feeder does, and puts the
feeder after the pull in its place. -/
theorem pull_feeder {w : World} {name : String} {f : Feeder}
    (hf : Fields.get? w.sources name = some (.feeder f)) :
    (w.pull name).1 = f.pull.1 ∧ Fields.get? (w.pull name).2.sources name = some (.feeder f.pull.2) := by
  unfold pull Feeder.pull
  rw [hf]
  cases hn : f.next with
  | ok p => simp [RecordSource.next, Except.map, hn]
  | error e => simp [RecordSource.next, Except.map, hn, hf]

/-- However pulls from several sources interleave, a feeder source answers
its own pulls, in order, as if it were pulled alone. -/
theorem pullEach_feeder {name : String} (ns : List String) :
    ∀ {w : World} {f : Feeder}, Fields.get? w.sources name = some (.feeder f) →
      ((ns.zip (w.pullEach ns).1).filter (·.1 == name)).map (·.2) = (f.pulls (ns.count name)).1 := by
  induction ns with
  | nil => intro w f _; rfl
  | cons n ns ih =>
    intro w f hf
    by_cases hn : n = name
    · subst hn
      obtain ⟨hans, hsrc⟩ := pull_feeder hf
      simp [pullEach, Feeder.pulls_succ, hans, ih hsrc]
    · have hsrc : Fields.get? (w.pull n).2.sources name = some (.feeder f) := by
        rw [pull_other w (Ne.symm hn), hf]
      simp [pullEach, hn, ih hsrc]

/-- However they interleave with pulls of other sources, `len + 1` pulls of a
queue feeder never pulled before get exactly one refusal. -/
theorem pullEach_queue_refuses_once {w : World} {name : String} {f : Feeder}
    (hq : f.strategy = .queue) (hc : f.cursor = 0) (hlen : f.len < Nat.pow 2 64)
    (hf : Fields.get? w.sources name = some (.feeder f)) {ns : List String}
    (hn : ns.count name = f.len + 1) :
    (((ns.zip (w.pullEach ns).1).filter (·.1 == name)).map (·.2)).countP (fun r => !r.toBool) = 1 := by
  rw [pullEach_feeder ns hf, hn, Feeder.pulls_queue_start hq hc hlen]
  simp [List.countP_append, Except.toBool]

end World

namespace Runner

/-- A feed makes one request, a pull from its source. A record is merged into
the attributes, each of its keys overwriting the session's value; a refusal
marks the session failed and leaves its attributes as they were. -/
theorem feed_pulls (source : String) (s : Session) :
    ∃ k, feed source s = .feed source k ∧ (∀ rec, k (.ok rec) = .pure (.next (s.setAll rec))) ∧
      ∀ e, Prog.All (fun flow => ∃ s', flow = .next s' ∧ s'.attributes = s.attributes ∧
        s'.isFailed = true) (k (.error e)) := by
  refine ⟨_, rfl, fun rec => rfl, fun e => ?_⟩
  show Prog.All _ (failNext s "feed" e.message)
  rw [all_failNext]
  exact ⟨s.markFailed, rfl, rfl, rfl⟩

end Runner

/-- Record sources hand out records by their strategies, however pulls
interleave. A feeder over `len` records (at least one, fewer than `2^64`),
never pulled before:
* as a queue, hands out the records in order, each once, then refuses every
  further pull and stays as it is;
* shuffled, hands out every record once, in one order drawn at the first pull,
  then refuses;
* circular, hands out at pull `i` the record at `i mod 2^64 mod len`;
* random, never refuses;
* as a queue or shuffled, reports as remaining its records less its successful
  pulls.
In a run, a feeder source answers its own pulls as if pulled alone, however
they interleave with pulls of other sources, so `len + 1` pulls of a queue get
exactly one refusal; and a feed action merges a record into the session, or
marks the session failed with its attributes as they were. -/
theorem feeders_hand_out_records (f : Feeder) (hc : f.cursor = 0) (hpos : 0 < f.len)
    (hlen : f.len < Nat.pow 2 64) :
    (∀ k, (f.withStrategy .queue).pulls k =
        ((List.range (min k f.len)).map (fun i => .ok (f.records.getD i [])) ++
          List.replicate (k - f.len) (.error (.exhausted f.name)),
        { f.withStrategy .queue with cursor := min k f.len })) ∧
    (∃ order : List Nat, order.Perm (List.range f.len) ∧ ∀ k, ((f.withStrategy .shuffle).pulls k).1 =
        (order.take k).map (fun i => .ok (f.records.getD i [])) ++
          List.replicate (k - f.len) (.error (.exhausted f.name))) ∧
    (∀ k, ((f.withStrategy .circular).pulls k).1 =
        (List.range k).map fun i => .ok (f.records.getD (i % Nat.pow 2 64 % f.len) [])) ∧
    (∀ k, ∀ r ∈ ((f.withStrategy .random).pulls k).1, ∃ rec ∈ f.records, r = .ok rec) ∧
    (∀ s, s = .queue ∨ s = .shuffle → ∀ k, ((f.withStrategy s).pulls k).2.remaining =
        some (f.len - ((f.withStrategy s).pulls k).1.countP Except.toBool)) ∧
    (∀ (w : World) (name : String) (g : Feeder) (ns : List String),
        Fields.get? w.sources name = some (.feeder g) →
        ((ns.zip (w.pullEach ns).1).filter (·.1 == name)).map (·.2) = (g.pulls (ns.count name)).1) ∧
    (∀ (w : World) (name : String) (ns : List String),
        Fields.get? w.sources name = some (.feeder (f.withStrategy .queue)) →
        ns.count name = f.len + 1 →
        (((ns.zip (w.pullEach ns).1).filter (·.1 == name)).map (·.2)).countP
          (fun r => !r.toBool) = 1) ∧
    (∀ source s, ∃ k, Runner.feed source s = .feed source k ∧
        (∀ rec, k (.ok rec) = .pure (.next (s.setAll rec))) ∧
        (∀ rec key, (s.setAll rec).get? key = (rec.reverse.lookup key).or (s.get? key)) ∧
        ∀ e, Prog.All (fun flow => ∃ s', flow = .next s' ∧ s'.attributes = s.attributes ∧
          s'.isFailed = true) (k (.error e))) := by
  refine ⟨Feeder.pulls_queue_start (f := f.withStrategy .queue) rfl hc hlen,
    Feeder.pulls_shuffle_start (f := f.withStrategy .shuffle) rfl hc rfl hlen,
    Feeder.pulls_circular_start (f := f.withStrategy .circular) rfl hc,
    Feeder.pulls_random (f := f.withStrategy .random) rfl hpos,
    fun s hs => Feeder.remaining_pulls (f := f.withStrategy s) (by simpa using hs) hc rfl hlen,
    fun w name g ns hg => World.pullEach_feeder ns hg,
    fun w name ns hf hn =>
      World.pullEach_queue_refuses_once (f := f.withStrategy .queue) rfl hc hlen hf hn,
    fun source s => ?_⟩
  obtain ⟨k, hfeed, hok, herr⟩ := Runner.feed_pulls source s
  exact ⟨k, hfeed, hok, fun rec key => Session.get?_setAll rec key, herr⟩

/-- A queue over two records, never pulled: three pulls get both records in
order, then a refusal. -/
theorem two_record_queue_refuses_third :
    ∃ f : Feeder, f.records = #[[("id", .string "a")], [("id", .string "b")]] ∧
      f.cursor = 0 ∧ 0 < f.len ∧ f.len < Nat.pow 2 64 ∧
      ((f.withStrategy .queue).pulls 3).1 =
        [.ok [("id", .string "a")], .ok [("id", .string "b")], .error (.exhausted f.name)] := by
  refine ⟨{ name := "users", records := #[[("id", .string "a")], [("id", .string "b")]] }, rfl, rfl,
    by decide, by decide, ?_⟩
  rw [((feeders_hand_out_records _ rfl (by decide) (by decide)).1 3)]
  rfl

end LoadScenario
