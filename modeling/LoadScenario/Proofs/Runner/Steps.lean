import LoadScenario.Runner.Run
import LoadScenario.Proofs.Prog.Outcomes
import LoadScenario.Proofs.Chain.Inside
import LoadScenario.Proofs.Session.Operations

/-!
# What each step of the runner can do

The runner's six functions (`runChain`, `runAction`, `runLoop`, `loopPasses`,
`runTry`, `attempt`) are built from small steps: the checkpoint before an
action, marking a session failed, leaving a block's counter, the actions that
hold no chain (pace, pause, feed, stop injector), and those that pick one of
their chains or leave their block (branches, switches, exits). This module
says once, for each step, every result it can give, so that the invariants of
later modules cite these lemmas and never unfold the steps.

It ends with `Runner.Post`: a property of the results of each of the six
functions, and the induction on the step budget that proves such a property
for every budget from a proof that one more step keeps it.
-/

namespace LoadScenario

open Prog

/-! ## Scopes -/

/-- Whether a frame is a loop that ends as soon as its guard stops holding. -/
def FrameKind.IsExitAsapLoop (k : FrameKind) : Prop :=
  ∃ g counter started, k = .loop g counter true started

namespace Scope

/-- Pushing a frame puts it in front, with the id after its parent's. -/
theorem push_eq_cons (sc : Scope) (k : FrameKind) :
    sc.push k = ⟨(sc.head?.map (·.id + 1)).getD 0, k⟩ :: sc := by
  cases sc <;> rfl

/-- The innermost catcher of a scope with a new innermost frame. -/
theorem catcher?_cons (f : Frame) (sc : Scope) :
    catcher? (f :: sc) = if f.kind.catchesFailure then some f else sc.catcher? := by
  by_cases h : f.kind.catchesFailure <;> simp [catcher?, h]

/-- Only an `exitAsap` loop frame can lapse. -/
theorem isExitAsapLoop_of_lapsed? {now : Nat} {s : Session} {f : Frame}
    (h : (f.lapsed? now s).isSome) : f.kind.IsExitAsapLoop := by
  rcases f with ⟨id, k⟩
  cases k with
  | loop g counter exitAsap started =>
    cases exitAsap with
    | true => exact ⟨g, counter, started, rfl⟩
    | false => simp [Frame.lapsed?] at h
  | retry => simp [Frame.lapsed?] at h
  | exitOnFail => simp [Frame.lapsed?] at h

theorem lapsed?_outermost_mem {now : Nat} {s : Session} :
    ∀ {fs : List Frame} {id : Nat} {e : Option EvalError},
      lapsed?.outermost now s fs = some (id, e) →
      ∃ f ∈ fs, f.id = id ∧ f.kind.IsExitAsapLoop
  | [], _, _, h => by simp [lapsed?.outermost] at h
  | f :: rest, id, e, h => by
    simp only [lapsed?.outermost] at h
    split at h
    · next e' he =>
      cases h
      exact ⟨f, List.mem_cons_self, rfl, @isExitAsapLoop_of_lapsed? now s f (by simp [he])⟩
    · obtain ⟨f', hf', hid, hk⟩ := lapsed?_outermost_mem h
      exact ⟨f', List.mem_cons_of_mem _ hf', hid, hk⟩

/-- A lapsed frame is an `exitAsap` loop frame of the scope. -/
theorem lapsed?_mem {now : Nat} {s : Session} {sc : Scope} {id : Nat} {e : Option EvalError}
    (h : sc.lapsed? now s = some (id, e)) : ∃ f ∈ sc, f.id = id ∧ f.kind.IsExitAsapLoop := by
  obtain ⟨f, hf, hid, hk⟩ := lapsed?_outermost_mem h
  exact ⟨f, List.mem_reverse.mp hf, hid, hk⟩

end Scope

/-! ## Flows -/

namespace Flow

@[simp]
theorem session_mapSession (g : Session → Session) (flow : Flow) :
    (flow.mapSession g).session = g flow.session := by
  cases flow <;> rfl

@[simp]
theorem mapSession_next (g : Session → Session) (s : Session) :
    (Flow.next s).mapSession g = .next (g s) := rfl

@[simp]
theorem mapSession_interrupt (g : Session → Session) (s : Session) (id : Nat) (c : Cause) :
    (Flow.interrupt s id c).mapSession g = .interrupt (g s) id c := rfl

@[simp]
theorem mapSession_stopped (g : Session → Session) (s : Session) :
    (Flow.stopped s).mapSession g = .stopped (g s) := rfl

end Flow

/-! ## Leaf actions -/

/-- How an action that holds no chain may change the session: not at all, by
marking it failed, by setting the attributes of a record, or by setting a pace
deadline. Counters, the stack of counters in use and a failed status are never
touched. -/
inductive Session.LeafEdit (s : Session) : Session → Prop
  | same : LeafEdit s s
  | fail : LeafEdit s s.markFailed
  | setAll (r : Record) : LeafEdit s (s.setAll r)
  | pace (counter : String) (deadline : Nat) : LeafEdit s (s.withPaceDeadline counter deadline)

/-- A flow an action that holds no chain can end with: on to the next action,
or stopped, with a session it may only have edited as `LeafEdit` allows. -/
def Flow.Leaf (s : Session) (flow : Flow) : Prop :=
  ∃ s', s.LeafEdit s' ∧ (flow = .next s' ∨ flow = .stopped s')

namespace Session.LeafEdit

variable {s s' : Session}

/-- An action that holds no chain never clears a failure. -/
theorem keeps_failure (h : s.LeafEdit s') (hs : s.isFailed = true) : s'.isFailed = true := by
  cases h with
  | same => exact hs
  | fail => rfl
  | setAll r => rwa [Session.isFailed_iff, (Session.setAll_bookkeeping r).1, ← Session.isFailed_iff]
  | pace counter deadline => exact hs

/-- An action that holds no chain leaves the counters and their stack alone. -/
theorem bookkeeping (h : s.LeafEdit s') : s'.active = s.active ∧ s'.counters = s.counters := by
  cases h with
  | same => exact ⟨rfl, rfl⟩
  | fail => exact ⟨rfl, rfl⟩
  | setAll r => exact (Session.setAll_bookkeeping r).2.symm
  | pace counter deadline => exact ⟨rfl, rfl⟩

end Session.LeafEdit

theorem Flow.leaf_next {s s' : Session} (h : s.LeafEdit s') : Flow.Leaf s (.next s') :=
  ⟨s', h, Or.inl rfl⟩

theorem Flow.leaf_stopped {s s' : Session} (h : s.LeafEdit s') : Flow.Leaf s (.stopped s') :=
  ⟨s', h, Or.inr rfl⟩

namespace Runner

variable {Q : Flow → Prop} {s : Session}

/-! ## Failing, leaving, passing on -/

@[simp]
theorem all_fail {P : Session → Prop} {action error : String} :
    All P (fail s action error) ↔ P s.markFailed := by
  simp [fail]

@[simp]
theorem all_failNext {action error : String} :
    All Q (failNext s action error) ↔ Q (.next s.markFailed) := by
  simp [failNext]

@[simp]
theorem all_wait {P : Bool → Prop} {deadline : Nat} : All P (wait deadline) ↔ ∀ b, P b := by
  simp only [wait, all_bind, all_stopped, if_true, all_pure, Bool.false_eq_true, if_false,
    all_waitUntil]
  exact ⟨fun h => h.2, fun h => ⟨h false, h⟩⟩

@[simp]
theorem all_leaveNow {P : Session → Prop} {counter : String} :
    All P (leaveNow s counter) ↔ ∀ t, P (s.leave counter t) := by
  simp [leaveNow]

@[simp]
theorem all_finish {counter : String} :
    All Q (finish s counter) ↔ ∀ t, Q (.next (s.leave counter t)) := by
  simp [finish]

@[simp]
theorem all_passOn {flow : Flow} {counter : String} :
    All Q (passOn flow counter) ↔ ∀ t, Q (flow.mapSession (·.leave counter t)) := by
  simp [passOn]

/-- An exit carries the session as it is, whether it interrupts a block or ends the run. -/
@[simp]
theorem session_exitFlow (s : Session) (sc : Scope) : (exitFlow s sc).session = s := by
  cases sc <;> rfl

/-- Binding a foreach loop's element sets an attribute and nothing else. -/
theorem bindElement_bookkeeping (plan : Plan) (g : LoopGuard) (iteration : Nat) (s : Session) :
    (bindElement plan g iteration s).status = s.status ∧
      (bindElement plan g iteration s).active = s.active ∧
      (bindElement plan g iteration s).counters = s.counters := by
  unfold bindElement
  split
  · split <;> exact ⟨rfl, rfl, rfl⟩
  · exact ⟨rfl, rfl, rfl⟩

end Runner

/-! ## The checkpoint -/

/-- The interrupt a checkpoint raises for a lapsed guard: aimed at an
`exitAsap` loop of the scope, with the session marked failed if the guard
could not be resolved. -/
inductive Flow.GuardLapse (s : Session) (sc : Scope) : Flow → Prop
  | intro (f : Frame) (hf : f ∈ sc) (hk : f.kind.IsExitAsapLoop) (s' : Session)
      (hs' : s' = s ∨ s' = s.markFailed) : GuardLapse s sc (.interrupt s' f.id .guard)

namespace Runner

variable {s : Session}

/-- What a checkpoint can decide for a session in a scope: let it through
unchanged, which it does to a failed session only outside every catching
frame; stop; interrupt an `exitAsap` loop whose guard lapsed; or hand a failed
session to the innermost frame catching failures. -/
def Checked (s : Session) (sc : Scope) : Except Flow Session → Prop
  | .ok s' => s' = s ∧ (s.isFailed → sc.catcher? = none)
  | .error flow => flow = .stopped s ∨ flow.GuardLapse s sc ∨
      (s.isFailed ∧ ∃ f, sc.catcher? = some f ∧ flow = .interrupt s f.id .failure)

/-- Every decision of a checkpoint is one `Checked` allows. -/
theorem checkpoint_checked (s : Session) (sc : Scope) : All (Checked s sc) (checkpoint s sc) := by
  simp only [checkpoint, all_bind, all_stopped, if_true, Bool.false_eq_true, if_false]
  refine ⟨Or.inl rfl, ?_⟩
  split
  · exact ⟨rfl, fun _ => rfl⟩
  · simp only [all_bind, all_clock]
    intro now
    split
    · next id err hl =>
      obtain ⟨f, hf, rfl, hk⟩ := Scope.lapsed?_mem hl
      have hguard : ∀ s', (s' = s ∨ s' = s.markFailed) →
          Checked s sc (.error (.interrupt s' f.id .guard)) :=
        fun s' hs' => Or.inr (Or.inl (.intro f hf hk s' hs'))
      cases err with
      | none => exact hguard s (Or.inl rfl)
      | some e => simpa using hguard s.markFailed (Or.inr rfl)
    · split
      · next hfl =>
        split
        · next f hc => exact Or.inr (Or.inr ⟨hfl, f, hc, rfl⟩)
        · next hc => exact ⟨rfl, fun _ => hc⟩
      · next hfl => exact ⟨rfl, fun h => absurd h hfl⟩

/-! ## Actions that hold no chain -/

/-- A pace waits, sets the pace point's next deadline, fails, or stops. -/
theorem pace_leaf (interval : Interval) (counter : String) (s : Session) :
    All (Flow.Leaf s) (pace interval counter s) := by
  simp only [pace, all_bind]
  refine All.imp (All.true _) fun r _ => ?_
  split
  · exact Flow.leaf_next .fail
  · simp only [all_bind, all_clock]
    intro now
    split
    · split
      · exact Flow.leaf_next (.pace _ _)
      · exact Flow.leaf_next .fail
    · simp only [all_bind]
      refine All.imp (All.true _) fun go _ => ?_
      cases go
      · exact Flow.leaf_stopped .same
      · simp only [if_true]
        split
        · exact Flow.leaf_next (.pace _ _)
        · exact Flow.leaf_next .fail

/-- A pause waits and goes on, fails, or stops. -/
theorem pause_leaf (interval : Interval) (s : Session) : All (Flow.Leaf s) (pause interval s) := by
  simp only [pause, all_bind]
  refine All.imp (All.true _) fun r _ => ?_
  split
  · exact Flow.leaf_next .fail
  · simp only [all_bind, all_clock]
    intro now
    split
    · exact Flow.leaf_next .fail
    · simp only [all_bind, all_wait]
      intro b
      cases b
      · exact Flow.leaf_stopped .same
      · exact Flow.leaf_next .same

/-- A feed sets the attributes of the next record, or fails. -/
theorem feed_leaf (source : String) (s : Session) : All (Flow.Leaf s) (feed source s) := by
  simp only [feed, all_bind, all_nextRecord]
  intro r
  cases r with
  | error e => exact Flow.leaf_next .fail
  | ok r => exact Flow.leaf_next (.setAll r)

/-- A stop injector stops with the session as it is. -/
theorem stopInjector_leaf (message : Source String) (s : Session) :
    All (Flow.Leaf s) (stopInjector message s) := by
  simp only [stopInjector, all_bind, all_emit, all_raise]
  exact fun _ => Flow.leaf_stopped .same

/-! ## The chain a switch picks -/

theorem choose_go_mem {draw : Float} {cs : List (Float × Chain)} {ch : Chain} :
    ∀ (sum : Float) (rest : List (Float × Chain)), rest ⊆ cs →
      choose.go draw cs sum rest = some ch → ch ∈ cs.map (·.2)
  | sum, [], _, h => by
    simp only [choose.go] at h
    split at h
    · obtain ⟨p, hp, rfl⟩ := Option.map_eq_some_iff.mp h
      exact List.mem_map_of_mem (List.mem_of_getLast? hp)
    · cases h
  | sum, (w, c) :: rest, hsub, h => by
    simp only [choose.go] at h
    split at h
    · cases h
      exact List.mem_map_of_mem (hsub List.mem_cons_self)
    · exact choose_go_mem (sum + w) rest (fun _ hx => hsub (List.mem_cons_of_mem _ hx)) h

/-- A random switch picks one of its weighted chains or its else chain. -/
theorem randomSwitch_choice_mem {draw : Float} {cs : List (Float × Chain)} {e : Option Chain}
    {ch : Chain} (h : (choose draw cs).or e = some ch) : ch ∈ (Action.randomSwitch cs e).children := by
  apply Action.mem_children_randomSwitch
  rcases Option.or_eq_some_iff.mp h with h | ⟨-, h⟩
  · exact Or.inl (choose_go_mem 0 cs (List.Subset.refl cs) h)
  · exact Or.inr h

/-- A switch picks the chain of a matching choice or its else chain. -/
theorem switch_choice_mem {key : Source Value} {k : Value} {cs : List (Value × Chain)}
    {e : Option Chain} {ch : Chain}
    (h : ((cs.find? fun c => Value.equal k c.1).map (·.2)).or e = some ch) :
    ch ∈ (Action.switch key cs e).children := by
  apply Action.mem_children_switch
  rcases Option.or_eq_some_iff.mp h with h | ⟨-, h⟩
  · obtain ⟨p, hp, rfl⟩ := Option.map_eq_some_iff.mp h
    exact Or.inl (List.mem_map_of_mem (List.mem_of_find?_eq_some hp))
  · exact Or.inr h

/-! ## Actions that pick a chain, and exits -/

section Pick

variable {Q : Flow → Prop} {n : Nat} {s : Session} {sc : Scope}

/-- A branch runs one of its chains, goes on when its condition is false and it
has no else chain, or fails when the condition cannot be resolved. -/
theorem all_branch {c : Condition} {t : Chain} {e : Option Chain}
    (hch : ∀ ch ∈ (Action.branch c t e).children, All Q (runChain n ch s sc))
    (hnext : Q (.next s)) (hfail : Q (.next s.markFailed)) :
    All Q (runAction (n + 1) (.branch c t e) s sc) := by
  simp only [runAction]
  split
  · exact hch t (Action.mem_children_branch_then c t e)
  · split
    · next _ ch => exact hch ch (Action.mem_children_branch_else c t _ rfl)
    · exact hnext
  · simp only [all_failNext]; exact hfail

/-- A switch runs the chain of the matching choice or its else chain, goes on
when there is neither, or fails when its key cannot be resolved. -/
theorem all_switch {key : Source Value} {cs : List (Value × Chain)} {e : Option Chain}
    (hch : ∀ ch ∈ (Action.switch key cs e).children, All Q (runChain n ch s sc))
    (hnext : Q (.next s)) (hfail : Q (.next s.markFailed)) :
    All Q (runAction (n + 1) (.switch key cs e) s sc) := by
  simp only [runAction]
  split
  · split
    · next ch hpick => exact hch ch (switch_choice_mem hpick)
    · exact hnext
  · simp only [all_failNext]; exact hfail

/-- A random switch runs the chain its draw picks, or goes on when it picks none. -/
theorem all_randomSwitch {cs : List (Float × Chain)} {e : Option Chain}
    (hch : ∀ ch ∈ (Action.randomSwitch cs e).children, All Q (runChain n ch s sc))
    (hnext : Q (.next s)) :
    All Q (runAction (n + 1) (.randomSwitch cs e) s sc) := by
  simp only [runAction, all_bind, all_uniform]
  intro draw
  split
  · next ch hpick => exact hch ch (randomSwitch_choice_mem hpick)
  · exact hnext

/-- An exit leaves its block, goes on when its condition is false, or fails
when the condition cannot be resolved. -/
theorem all_exit {c : ExitCondition} (hexit : Q (exitFlow s sc)) (hnext : Q (.next s))
    (hfail : Q (.next s.markFailed)) : All Q (runAction (n + 1) (.exit c) s sc) := by
  simp only [runAction]
  split
  · exact hexit
  · exact hnext
  · simp only [all_failNext]; exact hfail

/-- The flows of an `exitBlockOnFail` carry the sessions of the flows of its
body: it catches an interrupt aimed at its own frame as the next action's
session, and passes on everything else. -/
theorem all_exitBlockOnFail_session {P : Session → Prop} {body : Chain}
    (h : All (fun flow => P flow.session) (runChain n body s (sc.push .exitOnFail))) :
    All (fun flow => P flow.session) (runAction (n + 1) (.exitBlockOnFail body) s sc) := by
  simp only [runAction, all_bind]
  refine All.imp h fun flow hflow => ?_
  cases flow with
  | interrupt s' id c =>
    simp only [all_ite, all_pure]
    exact ⟨fun _ => hflow, fun _ => hflow⟩
  | next s' => exact hflow
  | exit s' => exact hflow
  | stopped s' => exact hflow

end Pick

/-! ## How an attempt ends -/

/-- A flow that ends an attempt of a retry block and that the block does not
read as the end of the attempt is passed on as it is: it is not `next`, and an
interrupt among them is not aimed at the block's own frame. -/
theorem attempt_result_error {sc : Scope} {flow flow' : Flow}
    (h : (match flow with
      | .next s => Except.ok (s, false)
      | .interrupt s id c =>
        if some id = sc.head?.map (·.id) then .ok (s, c == .exit) else .error (.interrupt s id c)
      | flow => .error flow : Except Flow (Session × Bool)) = .error flow') :
    flow' = flow ∧ ∀ s id c, flow = .interrupt s id c → ¬ some id = sc.head?.map (·.id) := by
  cases flow with
  | next s => cases h
  | interrupt s id c =>
    simp only at h
    split at h
    · cases h
    · next hid =>
      cases h
      exact ⟨rfl, fun _ _ _ heq => by cases heq; exact hid⟩
  | exit s => cases h; exact ⟨rfl, fun _ _ _ heq => by cases heq⟩
  | stopped s => cases h; exact ⟨rfl, fun _ _ _ heq => by cases heq⟩

/-- An attempt the block reads as ended: its body came to its end, or an
interrupt aimed at the block's own frame stopped it, which counts as an exit
when its cause was one. -/
theorem attempt_result_ok {sc : Scope} {flow : Flow} {s' : Session} {exited : Bool}
    (h : (match flow with
      | .next s => Except.ok (s, false)
      | .interrupt s id c =>
        if some id = sc.head?.map (·.id) then .ok (s, c == .exit) else .error (.interrupt s id c)
      | flow => .error flow : Except Flow (Session × Bool)) = .ok (s', exited)) :
    (flow = .next s' ∧ exited = false) ∨
      ∃ id c, flow = .interrupt s' id c ∧ some id = sc.head?.map (·.id) ∧ exited = (c == .exit) := by
  cases flow with
  | next s =>
    cases h
    exact Or.inl ⟨rfl, rfl⟩
  | interrupt s id c =>
    simp only at h
    split at h
    · next hid =>
      cases h
      exact Or.inr ⟨id, c, rfl, hid, rfl⟩
    · cases h
  | exit s => cases h
  | stopped s => cases h

/-- An attempt the block reads as ended carries the session of the flow that ended it. -/
theorem attempt_result_session {sc : Scope} {flow : Flow} {s' : Session} {exited : Bool}
    (h : (match flow with
      | .next s => Except.ok (s, false)
      | .interrupt s id c =>
        if some id = sc.head?.map (·.id) then .ok (s, c == .exit) else .error (.interrupt s id c)
      | flow => .error flow : Except Flow (Session × Bool)) = .ok (s', exited)) :
    flow.session = s' := by
  rcases attempt_result_ok h with ⟨rfl, -⟩ | ⟨id, c, rfl, -, -⟩ <;> rfl

end Runner

/-! ## Induction on the step budget -/

/-- A property of the results of each of the runner's six functions, given
their arguments. -/
structure Runner.Post where
  chain : Chain → Session → Scope → Flow → Prop
  action : Action → Session → Scope → Flow → Prop
  loop : LoopGuard → String → Bool → Chain → Session → Scope → Flow → Prop
  passes : LoopGuard → String → Chain → Plan → Nat → Session → Scope → Flow → Prop
  retry : Source UInt64 → String → Chain → Session → Scope → Flow → Prop
  attempts : Nat → Status → String → Chain → Session → Scope → Flow → Prop

namespace Runner.Post

open Runner

/-- Every result of each of the six functions with step budget `n` has the property. -/
structure Holds (P : Post) (n : Nat) : Prop where
  chain : ∀ ch s sc, All (P.chain ch s sc) (runChain n ch s sc)
  action : ∀ a s sc, All (P.action a s sc) (runAction n a s sc)
  loop : ∀ g counter exitAsap body s sc,
    All (P.loop g counter exitAsap body s sc) (runLoop n g counter exitAsap body s sc)
  passes : ∀ g counter body plan started s sc,
    All (P.passes g counter body plan started s sc) (loopPasses n g counter body plan started s sc)
  retry : ∀ attempts counter body s sc,
    All (P.retry attempts counter body s sc) (runTry n attempts counter body s sc)
  attempts : ∀ max prior counter body s sc,
    All (P.attempts max prior counter body s sc) (attempt n max prior counter body s sc)

/-- With no step left every function runs out of fuel, which has no result. -/
theorem holds_zero (P : Post) : P.Holds 0 where
  chain _ _ _ := trivial
  action _ _ _ := trivial
  loop _ _ _ _ _ _ := trivial
  passes _ _ _ _ _ _ _ := trivial
  retry _ _ _ _ _ := trivial
  attempts _ _ _ _ _ _ := trivial

/-- A property that one more step of budget keeps holds for every budget:
every function calls the others only with one step less. -/
theorem holds (P : Post) (step : ∀ n, P.Holds n → P.Holds (n + 1)) : ∀ n, P.Holds n
  | 0 => holds_zero P
  | n + 1 => step n (holds P step n)

end Runner.Post

end LoadScenario
