import LoadScenario.Proofs.Chain.Built
import LoadScenario.Proofs.Runner.Calls
import LoadScenario.Proofs.Runner.Counters

/-!
# Blocks enter their counters

A loop or a retry block starts by entering its counter, which fails when an
enclosing block uses the same counter. The builder refuses such nesting when it
closes a block, and this module shows that this check is enough: in a run of a
chain the builder made, from a session with no counter in use and with effects
that keep the counters, every loop and retry block the run calls enters its
counter (`built_chains_enter_their_counters`). Only a block pushed by hand,
without the builder's check, can meet its own counter in use
(`raw_loop_reusing_its_counter_fails`).

The invariant is `Runner.Call.Fresh`: no block in the code a call runs counts in
a counter in use. Every direct call keeps it (`Runner.Calls.fresh`): a block's
counter joins the stack only around a body that holds no block counting in it,
and every run of a body gives the stack back (`balance_holds`).
-/

namespace LoadScenario

open Prog Runner

/-- What the builder and the effects guarantee of an action: its effect keeps
the counters, and no block inside a block's body counts in the block's counter. -/
def Action.Scoped (a : Action) : Prop := a.KeepsCounters ∧ a.ChecksCounter

/-- An action that a session can run with every block entering its counter:
every action inside it is scoped, and no block inside it counts in a counter in
use. -/
def Action.Fresh (s : Session) (a : Action) : Prop :=
  a.Within Action.Scoped ∧ ∀ c, a.CountsIn c → c ∉ s.active

namespace Action.Fresh

variable {s s1 : Session} {a b : Action} {ch : Chain}

/-- Freshness reads only the stack of counters in use. -/
theorem of_active (h : a.Fresh s) (hs : s1.active = s.active) : a.Fresh s1 :=
  ⟨h.1, fun c hc => hs ▸ h.2 c hc⟩

/-- Every action of a fresh action's chains is fresh. -/
theorem child (h : a.Fresh s) (hch : ch ∈ a.children) (hb : b ∈ ch) : b.Fresh s :=
  ⟨h.1.child hch hb, fun c hc => h.2 c (.of_child hch hb hc)⟩

/-- A fresh block's counter is not in use. -/
theorem counter_not_mem {c : String} (h : a.Fresh s) (hc : a.scopeCounter? = some c) :
    c ∉ s.active :=
  h.2 c (.self hc)

/-- Once a fresh block has entered its counter, every action of its body is fresh. -/
theorem enter {c : String} {body : Chain} (h : a.Fresh s) (hc : a.scopeCounter? = some c)
    (hch : a.children = [body]) (hs1 : s1.active = s.active ++ [c]) : ∀ b ∈ body, b.Fresh s1 := by
  intro b hb
  have hbody : body ∈ a.children := by
    rw [hch]
    exact List.mem_singleton_self body
  refine ⟨h.1.child hbody hb, fun d hd hmem => ?_⟩
  rw [hs1, List.mem_append, List.mem_singleton] at hmem
  rcases hmem with hmem | rfl
  · exact h.2 d (.of_child hbody hb hd) hmem
  · -- the block checked its own counter against its body
    exact h.1.self.2 d hc body hbody b hb hd

end Action.Fresh

namespace Runner

/-- A call all of whose code can run with every block entering its counter. -/
def Call.Fresh : Call → Prop
  | .chain _ ch s _ => ∀ b ∈ ch, b.Fresh s
  | .action _ a s _ => a.Fresh s
  | .loop _ g counter exitAsap body s _ => (Action.loop g counter exitAsap body).Fresh s
  | .passes _ _ _ body _ _ s _ => ∀ b ∈ body, b.Fresh s
  | .retry _ tries counter body s _ => (Action.tryMax tries counter body).Fresh s
  | .attempts _ _ _ _ body s _ => ∀ b ∈ body, b.Fresh s

/-- A call of a loop or a retry block enters its counter, whatever the time it starts at. -/
def Call.EntersCounter : Call → Prop
  | .loop _ _ counter _ _ s _ => ∀ t, ∃ s', s.enterCounter counter t = .ok s'
  | .retry _ _ counter _ s _ => ∀ t, ∃ s', s.enterCounter counter t = .ok s'
  | _ => True

/-- A fresh call of a loop or a retry block enters its counter. -/
theorem Call.Fresh.entersCounter {c : Call} (h : c.Fresh) : c.EntersCounter := by
  cases c with
  | loop n g counter exitAsap body s sc =>
    exact fun t => Session.enterCounter_ok_of_not_mem
      (Action.Fresh.counter_not_mem (a := .loop g counter exitAsap body) h rfl) t
  | retry n tries counter body s sc =>
    exact fun t => Session.enterCounter_ok_of_not_mem
      (Action.Fresh.counter_not_mem (a := .tryMax tries counter body) h rfl) t
  | chain | action | passes | attempts => trivial

/-- A run of a chain of fresh actions gives back the stack of counters in use. -/
theorem active_of_yields {n : Nat} {body : Chain} {s : Session} {sc : Scope} {flow : Flow}
    (h : ∀ b ∈ body, b.Fresh s) (hy : Yields (runChain n body s sc) flow) :
    flow.session.active = s.active :=
  (((balance_holds n).chain body s sc).of_yields hy fun b hb =>
    (h b hb).1.imp fun _ h => h.1).active

/-- Every direct call of a fresh call is fresh. -/
theorem Calls.fresh {c c' : Call} (h : Calls c c') (hc : c.Fresh) : c'.Fresh := by
  cases h <;> dsimp only [Call.Fresh] at hc ⊢
  case first hck =>
    -- the checkpoint lets the session through unchanged
    obtain ⟨rfl, -⟩ := (checkpoint_checked _ _).of_yields hck
    exact hc _ List.mem_cons_self
  case rest n a rest s s' s'' sc hck ha =>
    obtain ⟨hs, -⟩ := (checkpoint_checked s sc).of_yields hck
    subst hs
    -- the first action gives back the stack of counters in use
    have hbal : s'.Balanced s'' :=
      ((balance_holds n).action a s' sc).of_yields ha
        ((hc a List.mem_cons_self).1.imp fun _ h => h.1)
    exact fun b hb => (hc b (List.mem_cons_of_mem a hb)).of_active hbal.active
  case branch hch => exact fun b hb => hc.child hch hb
  case switch hch => exact fun b hb => hc.child hch hb
  case randomSwitch hch => exact fun b hb => hc.child hch hb
  case loop => exact hc
  case retry => exact hc
  case exitBlock => exact fun b hb => hc.child List.mem_cons_self hb
  case enterLoop he => exact hc.enter rfl rfl (Session.enterCounter_ok he).2.1
  case pass n g counter body plan started s sc =>
    exact fun b hb => (hc b hb).of_active (bindElement_bookkeeping plan g _ s).2.1
  case nextPass n g counter body plan started s s' s'' sc hb hi =>
    -- the pass gives back the stack, and counting it keeps the stack
    have hbind : ∀ b ∈ body, b.Fresh (bindElement plan g (s.iterationOf counter) s) :=
      fun b hb => (hc b hb).of_active (bindElement_bookkeeping plan g _ s).2.1
    have hpass : s'.active = s.active :=
      (active_of_yields hbind hb).trans (bindElement_bookkeeping plan g _ s).2.1
    exact fun b hmem => (hc b hmem).of_active ((Session.incrementCounter_ok hi).1.trans hpass)
  case enterRetry he => exact hc.enter rfl rfl (Session.enterCounter_ok he).2.1
  case attempt => exact fun b hb => (hc b hb).of_active rfl
  case nextAttempt n max prior counter body s s'' sc flow hb hi =>
    have hattempt : flow.session.active = s.active :=
      active_of_yields (s := s.markSucceeded) (fun b hmem => (hc b hmem).of_active rfl) hb
    exact fun b hmem => (hc b hmem).of_active ((Session.incrementCounter_ok hi).1.trans hattempt)

end Runner

/-- The builder's counter check rules out the run-time one. In a run of a chain
the builder made, from a session with no counter in use and with effects that
keep the counters, every loop and retry block called at any depth enters its
counter: entering never fails with a counter in use. -/
theorem built_chains_enter_their_counters (fuel : Nat) (chain : Chain) (s : Session)
    (hbuilt : ∀ b ∈ chain, b.Built) (hkeep : ∀ b ∈ chain, b.Within Action.KeepsCounters)
    (hs : s.active = []) (c : Call) (hc : Reaches (.chain fuel chain s []) c) : c.EntersCounter := by
  have htop : (Call.chain fuel chain s []).Fresh := fun b hb =>
    ⟨(hkeep b hb).and (hbuilt b hb).checks, fun c _ hmem => by simp [hs] at hmem⟩
  exact (Reaches.inv (fun _ _ => Calls.fresh) hc htop).entersCounter

/-- A loop the builder made, run from a fresh session: the call of the loop
enters its counter. -/
theorem built_loop_enters_its_counter :
    (∀ b ∈ [Action.loop (.times (.const 2)) "pass" false [.exit .always]], b.Built) ∧
      (∀ b ∈ [Action.loop (.times (.const 2)) "pass" false [.exit .always]],
        b.Within Action.KeepsCounters) ∧
      (Session.new "user" 0).active = [] ∧
      Reaches (.chain 3 [.loop (.times (.const 2)) "pass" false [.exit .always]]
          (Session.new "user" 0) [])
        (.loop 1 (.times (.const 2)) "pass" false [.exit .always] (Session.new "user" 0) []) ∧
      (Call.loop 1 (.times (.const 2)) "pass" false [.exit .always]
        (Session.new "user" 0) []).EntersCounter := by
  have hbuilt : ∀ b ∈ [Action.loop (.times (.const 2)) "pass" false [.exit .always]], b.Built := by
    intro b hb
    rw [List.mem_singleton.mp hb]
    -- the builder closes the loop under the given name, its body passing the check
    exact @Action.Built.loop (.times (.const 2)) (some "pass") false [.exit .always] 0 0 _ rfl
      fun b hb => by
        rw [List.mem_singleton.mp hb]
        exact .exit _
  have hkeep : ∀ b ∈ [Action.loop (.times (.const 2)) "pass" false [.exit .always]],
      b.Within Action.KeepsCounters :=
    Action.Within.singleton (.of_chain trivial rfl (Action.Within.singleton (.of_leaf trivial rfl)))
  -- with no stop signalled, the checkpoint before the loop lets the session through
  have hreach : Reaches (.chain 3 [.loop (.times (.const 2)) "pass" false [.exit .always]]
        (Session.new "user" 0) [])
      (.loop 1 (.times (.const 2)) "pass" false [.exit .always] (Session.new "user" 0) []) :=
    .tail (.single (Calls.first (.signal none (.pure _)))) Calls.loop
  exact ⟨hbuilt, hkeep, rfl, hreach,
    built_chains_enter_their_counters 3 _ _ hbuilt hkeep rfl _ hreach⟩

/-- A loop pushed by hand inside a loop counting in the same counter finds the
counter in use: the user ends failed, and the inner body never runs. -/
theorem raw_loop_reusing_its_counter_fails :
    ¬ All (fun o => o.session.isFailed = false ∨ (o.session.get? "inner").isSome)
      (runUser 20 [.loop (.times (.const 1)) "i" false
        [.loop (.times (.const 1)) "i" false [.exec ⟨"exec", fun s => .pure (s.set "inner" (.bool true))⟩]]]
        (Session.new "test" 0)) := by
  intro h
  -- the run where the clock reads 0 and no stop is signalled
  have h' : _ ∨ _ := h none 0 none none 0 0 none 0
  revert h'
  decide

end LoadScenario
