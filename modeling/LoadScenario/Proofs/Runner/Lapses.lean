import LoadScenario.Proofs.Runner.Bounds

/-!
# Which `exitAsap` loop the checkpoint ends

Before every action inside a block, the checkpoint asks whether an `exitAsap`
loop of the scope must end: whether its guard no longer holds, because the time
since the loop started reached its limit, its condition is false, or one of
the two could not be resolved. The check walks the scope from the outermost
frame inwards and stops at the first frame that must end.

`LoopGuard.Fails` says what a check of a guard that does not hold found, with
the error when it found one, in terms of the guard's limit and condition
(`holds_eq_failure_iff`); `Frame.Lapses` says when a frame must end. Then:

* the check is the recursion towards the root: a scope with a new innermost
  frame ends whatever the rest of the scope ends, and only otherwise looks at
  the new frame (`Scope.lapsed?_cons`);
* it ends the outermost frame that must end, with that frame's error
  (`Scope.lapsed?_eq_some_iff`), and nothing when no frame must
  (`Scope.lapsed?_eq_none_iff`);
* the frames inside that one are never looked at, so a broken guard inside an
  ended loop cannot fail the session (`Scope.lapsed?_append_of_isSome`);
* frames that are not `exitAsap` loops are passed over
  (`Scope.lapsed?_of_not_exitAsap`), and a do-while loop whose counter is at
  its first pass is judged by its limit alone (`Frame.lapsed?_doWhile_first`).
-/

namespace LoadScenario

namespace LoopGuard

variable {g : LoopGuard} {started now : Nat} {s : Session} {check : Bool}

/-- The time since a loop started is below the guard's limit, if it has one,
and the limit resolves. -/
def WithinLimit (g : LoopGuard) (started now : Nat) (s : Session) : Prop :=
  ∀ src, g.limit? = some src → ∃ d : Duration, src.resolve s = .ok d ∧ now - started < d.nanos

/-- What a check of a guard that does not hold found, at time `now` for a loop
started at `started`: `none` when the time since the start reached the limit or
the condition is false, `some e` when the limit or the condition could not be
resolved. The limit is looked at first, and the condition only when it is
checked and the limit has not passed. -/
inductive Fails (g : LoopGuard) (started now : Nat) (s : Session) (check : Bool) :
    Option EvalError → Prop
  | limitUnresolved {src : Source Duration} {e : EvalError} (hl : g.limit? = some src)
      (he : src.resolve s = .error e) : Fails g started now s check (some e)
  | expired {src : Source Duration} {d : Duration} (hl : g.limit? = some src)
      (hd : src.resolve s = .ok d) (hle : d.nanos ≤ now - started) : Fails g started now s check none
  | conditionFalse {cond : Source Bool} (hw : g.WithinLimit started now s) (hc : check = true)
      (hcond : g.condition? = some cond) (hr : cond.resolve s = .ok false) :
      Fails g started now s check none
  | conditionUnresolved {cond : Source Bool} {e : EvalError} (hw : g.WithinLimit started now s)
      (hc : check = true) (hcond : g.condition? = some cond) (hr : cond.resolve s = .error e) :
      Fails g started now s check (some e)

/-- The answer of a check that found the guard failing: `false`, or the error. -/
def failure : Option EvalError → Except EvalError Bool
  | none => .ok false
  | some e => .error e

/-- The check of an optional condition fails exactly when the condition is
checked and resolves to `false` or to an error. -/
theorem holds_condition_eq_failure_iff {c : Option (Source Bool)} {r : Option EvalError} :
    holds.condition s check c = failure r ↔
      check = true ∧ ∃ cond, c = some cond ∧ cond.resolve s = failure r := by
  cases c with
  | none => cases r <;> simp [holds.condition, failure]
  | some cond => cases check <;> cases r <;> simp [holds.condition, failure]

/-- A guard's limit lets the loop go on, could not be resolved, or has passed. -/
theorem withinLimit_or (g : LoopGuard) (started now : Nat) (s : Session) :
    g.WithinLimit started now s ∨
      (∃ src e, g.limit? = some src ∧ src.resolve s = .error e) ∨
      ∃ src d, g.limit? = some src ∧ src.resolve s = .ok d ∧ d.nanos ≤ now - started := by
  cases hlim : g.limit? with
  | none => exact .inl fun src h => by rw [hlim] at h; cases h
  | some src =>
    cases hres : src.resolve s with
    | error e => exact .inr (.inl ⟨src, e, rfl, hres⟩)
    | ok d =>
      by_cases hle : d.nanos ≤ now - started
      · exact .inr (.inr ⟨src, d, rfl, hres, hle⟩)
      · refine .inl fun src' h => ?_
        rw [hlim] at h
        cases h
        exact ⟨d, hres, Nat.lt_of_not_le hle⟩

/-- Within the limit, the check of a limit and a condition is the check of the condition. -/
theorem within_of_withinLimit (hw : g.WithinLimit started now s) (c : Option (Source Bool)) :
    holds.within started now s check c g.limit? = holds.condition s check c := by
  cases hlim : g.limit? with
  | none => rfl
  | some src =>
    obtain ⟨d, hd, hlt⟩ := hw src hlim
    simp [holds.within, hd, Nat.not_le.mpr hlt]

/-- Every way `Fails` lists is the answer of the check of the guard's limit and condition. -/
theorem Fails.within {r : Option EvalError} (h : g.Fails started now s check r) :
    holds.within started now s check g.condition? g.limit? = failure r := by
  cases h with
  | limitUnresolved hl he => simp [holds.within, hl, he, failure]
  | expired hl hd hle => simp [holds.within, hl, hd, hle, failure]
  | conditionFalse hw hc hcond hr =>
    rw [within_of_withinLimit hw, holds_condition_eq_failure_iff]
    exact ⟨hc, _, hcond, hr⟩
  | conditionUnresolved hw hc hcond hr =>
    rw [within_of_withinLimit hw, holds_condition_eq_failure_iff]
    exact ⟨hc, _, hcond, hr⟩

/-- A failing check of the guard's limit and condition failed in a way `Fails` lists. -/
theorem fails_of_within {r : Option EvalError}
    (h : holds.within started now s check g.condition? g.limit? = failure r) :
    g.Fails started now s check r := by
  rcases withinLimit_or g started now s with hw | ⟨src, e, hlim, he⟩ | ⟨src, d, hlim, hd, hle⟩
  · -- the limit lets the loop on: the condition failed
    rw [within_of_withinLimit hw, holds_condition_eq_failure_iff] at h
    obtain ⟨hcheck, cond, hcond, hr⟩ := h
    cases r with
    | none => exact .conditionFalse hw hcheck hcond hr
    | some e => exact .conditionUnresolved hw hcheck hcond hr
  · simp only [holds.within, hlim, he] at h
    cases r with
    | none => cases h
    | some e' =>
      cases h
      exact .limitUnresolved hlim he
  · simp only [holds.within, hlim, hd, hle, if_true] at h
    cases r with
    | none => exact .expired hlim hd hle
    | some e => cases h

/-- The check of a guard answers `false` or an error exactly as `Fails` says;
guards with neither a limit nor a condition never fail. -/
theorem holds_eq_failure_iff (g : LoopGuard) {r : Option EvalError} :
    g.holds started now s check = failure r ↔ g.Fails started now s check r := by
  cases g with
  | asLongAs c l => exact ⟨fails_of_within (g := .asLongAs c l), Fails.within⟩
  | doWhile c l => exact ⟨fails_of_within (g := .doWhile c l), Fails.within⟩
  | times | foreach | forever =>
    constructor
    · intro h
      cases r <;> cases h
    · intro h
      cases h <;> simp_all [limit?, condition?]

/-- During a do-while's first pass its condition is not checked: the check is
that of a guard with the same limit and no condition. -/
theorem holds_doWhile_unchecked (cond : Source Bool) (l : Option (Source Duration)) :
    (doWhile cond l).holds started now s false = (asLongAs none l).holds started now s true := by
  cases l with
  | none => rfl
  | some src =>
    cases hres : src.resolve s with
    | error e => simp [holds, holds.within, hres]
    | ok d => simp [holds, holds.within, holds.condition, hres]

end LoopGuard

/-! ## Frames that must end -/

/-- A frame must end at `now`: it is an `exitAsap` loop whose guard fails, the
condition left unchecked while a do-while's counter is at its first pass. -/
def Frame.Lapses (now : Nat) (s : Session) (f : Frame) (e : Option EvalError) : Prop :=
  ∃ g c started, f.kind = .loop g c true started ∧
    g.Fails started now s (!(g.isDoWhile && s.iterationOf c == 0)) e

namespace Frame

variable {now : Nat} {s : Session}

/-- An `exitAsap` loop frame answers what the check of its guard answers. -/
theorem lapsed?_exitAsap (id : Nat) (g : LoopGuard) (c : String) (started : Nat) :
    (⟨id, .loop g c true started⟩ : Frame).lapsed? now s =
      match g.holds started now s (!(g.isDoWhile && s.iterationOf c == 0)) with
      | .ok true => none
      | .ok false => some none
      | .error e => some (some e) := by
  cases g <;> rfl

/-- A frame's check answers with an error, or with none, exactly when the frame
must end with it. -/
theorem lapsed?_eq_some_iff (f : Frame) {e : Option EvalError} :
    f.lapsed? now s = some e ↔ f.Lapses now s e := by
  rcases f with ⟨id, k⟩
  cases k with
  | loop g c exitAsap started =>
    cases exitAsap with
    | false => simp [lapsed?, Lapses]
    | true =>
      have hl : Lapses now s ⟨id, .loop g c true started⟩ e ↔
          g.Fails started now s (!(g.isDoWhile && s.iterationOf c == 0)) e := by
        constructor
        · rintro ⟨g', c', started', hk, hf⟩
          cases hk
          exact hf
        · exact fun hf => ⟨g, c, started, rfl, hf⟩
      rw [lapsed?_exitAsap, hl, ← LoopGuard.holds_eq_failure_iff]
      generalize g.holds started now s _ = r
      rcases r with e' | _ | _ <;> cases e <;> simp [LoopGuard.failure]
  | retry => simp [lapsed?, Lapses]
  | exitOnFail => simp [lapsed?, Lapses]

/-- A frame's check answers nothing exactly when the frame need not end. -/
theorem lapsed?_eq_none_iff (f : Frame) : f.lapsed? now s = none ↔ ∀ e, ¬ f.Lapses now s e := by
  simp [Option.eq_none_iff_forall_ne_some, ← lapsed?_eq_some_iff]

/-- A frame that is not an `exitAsap` loop never ends at a checkpoint. -/
theorem lapsed?_of_not_exitAsap {f : Frame} (hf : ¬ f.kind.IsExitAsapLoop) : f.lapsed? now s = none :=
  Option.not_isSome_iff_eq_none.mp fun h => hf (Scope.isExitAsapLoop_of_lapsed? h)

/-- A do-while loop whose counter is at its first pass is judged by its limit
alone, as a loop with that limit and no condition. -/
theorem lapsed?_doWhile_first {id started : Nat} {cond : Source Bool} {l : Option (Source Duration)}
    {c : String} (hc : s.iterationOf c = 0) :
    (⟨id, .loop (.doWhile cond l) c true started⟩ : Frame).lapsed? now s =
      (⟨id, .loop (.asLongAs none l) c true started⟩ : Frame).lapsed? now s := by
  rw [lapsed?_exitAsap, lapsed?_exitAsap, hc]
  simp only [LoopGuard.isDoWhile, Bool.true_and, Bool.false_and, beq_self_eq_true,
    Bool.not_true, Bool.not_false, LoopGuard.holds_doWhile_unchecked]

end Frame

/-! ## The outermost frame that must end -/

namespace Scope

variable {now : Nat} {s : Session}

/-- The scan from the outermost frame answers for the first list if it can. -/
theorem lapsed?_outermost_append (xs ys : List Frame) :
    lapsed?.outermost now s (xs ++ ys) =
      (lapsed?.outermost now s xs).or (lapsed?.outermost now s ys) := by
  induction xs with
  | nil => rfl
  | cons f rest ih => cases h : f.lapsed? now s <;> simp [lapsed?.outermost, h, ih]

/-- The check is a recursion towards the root: a scope with a new innermost
frame ends what the rest of the scope ends, and only otherwise the new frame,
if it must end. -/
theorem lapsed?_cons (f : Frame) (sc : Scope) :
    lapsed? now s (f :: sc) = (lapsed? now s sc).or ((f.lapsed? now s).map (f.id, ·)) := by
  rw [lapsed?, List.reverse_cons, lapsed?_outermost_append]
  cases h : f.lapsed? now s <;> simp [lapsed?, lapsed?.outermost, h]

/-- Outer frames are checked before inner ones. -/
theorem lapsed?_append (inner outer : Scope) :
    lapsed? now s (inner ++ outer) = (lapsed? now s outer).or (lapsed? now s inner) := by
  simp only [lapsed?, List.reverse_append, lapsed?_outermost_append]

/-- No frame is ended exactly when no frame must end. -/
theorem lapsed?_eq_none_iff {sc : Scope} :
    lapsed? now s sc = none ↔ ∀ f ∈ sc, ∀ e, ¬ f.Lapses now s e := by
  induction sc with
  | nil => simp [lapsed?, lapsed?.outermost]
  | cons f sc ih =>
    rw [lapsed?_cons, Option.or_eq_none_iff, ih, Option.map_eq_none_iff, Frame.lapsed?_eq_none_iff]
    simp only [List.mem_cons, forall_eq_or_imp]
    exact and_comm

/-- The frame ended, with the error it ends with, is the outermost frame that must end. -/
theorem lapsed?_eq_some_iff {sc : Scope} {id : Nat} {e : Option EvalError} :
    lapsed? now s sc = some (id, e) ↔
      ∃ inner f outer, sc = inner ++ f :: outer ∧ f.id = id ∧ f.Lapses now s e ∧
        ∀ f' ∈ outer, ∀ e', ¬ f'.Lapses now s e' := by
  induction sc with
  | nil => simp [lapsed?, lapsed?.outermost]
  | cons f sc ih =>
    rw [lapsed?_cons]
    cases hsc : lapsed? now s sc with
    | some r =>
      -- an ancestor must end: it is the answer, and `f` lies inside it
      rw [Option.some_or, ← hsc, ih]
      constructor
      · rintro ⟨inner, f', outer, rfl, hid, hl, hout⟩
        exact ⟨f :: inner, f', outer, rfl, hid, hl, hout⟩
      · rintro ⟨_ | ⟨g, inner⟩, f', outer, heq, hid, hl, hout⟩
        · obtain ⟨rfl, rfl⟩ := List.cons.inj heq
          rw [lapsed?_eq_none_iff.mpr hout] at hsc
          cases hsc
        · obtain ⟨rfl, rfl⟩ := List.cons.inj heq
          exact ⟨inner, f', outer, rfl, hid, hl, hout⟩
    | none =>
      -- no ancestor must end: the answer is `f`, if it must end
      rw [Option.none_or, Option.map_eq_some_iff]
      constructor
      · rintro ⟨e', hl, heq⟩
        cases heq
        exact ⟨[], f, sc, rfl, rfl, (Frame.lapsed?_eq_some_iff f).mp hl, lapsed?_eq_none_iff.mp hsc⟩
      · rintro ⟨_ | ⟨g, inner⟩, f', outer, heq, rfl, hl, hout⟩
        · obtain ⟨rfl, rfl⟩ := List.cons.inj heq
          exact ⟨e, (Frame.lapsed?_eq_some_iff f).mpr hl, rfl⟩
        · obtain ⟨rfl, rfl⟩ := List.cons.inj heq
          rw [ih.mpr ⟨inner, f', outer, rfl, rfl, hl, hout⟩] at hsc
          cases hsc

/-- Once an outer frame must end, the frames inside it are never looked at. -/
theorem lapsed?_append_of_isSome {outer : Scope} (h : (lapsed? now s outer).isSome)
    (inner : Scope) : lapsed? now s (inner ++ outer) = lapsed? now s outer := by
  obtain ⟨r, hr⟩ := Option.isSome_iff_exists.mp h
  rw [lapsed?_append, hr, Option.some_or]

/-- A frame that is not an `exitAsap` loop is passed over. -/
theorem lapsed?_of_not_exitAsap {f : Frame} (hf : ¬ f.kind.IsExitAsapLoop) (inner outer : Scope) :
    lapsed? now s (inner ++ f :: outer) = lapsed? now s (inner ++ outer) := by
  rw [lapsed?_append, lapsed?_cons, lapsed?_append, Frame.lapsed?_of_not_exitAsap hf,
    Option.map_none, Option.or_none]

end Scope

/-! ## The lapse check -/

/-- The checkpoint ends the outermost `exitAsap` loop whose guard no longer
holds, with the error the guard gave if it gave one, and no frame when none
must end. The frames inside that loop are never looked at, frames that are not
`exitAsap` loops are passed over, and a do-while loop at its first pass is
judged by its limit alone. -/
theorem outermost_lapsed_loop_ends (now : Nat) (s : Session) :
    (∀ (sc : Scope) (id : Nat) (e : Option EvalError), sc.lapsed? now s = some (id, e) ↔
      ∃ inner f outer, sc = inner ++ f :: outer ∧ f.id = id ∧ f.Lapses now s e ∧
        ∀ f' ∈ outer, ∀ e', ¬ f'.Lapses now s e') ∧
    (∀ sc : Scope, sc.lapsed? now s = none ↔ ∀ f ∈ sc, ∀ e, ¬ f.Lapses now s e) ∧
    (∀ inner outer : Scope, (outer.lapsed? now s).isSome →
      Scope.lapsed? now s (inner ++ outer) = outer.lapsed? now s) ∧
    (∀ (inner outer : Scope) (f : Frame), ¬ f.kind.IsExitAsapLoop →
      Scope.lapsed? now s (inner ++ f :: outer) = Scope.lapsed? now s (inner ++ outer)) ∧
    (∀ (id started : Nat) (cond : Source Bool) (l : Option (Source Duration)) (c : String),
      s.iterationOf c = 0 →
        (⟨id, .loop (.doWhile cond l) c true started⟩ : Frame).lapsed? now s =
          (⟨id, .loop (.asLongAs none l) c true started⟩ : Frame).lapsed? now s) :=
  ⟨fun _ _ _ => Scope.lapsed?_eq_some_iff, fun _ => Scope.lapsed?_eq_none_iff,
    fun inner _ h => Scope.lapsed?_append_of_isSome h inner,
    fun inner outer _ hf => Scope.lapsed?_of_not_exitAsap hf inner outer,
    fun _ _ _ _ _ hc => Frame.lapsed?_doWhile_first hc⟩

/-- A loop whose limit of 5 ns has passed at time 10 is ended without a look at
the loop inside it, whose condition names an attribute the session lacks: the
checkpoint ends the outer loop and reports no error. -/
theorem expired_loop_hides_broken_inner_guard :
    (Scope.lapsed? 10 (Session.new "user" 0)
        [⟨0, .loop (.asLongAs none (some (.const ⟨5⟩))) "outer" true 0⟩]).isSome ∧
      Scope.lapsed? 10 (Session.new "user" 0)
        [⟨1, .loop (.asLongAs (some (.expr "#{go}")) none) "inner" true 0⟩,
         ⟨0, .loop (.asLongAs none (some (.const ⟨5⟩))) "outer" true 0⟩] = some (0, none) := by
  have houter : Scope.lapsed? 10 (Session.new "user" 0)
      [⟨0, .loop (.asLongAs none (some (.const ⟨5⟩))) "outer" true 0⟩] = some (0, none) := rfl
  refine ⟨by rw [houter]; rfl, ?_⟩
  rw [← houter]
  exact (outermost_lapsed_loop_ends 10 _).2.2.1 [_] _ (by rw [houter]; rfl)

end LoadScenario
