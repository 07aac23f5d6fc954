import LoadScenario.Proofs.Expression.Comparisons
import LoadScenario.Runner.Run

/-!
# Equality by value

`Value.equal` is the equality of conditions, switches and comparison
expressions. Two numbers are compared by value: within `floatEpsilon` when
either is a double, else as signed 64-bit integers when both are in that
range, else as unsigned ones. Any other two values are compared structurally
by `Value.same`, numbers inside them by kind and value.

The integer cascade compares the integers the numbers denote
(`Number.equal_of_integers`): two integers are equal exactly when they are the
same integer, however each is held. Lean's doubles are opaque, so what IEEE
arithmetic gives at a finite double is a hypothesis (`FiniteDouble`) about the
doubles the compared values hold; from it the equality is reflexive and
symmetric. A value without doubles is structurally equal to another exactly
when the two are the same value (`Value.same_iff_eq`).
-/

namespace LoadScenario

/-- What IEEE arithmetic gives at a finite double `x`: `x - x` is zero, so
below `floatEpsilon` in size, and `==` and the size of a difference do not
depend on the order of the operands.
Lean's doubles are opaque, so this is assumed of the doubles that values hold. -/
structure FiniteDouble (x : Float) : Prop where
  beq_self : (x == x) = true
  sub_self : (x - x).abs < floatEpsilon
  beq_comm (y : Float) : (x == y) = (y == x)
  abs_sub_comm (y : Float) : (x - y).abs = (y - x).abs

/-! ## Numbers -/

namespace Number

/-- Away from doubles the cascade compares the integers the numbers denote. -/
theorem equal_of_integers {a b : Number} (ha : a.isFloat = false) (hb : b.isFloat = false) :
    a.equal b = (a.intValue? == b.intValue?) := by
  cases a with
  | float => cases ha
  | nat m =>
    cases b with
    | float => cases hb
    | nat n =>
      by_cases hm : m.toNat < Nat.pow 2 63 <;> by_cases hn : n.toNat < Nat.pow 2 63 <;>
        simp [equal, isFloat, toInt?, toNat?, intValue?, hm, hn]
    | neg n =>
      by_cases hm : m.toNat < Nat.pow 2 63
      · simp [equal, isFloat, toInt?, intValue?, hm]
      · have hlt := Int64.toInt_lt n
        have hne : (m.toNat : Int) ≠ n.toInt := by simp at hm; omega
        simp [equal, isFloat, toInt?, toNat?, intValue?, hm, hne]
  | neg m =>
    cases b with
    | float => cases hb
    | nat n =>
      by_cases hn : n.toNat < Nat.pow 2 63
      · simp [equal, isFloat, toInt?, intValue?, hn]
      · have hlt := Int64.toInt_lt m
        have hne : m.toInt ≠ (n.toNat : Int) := by simp at hn; omega
        simp [equal, isFloat, toInt?, toNat?, intValue?, hn, hne]
    | neg n => simp [equal, isFloat, toInt?, intValue?]

/-- Two integers are equal exactly when they denote the same integer. -/
theorem equal_iff_of_intValue? {a b : Number} {i j : Int} (ha : a.intValue? = some i)
    (hb : b.intValue? = some j) : a.equal b = true ↔ i = j := by
  have hint : ∀ {c : Number} {k : Int}, c.intValue? = some k → c.isFloat = false := by
    intro c k hc
    cases c <;> simp_all [intValue?, isFloat]
  rw [equal_of_integers (hint ha) (hint hb), ha, hb]
  simp

theorem toFloat_float (x : Float) : (Number.float x).toFloat = x := rfl

/-- With a double on either side, numbers are compared within `floatEpsilon`. -/
theorem equal_of_isFloat {a b : Number} (h : (a.isFloat || b.isFloat) = true) :
    a.equal b = decide ((a.toFloat - b.toFloat).abs < floatEpsilon) := by
  simp [equal, h]

/-- A number is equal to itself when it is no double or a finite one. -/
theorem equal_self (a : Number) (ha : ∀ x, a = .float x → FiniteDouble x) : a.equal a = true := by
  cases a with
  | float x =>
    rw [equal_of_isFloat rfl, toFloat_float]
    exact decide_eq_true (ha x rfl).sub_self
  | nat n => simp [@equal_of_integers (.nat n) (.nat n) rfl rfl]
  | neg n => simp [@equal_of_integers (.neg n) (.neg n) rfl rfl]

/-- Number equality does not depend on the order of the operands when their
doubles are finite. -/
theorem equal_comm (a b : Number) (ha : ∀ x, a = .float x → FiniteDouble x)
    (hb : ∀ y, b = .float y → FiniteDouble y) : a.equal b = b.equal a := by
  by_cases hfloat : (a.isFloat || b.isFloat) = true
  · -- the law of whichever operand is a double turns the difference around
    have hsub : (a.toFloat - b.toFloat).abs = (b.toFloat - a.toFloat).abs := by
      cases a with
      | float x => exact (ha x rfl).abs_sub_comm _
      | _ =>
        cases b with
        | float y => exact ((hb y rfl).abs_sub_comm _).symm
        | _ => simp [isFloat] at hfloat
    rw [equal_of_isFloat hfloat, equal_of_isFloat (by rwa [Bool.or_comm]), hsub]
  · simp only [Bool.or_eq_true, not_or, Bool.not_eq_true] at hfloat
    rw [equal_of_integers hfloat.1 hfloat.2, equal_of_integers hfloat.2 hfloat.1, Bool.beq_comm]

/-- Equality of representations does not depend on the order of the operands
when `==` does not at the first one's double. -/
theorem same_comm (a b : Number) (ha : ∀ x, a = .float x → ∀ y, (x == y) = (y == x)) :
    a.same b = b.same a := by
  cases a <;> cases b <;> simp [same, Bool.beq_comm]
  exact ha _ rfl _

end Number

/-! ## The doubles a value holds -/

namespace Value

/-- The doubles a value holds, at any depth. -/
def floats : Value → List Float
  | .number (.float x) => [x]
  | .array items => floatsList items
  | .object fields => floatsFields fields
  | _ => []
where
  /-- The doubles of the members of a list. -/
  floatsList : List Value → List Float
    | [] => []
    | v :: vs => floats v ++ floatsList vs
  /-- The doubles of the values of fields. -/
  floatsFields : List (String × Value) → List Float
    | [] => []
    | (_, v) :: fs => floats v ++ floatsFields fs

/-! ## Structural equality -/

mutual

/-- A value is structurally equal to itself when each of its doubles is equal to itself. -/
theorem same_self : ∀ v : Value, (∀ x ∈ v.floats, (x == x) = true) → v.same v = true
  | .null, _ => rfl
  | .bool b, _ => by simp [same]
  | .number (.nat n), _ => by simp [same, Number.same]
  | .number (.neg n), _ => by simp [same, Number.same]
  | .number (.float x), h => by simpa [same, Number.same] using h x (by simp [floats])
  | .string t, _ => by simp [same]
  | .array xs, h => by simpa [same] using sameList_self xs h
  | .object fs, h => by simpa [same] using sameFields_self fs h

theorem sameList_self : ∀ xs : List Value, (∀ x ∈ floats.floatsList xs, (x == x) = true) →
    same.sameList xs xs = true
  | [], _ => rfl
  | v :: vs, h => by
    simp only [floats.floatsList, List.mem_append] at h
    simp only [same.sameList, Bool.and_eq_true]
    exact ⟨same_self v fun x hx => h x (.inl hx), sameList_self vs fun x hx => h x (.inr hx)⟩

theorem sameFields_self : ∀ fs : List (String × Value),
    (∀ x ∈ floats.floatsFields fs, (x == x) = true) → same.sameFields fs fs = true
  | [], _ => rfl
  | (k, v) :: fs, h => by
    simp only [floats.floatsFields, List.mem_append] at h
    simp only [same.sameFields, Bool.and_eq_true, beq_self_eq_true, true_and]
    exact ⟨same_self v fun x hx => h x (.inl hx), sameFields_self fs fun x hx => h x (.inr hx)⟩

end

mutual

/-- Structural equality does not depend on the order of its operands when `==`
does not at the doubles of the first. -/
theorem same_comm : ∀ u v : Value, (∀ x ∈ u.floats, ∀ y, (x == y) = (y == x)) →
    u.same v = v.same u
  | .null, v, _ => by cases v <;> simp [same]
  | .bool a, v, _ => by cases v <;> simp [same, Bool.beq_comm]
  | .string a, v, _ => by cases v <;> simp [same, Bool.beq_comm]
  | .number a, v, h => by
    cases v with
    | number b =>
      simp only [same]
      exact Number.same_comm a b fun x hx => by subst hx; exact h x (by simp [floats])
    | _ => simp [same]
  | .array xs, v, h => by
    cases v with
    | array ys => simpa [same] using sameList_comm xs ys h
    | _ => simp [same]
  | .object xs, v, h => by
    cases v with
    | object ys => simpa [same] using sameFields_comm xs ys h
    | _ => simp [same]

theorem sameList_comm : ∀ xs ys : List Value,
    (∀ x ∈ floats.floatsList xs, ∀ y, (x == y) = (y == x)) → same.sameList xs ys = same.sameList ys xs
  | [], ys, _ => by cases ys <;> simp [same.sameList]
  | _ :: _, [], _ => by simp [same.sameList]
  | u :: us, v :: vs, h => by
    simp only [floats.floatsList, List.mem_append] at h
    simp only [same.sameList]
    rw [same_comm u v fun x hx => h x (.inl hx), sameList_comm us vs fun x hx => h x (.inr hx)]

theorem sameFields_comm : ∀ xs ys : List (String × Value),
    (∀ x ∈ floats.floatsFields xs, ∀ y, (x == y) = (y == x)) →
      same.sameFields xs ys = same.sameFields ys xs
  | [], ys, _ => by cases ys <;> simp [same.sameFields]
  | _ :: _, [], _ => by simp [same.sameFields]
  | (k, u) :: us, (l, v) :: vs, h => by
    simp only [floats.floatsFields, List.mem_append] at h
    simp only [same.sameFields]
    rw [same_comm u v fun x hx => h x (.inl hx), sameFields_comm us vs fun x hx => h x (.inr hx),
      Bool.beq_comm]

end

mutual

/-- A value without doubles is structurally equal to another exactly when the
two are the same value. -/
theorem same_iff_eq : ∀ u v : Value, u.floats = [] → (u.same v = true ↔ u = v)
  | .null, v, _ => by cases v <;> simp [same]
  | .bool a, v, _ => by cases v <;> simp [same]
  | .string a, v, _ => by cases v <;> simp [same]
  | .number a, v, h => by
    cases v with
    | number b =>
      cases a <;> cases b <;> simp_all [same, Number.same, floats]
    | _ => simp [same]
  | .array xs, v, h => by
    cases v with
    | array ys => simpa [same] using sameList_iff_eq xs ys h
    | _ => simp [same]
  | .object xs, v, h => by
    cases v with
    | object ys => simpa [same] using sameFields_iff_eq xs ys h
    | _ => simp [same]

theorem sameList_iff_eq : ∀ xs ys : List Value, floats.floatsList xs = [] →
    (same.sameList xs ys = true ↔ xs = ys)
  | [], ys, _ => by cases ys <;> simp [same.sameList]
  | _ :: _, [], _ => by simp [same.sameList]
  | u :: us, v :: vs, h => by
    simp only [floats.floatsList, List.append_eq_nil_iff] at h
    simp only [same.sameList, Bool.and_eq_true, List.cons.injEq]
    rw [same_iff_eq u v h.1, sameList_iff_eq us vs h.2]

theorem sameFields_iff_eq : ∀ xs ys : List (String × Value), floats.floatsFields xs = [] →
    (same.sameFields xs ys = true ↔ xs = ys)
  | [], ys, _ => by cases ys <;> simp [same.sameFields]
  | _ :: _, [], _ => by simp [same.sameFields]
  | (k, u) :: us, (l, v) :: vs, h => by
    simp only [floats.floatsFields, List.append_eq_nil_iff] at h
    simp only [same.sameFields, Bool.and_eq_true, List.cons.injEq, Prod.mk.injEq, beq_iff_eq]
    rw [same_iff_eq u v h.1, sameFields_iff_eq us vs h.2, and_assoc]

end

/-! ## Equality by value -/

section

variable {u v : Value}

/-- Values that are not both numbers are compared structurally. -/
theorem equal_of_not_numbers (h : ∀ a b, u = .number a → v = .number b → False) :
    u.equal v = u.same v := by
  unfold Value.equal
  split
  · next a b => exact absurd (h a b rfl rfl) id
  · rfl

theorem floats_number_float {a : Number} {x : Float} (h : a = .float x) :
    x ∈ (Value.number a).floats := by
  subst h; simp [floats]

/-- Equality is reflexive at a value whose doubles are finite. -/
theorem equal_self (hv : ∀ x ∈ v.floats, FiniteDouble x) : v.equal v = true := by
  cases v with
  | number a => exact Number.equal_self a fun x hx => hv x (floats_number_float hx)
  | _ =>
    rw [equal_of_not_numbers (by simp)]
    exact same_self _ fun x hx => (hv x hx).beq_self

/-- Equality is symmetric at values whose doubles are finite. -/
theorem equal_comm (hu : ∀ x ∈ u.floats, FiniteDouble x) (hv : ∀ x ∈ v.floats, FiniteDouble x) :
    u.equal v = v.equal u := by
  by_cases hnum : ∃ a b, u = .number a ∧ v = .number b
  · obtain ⟨a, b, rfl, rfl⟩ := hnum
    exact Number.equal_comm a b (fun x hx => hu x (floats_number_float hx))
      fun y hy => hv y (floats_number_float hy)
  · have hnot : ∀ a b, u = .number a → v = .number b → False :=
      fun a b ha hb => hnum ⟨a, b, ha, hb⟩
    rw [equal_of_not_numbers hnot, equal_of_not_numbers fun b a hb ha => hnot a b ha hb]
    exact same_comm u v fun x hx => (hu x hx).beq_comm

/-- Two integers are equal exactly when they denote the same integer. -/
theorem equal_numbers_iff {a b : Number} {i j : Int} (ha : a.intValue? = some i)
    (hb : b.intValue? = some j) : (Value.number a).equal (.number b) = true ↔ i = j :=
  Number.equal_iff_of_intValue? ha hb

end

end Value

/-! ## Where values are compared -/

/-- An equality condition holds exactly when its two sides resolve to equal values. -/
theorem Condition.holds_equals {s : Session} {actual expected : Source Value} {u v : Value}
    (hu : actual.resolve s = .ok u) (hv : expected.resolve s = .ok v) :
    (Condition.equals actual expected).holds s = .ok (u.equal v) := by
  simp [Condition.holds, hu, hv, bind, Except.bind, pure, Except.pure]

/-- The choices before the first one equal to the key are passed over. -/
theorem find?_first_equal {k c : Value} {ch : Chain} {pre post : List (Value × Chain)}
    (hpre : ∀ p ∈ pre, k.equal p.1 = false) (hc : k.equal c = true) :
    (pre ++ (c, ch) :: post).find? (fun p => Value.equal k p.1) = some (c, ch) := by
  rw [List.find?_append, List.find?_eq_none.mpr fun p hp => by simp [hpre p hp], Option.none_or]
  exact List.find?_cons_of_pos hc

namespace Runner

variable {n : Nat} {s : Session} {sc : Scope} {key : Source Value} {k : Value} {e : Option Chain}

/-- A switch runs the chain of the first choice equal to its key. -/
theorem runAction_switch_first_equal {c : Value} {ch : Chain} {pre post : List (Value × Chain)}
    (hk : key.resolve s = .ok k) (hpre : ∀ p ∈ pre, k.equal p.1 = false) (hc : k.equal c = true) :
    runAction (n + 1) (.switch key (pre ++ (c, ch) :: post) e) s sc = runChain n ch s sc := by
  simp only [runAction, hk, find?_first_equal hpre hc, Option.map_some, Option.some_or]

/-- A switch with no choice equal to its key runs its else chain, or goes on. -/
theorem runAction_switch_none_equal {cs : List (Value × Chain)} (hk : key.resolve s = .ok k)
    (hnone : ∀ p ∈ cs, k.equal p.1 = false) :
    runAction (n + 1) (.switch key cs e) s sc = e.elim (pure (.next s)) (runChain n · s sc) := by
  have hfind : cs.find? (fun p => Value.equal k p.1) = none :=
    List.find?_eq_none.mpr fun p hp => by simp [hnone p hp]
  cases e <;> simp [runAction, hk, hfind]

end Runner

/-- A comparison expression with no operator after its cut compares the
operands its two sides render to. -/
theorem evaluate_compares_operands {s : Session} {expr l r : String} {negate : Bool} {x y : Value}
    (hcut : Cut expr.toList l.toList r.toList negate) (hr : ¬ HasComparison r.toList)
    (hx : template s l = .ok x) (hy : template s r = .ok y) :
    evaluate s expr = .ok (.bool ((operand x).equal (operand y) != negate)) := by
  rw [evaluate_at_cut s hcut, if_neg hr]
  cases negate <;> simp [compareSides, hx, hy]

/-- Equality by value. At values whose doubles are finite it is reflexive and
symmetric. Two integers are equal exactly when they are the same integer,
however each is held, so integers beyond the doubles' precision are never
confused and a negative integer never equals one above the signed range.
Values that are not both numbers are compared structurally, which for a value
without doubles is equality of values. Equality conditions, switches and
comparison expressions all decide by it: a switch runs the chain of the first
choice equal to its key, and its else chain when there is none. -/
theorem equality_by_value (u v : Value)
    (hu : ∀ x ∈ u.floats, FiniteDouble x) (hv : ∀ x ∈ v.floats, FiniteDouble x) :
    u.equal u = true ∧ u.equal v = v.equal u ∧
    (∀ a b i j, u = .number a → v = .number b → a.intValue? = some i → b.intValue? = some j →
      (u.equal v = true ↔ i = j)) ∧
    ((∀ a b, u = .number a → v = .number b → False) → u.equal v = u.same v) ∧
    (u.floats = [] → (u.same v = true ↔ u = v)) ∧
    (∀ (s : Session) (actual expected : Source Value), actual.resolve s = .ok u →
      expected.resolve s = .ok v → (Condition.equals actual expected).holds s = .ok (u.equal v)) ∧
    (∀ (n : Nat) (s : Session) (sc : Scope) (key : Source Value) (pre post : List (Value × Chain))
      (ch : Chain) (e : Option Chain), key.resolve s = .ok u → (∀ p ∈ pre, u.equal p.1 = false) →
      u.equal v = true →
      Runner.runAction (n + 1) (.switch key (pre ++ (v, ch) :: post) e) s sc = Runner.runChain n ch s sc) ∧
    (∀ (n : Nat) (s : Session) (sc : Scope) (key : Source Value) (cs : List (Value × Chain))
      (e : Option Chain), key.resolve s = .ok u → (∀ p ∈ cs, u.equal p.1 = false) →
      Runner.runAction (n + 1) (.switch key cs e) s sc = e.elim (pure (.next s)) (Runner.runChain n · s sc)) ∧
    (∀ (s : Session) (expr l r : String) (negate : Bool) (x y : Value),
      Cut expr.toList l.toList r.toList negate → ¬ HasComparison r.toList →
      template s l = .ok x → template s r = .ok y → operand x = u → operand y = v →
      evaluate s expr = .ok (.bool (u.equal v != negate))) := by
  refine ⟨Value.equal_self hu, Value.equal_comm hu hv, ?_, Value.equal_of_not_numbers,
    Value.same_iff_eq u v, fun _ _ _ => Condition.holds_equals,
    fun _ _ _ _ _ _ _ _ hk hpre hc => Runner.runAction_switch_first_equal hk hpre hc,
    fun _ _ _ _ _ _ hk hnone => Runner.runAction_switch_none_equal hk hnone, ?_⟩
  · rintro a b i j rfl rfl ha hb
    exact Value.equal_numbers_iff ha hb
  · rintro s expr l r negate x y hcut hr hx hy rfl rfl
    exact evaluate_compares_operands hcut hr hx hy

/-- `2^53 + 1` and `2^53`, one apart beyond the doubles' precision, are not equal. -/
theorem integers_beyond_doubles_differ :
    (∀ x ∈ (Value.ofNat 9007199254740993).floats, FiniteDouble x) ∧
      (∀ x ∈ (Value.ofNat 9007199254740992).floats, FiniteDouble x) ∧
      (Value.ofNat 9007199254740993).equal (Value.ofNat 9007199254740992) = false := by
  have hu : ∀ x ∈ (Value.ofNat 9007199254740993).floats, FiniteDouble x := by
    simp [Value.ofNat, Number.ofNat, Value.floats]
  have hv : ∀ x ∈ (Value.ofNat 9007199254740992).floats, FiniteDouble x := by
    simp [Value.ofNat, Number.ofNat, Value.floats]
  have hiff := (equality_by_value _ _ hu hv).2.2.1 _ _ 9007199254740993 9007199254740992 rfl rfl
    (by decide) (by decide)
  refine ⟨hu, hv, ?_⟩
  simpa using hiff

end LoadScenario
