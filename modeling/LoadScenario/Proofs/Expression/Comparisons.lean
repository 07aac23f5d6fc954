import LoadScenario.Proofs.Expression.Templates

/-!
# One comparison per expression

An expression is cut at its first `!=`, or, when it has none, at its first
`==`, and the two sides are templates compared as operands. `Cut` says where
the cut falls without the search that finds it, and `compareSides` what a
comparison of two templates gives. `evaluate_at_cut` is the law at a cut: the
expression is refused as a chained comparison exactly when an operator follows
the cut, and is otherwise the comparison of its two sides.

Only what follows the cut is looked at for another operator. An expression
with a single operator is therefore always compared, and a refused one always
has two (`TwoComparisons.of_cut`); but an expression whose only `!=` follows an
`==` is not refused: `1 == 1 != 1` compares the text `1 == 1` with `1`
(`equals_before_not_equals_compared`).
-/

namespace LoadScenario

/-- The two comparison operators. -/
def comparisonOperators : List (List Char) := ["==".toList, "!=".toList]

/-- Two comparison operators occur in the text without overlapping. -/
def TwoComparisons (cs : List Char) : Prop :=
  ∃ a b c o₁ o₂, o₁ ∈ comparisonOperators ∧ o₂ ∈ comparisonOperators ∧ cs = a ++ o₁ ++ b ++ o₂ ++ c

/-- Where an expression is cut: at its first `!=`, negated, or, when it has no
`!=`, at its first `==`. -/
inductive Cut (e : List Char) : List Char → List Char → Bool → Prop
  | notEqual {l r : List Char} : FirstSplit "!=".toList e l r → Cut e l r true
  | equal {l r : List Char} : ¬ "!=".toList <:+: e → FirstSplit "==".toList e l r → Cut e l r false

/-- The comparison of the templates `l` and `r`: the first error of the two
sides, else whether their operands are equal, negated for `!=`. -/
def compareSides (s : Session) (l r : String) (negate : Bool) : Except EvalError Value :=
  match template s l, template s r with
  | .error err, _ => .error err
  | .ok _, .error err => .error err
  | .ok a, .ok b =>
    .ok (.bool (if negate then !(operand a).equal (operand b) else (operand a).equal (operand b)))

/-- The comparison as the evaluator writes it is `compareSides`. -/
theorem compare_eq_compareSides (s : Session) (l r : String) (negate : Bool) :
    (do
      let a ← template s l
      let b ← template s r
      pure (Value.bool ((operand a).equal (operand b) != negate)) : Except EvalError Value) =
      compareSides s l r negate := by
  cases hl : template s l <;> cases hr : template s r <;> cases negate <;>
    simp [compareSides, hl, hr, bind, Except.bind, pure, Except.pure]

/-- A comparison of two templates is never refused as a chained comparison. -/
theorem compareSides_ne_chained (s : Session) (l r : String) (negate : Bool) (x : String) :
    compareSides s l r negate ≠ .error (.malformed x "chained comparisons are not supported") := by
  intro h
  have hreason : ∀ t, template s t ≠ .error (.malformed x "chained comparisons are not supported") :=
    fun t ht => by rcases template_malformed_reason ht with h' | h' <;> simp at h'
  unfold compareSides at h
  split at h
  · next err hl => cases h; exact hreason l hl
  · next err _ hr => cases h; exact hreason r hr
  · cases h

namespace Cut

variable {e : String} {negate : Bool}

/-- An expression with a comparison operator has a cut. -/
theorem exists_of_hasComparison (h : HasComparison e.toList) :
    ∃ l r : String, ∃ negate, Cut e.toList l.toList r.toList negate := by
  by_cases hne : "!=".toList <:+: e.toList
  · cases hs : splitOnce e "!=" with
    | none => exact absurd hne ((splitOnce_eq_none_iff _ _).mp hs)
    | some lr => exact ⟨lr.1, lr.2, true, .notEqual (splitOnce_eq_some hs)⟩
  · have heq : "==".toList <:+: e.toList := h.resolve_right hne
    cases hs : splitOnce e "==" with
    | none => exact absurd heq ((splitOnce_eq_none_iff _ _).mp hs)
    | some lr => exact ⟨lr.1, lr.2, false, .equal hne (splitOnce_eq_some hs)⟩

/-- The cut falls at an operator. -/
theorem operator_mem {e l r : List Char} (h : Cut e l r negate) :
    ∃ o ∈ comparisonOperators, e = l ++ o ++ r := by
  cases h with
  | notEqual hs => exact ⟨_, by simp [comparisonOperators], hs.1⟩
  | equal _ hs => exact ⟨_, by simp [comparisonOperators], hs.1⟩

end Cut

/-- A cut followed by another operator shows two operators that do not overlap. -/
theorem TwoComparisons.of_cut {e l r : List Char} {negate : Bool} (hcut : Cut e l r negate)
    (hr : HasComparison r) : TwoComparisons e := by
  obtain ⟨o₁, ho₁, he⟩ := Cut.operator_mem hcut
  rcases hr with ⟨a, c, hac⟩ | ⟨a, c, hac⟩
  · exact ⟨l, a, c, o₁, "==".toList, ho₁, by simp [comparisonOperators], by rw [he, ← hac]; simp⟩
  · exact ⟨l, a, c, o₁, "!=".toList, ho₁, by simp [comparisonOperators], by rw [he, ← hac]; simp⟩

/-- At a cut, an expression is refused as a chained comparison exactly when an
operator follows the cut, and is otherwise the comparison of its two sides. -/
theorem evaluate_at_cut (s : Session) {e l r : String} {negate : Bool}
    (hcut : Cut e.toList l.toList r.toList negate) :
    evaluate s e = if HasComparison r.toList
      then .error (.malformed e "chained comparisons are not supported") else compareSides s l r negate := by
  -- both cuts reach the same test of what follows the cut
  have hsplit : evaluate s e =
      if (containsText r "==" || containsText r "!=") = true
        then .error (.malformed e "chained comparisons are not supported") else compareSides s l r negate := by
    cases hcut with
    | notEqual hs => simp only [evaluate, splitOnce_of_firstSplit hs, compare_eq_compareSides]
    | equal hne hs =>
      simp only [evaluate, (splitOnce_eq_none_iff _ _).mpr hne, splitOnce_of_firstSplit hs,
        Option.map_some, compare_eq_compareSides]
  rw [hsplit]
  exact if_congr (hasComparison_iff_containsText r).symm rfl rfl

/-- An expression is cut at its first `!=`, or with none at its first `==`. It
is refused as a chained comparison exactly when another operator follows the
cut, and is otherwise the comparison of the two sides: the first error of the
two templates, else whether their operands are equal, negated for `!=`. In
particular an expression without two operators that do not overlap is always
compared. -/
theorem comparison_cut_at_first_operator (s : Session) (e l r : String) (negate : Bool)
    (hcut : Cut e.toList l.toList r.toList negate) :
    (evaluate s e = .error (.malformed e "chained comparisons are not supported") ↔
      HasComparison r.toList) ∧
    (¬ HasComparison r.toList → evaluate s e = compareSides s l r negate) ∧
    (¬ TwoComparisons e.toList → evaluate s e = compareSides s l r negate) := by
  have hat := evaluate_at_cut s hcut
  have hcompared : ¬ HasComparison r.toList → evaluate s e = compareSides s l r negate :=
    fun hc => by rw [hat, if_neg hc]
  refine ⟨⟨fun h => ?_, fun hc => by rw [hat, if_pos hc]⟩, hcompared,
    fun htwo => hcompared (fun hc => htwo (TwoComparisons.of_cut hcut hc))⟩
  by_contra hc
  rw [hcompared hc] at h
  exact compareSides_ne_chained s l r negate e h

/-- `1 != 2` is cut at its `!=` into `1 ` and ` 2`. -/
theorem not_equal_cut_compares :
    Cut "1 != 2".toList "1 ".toList " 2".toList true ∧
      ((evaluate (Session.new "test" 0) "1 != 2" =
          .error (.malformed "1 != 2" "chained comparisons are not supported") ↔
        HasComparison " 2".toList) ∧
      (¬ HasComparison " 2".toList →
        evaluate (Session.new "test" 0) "1 != 2" = compareSides (Session.new "test" 0) "1 " " 2" true) ∧
      (¬ TwoComparisons "1 != 2".toList →
        evaluate (Session.new "test" 0) "1 != 2" = compareSides (Session.new "test" 0) "1 " " 2" true)) := by
  have hcut : Cut "1 != 2".toList "1 ".toList " 2".toList true :=
    .notEqual (splitOnce_eq_some (by cbv : splitOnce "1 != 2" "!=" = some ("1 ", " 2")))
  exact ⟨hcut, comparison_cut_at_first_operator _ _ _ _ _ hcut⟩

/-- `1 == 1 != 1` holds two operators, yet it is not refused: cut at its `!=`,
it compares the text `1 == 1` with the number `1`, which differ. -/
theorem equals_before_not_equals_compared :
    TwoComparisons "1 == 1 != 1".toList ∧
      evaluate (Session.new "test" 0) "1 == 1 != 1" = .ok (.bool true) := by
  have hcut : Cut "1 == 1 != 1".toList "1 == 1 ".toList " 1".toList true :=
    .notEqual (splitOnce_eq_some (by cbv : splitOnce "1 == 1 != 1" "!=" = some ("1 == 1 ", " 1")))
  have hrest : ¬ HasComparison " 1".toList := not_hasComparison (by cbv)
  have hleft : template (Session.new "test" 0) "1 == 1 " = .ok (.string "1 == 1 ") :=
    template_of_no_hash (by simp)
  have hright : template (Session.new "test" 0) " 1" = .ok (.string " 1") :=
    template_of_no_hash (by simp)
  have hl : operand (.string "1 == 1 ") = .string "1 == 1" := by cbv
  have hr : operand (.string " 1") = .number (.nat 1) := by cbv
  refine ⟨⟨"1 ".toList, " 1 ".toList, " 1".toList, "==".toList, "!=".toList,
    by simp [comparisonOperators], by simp [comparisonOperators], by simp⟩, ?_⟩
  rw [evaluate_at_cut _ hcut, if_neg hrest]
  simp only [compareSides, hleft, hright, hl, hr]
  rfl

end LoadScenario
