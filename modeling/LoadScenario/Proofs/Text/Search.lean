import Mathlib.Data.List.Infix
import LoadScenario.Expression.Eval

/-!
# Searching text

`containsText s sub` and `splitOnce s sep` look for one text inside another,
position by position. This module says what they find in terms of lists of
characters: `containsText` holds exactly when `sub` occurs in `s`
(`containsText_iff`); `splitOnce` cuts at the first occurrence of `sep`
(`splitOnce_eq_some`) and finds nothing exactly when `sep` does not occur
(`splitOnce_eq_none_iff`). A cut at a first occurrence is unique
(`FirstSplit.unique`), so the two sides of a cut are named by the occurrence
alone, and are what the search returns (`splitOnce_of_firstSplit`).
-/

namespace LoadScenario

/-- `e` is `l`, then `sep`, then `r`, and `sep` occurs nowhere in `e` before. -/
def FirstSplit (sep e l r : List Char) : Prop :=
  e = l ++ sep ++ r ∧ ∀ l' r', e = l' ++ sep ++ r' → l.length ≤ l'.length

/-! ## Occurrences -/

/-- The search looks at every suffix while fuel lasts, and one more than the
length is enough. -/
theorem containsText.go_iff (pat : List Char) :
    ∀ (cs : List Char) (fuel : Nat), cs.length < fuel → (containsText.go cs pat fuel = true ↔ pat <:+: cs)
  | _, 0, h => absurd h (Nat.not_lt_zero _)
  | [], _ + 1, _ => by simp [containsText.go]
  | c :: r, fuel + 1, h => by
    have ih := containsText.go_iff pat r fuel (by simp at h; omega)
    simp [containsText.go, List.infix_cons_iff, List.isPrefixOf_iff_prefix, ih]

/-- `containsText s sub` holds exactly when `sub` occurs in `s`. -/
theorem containsText_iff (s sub : String) : containsText s sub = true ↔ sub.toList <:+: s.toList :=
  containsText.go_iff _ _ _ (by rw [String.length_toList]; omega)

theorem containsText_eq_false_iff (s sub : String) :
    containsText s sub = false ↔ ¬ sub.toList <:+: s.toList := by
  rw [← containsText_iff, Bool.not_eq_true]

/-! ## Cutting at the first occurrence -/

/-- The cut the search makes, with `before` read so far (reversed) and `rest`
still to look at: `rest` is cut at the first occurrence of `sep`. -/
theorem splitOnce.go_eq_some (sep : String) :
    ∀ (before rest : List Char) (fuel : Nat) {l r : String},
      splitOnce.go sep before rest fuel = some (l, r) →
      ∃ m, l.toList = before.reverse ++ m ∧ FirstSplit sep.toList rest m r.toList
  | _, _, 0, _, _, h => by simp [splitOnce.go] at h
  | before, rest, fuel + 1, l, r, h => by
    unfold splitOnce.go at h
    split at h
    · -- `sep` starts right here: the cut is at the front of `rest`
      next hpre =>
      cases h
      refine ⟨[], by simp, ?_, fun _ _ _ => Nat.zero_le _⟩
      have hp := List.prefix_iff_eq_append.mp (List.isPrefixOf_iff_prefix.mp hpre)
      simpa [String.length_toList] using hp.symm
    · next hpre =>
      cases rest with
      | nil => simp at h
      | cons c rest =>
        obtain ⟨m, hl, hsplit, hfirst⟩ := splitOnce.go_eq_some sep (c :: before) rest fuel h
        refine ⟨c :: m, by simp [hl], by simp [hsplit], fun l' r' he => ?_⟩
        cases l' with
        | nil =>
          -- an occurrence at the front was ruled out by the test just made
          exact absurd (List.isPrefixOf_iff_prefix.mpr ⟨r', by simp [he]⟩) hpre
        | cons d l' =>
          simp only [List.cons_append, List.cons.injEq] at he
          simpa using hfirst l' r' he.2

/-- The search finds nothing exactly when `sep` does not occur in what is left. -/
theorem splitOnce.go_eq_none_iff (sep : String) :
    ∀ (before rest : List Char) (fuel : Nat), rest.length < fuel →
      (splitOnce.go sep before rest fuel = none ↔ ¬ sep.toList <:+: rest)
  | _, _, 0, h => absurd h (Nat.not_lt_zero _)
  | before, rest, fuel + 1, h => by
    unfold splitOnce.go
    by_cases hpre : sep.toList.isPrefixOf rest = true
    · simp only [hpre, if_true, reduceCtorEq, false_iff, not_not]
      exact (List.isPrefixOf_iff_prefix.mp hpre).isInfix
    · simp only [hpre, Bool.false_eq_true, if_false]
      cases rest with
      | nil =>
        -- the empty text occurs in `[]` and is a prefix of it, so `sep` is not empty
        simp only [true_iff, List.infix_nil]
        intro hsep
        simp [hsep] at hpre
      | cons c rest =>
        rw [splitOnce.go_eq_none_iff sep (c :: before) rest fuel (by simp at h; omega),
          List.infix_cons_iff, List.isPrefixOf_iff_prefix.symm]
        simp [hpre]

/-- `splitOnce` cuts at the first occurrence of `sep`. -/
theorem splitOnce_eq_some {e sep l r : String} (h : splitOnce e sep = some (l, r)) :
    FirstSplit sep.toList e.toList l.toList r.toList := by
  obtain ⟨m, hl, hsplit⟩ := splitOnce.go_eq_some sep [] e.toList (e.length + 1) h
  simp only [List.reverse_nil, List.nil_append] at hl
  rwa [hl]

/-- `splitOnce` finds nothing exactly when `sep` does not occur. -/
theorem splitOnce_eq_none_iff (e sep : String) :
    splitOnce e sep = none ↔ ¬ sep.toList <:+: e.toList :=
  splitOnce.go_eq_none_iff sep [] e.toList (e.length + 1) (by rw [String.length_toList]; omega)

namespace FirstSplit

variable {sep e l r l' r' : List Char}

/-- Two cuts at the first occurrence are the same cut. -/
theorem unique (h : FirstSplit sep e l r) (h' : FirstSplit sep e l' r') : l = l' ∧ r = r' := by
  have hlen : l.length = l'.length :=
    Nat.le_antisymm (h.2 l' r' h'.1) (h'.2 l r h.1)
  have heq : l ++ (sep ++ r) = l' ++ (sep ++ r') := by
    simpa only [List.append_assoc] using h.1.symm.trans h'.1
  obtain ⟨hl, hrest⟩ := List.append_inj heq hlen
  exact ⟨hl, List.append_cancel_left hrest⟩

end FirstSplit

/-- A cut at the first occurrence is the cut the search makes. -/
theorem splitOnce_of_firstSplit {e sep l r : String}
    (hs : FirstSplit sep.toList e.toList l.toList r.toList) : splitOnce e sep = some (l, r) := by
  cases h : splitOnce e sep with
  | none => exact absurd ⟨l.toList, r.toList, hs.1.symm⟩ ((splitOnce_eq_none_iff _ _).mp h)
  | some lr =>
    obtain ⟨l', r'⟩ := lr
    obtain ⟨hl, hr⟩ := (splitOnce_eq_some h).unique hs
    rw [String.toList_inj.mp hl, String.toList_inj.mp hr]

end LoadScenario
