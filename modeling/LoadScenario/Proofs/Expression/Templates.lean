import Mathlib
import LoadScenario.Proofs.Text.Search

/-!
# What a template evaluates to

A template is cut into plain text and placeholders by `splitPieces`, which
scans from the left and takes each placeholder that `Placeholder.readAt` reads
at the current position. This module states the cut and the rendering apart
from the code that makes them:

* `spell_splitPieces`: the pieces spell the template, each plain piece as its
  own text and each placeholder as text the reader takes for it (`Piece.Spell`);
* `renderPieces_ok_iff` and `renderPieces_error_iff`: rendering replaces every
  piece by its text (`Piece.render`), and fails with the error of the leftmost
  placeholder that fails (`LeftmostFailure`);
* `template_of_lone` and `template_of_opens`: a template that is one
  placeholder is that placeholder's value, and a template in which every `#{`
  opens a placeholder is its rendering, refused only when the rendered text
  holds `#{`.

The last check reads the rendered text, values included, so a value that
brings in `#{` makes a well-formed template malformed
(`interpolated_opening_is_refused`).
-/

namespace LoadScenario

/-- A comparison operator, `==` or `!=`, occurs in the text. -/
def HasComparison (cs : List Char) : Prop := "==".toList <:+: cs ∨ "!=".toList <:+: cs

instance : DecidablePred HasComparison :=
  fun cs => inferInstanceAs (Decidable ("==".toList <:+: cs ∨ "!=".toList <:+: cs))

/-- The search decides whether an operator occurs. -/
theorem hasComparison_iff_containsText (t : String) :
    HasComparison t.toList ↔ (containsText t "==" || containsText t "!=") = true := by
  simp [HasComparison, containsText_iff]

theorem not_hasComparison {t : String} (h : (containsText t "==" || containsText t "!=") = false) :
    ¬ HasComparison t.toList := by
  rw [hasComparison_iff_containsText, h]
  exact Bool.false_ne_true

/-- An expression without a comparison operator is a template. -/
theorem evaluate_of_no_comparison (s : Session) {e : String} (h : ¬ HasComparison e.toList) :
    evaluate s e = template s e := by
  have hne : splitOnce e "!=" = none := (splitOnce_eq_none_iff e "!=").mpr fun hi => h (.inr hi)
  have heq : splitOnce e "==" = none := (splitOnce_eq_none_iff e "==").mpr fun hi => h (.inl hi)
  simp [evaluate, hne, heq]

/-! ## Reading a placeholder -/

/-- A choice between two options gives the first one's value, or else the second's. -/
theorem Option.eq_some_or_of_orElse {α : Type} {o : Option α} {f : Unit → Option α} {x : α}
    (h : o.orElse f = some x) : o = some x ∨ f () = some x := by
  cases o <;> simp_all [Option.orElse]

namespace Placeholder

/-- Text not starting with `#` starts no placeholder. -/
theorem readAt_cons_of_ne {c : Char} (r : List Char) (h : c ≠ '#') : readAt (c :: r) = none := by
  unfold readAt
  split <;> simp_all

theorem readAt_nil : readAt [] = none := rfl

theorem readQuery_suffix {cs rest : List Char} {q : Query} (h : readQuery cs = some (q, rest)) :
    rest <:+ cs := by
  obtain ⟨_, ⟨w, q'⟩, _, -, hw, -⟩ := List.findSome?_eq_some_iff.mp h
  by_cases hp : w.toList.isPrefixOf cs = true
  · simp only [hp, if_true, Option.some.injEq, Prod.mk.injEq] at hw
    rw [← hw.2]
    exact List.drop_suffix _ _
  · simp [hp] at hw

theorem readClose_suffix {cs rest : List Char} (h : readClose cs = some rest) : rest <:+ cs := by
  unfold readClose at h
  split at h
  · next r hr =>
    cases h
    exact (List.suffix_cons _ _).trans (hr ▸ List.dropWhile_suffix _)
  · cases h

/-- The reader takes a non-empty text off the front: what it leaves is a
strictly shorter suffix. -/
theorem readAt_suffix {cs rest : List Char} {p : Placeholder} (h : readAt cs = some (p, rest)) :
    rest <:+ cs ∧ rest.length < cs.length := by
  unfold readAt at h
  split at h
  · next r =>
    split at h
    · next c r' hr =>
      split at h
      · -- whatever the query, the rest lies after the name
        have hafter : r'.drop (r'.takeWhile isNameChar).length <:+ '#' :: '{' :: r :=
          (List.drop_suffix _ _).trans ((List.suffix_cons c r').trans
            ((hr ▸ List.dropWhile_suffix _).trans ((List.suffix_cons _ _).trans (List.suffix_cons _ _))))
        have hrest : rest <:+ r'.drop (r'.takeWhile isNameChar).length := by
          rcases Option.eq_some_or_of_orElse h with hq | hc
          · obtain ⟨⟨q, mid⟩, hmid, hclose⟩ := Option.bind_eq_some_iff.mp hq
            obtain ⟨rest', hrest', hx⟩ := Option.map_eq_some_iff.mp hclose
            cases hx
            exact (readClose_suffix hrest').trans (readQuery_suffix hmid)
          · obtain ⟨rest', hrest', hx⟩ := Option.map_eq_some_iff.mp hc
            cases hx
            exact readClose_suffix hrest'
        refine ⟨hrest.trans hafter, ?_⟩
        have h1 := hrest.length_le
        have h2 : (r'.drop (r'.takeWhile isNameChar).length).length ≤ r'.length :=
          (List.drop_suffix _ _).length_le
        have h3 := (hr ▸ List.dropWhile_suffix (l := r) Text.isBlank).length_le
        simp only [List.length_cons] at h3 ⊢
        omega
      · cases h
    · cases h
  · cases h

end Placeholder

/-! ## Cutting a template into pieces -/

/-- Pieces spell a text: a plain piece as its own characters, a placeholder as
characters the reader takes for it. -/
inductive Piece.Spell : List Piece → List Char → Prop
  | nil : Piece.Spell [] []
  | text {t : String} {ps : List Piece} {cs : List Char} :
      Piece.Spell ps cs → Piece.Spell (.text t :: ps) (t.toList ++ cs)
  | placeholder {p : Placeholder} {src : List Char} {ps : List Piece} {cs : List Char} :
      Placeholder.readAt (src ++ cs) = some (p, cs) → Piece.Spell ps cs →
      Piece.Spell (.placeholder p :: ps) (src ++ cs)

namespace splitPieces

theorem flush_append (plain : List Char) (ps qs : List Piece) :
    flush plain ps ++ qs = flush plain (ps ++ qs) := by
  unfold flush
  split <;> simp

theorem spell_flush (plain : List Char) {cs : List Char} {ps : List Piece} (h : Piece.Spell ps cs) :
    Piece.Spell (flush plain ps) (plain ++ cs) := by
  unfold flush
  split
  · next hp =>
    rw [List.isEmpty_iff.mp hp]
    exact h
  · simpa using Piece.Spell.text (t := String.ofList plain) h

theorem mem_flush {plain : List Char} {ps : List Piece} {x : Piece} (h : x ∈ ps) :
    x ∈ flush plain ps := by
  unfold flush
  split
  · exact h
  · exact List.mem_cons_of_mem _ h

theorem go_nil (fuel : Nat) : go fuel [] [] = [] := by
  cases fuel <;> rfl

/-- The scan loses nothing: with `plain` read so far, the pieces spell it
followed by what is left. Each round reads at least one character, so fuel at
least the length left is enough. -/
theorem spell_go : ∀ (fuel : Nat) (cs plain : List Char), cs.length ≤ fuel →
    Piece.Spell (go fuel cs plain) (plain.reverse ++ cs)
  | 0, cs, plain, _ => by simpa [go] using spell_flush (plain.reverse ++ cs) .nil
  | _ + 1, [], plain, _ => by simpa [go] using spell_flush plain.reverse .nil
  | fuel + 1, c :: r, plain, hlen => by
    unfold go
    split
    · next p rest hread =>
      obtain ⟨⟨src, hsrc⟩, hshort⟩ := Placeholder.readAt_suffix hread
      have hfuel : rest.length ≤ fuel := by simp at hshort hlen; omega
      have hrest := spell_go fuel rest [] hfuel
      rw [flush_append, ← hsrc]
      apply spell_flush
      simp only [List.reverse_nil, List.nil_append] at hrest
      exact Piece.Spell.placeholder (hsrc ▸ hread) hrest
    · have := spell_go fuel r (c :: plain) (by simp at hlen; omega)
      simpa using this

/-- A scan that reaches a position where a placeholder can be read takes one:
if some suffix of what is left starts a placeholder, a placeholder piece comes out. -/
theorem placeholder_mem_go : ∀ (fuel : Nat) (cs plain a b : List Char), cs.length ≤ fuel →
    cs = a ++ b → (Placeholder.readAt b).isSome → ∃ p, .placeholder p ∈ go fuel cs plain
  | 0, cs, _, a, b, hlen, hab, hb => by
    subst hab
    have hb0 : b = [] := by simp at hlen; exact hlen.2
    simp [hb0, Placeholder.readAt_nil] at hb
  | _ + 1, [], _, a, b, _, hab, hb => by
    have : b = [] := (List.append_eq_nil_iff.mp hab.symm).2
    simp [this, Placeholder.readAt_nil] at hb
  | fuel + 1, c :: r, plain, a, b, hlen, hab, hb => by
    unfold go
    split
    · next p rest _ => exact ⟨p, List.mem_append_left _ (mem_flush List.mem_cons_self)⟩
    · next hnone =>
      cases a with
      | nil =>
        simp only [List.nil_append] at hab
        subst hab
        simp [hnone] at hb
      | cons d a =>
        simp only [List.cons_append, List.cons.injEq] at hab
        exact placeholder_mem_go fuel r (c :: plain) a b (by simp at hlen; omega) hab.2 hb

/-- Without a `#` the scan reads no placeholder and keeps the text in one piece. -/
theorem go_of_no_hash : ∀ (fuel : Nat) (cs plain : List Char), '#' ∉ cs →
    go fuel cs plain = flush (plain.reverse ++ cs) []
  | 0, _, _, _ => rfl
  | _ + 1, [], _, _ => by simp [go]
  | fuel + 1, c :: r, plain, h => by
    have hc : c ≠ '#' := fun hc => h (hc ▸ List.mem_cons_self)
    have hr : '#' ∉ r := fun hr => h (List.mem_cons_of_mem _ hr)
    rw [go, Placeholder.readAt_cons_of_ne r hc]
    simpa using go_of_no_hash fuel r (c :: plain) hr

end splitPieces

theorem spell_splitPieces (cs : List Char) : Piece.Spell (splitPieces cs) cs := by
  have h := splitPieces.spell_go cs.length cs [] le_rfl
  simp only [List.reverse_nil, List.nil_append] at h
  exact h

/-- A template that is one placeholder is cut into that placeholder alone. -/
theorem splitPieces_of_lone {cs : List Char} {p : Placeholder} (h : Placeholder.readAt cs = some (p, [])) :
    splitPieces cs = [.placeholder p] := by
  cases cs with
  | nil => simp [Placeholder.readAt_nil] at h
  | cons c r =>
    simp [splitPieces, splitPieces.go, h, splitPieces.flush, splitPieces.go_nil]

/-- Conversely, a template cut into one placeholder alone is that placeholder. -/
theorem readAt_of_splitPieces {cs : List Char} {p : Placeholder} (h : splitPieces cs = [.placeholder p]) :
    Placeholder.readAt cs = some (p, []) := by
  have hspell := spell_splitPieces cs
  rw [h] at hspell
  cases hspell with
  | placeholder hread hrest =>
    cases hrest
    simpa using hread

/-- A text in which some position starts a placeholder is cut into at least one placeholder. -/
theorem placeholder_mem_splitPieces {cs a b : List Char} (hab : cs = a ++ b)
    (hb : (Placeholder.readAt b).isSome) : ∃ p, .placeholder p ∈ splitPieces cs :=
  splitPieces.placeholder_mem_go _ cs [] a b le_rfl hab hb

/-! ## Rendering the pieces -/

/-- The text a piece stands for once its placeholder is resolved. -/
def Piece.render (s : Session) : Piece → Except EvalError String
  | .text t => .ok t
  | .placeholder p => Value.templateText <$> p.resolve s

/-- `p` is the leftmost placeholder among the pieces that fails in `s`, with error `err`. -/
def LeftmostFailure (s : Session) (ps : List Piece) (err : EvalError) : Prop :=
  ∃ pre p post, ps = pre ++ .placeholder p :: post ∧
    (∀ q, .placeholder q ∈ pre → ∃ v, q.resolve s = .ok v) ∧ p.resolve s = .error err

variable {s : Session}

/-- Rendering a piece and the rest: the piece's error first, then the rest's,
else the two texts one after the other. -/
theorem renderPieces_cons (q : Piece) (ps : List Piece) :
    renderPieces s (q :: ps) =
      match q.render s, renderPieces s ps with
      | .error err, _ => .error err
      | .ok _, .error err => .error err
      | .ok u, .ok rest => .ok (u ++ rest) := by
  cases q with
  | text t =>
    cases h : renderPieces s ps <;> simp [renderPieces, Piece.render, h, Functor.map, Except.map]
  | placeholder p =>
    cases hp : p.resolve s <;> cases h : renderPieces s ps <;>
      simp [renderPieces, Piece.render, hp, h, Functor.map, Except.map, bind, Except.bind, pure, Except.pure]

/-- Rendering succeeds exactly when every piece renders, and gives their texts in order. -/
theorem renderPieces_ok_iff (ps : List Piece) (t : String) :
    renderPieces s ps = .ok t ↔
      ∃ ts, List.Forall₂ (fun q u => q.render s = .ok u) ps ts ∧ t = String.join ts := by
  induction ps generalizing t with
  | nil =>
    constructor
    · intro h
      cases h
      exact ⟨[], .nil, rfl⟩
    · rintro ⟨ts, hts, rfl⟩
      cases hts
      rfl
  | cons q ps ih =>
    rw [renderPieces_cons]
    constructor
    · intro h
      cases hq : q.render s with
      | error err => simp [hq] at h
      | ok u =>
        cases hrest : renderPieces s ps with
        | error err => simp [hq, hrest] at h
        | ok rest =>
          simp only [hq, hrest, Except.ok.injEq] at h
          obtain ⟨ts, hts, hjoin⟩ := (ih rest).mp hrest
          exact ⟨u :: ts, .cons hq hts, by rw [← h, hjoin, String.join_cons]⟩
    · rintro ⟨_ | ⟨u, ts⟩, hts, rfl⟩
      · cases hts
      · obtain ⟨hq, hrest⟩ := List.forall₂_cons.mp hts
        rw [hq, (ih _).mpr ⟨ts, hrest, rfl⟩, String.join_cons]

/-- Rendering fails exactly with the error of the leftmost placeholder that fails. -/
theorem renderPieces_error_iff (ps : List Piece) (err : EvalError) :
    renderPieces s ps = .error err ↔ LeftmostFailure s ps err := by
  induction ps with
  | nil =>
    constructor
    · intro h
      cases h
    · rintro ⟨pre, p, post, hps, -⟩
      simp at hps
  | cons q ps ih =>
    rw [renderPieces_cons]
    constructor
    · intro h
      cases hq : q.render s with
      | error err' =>
        -- only a placeholder can fail, and then it is the leftmost one
        cases q with
        | text t => simp [Piece.render] at hq
        | placeholder p =>
          simp only [hq] at h
          cases h
          cases hp : p.resolve s with
          | error e => simp [Piece.render, hp, Functor.map, Except.map] at hq; exact ⟨[], p, ps, rfl, by simp, hq ▸ hp⟩
          | ok v => simp [Piece.render, hp, Functor.map, Except.map] at hq
      | ok u =>
        cases hrest : renderPieces s ps with
        | ok rest => simp [hq, hrest] at h
        | error e =>
          simp only [hq, hrest] at h
          cases h
          obtain ⟨pre, p, post, hps, hpre, hp⟩ := ih.mp hrest
          refine ⟨q :: pre, p, post, by rw [hps]; rfl, fun r hr => ?_, hp⟩
          rcases List.mem_cons.mp hr with hr | hr
          · -- the first piece rendered, so a placeholder there resolved
            subst hr
            cases hres : r.resolve s with
            | ok v => exact ⟨v, rfl⟩
            | error e => simp [Piece.render, hres, Functor.map, Except.map] at hq
          · exact hpre r hr
    · rintro ⟨pre, p, post, hps, hpre, hp⟩
      cases pre with
      | nil =>
        simp only [List.nil_append, List.cons.injEq] at hps
        obtain ⟨rfl, rfl⟩ := hps
        simp [Piece.render, hp, Functor.map, Except.map]
      | cons q' pre =>
        simp only [List.cons_append, List.cons.injEq] at hps
        obtain ⟨rfl, rfl⟩ := hps
        have hrest : renderPieces s (pre ++ .placeholder p :: post) = .error err :=
          ih.mpr ⟨pre, p, post, rfl, fun r hr => hpre r (List.mem_cons_of_mem _ hr), hp⟩
        have hq : ∃ u, q.render s = .ok u := by
          cases q with
          | text t => exact ⟨t, rfl⟩
          | placeholder r =>
            obtain ⟨v, hv⟩ := hpre r List.mem_cons_self
            exact ⟨v.templateText, by simp [Piece.render, hv, Functor.map, Except.map]⟩
        obtain ⟨u, hu⟩ := hq
        rw [hu, hrest]

/-- A placeholder fails only for a missing attribute or a value of the wrong
kind, never as a malformed expression. -/
theorem Placeholder.resolve_ne_malformed (p : Placeholder) (x m : String) :
    p.resolve s ≠ .error (.malformed x m) := by
  unfold Placeholder.resolve
  split
  · simp
  · simp
  · split <;> simp [mismatch]
  · split <;> simp

/-- Rendering fails only as a placeholder does, never as a malformed expression. -/
theorem renderPieces_ne_malformed (ps : List Piece) (x m : String) :
    renderPieces s ps ≠ .error (.malformed x m) := fun h => by
  obtain ⟨-, p, -, -, -, hp⟩ := (renderPieces_error_iff _ _).mp h
  exact Placeholder.resolve_ne_malformed p x m hp

/-! ## Templates -/

/-- Every `#{` of the text opens a placeholder the reader accepts. -/
def OpensPlaceholders (cs : List Char) : Prop :=
  ∀ a b, cs = a ++ '#' :: '{' :: b → (Placeholder.readAt ('#' :: '{' :: b)).isSome

/-- A template that is exactly one placeholder stands for that placeholder's value. -/
theorem template_of_lone {e : String} {p : Placeholder} (h : Placeholder.readAt e.toList = some (p, [])) :
    template s e = p.resolve s := by
  simp [template, splitPieces_of_lone h]

/-- A template in which every `#{` opens a placeholder, and which is not one
placeholder alone, stands for its rendering; it is refused only when the
rendered text, values included, holds `#{`. -/
theorem template_of_opens {e : String} (hopen : OpensPlaceholders e.toList)
    (hlone : ∀ p, Placeholder.readAt e.toList ≠ some (p, [])) :
    template s e =
      match renderPieces s (splitPieces e.toList) with
      | .error err => .error err
      | .ok t => if ['#', '{'] <:+: t.toList then .error (.malformed e "invalid placeholder")
        else .ok (.string t) := by
  have hnot : ∀ p, splitPieces e.toList ≠ [.placeholder p] := fun p h => hlone p (readAt_of_splitPieces h)
  unfold template
  dsimp only
  rw [if_neg]
  swap
  · -- the first check never fires: a `#{` opens a placeholder, so one is cut out
    rw [Bool.and_eq_true, Bool.not_eq_true']
    rintro ⟨hc, hany⟩
    obtain ⟨a, b, hab⟩ := (containsText_iff e _).mp hc
    have hopen' := hopen a b (by simpa using hab.symm)
    obtain ⟨p, hp⟩ := placeholder_mem_splitPieces (by simpa using hab.symm) hopen'
    exact List.any_eq_false.mp hany _ hp rfl
  split
  · next p h => exact absurd h (hnot p)
  · cases hr : renderPieces s (splitPieces e.toList) with
    | error err => rfl
    | ok t =>
      by_cases hc : ['#', '{'] <:+: t.toList
      · have hct : containsText t "#\x7b" = true := (containsText_iff t _).mpr hc
        simp [hc, hct, bind, Except.bind]
      · have hct : containsText t "#\x7b" = false := (containsText_eq_false_iff t _).mpr hc
        simp [hc, hct, bind, Except.bind, pure, Except.pure]

/-- Text without `#` is a template that stands for itself. -/
theorem template_of_no_hash {e : String} (h : '#' ∉ e.toList) : template s e = .ok (.string e) := by
  have hpieces : splitPieces e.toList = splitPieces.flush e.toList [] :=
    splitPieces.go_of_no_hash e.toList.length e.toList [] h
  have hno : containsText e "#\x7b" = false :=
    (containsText_eq_false_iff e _).mpr fun ⟨a, b, hab⟩ => h (hab ▸ by simp)
  unfold template
  rw [hpieces]
  unfold splitPieces.flush
  by_cases he : e.toList.isEmpty = true
  · have : e = "" := String.toList_inj.mp (List.isEmpty_iff.mp he)
    subst this
    rfl
  · simp only [he, Bool.false_eq_true, if_false, hno]
    have hr : renderPieces s [.text e] = .ok e := by
      simp [renderPieces, Functor.map, Except.map]
    simp [hr, hno, bind, Except.bind, pure, Except.pure]

/-- A template is refused as malformed only for a placeholder it cannot read:
either no placeholder at all although it holds `#{`, or `#{` in its rendering. -/
theorem template_malformed_reason {e x m : String} (h : template s e = .error (.malformed x m)) :
    m = "unterminated or invalid placeholder" ∨ m = "invalid placeholder" := by
  unfold template at h
  dsimp only at h
  split at h
  · cases h
    exact .inl rfl
  · split at h
    · next p _ => exact absurd h (Placeholder.resolve_ne_malformed p x m)
    · cases hr : renderPieces s (splitPieces e.toList) with
      | error err =>
        rw [hr] at h
        cases h
        exact absurd hr (renderPieces_ne_malformed _ x m)
      | ok t =>
        rw [hr] at h
        dsimp only [bind, Except.bind] at h
        split at h
        · cases h
          exact .inr rfl
        · cases h

/-! ## Every `#{` opening a placeholder, decided -/

/-- Whether every `#{` of the text opens a placeholder, position by position. -/
def opensAll : List Char → Bool
  | [] => true
  | c :: r =>
    (match c :: r with
      | '#' :: '{' :: _ => (Placeholder.readAt (c :: r)).isSome
      | _ => true) && opensAll r

theorem opensAll_iff (cs : List Char) : opensAll cs = true ↔ OpensPlaceholders cs := by
  induction cs with
  | nil => simp [opensAll, OpensPlaceholders]
  | cons c r ih =>
    constructor
    · intro h a b hab
      simp only [opensAll, Bool.and_eq_true] at h
      cases a with
      | nil =>
        simp only [List.nil_append, List.cons.injEq] at hab
        obtain ⟨rfl, rfl⟩ := hab
        simpa using h.1
      | cons d a =>
        simp only [List.cons_append, List.cons.injEq] at hab
        exact (ih.mp h.2) a b hab.2
    · intro h
      simp only [opensAll, Bool.and_eq_true]
      refine ⟨?_, ih.mpr fun a b hab => h (c :: a) b (by simp [hab])⟩
      split
      · next b heq =>
        simpa [heq] using h [] b (by simp [heq])
      · rfl

instance : DecidablePred OpensPlaceholders := fun cs => decidable_of_iff _ (opensAll_iff cs)

/-! ## Template evaluation -/

/-- An expression without a comparison in which every `#{` opens a placeholder
evaluates as its pieces say. If it is one placeholder, it is that placeholder's
value. Otherwise its pieces spell it; it fails with the error of the leftmost
placeholder that fails; when every piece renders it is the rendered text, but
refused as malformed when that text, values included, holds `#{`. No other
malformed error arises. -/
theorem template_refused_only_for_rendered_opening (s : Session) (e : String)
    (hop : ¬ HasComparison e.toList) (hopen : OpensPlaceholders e.toList) :
    (∀ p, Placeholder.readAt e.toList = some (p, []) → evaluate s e = p.resolve s) ∧
    ((∀ p, Placeholder.readAt e.toList ≠ some (p, [])) →
      Piece.Spell (splitPieces e.toList) e.toList ∧
      (∀ err, LeftmostFailure s (splitPieces e.toList) err → evaluate s e = .error err) ∧
      (∀ ts, List.Forall₂ (fun q u => q.render s = .ok u) (splitPieces e.toList) ts →
        evaluate s e = if ['#', '{'] <:+: (String.join ts).toList
          then .error (.malformed e "invalid placeholder") else .ok (.string (String.join ts)))) ∧
    (∀ x m, evaluate s e = .error (.malformed x m) →
      x = e ∧ m = "invalid placeholder" ∧
      ∃ ts, List.Forall₂ (fun q u => q.render s = .ok u) (splitPieces e.toList) ts ∧
        ['#', '{'] <:+: (String.join ts).toList) := by
  rw [evaluate_of_no_comparison s hop]
  refine ⟨fun p hp => template_of_lone hp,
    fun hlone => ⟨spell_splitPieces _, fun err herr => ?_, fun ts hts => ?_⟩, fun x m h => ?_⟩
  · rw [template_of_opens hopen hlone, (renderPieces_error_iff _ err).mpr herr]
  · rw [template_of_opens hopen hlone, (renderPieces_ok_iff _ _).mpr ⟨ts, hts, rfl⟩]
  · by_cases hlone : ∃ p, Placeholder.readAt e.toList = some (p, [])
    · -- a lone placeholder fails only as its attribute does, never as malformed
      obtain ⟨p, hp⟩ := hlone
      rw [template_of_lone hp] at h
      exact absurd h (Placeholder.resolve_ne_malformed p x m)
    · rw [template_of_opens hopen (fun p hp => hlone ⟨p, hp⟩)] at h
      cases hr : renderPieces s (splitPieces e.toList) with
      | error err =>
        rw [hr] at h
        cases h
        exact absurd hr (renderPieces_ne_malformed _ x m)
      | ok t =>
        rw [hr] at h
        obtain ⟨ts, hts, rfl⟩ := (renderPieces_ok_iff _ _).mp hr
        dsimp only at h
        by_cases hc : ['#', '{'] <:+: (String.join ts).toList
        · rw [if_pos hc] at h
          cases h
          exact ⟨rfl, rfl, ts, hts, hc⟩
        · rw [if_neg hc] at h
          cases h

/-- A template with two placeholders, each of whose values renders plainly,
stands for its text with the values put in. -/
theorem greeting_renders_values :
    let e := "hello #\x7bname\x7d #\x7bx\x7d"
    let s := ((Session.new "test" 0).set "name" (.string "ada")).set "x" (Value.ofNat 1)
    ¬ HasComparison e.toList ∧ OpensPlaceholders e.toList ∧
      ((∀ p, Placeholder.readAt e.toList = some (p, []) → evaluate s e = p.resolve s) ∧
      ((∀ p, Placeholder.readAt e.toList ≠ some (p, [])) →
        Piece.Spell (splitPieces e.toList) e.toList ∧
        (∀ err, LeftmostFailure s (splitPieces e.toList) err → evaluate s e = .error err) ∧
        (∀ ts, List.Forall₂ (fun q u => q.render s = .ok u) (splitPieces e.toList) ts →
          evaluate s e = if ['#', '{'] <:+: (String.join ts).toList
            then .error (.malformed e "invalid placeholder") else .ok (.string (String.join ts)))) ∧
      (∀ x m, evaluate s e = .error (.malformed x m) →
        x = e ∧ m = "invalid placeholder" ∧
        ∃ ts, List.Forall₂ (fun q u => q.render s = .ok u) (splitPieces e.toList) ts ∧
          ['#', '{'] <:+: (String.join ts).toList)) := by
  intro e s
  have hcs : e.toList = ['h', 'e', 'l', 'l', 'o', ' ', '#', '{', 'n', 'a', 'm', 'e', '}', ' ',
      '#', '{', 'x', '}'] := by simp [e]
  have hop : ¬ HasComparison e.toList := not_hasComparison (by cbv)
  have hopen : OpensPlaceholders e.toList := (opensAll_iff _).mp (by rw [hcs]; decide)
  exact ⟨hop, hopen, template_refused_only_for_rendered_opening s e hop hopen⟩

/-- A value that holds `#{` makes a template malformed although every `#{` of
the template opens a placeholder: the last check reads the rendered text. -/
theorem interpolated_opening_is_refused :
    let e := "pre #\x7btpl\x7d post"
    let s := (Session.new "test" 0).set "tpl" (.string "#\x7bx\x7d")
    ¬ HasComparison e.toList ∧ OpensPlaceholders e.toList ∧
      evaluate s e = .error (.malformed e "invalid placeholder") := by
  intro e s
  have hcs : e.toList = ['p', 'r', 'e', ' ', '#', '{', 't', 'p', 'l', '}', ' ', 'p', 'o', 's', 't'] := by
    simp [e]
  have hop : ¬ HasComparison e.toList := not_hasComparison (by cbv)
  have hopen : OpensPlaceholders e.toList := (opensAll_iff _).mp (by rw [hcs]; decide)
  have hlone : ∀ p, Placeholder.readAt e.toList ≠ some (p, []) := by
    intro p
    rw [hcs, Placeholder.readAt_cons_of_ne _ (by decide)]
    exact Option.some_ne_none _ ∘ Eq.symm
  have hpieces : splitPieces e.toList = [.text "pre ", .placeholder ⟨"tpl", .value⟩, .text " post"] := by
    rw [hcs]
    decide
  have hrender : renderPieces s [.text "pre ", .placeholder ⟨"tpl", .value⟩, .text " post"] =
      .ok "pre #\x7bx\x7d post" := by
    decide
  have hopening : ['#', '{'] <:+: ("pre #\x7bx\x7d post" : String).toList :=
    (containsText_iff _ "#\x7b").mp (by cbv)
  refine ⟨hop, hopen, ?_⟩
  rw [evaluate_of_no_comparison s hop, template_of_opens hopen hlone, hpieces, hrender]
  exact if_pos hopening


end LoadScenario
