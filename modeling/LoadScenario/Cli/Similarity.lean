import LoadScenario.Decimal.Binary

/-!
# Similarity of words

The Jaro similarity of two words, between `0` and `1`: characters of the two
words match when they are equal and no further apart than half the longer
word's length less one, each character matching at most once and in order of
the first word; with `m` matches and `t` half-transpositions (matched
characters out of order, halved), the similarity is
`(m / |a| + m / |b| + (m - t) / m) / 3`. It is used to suggest a known word
for a mistyped one.
-/

namespace LoadScenario.Cli

/-- Marks the first unmatched character of `b` equal to `c` within the index
window `[lo, hi)`; answers the marks, and whether one was made. -/
def markMatch (b : List Char) (marks : List Bool) (c : Char) (lo hi : Nat) : List Bool × Bool :=
  let idx := (List.range b.length).find? fun j =>
    lo ≤ j && j < hi && b[j]? == some c && marks[j]? == some false
  match idx with
  | some j => (marks.set j true, true)
  | none => (marks, false)

/-- The Jaro similarity of two words. -/
def jaro (a b : String) : Float :=
  let a := a.toList
  let b := b.toList
  if a.isEmpty && b.isEmpty then 1.0
  else if a.isEmpty || b.isEmpty then 0.0
  else
    let range := max a.length b.length / 2 - 1
    let (aMarks, bMarks) := a.zipIdx.foldl (fun (aMarks, bMarks) (c, i) =>
      let (bMarks, hit) := markMatch b bMarks c (i - range) (min b.length (i + range + 1))
      (aMarks ++ [hit], bMarks)) (([] : List Bool), List.replicate b.length false)
    let aMatched := (a.zip aMarks).filterMap fun (c, m) => if m then some c else none
    let bMatched := (b.zip bMarks).filterMap fun (c, m) => if m then some c else none
    let m := aMatched.length
    if m == 0 then 0.0
    else
      let t := ((aMatched.zip bMatched).filter fun (x, y) => x != y).length / 2
      let mf := Decimal.ofNat m
      (mf / Decimal.ofNat a.length + mf / Decimal.ofNat b.length + Decimal.ofNat (m - t) / mf) / 3.0

/-- The known words similar to `word` (similarity above `0.7`), least similar first. -/
def similarWords (word : String) (known : List String) : List String :=
  let scored := known.filterMap fun k =>
    let s := jaro word k
    if 0.7 < s then some (s, k) else none
  (scored.mergeSort fun x y => x.1 ≤ y.1).map (·.2)

end LoadScenario.Cli
