import LoadScenario.Expression.Template
import LoadScenario.Json.Read

/-!
# Expressions

An expression is a template, or two templates around one `==` or `!=`. The
text is cut at the first `!=` if there is one, else at the first `==`; a
second comparison after the cut is refused. Each side is rendered, trimmed,
and read as JSON when it is JSON text (else kept as the trimmed string), and
the sides are compared with `Value.equal`.
-/

namespace LoadScenario

/-- The text before and after the first occurrence of `sep`. -/
def splitOnce (s sep : String) : Option (String × String) :=
  go [] s.toList (s.length + 1)
where
  /-- Looks for `sep` with `before` reversed, with `fuel` positions left. -/
  go : List Char → List Char → Nat → Option (String × String)
    | _, _, 0 => none
    | before, rest, fuel + 1 =>
      if sep.toList.isPrefixOf rest then
        some (String.ofList before.reverse, String.ofList (rest.drop sep.length))
      else match rest with
        | [] => none
        | c :: r => go (c :: before) r fuel

/-- A rendered side of a comparison: trimmed text read as JSON when it is JSON. -/
def operand : Value → Value
  | .string s =>
    let t := Text.trim s
    match Value.parse t with
    | .ok v => v
    | .error _ => .string t
  | other => other

/-- The value of an expression in a session. -/
def evaluate (s : Session) (expr : String) : Except EvalError Value :=
  let cut : Option (String × String × Bool) :=
    match splitOnce expr "!=" with
    | some (l, r) => some (l, r, true)
    | none => (splitOnce expr "==").map fun (l, r) => (l, r, false)
  match cut with
  | some (left, right, negate) =>
    if containsText right "==" || containsText right "!=" then
      .error (.malformed expr "chained comparisons are not supported")
    else do
      let l ← template s left
      let r ← template s right
      pure (.bool ((operand l).equal (operand r) != negate))
  | none => template s expr

end LoadScenario
