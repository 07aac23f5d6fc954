import LoadScenario.Chain.Action

/-!
# Actions inside actions

An action holds chains (a branch its two sides, a loop its body), and those
chains hold actions in turn. `Action.Inside b a` says `b` is `a` itself or an
action of a chain `a` holds, at any depth; `Action.Within P a` says every such
action satisfies `P`. Properties of a whole run are stated with `Within`: "every
exec effect inside the action keeps the counters", "no retry block is inside
the action".
-/

namespace LoadScenario

/-- `b` is `a` itself or an action of one of the chains `a` holds, at any depth. -/
inductive Action.Inside : Action → Action → Prop
  | refl (a : Action) : Inside a a
  | child {a b c : Action} {ch : Chain} (hch : ch ∈ a.children) (hb : b ∈ ch) (h : Inside c b) :
      Inside c a

/-- Every action inside `a`, `a` itself included, satisfies `P`. -/
def Action.Within (P : Action → Prop) (a : Action) : Prop :=
  ∀ b, b.Inside a → P b

namespace Action.Within

variable {P : Action → Prop} {a b : Action} {ch : Chain}

theorem self (h : a.Within P) : P a := h a (.refl a)

/-- A weaker property holds inside wherever a stronger one does. -/
theorem imp {Q : Action → Prop} (h : a.Within P) (hPQ : ∀ b, P b → Q b) : a.Within Q :=
  fun b hb => hPQ b (h b hb)

/-- Two properties that hold inside an action hold there together. -/
theorem and {Q : Action → Prop} (hP : a.Within P) (hQ : a.Within Q) :
    a.Within fun b => P b ∧ Q b :=
  fun b hb => ⟨hP b hb, hQ b hb⟩

/-- Whatever holds inside an action holds inside each action of its chains. -/
theorem child (h : a.Within P) (hch : ch ∈ a.children) (hb : b ∈ ch) : b.Within P :=
  fun c hc => h c (.child hch hb hc)

/-- Whatever holds inside an action holds inside every action of its chains. -/
theorem chain (h : a.Within P) (hch : ch ∈ a.children) : ∀ b ∈ ch, b.Within P :=
  fun _ hb => h.child hch hb

/-- An action all of whose chains hold only actions within `P`, and which
satisfies `P` itself, is within `P`. -/
theorem of_children (ha : P a) (hch : ∀ ch ∈ a.children, ∀ b ∈ ch, b.Within P) : a.Within P := by
  intro c hc
  cases hc with
  | refl => exact ha
  | child hch' hb hcb => exact hch _ hch' _ hb c hcb

/-- An action that holds the one chain `ch` is within `P` when it satisfies
`P` and every action of `ch` is within `P`. -/
theorem of_chain (ha : P a) (hch : a.children = [ch]) (hb : ∀ b ∈ ch, b.Within P) :
    a.Within P :=
  of_children ha fun ch' h => by
    rw [hch, List.mem_singleton] at h
    exact h ▸ hb

/-- An action that holds no chain is within `P` when it satisfies `P`. -/
theorem of_leaf (ha : P a) (h : a.children = []) : a.Within P :=
  of_children ha fun ch hch => by simp [h] at hch

/-- A chain of one action within `P` holds only actions within `P`. -/
theorem singleton (h : a.Within P) : ∀ b ∈ [a], b.Within P :=
  fun _ hb => List.mem_singleton.mp hb ▸ h

end Action.Within

/-! ## The chains of each kind of action -/

namespace Action

variable {ch : Chain}

theorem mem_children_branch_then (c : Condition) (t : Chain) (e : Option Chain) :
    t ∈ (branch c t e).children := List.mem_cons_self

theorem mem_children_branch_else (c : Condition) (t : Chain) (e : Option Chain)
    (h : e = some ch) : ch ∈ (branch c t e).children := by
  simp [children, h]

theorem mem_children_switch {key : Source Value} {cs : List (Value × Chain)} {e : Option Chain}
    (h : ch ∈ cs.map (·.2) ∨ e = some ch) : ch ∈ (switch key cs e).children := by
  rcases h with h | h <;> simp_all [children]

theorem mem_children_randomSwitch {cs : List (Float × Chain)} {e : Option Chain}
    (h : ch ∈ cs.map (·.2) ∨ e = some ch) : ch ∈ (randomSwitch cs e).children := by
  rcases h with h | h <;> simp_all [children]

end Action

end LoadScenario
