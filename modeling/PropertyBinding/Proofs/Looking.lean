import PropertyBinding.Engine.Run
import PropertyBinding.Proofs.Shape

namespace PropertyBinding

/-!
# What expressions are made of

An evaluation looks at the world in a few ways only: it asks about the shape of
the graph, reads properties and notifiers, takes identities and calls
functions.  A law of operations that all of these obey, and that sequences of
operations obey when their parts do, is obeyed by every expression.
-/

namespace Engine

variable {σ : Type}

/-- A law that the parts of evaluations obey. -/
structure Lawful (law : {α : Type} → Engine σ α → Prop) : Prop where
  value : ∀ {α : Type} (result : α), law (pure result : Engine σ α)
  bind : ∀ {α β : Type} {operation : Engine σ α} {next : α → Engine σ β},
    law operation → (∀ result, law (next result)) → law (operation >>= next)
  /-- Whatever depends only on the shape of the graph may be done with the graph. -/
  look : ∀ {α : Type} {next : ObjectGraph → Engine σ α},
    (∀ left right, ObjectGraph.SameShape left right → next left = next right) →
      (∀ graph, law (next graph)) → law (graph >>= next)
  freshIdentity : law freshIdentity
  place : ∀ value, law (place value)
  readValue : ∀ ref, law (readValue ref : Attempt PropertyError σ Value).run
  readNotifier : ∀ id, law (readNotifier id)

namespace Lawful

variable {law : {α : Type} → Engine σ α → Prop} {α β ε : Type}

theorem attempt (lawful : Lawful law) {operation : Attempt ε σ α} {next : α → Attempt ε σ β}
    (first : law operation.run) (second : ∀ result, law (next result).run) :
    law (operation >>= next).run := by
  apply lawful.bind first
  intro outcome
  cases outcome with
  | ok result => exact second result
  | error error => exact lawful.value (Except.error error)

theorem map (lawful : Lawful law) (change : α → β) {operation : Engine σ α}
    (first : law operation) : law (change <$> operation) :=
  lawful.bind first fun result => lawful.value (change result)

theorem perform (lawful : Lawful law) {operation : Engine σ α} {next : α → Attempt ε σ β}
    (first : law operation) (second : ∀ result, law (next result).run) :
    law (Attempt.perform operation >>= next).run :=
  lawful.attempt (lawful.map _ first) second

theorem performLook (lawful : Lawful law) {next : ObjectGraph → Attempt ε σ α}
    (shape : ∀ left right, ObjectGraph.SameShape left right → next left = next right)
    (each : ∀ graph, law (next graph).run) : law (Attempt.perform graph >>= next).run :=
  lawful.look (fun left right same => congrArg ExceptT.run (shape left right same)) each

theorem adapt (lawful : Lawful law) {ε' : Type} {operation : Attempt ε σ α} (rename : ε → ε')
    (inner : law operation.run) : law (ExceptT.adapt rename operation).run :=
  lawful.map _ inner

theorem succeed (lawful : Lawful law) (result : α) : law (pure result : Attempt ε σ α).run :=
  lawful.value (Except.ok result)

theorem fail (lawful : Lawful law) (error : ε) : law (throw error : Attempt ε σ α).run :=
  lawful.value (Except.error error)

/-! ## Names and members -/

open Script Evaluation

theorem findProperty?_congr {left right : ObjectGraph} (shape : left.SameShape right)
    (name : String) (ids : List ObjectId) :
    findProperty? left name ids = findProperty? right name ids := by
  induction ids with
  | nil => rfl
  | cons id rest step => rw [findProperty?, findProperty?, shape.propertyIndex, step]

variable (lawful : Lawful law)
include lawful

theorem context : law (Evaluation.context : Engine σ TypeContext) := by
  apply lawful.look
  · intro left right shape
    rw [shape.context]
  · intro graph
    exact lawful.value _

theorem objectMember (id : ObjectId) (name : String) :
    law (Evaluation.objectMember id name : Evaluation σ Value).run := by
  apply lawful.performLook
  · intro left right shape
    rw [shape.isAlive, shape.propertyIndex]
  · intro graph
    split
    · split
      · exact lawful.adapt _ (lawful.readValue _)
      · exact lawful.succeed _
    · exact lawful.fail _

theorem lookup (context : CallContext) (name : String) :
    law (Evaluation.lookup context name : Evaluation σ Value).run := by
  unfold Evaluation.lookup
  split
  · exact lawful.succeed _
  · exact lawful.map _ (lawful.readNotifier _)
  · apply lawful.performLook
    · intro left right shape
      rw [findProperty?_congr shape]
    · intro graph
      split
      · exact lawful.adapt _ (lawful.readValue _)
      · exact lawful.fail _

theorem name (context : CallContext) (locals : List (String × Value)) (name : String) :
    law (Evaluation.name context locals name : Evaluation σ Value).run := by
  unfold Evaluation.name
  split
  · exact lawful.succeed _
  · split
    · apply lawful.bind (lawful.lookup context name)
      intro outcome
      split
      · exact lawful.value _
      · apply lawful.bind
        · exact lawful.bind lawful.freshIdentity fun _ => lawful.value _
        · exact fun _ => lawful.value _
    · exact lawful.lookup context name

theorem member (value : Value) (name : String) :
    law (Evaluation.member value name : Evaluation σ Value).run := by
  apply lawful.perform lawful.context
  intro context
  split
  · exact lawful.objectMember _ name
  · exact lawful.succeed _
  · split
    · exact lawful.fail _
    · split <;> exact lawful.succeed _

theorem select (value key : Value) :
    law (Evaluation.select value key : Evaluation σ Value).run := by
  apply lawful.perform lawful.context
  intro context
  split
  · exact lawful.succeed _
  · exact lawful.member _ _

theorem requireFunction (value : Value) :
    law (Evaluation.requireFunction value : Evaluation σ Function).run := by
  unfold Evaluation.requireFunction
  split
  · exact lawful.succeed _
  · exact lawful.fail _

/-! ## Expressions -/

theorem call (calls : ∀ callee context, law (invoke callee context : Evaluation σ Boxed).run)
    (context : CallContext) (callee : Function) (this? : Option ObjectId)
    (arguments : List Value) :
    law (Evaluation.call context callee this? arguments : Evaluation σ Value).run :=
  lawful.attempt (calls callee _) fun result => lawful.map _ (lawful.place result.toValue)

omit lawful

mutual

/-- An expression obeys the law if the functions that it calls do. -/
theorem evaluate (lawful : Lawful law)
    (calls : ∀ callee context, law (invoke callee context : Evaluation σ Boxed).run)
    (context : CallContext) (locals : List (String × Value)) (expr : Expr) :
    law (Evaluation.evaluate context locals expr : Evaluation σ Value).run := by
  cases expr with
  | literal constant => exact lawful.succeed _
  | array items =>
      simp only [Evaluation.evaluate]
      apply lawful.attempt (evaluateAll lawful calls context locals items)
      intro values
      exact lawful.perform lawful.freshIdentity fun identity => lawful.succeed _
  | this => exact lawful.succeed _
  | name identifier => exact lawful.name context locals identifier
  | member object identifier =>
      simp only [Evaluation.evaluate]
      apply lawful.attempt (evaluate lawful calls context locals object)
      exact fun value => lawful.member value identifier
  | index object key =>
      simp only [Evaluation.evaluate]
      apply lawful.attempt (evaluate lawful calls context locals object)
      intro value
      apply lawful.perform (lawful.place _)
      intro unwrapped
      apply lawful.attempt (evaluate lawful calls context locals key)
      exact fun selector => lawful.select unwrapped selector
  | call target arguments =>
      have values := evaluateAll lawful calls context locals arguments
      by_cases method : ∃ object identifier, target = .member object identifier
      · rcases method with ⟨object, identifier, rfl⟩
        rw [Evaluation.evaluate]
        apply lawful.attempt (evaluate lawful calls context locals object)
        intro value
        apply lawful.attempt (lawful.member _ identifier)
        intro found
        apply lawful.attempt (lawful.requireFunction found)
        intro callee
        exact lawful.attempt values fun values => lawful.call calls context callee _ values
      · rw [Evaluation.evaluate]
        · apply lawful.attempt (evaluate lawful calls context locals target)
          intro found
          apply lawful.attempt (lawful.requireFunction found)
          intro callee
          exact lawful.attempt values fun values => lawful.call calls context callee _ values
        · intro object identifier same
          exact method ⟨object, identifier, same⟩
  | unary operator operand =>
      simp only [Evaluation.evaluate]
      exact lawful.attempt (evaluate lawful calls context locals operand) fun value => lawful.succeed _
  | binary operator left right =>
      simp only [Evaluation.evaluate]
      apply lawful.attempt (evaluate lawful calls context locals left)
      intro first
      apply lawful.attempt (evaluate lawful calls context locals right)
      intro second
      exact lawful.perform lawful.context fun types => lawful.succeed _
  | and left right =>
      simp only [Evaluation.evaluate]
      apply lawful.attempt (evaluate lawful calls context locals left)
      intro value
      split
      · exact evaluate lawful calls context locals right
      · exact lawful.succeed _
  | or left right =>
      simp only [Evaluation.evaluate]
      apply lawful.attempt (evaluate lawful calls context locals left)
      intro value
      split
      · exact lawful.succeed _
      · exact evaluate lawful calls context locals right
  | conditional test yes no =>
      simp only [Evaluation.evaluate]
      apply lawful.attempt (evaluate lawful calls context locals test)
      intro value
      split
      · exact evaluate lawful calls context locals yes
      · exact evaluate lawful calls context locals no
  | arrow parameters body location =>
      simp only [Evaluation.evaluate]
      exact lawful.perform lawful.freshIdentity fun identity => lawful.succeed _

theorem evaluateAll (lawful : Lawful law)
    (calls : ∀ callee context, law (invoke callee context : Evaluation σ Boxed).run)
    (context : CallContext) (locals : List (String × Value)) (exprs : List Expr) :
    law (Evaluation.evaluateAll context locals exprs : Evaluation σ (List Value)).run := by
  cases exprs with
  | nil => exact lawful.succeed _
  | cons expr rest =>
      simp only [Evaluation.evaluateAll]
      apply lawful.attempt (evaluate lawful calls context locals expr)
      intro value
      exact lawful.attempt (evaluateAll lawful calls context locals rest) fun values => lawful.succeed _

end

end Lawful

end Engine

end PropertyBinding
