import PropertyBinding.Proofs.DependencyCapture

namespace PropertyBinding

/-!
# The scope of arrow functions

An arrow function keeps the locals around it and its own expression.  It does
not keep the scope: whoever calls it lends it theirs.  So its parameters and the
locals around it mean what they meant where the arrow stands, and every other
name means what it means to the caller.

The two readings of the other names agree where the two scopes do.  Which names
matter shows only in the run, since the functions that an arrow calls are values
like any other: each of them looks up names of its own, in the scope that the
arrow was lent.  `Outside.discreet` is foreign code that answers a call only if
the function cannot tell the one scope from the other.  A call that ends under
discreet code ends the same under either scope, with the same reads.
-/

namespace Script

/-! ## What names mean -/

/-- What a scope says about a name. -/
inductive Scope.Meaning where
  | object (id : ObjectId)
  | notifier (id : NotifierId)
  /-- The scope does not name it; it may be a property of `this`, or of an object of the scope. -/
  | member (object? : Option ObjectId)
deriving DecidableEq

/-- The meaning of a name in a scope. -/
def Scope.meaning (scope : Scope) (name : String) : Meaning :=
  match scope.ids.get? name, scope.context.get? name with
  | some id, _ => .object id
  | none, some id => .notifier id
  | none, none => .member scope.object?

/-- Looking a name up takes no more of the scope than the meaning of the name. -/
theorem lookup_eq_meaning {σ : Type} (call : CallContext) (name : String) :
    (Evaluation.lookup call name : Evaluation σ Value) =
      match call.scope.meaning name with
      | .object id => return .object id
      | .notifier id => Attempt.perform (Engine.readNotifier id)
      | .member object? => (do
          let graph ← Attempt.perform Engine.graph
          match Evaluation.findProperty? graph name (call.this?.toList ++ object?.toList) with
          | some ref => Evaluation.access (Engine.readValue ref)
          | none => throw (.undefinedName name)) := by
  unfold Evaluation.lookup Scope.meaning
  cases call.scope.ids.get? name with
  | some id => rfl
  | none => cases call.scope.context.get? name <;> rfl

namespace Expr

mutual

/--
The names that an evaluation may look up: all names outside of arrows.  A name
inside an arrow is looked up when the arrow is called.
-/
def lookups : Expr → List String
  | .literal _ => []
  | .array items => lookupsAll items
  | .this => []
  | .name identifier => [identifier]
  | .member object _ => object.lookups
  | .index object key => object.lookups ++ key.lookups
  | .call callee arguments => callee.lookups ++ lookupsAll arguments
  | .unary _ operand => operand.lookups
  | .binary _ left right => left.lookups ++ right.lookups
  | .and left right => left.lookups ++ right.lookups
  | .or left right => left.lookups ++ right.lookups
  | .conditional test yes no => test.lookups ++ yes.lookups ++ no.lookups
  | .arrow _ _ _ => []

/-- The names that an evaluation of several expressions may look up. -/
def lookupsAll : List Expr → List String
  | [] => []
  | expr :: rest => expr.lookups ++ lookupsAll rest

end

end Expr

/-- Whether each of some names is a local or means the same in two scopes. -/
def Scope.AgreeOn (first second : Scope) (locals : List (String × Value)) (names : List String) :
    Prop :=
  ∀ name ∈ names, name ∈ locals.map Prod.fst ∨ first.meaning name = second.meaning name

namespace Scope.AgreeOn

variable {first second : Scope} {locals : List (String × Value)} {left right : List String}

instance (first second : Scope) (locals : List (String × Value)) (names : List String) :
    Decidable (AgreeOn first second locals names) :=
  inferInstanceAs (Decidable (∀ name ∈ names,
    name ∈ locals.map Prod.fst ∨ first.meaning name = second.meaning name))

theorem of_append (agree : AgreeOn first second locals (left ++ right)) :
    AgreeOn first second locals left ∧ AgreeOn first second locals right :=
  List.forall_mem_append.mp agree

end Scope.AgreeOn

end Script

namespace Engine

open Script Script.Evaluation

variable {σ α β ε : Type}

/-! ## The same evaluation in two scopes -/

theorem attempt_congr {operation operation' : Attempt ε σ α} {next next' : α → Attempt ε σ β}
    {outside : Outside σ} (same : operation.run outside = operation'.run outside)
    (goesOn : ∀ result, (next result).run outside = (next' result).run outside) :
    (operation >>= next).run outside = (operation' >>= next').run outside := by
  funext world
  show ((operation.run outside world).bind fun out => ExceptT.bindCont next out.1 outside out.2) =
    (operation'.run outside world).bind fun out => ExceptT.bindCont next' out.1 outside out.2
  rw [same]
  congr 1
  funext out
  rcases out with ⟨outcome, after⟩
  cases outcome with
  | ok result => exact congrFun (goesOn result) after
  | error error => rfl

section Congruence

variable {outside : Outside σ} {first second : Scope} {this? : Option ObjectId}
  {arguments : List Value} {locals : List (String × Value)}

theorem name_congr {identifier : String}
    (agree : Scope.AgreeOn first second locals [identifier]) :
    (name ⟨first, this?, arguments⟩ locals identifier : Evaluation σ Value) =
      name ⟨second, this?, arguments⟩ locals identifier := by
  unfold Evaluation.name
  cases found : locals.find? fun entry => entry.1 = identifier with
  | some entry => rfl
  | none =>
      have free : identifier ∉ locals.map Prod.fst := by
        intro member
        rcases List.mem_map.mp member with ⟨entry, listed, rfl⟩
        exact List.find?_eq_none.mp found entry listed (decide_eq_true rfl)
      have same := (agree identifier (List.mem_singleton.mpr rfl)).resolve_left free
      have looked : (lookup ⟨first, this?, arguments⟩ identifier : Evaluation σ Value) =
          lookup ⟨second, this?, arguments⟩ identifier := by
        rw [lookup_eq_meaning, lookup_eq_meaning]
        dsimp only
        rw [same]
      dsimp only
      rw [looked]

/-- Whether the functions that scripts call do the same in two scopes. -/
def CallsAgree (outside : Outside σ) (first second : Scope) : Prop :=
  ∀ callee this? arguments,
    outside.call callee ⟨first, this?, arguments⟩ = outside.call callee ⟨second, this?, arguments⟩

theorem call_congr (calls : CallsAgree outside first second) (callee : Function)
    (receiver? : Option ObjectId) (values : List Value) :
    (call ⟨first, this?, arguments⟩ callee receiver? values).run outside =
      (call ⟨second, this?, arguments⟩ callee receiver? values).run outside :=
  attempt_congr (calls callee receiver? values) fun _ => rfl

mutual

/-- In two scopes that agree on the names of an expression it has the same meaning. -/
theorem evaluate_congr (calls : CallsAgree outside first second) (expr : Expr)
    (agree : Scope.AgreeOn first second locals expr.lookups) :
    (evaluate ⟨first, this?, arguments⟩ locals expr).run outside =
      (evaluate ⟨second, this?, arguments⟩ locals expr).run outside := by
  cases expr with
  | literal constant => rfl
  | array items =>
      simp only [evaluate]
      exact attempt_congr (evaluateAll_congr calls items agree) fun _ => rfl
  | this => rfl
  | name identifier =>
      simp only [evaluate]
      rw [name_congr agree]
  | member object identifier =>
      simp only [evaluate]
      exact attempt_congr (evaluate_congr calls object agree) fun _ => rfl
  | index object key =>
      rcases agree.of_append with ⟨ofObject, ofKey⟩
      simp only [evaluate]
      apply attempt_congr (evaluate_congr calls object ofObject)
      intro value
      apply attempt_congr rfl
      intro unwrapped
      exact attempt_congr (evaluate_congr calls key ofKey) fun _ => rfl
  | call target values =>
      rcases agree.of_append with ⟨ofTarget, ofValues⟩
      by_cases method : ∃ object identifier, target = .member object identifier
      · rcases method with ⟨object, identifier, rfl⟩
        rw [evaluate, evaluate]
        apply attempt_congr (evaluate_congr calls object ofTarget)
        intro value
        apply attempt_congr rfl
        intro found
        apply attempt_congr rfl
        intro callee
        exact attempt_congr (evaluateAll_congr calls values ofValues) (call_congr calls callee _)
      · rw [evaluate, evaluate]
        · apply attempt_congr (evaluate_congr calls target ofTarget)
          intro found
          apply attempt_congr rfl
          intro callee
          exact attempt_congr (evaluateAll_congr calls values ofValues) (call_congr calls callee _)
        · exact fun object identifier same => method ⟨object, identifier, same⟩
        · exact fun object identifier same => method ⟨object, identifier, same⟩
  | unary operator operand =>
      simp only [evaluate]
      exact attempt_congr (evaluate_congr calls operand agree) fun _ => rfl
  | binary operator left right =>
      rcases agree.of_append with ⟨ofLeft, ofRight⟩
      simp only [evaluate]
      apply attempt_congr (evaluate_congr calls left ofLeft)
      intro value
      exact attempt_congr (evaluate_congr calls right ofRight) fun _ => rfl
  | and left right =>
      rcases agree.of_append with ⟨ofLeft, ofRight⟩
      simp only [evaluate]
      apply attempt_congr (evaluate_congr calls left ofLeft)
      intro value
      split
      · exact evaluate_congr calls right ofRight
      · rfl
  | or left right =>
      rcases agree.of_append with ⟨ofLeft, ofRight⟩
      simp only [evaluate]
      apply attempt_congr (evaluate_congr calls left ofLeft)
      intro value
      split
      · rfl
      · exact evaluate_congr calls right ofRight
  | conditional test yes no =>
      rcases agree.of_append with ⟨ofBoth, ofNo⟩
      rcases ofBoth.of_append with ⟨ofTest, ofYes⟩
      simp only [evaluate]
      apply attempt_congr (evaluate_congr calls test ofTest)
      intro value
      split
      · exact evaluate_congr calls yes ofYes
      · exact evaluate_congr calls no ofNo
  | arrow parameters body location => rfl

theorem evaluateAll_congr (calls : CallsAgree outside first second) (exprs : List Expr)
    (agree : Scope.AgreeOn first second locals (Expr.lookupsAll exprs)) :
    (evaluateAll ⟨first, this?, arguments⟩ locals exprs).run outside =
      (evaluateAll ⟨second, this?, arguments⟩ locals exprs).run outside := by
  cases exprs with
  | nil => rfl
  | cons expr rest =>
      rcases agree.of_append with ⟨ofExpr, ofRest⟩
      simp only [evaluateAll]
      apply attempt_congr (evaluate_congr calls expr ofExpr)
      intro value
      exact attempt_congr (evaluateAll_congr calls rest ofRest) fun _ => rfl

end

end Congruence

end Engine

/-! ## Discreet code -/

/-- Some functions of a host never look at which of two scopes they are lent. -/
structure Host.Ignores {σ : Type} (host : Host σ) (blind : HostId → Bool)
    (first second : Script.Scope) : Prop where
  call : ∀ id, blind id = true → ∀ this? arguments,
    host.call id ⟨first, this?, arguments⟩ = host.call id ⟨second, this?, arguments⟩
  callTyped : ∀ id, blind id = true → ∀ this? arguments,
    host.callTyped id ⟨first, this?, arguments⟩ = host.callTyped id ⟨second, this?, arguments⟩

/--
The code of a host, except that a call has no result where the function could tell
the one scope from the other: a script by a name of its own, other code by not being blind.
-/
def Outside.discreet {σ : Type} (host : Host σ) (blind : HostId → Bool)
    (first second : Script.Scope) : Nat → Outside σ
  | 0 => within host 0
  | bound + 1 =>
      { within host (bound + 1) with
        call := fun callee context world =>
          let code := (host.callFunction callee context).run
          match callee.body with
          | .script parameters expr locals =>
              let values := Script.Evaluation.parameterValues parameters context
              if first.AgreeOn second (values ++ locals) expr.lookups then
                code.run (discreet host blind first second bound) world
              else
                none
          | .markBinding => code.run (within host bound) world
          | .host id | .typed _ id =>
              if blind id then code.run (within host bound) world else none }

namespace Engine

open Script Script.Evaluation

variable {σ α β : Type}

/-- Where a run under the known code ends, a run under other code ends the same. -/
def Follows (known outside : Outside σ) (operation : Engine σ α) : Prop :=
  ∀ world out, operation known world = some out → operation outside world = some out

namespace Follows

variable {known outside : Outside σ}

theorem of_tracked {operation : Engine σ α} (tracked : Tracked known outside operation) :
    Follows known outside operation := by
  intro world out run
  rcases tracked world out.1 out.2 run with ⟨reads, identities, _, reached, transfer⟩
  rw [transfer world (.refl _) rfl (.refl world reads), ← reached]

theorem bind {operation : Engine σ α} {next : α → Engine σ β}
    (first : Follows known outside operation)
    (second : ∀ result, Follows known outside (next result)) :
    Follows known outside (operation >>= next) := by
  intro world out run
  rcases runs_of_bind run with ⟨result, middle, start, rest⟩
  rw [apply_bind, first world _ start]
  exact second result middle out rest

/-- Being followed is a law of evaluations. -/
theorem lawful : Lawful fun {_} operation => Follows (σ := σ) known outside operation where
  value result := of_tracked (.value result)
  bind := bind
  look _ each := fun world => each world.graph world
  freshIdentity := of_tracked freshIdentity_tracked
  place value := of_tracked (place_tracked value)
  readValue ref := of_tracked (readValue_tracked ref)
  readNotifier id := of_tracked (readNotifier_tracked id)

theorem recording {operation : Engine σ α} (follows : Follows known outside operation) :
    Follows known outside (recording operation) := by
  intro world out run
  rw [apply_recording] at run ⊢
  rcases Option.map_eq_some_iff.mp run with ⟨middle, start, reached⟩
  rw [follows _ middle start, Option.map_some, reached]

end Follows

section Discreet

variable (host : Host σ) (blind : HostId → Bool) (first second : Scope)

/-- Where discreet code answers a call, the host answers it the same. -/
theorem discreet_follows (bound : Nat) (callee : Function) (context : CallContext) :
    Follows (Outside.discreet host blind first second bound) (Outside.within host bound)
      (invoke callee context : Evaluation σ Boxed).run := by
  induction bound generalizing callee context with
  | zero => exact fun world out run => run
  | succ bound step =>
      intro world out run
      change (Outside.discreet host blind first second (bound + 1)).call callee context world =
        some out at run
      show (host.callFunction callee context).run (Outside.within host bound) world = some out
      rcases callee with ⟨identity, name, location, body⟩
      cases body with
      | script parameters expr locals =>
          have script : Follows (Outside.discreet host blind first second bound)
              (Outside.within host bound) (host.callFunction
                (.mk identity name location (.script parameters expr locals)) context).run :=
            Follows.lawful.attempt (Follows.lawful.evaluate step context _ expr)
              fun value => Follows.lawful.succeed _
          exact script world out (Option.ite_none_right_eq_some.mp run).2
      | markBinding => exact run
      | host id => exact (Option.ite_none_right_eq_some.mp run).2
      | typed type id => exact (Option.ite_none_right_eq_some.mp run).2

variable {host blind first second}

/-- Discreet code answers a call the same in either scope. -/
theorem discreet_callsAgree (ignorant : host.Ignores blind first second) (bound : Nat) :
    CallsAgree (Outside.discreet host blind first second bound) first second := by
  induction bound with
  | zero => exact fun callee this? arguments => rfl
  | succ bound step =>
      intro callee this? arguments
      funext world
      rcases callee with ⟨identity, name, location, body⟩
      cases body with
      | script parameters expr locals =>
          apply ite_congr rfl
          · intro agree
            exact congrFun (attempt_congr (evaluate_congr step expr agree) fun _ => rfl) world
          · exact fun _ => rfl
      | markBinding => rfl
      | host id =>
          apply ite_congr rfl
          · intro blindly
            show (host.callFunction _ _).run _ _ = (host.callFunction _ _).run _ _
            unfold Host.callFunction
            dsimp only [Function.body]
            rw [ignorant.call id blindly]
          · exact fun _ => rfl
      | typed type id =>
          apply ite_congr rfl
          · intro blindly
            show (host.callFunction _ _).run _ _ = (host.callFunction _ _).run _ _
            unfold Host.callFunction
            dsimp only [Function.body]
            rw [ignorant.callTyped id blindly]
          · exact fun _ => rfl

end Discreet

/-! ## Arrows -/

/-- The function that an arrow stands for, under the locals around it. -/
def arrow (identity : Nat) (parameters : List String) (body : Expr) (location : Location)
    (locals : List (String × Value)) : Function :=
  .mk identity "<arrow>" location (.script parameters body locals)

/-- What a call of an arrow evaluates: the body under the parameters and the locals it kept. -/
def arrowBody (parameters : List String) (body : Expr) (locals : List (String × Value))
    (call : CallContext) : Evaluation σ Boxed := do
  return .dynamic (← evaluate call (parameterValues parameters call ++ locals) body)

/-- A recorded call of an arrow is a recorded evaluation of its body in the scope of the caller. -/
theorem recording_arrow (host : Host σ) (identity : Nat) (parameters : List String) (body : Expr)
    (location : Location) (locals : List (String × Value)) (call : CallContext) (bound : Nat)
    (world : World σ) :
    runWithin (bound + 1) host
        (recording (invoke (arrow identity parameters body location locals) call).run) world =
      runWithin bound host (recording (arrowBody parameters body locals call).run) world := by
  unfold runWithin
  show recording _ _ world = recording _ _ world
  rw [apply_recording, apply_recording]
  rfl

/--
Arrow functions are lexically scoped as far as the scope of the caller agrees
with their own.

An arrow evaluates to a function that keeps the locals around it.  To call it is
to evaluate its body in the scope of the caller, under those locals and the
parameters.  This is the evaluation in the scope that the arrow was written in,
with the same result or exception, reads and world, whenever no script that the
run calls, the arrow itself among them, has a name of its own with different
meanings in the two scopes.
-/
theorem arrows_are_lexical_where_scopes_agree (host : Host σ) (blind : HostId → Bool)
    (defining calling : Scope) (ignorant : host.Ignores blind defining calling)
    (parameters : List String) (body : Expr) (location : Location)
    (locals : List (String × Value)) :
    (∀ this? arguments outside (world : World σ),
      (evaluate ⟨defining, this?, arguments⟩ locals (.arrow parameters body location)).run
          outside world =
        some (.ok (.function (arrow world.identities parameters body location locals) false),
          { world with identities := world.identities + 1 })) ∧
    (∀ identity (call : CallContext) bound (world : World σ),
      runWithin (bound + 1) host
          (recording (invoke (arrow identity parameters body location locals) call).run) world =
        runWithin bound host (recording (arrowBody parameters body locals call).run) world) ∧
    ∀ identity this? arguments bound (world : World σ) out,
      recording (invoke (arrow identity parameters body location locals)
          ⟨defining, this?, arguments⟩).run
            (Outside.discreet host blind defining calling (bound + 1)) world = some out →
        runWithin bound host
            (recording (arrowBody parameters body locals ⟨defining, this?, arguments⟩).run)
            world = some out ∧
          runWithin (bound + 1) host
            (recording (invoke (arrow identity parameters body location locals)
              ⟨calling, this?, arguments⟩).run) world = some out := by
  refine ⟨fun _ _ _ _ => rfl, fun identity call bound world =>
    recording_arrow host identity parameters body location locals call bound world, ?_⟩
  intro identity this? arguments bound world out run
  have answers := fun scope => (discreet_follows host blind defining calling (bound + 1)
    (arrow identity parameters body location locals) ⟨scope, this?, arguments⟩).recording world out
  refine ⟨(recording_arrow host identity parameters body location locals _ bound world).symm.trans
    (answers defining run), answers calling ?_⟩
  rw [← run, apply_recording, apply_recording]
  exact congrArg _ (congrFun (discreet_callsAgree ignorant (bound + 1) _ this? arguments) _).symm

/-! ## Lent scopes -/

/-- A world with one box, of width zero, and a notifier. -/
def lendingWorld : World Unit :=
  { boxWorld 7 8 with notifiers := [{ label := "n", value := .int 3 }] }

/-- The scope of an arrow. -/
def ownScope : Scope :=
  (Scope.empty.withNotifier "n" 0).withId "own" ⟨0, 0⟩

/-- A scope that an arrow is lent; it has the notifier in common with the other. -/
def lentScope : Scope :=
  ((Scope.empty.withNotifier "n" 0).withId "lent" ⟨0, 0⟩).withObject ⟨0, 0⟩

/-- Without the name in the lent scope the arrow that uses it throws. -/
example :
    runWithin 1 Host.silent (recording (invoke (arrow 0 [] (.name "n") .none [])
        ⟨Scope.empty.withId "lent" ⟨0, 0⟩, none, []⟩).run) lendingWorld =
      some ((.error (.undefinedName "n"), []), lendingWorld) := rfl

/-- An arrow that calls another one with what it kept gets what it means at home. -/
theorem common_names_keep_their_meaning :
    runWithin 2 Host.silent
        (recording (invoke
          (arrow 6 ["f"] (.call (.name "f") [.name "k", .member .this "width"]) .none
            [("k", .string "kept")])
          ⟨lentScope, some ⟨0, 0⟩,
            [.function (arrow 7 ["x", "y"] (.array [.name "n", .name "x", .name "y"]) .none [])
              false]⟩).run) lendingWorld =
      some ((.ok (.dynamic (.array (some 8) [.int 3, .string "kept", .int 0])),
          [.property ⟨0, 0⟩ 0, .notifier 0]), { lendingWorld with identities := 9 }) :=
  ((arrows_are_lexical_where_scopes_agree Host.silent (fun _ => true) ownScope lentScope
    ⟨fun _ _ _ _ => rfl, fun _ _ _ _ => rfl⟩ ["f"]
    (.call (.name "f") [.name "k", .member .this "width"]) .none [("k", .string "kept")]).2.2
      6 (some ⟨0, 0⟩) _ 1 lendingWorld _ (by rfl)).2

end Engine

end PropertyBinding
