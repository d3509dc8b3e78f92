import PropertyBinding.Proofs.Looking
import PropertyBinding.Proofs.Tracking

namespace PropertyBinding

/-!
# Runs that reflect each other

Two worlds can hold the same under different identities, and an expression cannot tell
one from the other: it gives the same in both, under different identities.  What it means
for two worlds to hold the same is left open here.  Whatever it means, the worlds have to
answer alike about the shape of their graphs, to give alike what is read in them, and to go
on with new identities alike.  There is one lemma for each way in which an evaluation looks
at the world, and an induction over the syntax puts them together.
-/

namespace Engine

variable {σ α β γ δ ε : Type} {related : World σ → World σ → Prop} {outside : Outside σ}

/-- Whether the second of two ends is the first under a change, in worlds that hold the same. -/
inductive Corresponds (related : World σ → World σ → Prop) (change : α → β) :
    Option (α × World σ) → Option (β × World σ) → Prop
  | endless : Corresponds related change none none
  | ends {result : α} {after later : World σ} (relates : related after later) :
      Corresponds related change (some (result, after)) (some (change result, later))

theorem Corresponds.of_eq {change : α → β} {result : α} {given : β} {after later : World σ}
    (same : given = change result) (relates : related after later) :
    Corresponds related change (some (result, after)) (some (given, later)) :=
  same ▸ .ends relates

/-- In worlds that hold the same the second operation does what the first does, under a change. -/
def Reflects (related : World σ → World σ → Prop) (outside : Outside σ) (change : α → β)
    (operation : Engine σ α) (reflected : Engine σ β) : Prop :=
  ∀ world other, related world other →
    Corresponds related change (operation outside world) (reflected outside other)

namespace Reflects

theorem value (change : α → β) (result : α) :
    Reflects related outside change (pure result) (pure (change result)) :=
  fun _ _ relates => .ends relates

theorem succeed (change : α → β) (result : α) :
    Reflects related outside (Except.map change) (pure result : Attempt ε σ α).run
      (pure (change result) : Attempt ε σ β).run :=
  value (Except.map change) (Except.ok result)

theorem fail (change : α → β) (error : ε) :
    Reflects related outside (Except.map change) (throw error : Attempt ε σ α).run
      (throw error : Attempt ε σ β).run :=
  value (Except.map change) (Except.error error)

theorem bind {change : α → β} {change' : γ → δ} {operation : Engine σ α} {reflected : Engine σ β}
    {next : α → Engine σ γ} {next' : β → Engine σ δ}
    (start : Reflects related outside change operation reflected)
    (rest : ∀ result, Reflects related outside change' (next result) (next' (change result))) :
    Reflects related outside change' (operation >>= next) (reflected >>= next') := by
  intro world other relates
  have first := start world other relates
  rw [apply_bind, apply_bind]
  generalize operation outside world = out, reflected outside other = out' at first ⊢
  cases first with
  | endless => exact .endless
  | ends relates => exact rest _ _ _ relates

/-- What only depends on the shape of the graph may be done with the graph. -/
theorem look {change : α → β} {next : ObjectGraph → Engine σ α} {next' : ObjectGraph → Engine σ β}
    (shapes : ∀ world other, related world other → world.graph.SameShape other.graph)
    (shape : ∀ left right, ObjectGraph.SameShape left right → next' left = next' right)
    (each : ∀ graph, Reflects related outside change (next graph) (next' graph)) :
    Reflects related outside change (graph >>= next) (graph >>= next') := by
  intro world other relates
  show Corresponds related change (next world.graph outside world)
    (next' other.graph outside other)
  rw [← shape _ _ (shapes world other relates)]
  exact each world.graph world other relates

theorem attempt {change : α → β} {change' : γ → δ} {operation : Attempt ε σ α}
    {reflected : Attempt ε σ β} {next : α → Attempt ε σ γ} {next' : β → Attempt ε σ δ}
    (start : Reflects related outside (Except.map change) operation.run reflected.run)
    (rest : ∀ result, Reflects related outside (Except.map change') (next result).run
      (next' (change result)).run) :
    Reflects related outside (Except.map change') (operation >>= next).run
      (reflected >>= next').run := by
  refine .bind start fun outcome => ?_
  cases outcome with
  | ok result => exact rest result
  | error error => exact fail change' error

theorem map {change : α → β} {change' : γ → δ} {operation : Engine σ α} {reflected : Engine σ β}
    {after : α → γ} {after' : β → δ} (start : Reflects related outside change operation reflected)
    (same : ∀ result, change' (after result) = after' (change result)) :
    Reflects related outside change' (after <$> operation) (after' <$> reflected) := by
  show Reflects related outside change' (operation >>= fun result => pure (after result))
    (reflected >>= fun result => pure (after' result))
  refine bind start fun result => ?_
  rw [← same]
  exact value change' (after result)

theorem lift {change : α → β} {operation : Engine σ α} {reflected : Engine σ β}
    (start : Reflects related outside change operation reflected) :
    Reflects related outside (Except.map change) (Attempt.perform operation : Attempt ε σ α).run
      (Attempt.perform reflected : Attempt ε σ β).run :=
  map start fun _ => rfl

theorem perform {change : α → β} {change' : γ → δ} {operation : Engine σ α}
    {reflected : Engine σ β} {next : α → Attempt ε σ γ} {next' : β → Attempt ε σ δ}
    (start : Reflects related outside change operation reflected)
    (rest : ∀ result, Reflects related outside (Except.map change') (next result).run
      (next' (change result)).run) :
    Reflects related outside (Except.map change') (Attempt.perform operation >>= next).run
      (Attempt.perform reflected >>= next').run :=
  .attempt (lift start) rest

theorem adapt {ε' : Type} {change : α → β} {operation : Attempt ε σ α}
    {reflected : Attempt ε σ β} (rename : ε → ε')
    (inner : Reflects related outside (Except.map change) operation.run reflected.run) :
    Reflects related outside (Except.map change) (ExceptT.adapt rename operation).run
      (ExceptT.adapt rename reflected).run := by
  refine map inner fun outcome => ?_
  cases outcome <;> rfl

end Reflects

/-- What has to be the same of worlds for expressions to do the same in them under a renaming. -/
structure Reflection (names : Nat → Nat) (room : Nat) (related : World σ → World σ → Prop) :
    Prop where
  distinguishes : Distinguishes names
  shape : ∀ world other, related world other → world.graph.SameShape other.graph
  /-- What a source holds is renamed. -/
  stored : ∀ world other, related world other → ∀ ref value, world.graph.stored ref = .ok value →
    other.graph.stored ref = .ok (value.rename names)
  notified : ∀ world other, related world other → ∀ id : NotifierId,
    ((other.notifiers[id]?).map Notifier.value).getD .undefined =
      (((world.notifiers[id]?).map Notifier.value).getD .undefined).rename names
  /-- A new identity is renamed to a new one. -/
  identities : ∀ world other, related world other → other.identities = world.identities + room ∧
    Advances names room world.identities
  issues : ∀ world other, related world other → ∀ next, world.identities ≤ next →
    related { world with identities := next } { other with identities := next + room }
  capture : ∀ world other, related world other → ∀ source,
    related (world.capture source) (other.capture source)

/-! ## Renamed parts of evaluations -/

section Parts

open Script Evaluation

variable (names : Nat → Nat)

theorem length?_rename (value : Value) :
    length? (value.rename names) = length? value := by
  cases value with
  | array identity items => simp only [Value.rename, length?, Value.renameAll_eq_map, List.length_map]
  | _ => rfl

theorem recordMember_rename (schema : Schema) (record : Record)
    (name : String) : (recordMember schema record name).rename names = recordMember schema record name := by
  unfold recordMember
  cases (schema.records[record.type]?).bind fun info =>
    (info.field? name).bind (record.fields[·]?) with
  | none => rfl
  | some number => exact numberValue_rename names number

theorem argument_rename (context : CallContext) (index : Nat) :
    (context.rename names).argument index = (context.argument index).rename names := by
  unfold CallContext.argument CallContext.rename
  rw [List.getElem?_map]
  cases context.arguments[index]? <;> rfl

theorem parameterValues_rename (parameters : List String)
    (context : CallContext) :
    parameterValues parameters (context.rename names) =
      Value.renameLocals names (parameterValues parameters context) := by
  simp [parameterValues, argument_rename]

theorem receiverObject?_rename (context : CallContext) (receiver : Value) :
    receiverObject? (context.rename names) (receiver.rename names) =
      receiverObject? context receiver := by
  cases receiver <;> rfl

end Parts

variable {names : Nat → Nat} {room : Nat}

/-! ## Ways to look at the world -/

section Looks

variable (reflection : Reflection names room related)
include reflection

theorem look_reflects {change : α → β} {next : ObjectGraph → Attempt ε σ α}
    {next' : ObjectGraph → Attempt ε σ β}
    (shape : ∀ left right, ObjectGraph.SameShape left right → next' left = next' right)
    (each : ∀ graph, Reflects related outside (Except.map change) (next graph).run
      (next' graph).run) :
    Reflects related outside (Except.map change) (Attempt.perform graph >>= next).run
      (Attempt.perform graph >>= next').run :=
  Reflects.look reflection.shape (fun left right same => congrArg ExceptT.run (shape left right same))
    each

theorem freshIdentity_reflects : Reflects related outside names (freshIdentity : Engine σ Nat)
    freshIdentity := by
  intro world other relates
  rcases reflection.identities world other relates with ⟨later, advances⟩
  refine .of_eq ?_ ?_
  · show other.identities = names world.identities
    rw [later, advances _ (Nat.le_refl _)]
  · have issued := reflection.issues world other relates _ (Nat.le_succ _)
    rw [Nat.succ_eq_add_one, Nat.add_right_comm, ← later] at issued
    exact issued

theorem place_reflects (value : Value) : Reflects related outside (Value.rename names)
    (place value : Engine σ Value) (place (value.rename names)) := by
  intro world other relates
  rcases reflection.identities world other relates with ⟨later, advances⟩
  have placed := Value.place_rename advances value
  rw [← later] at placed
  refine .of_eq ?_ ?_
  · show ((value.rename names).place other.identities).1 = _
    rw [placed]
  · have issued := reflection.issues world other relates _ (value.le_place world.identities)
    show related _ { other with identities := ((value.rename names).place other.identities).2 }
    rw [placed]
    exact issued

theorem capture_reflects (source : Source) : Reflects related outside id (capture source : Engine σ Unit)
    (capture source) := by
  intro world other relates
  rw [capture_steps, capture_steps]
  exact .of_eq rfl (reflection.capture world other relates source)

theorem read_reflects (ref : PropertyRef) : Reflects related outside (Except.map (Native.rename names))
    (read ref : Attempt PropertyError σ Native).run (read ref).run := by
  intro world other relates
  have shape := reflection.shape world other relates
  rw [read_steps world ref outside, read_steps other ref outside]
  cases found : world.graph.found ref with
  | error error =>
      rw [World.found_error shape found]
      exact .of_eq rfl relates
  | ok pair =>
      rcases pair with ⟨source, value⟩
      rcases ObjectGraph.property_of_found found with
        ⟨target, property, resolved, described, stored, rfl⟩
      rw [shape.resolve] at resolved
      rw [shape.property] at described
      rcases ObjectGraph.found_of_property resolved described with ⟨value', stored', found'⟩
      rw [reflection.stored world other relates target value stored] at stored'
      cases stored'
      rw [found']
      exact .of_eq rfl (reflection.capture world other relates _)

theorem readValue_reflects (ref : PropertyRef) :
    Reflects related outside (Except.map (Value.rename names))
      (readValue ref : Attempt PropertyError σ Value).run (readValue ref).run := by
  refine .attempt (read_reflects reflection ref) fun value => ?_
  rw [Native.toValue_rename]
  exact .lift (place_reflects reflection value.toValue)

theorem readNotifier_reflects (id : NotifierId) :
    Reflects related outside (Value.rename names) (readNotifier id : Engine σ Value)
      (readNotifier id) := by
  refine .bind (capture_reflects reflection _) fun _ => ?_
  intro world other relates
  exact .of_eq (reflection.notified world other relates id) relates

open Script Evaluation

theorem context_reflects {next : TypeContext → Evaluation σ α} {next' : TypeContext → Evaluation σ β}
    {change : α → β}
    (each : ∀ types, Reflects related outside (Except.map change) (next types).run
      (next' types).run) :
    Reflects related outside (Except.map change)
      (Attempt.perform Evaluation.context >>= next).run
      (Attempt.perform Evaluation.context >>= next').run := by
  show Reflects related outside (Except.map change)
    (Attempt.perform graph >>= fun graph => next graph.context).run
    (Attempt.perform graph >>= fun graph => next' graph.context).run
  refine look_reflects reflection (fun left right shape => ?_) fun graph => each graph.context
  rw [shape.context]

theorem objectMember_reflects (id : ObjectId) (name : String) :
    Reflects related outside (Except.map (Value.rename names))
      (objectMember id name : Evaluation σ Value).run (objectMember id name).run := by
  refine look_reflects reflection (fun left right shape => ?_) fun graph => ?_
  · rw [shape.isAlive, shape.propertyIndex]
  · split
    · split
      · exact .adapt _ (readValue_reflects reflection _)
      · exact .succeed _ _
    · exact .fail _ _

theorem lookup_reflects (context : CallContext) (name : String) :
    Reflects related outside (Except.map (Value.rename names))
      (lookup context name : Evaluation σ Value).run
      (lookup (context.rename names) name).run := by
  unfold lookup CallContext.rename
  dsimp only
  split
  · exact .succeed _ _
  · exact .lift (readNotifier_reflects reflection _)
  · refine look_reflects reflection (fun left right shape => ?_) fun graph => ?_
    · rw [Lawful.findProperty?_congr shape]
    · split
      · exact .adapt _ (readValue_reflects reflection _)
      · exact .fail _ _

theorem bindingHelper_reflects :
    Reflects related outside (Value.rename names)
      (bindingHelper : Engine σ Value) bindingHelper :=
  .bind (freshIdentity_reflects reflection) fun identity =>
    .value (Value.rename names)
      (.function (.mk identity "binding" .none .markBinding) false)

theorem name_reflects (context : CallContext) (locals : List (String × Value)) (name : String) :
    Reflects related outside (Except.map (Value.rename names))
      (Evaluation.name context locals name : Evaluation σ Value).run
      (Evaluation.name (context.rename names)
        (Value.renameLocals names locals) name).run := by
  have located : (Value.renameLocals names locals).find?
      (fun entry => decide (entry.1 = name)) =
        (locals.find? fun entry => decide (entry.1 = name)).map
          fun entry => (entry.1, entry.2.rename names) := by
    rw [Value.renameLocals_eq_map, List.find?_map]
    rfl
  unfold Evaluation.name
  rw [located]
  cases locals.find? fun entry => decide (entry.1 = name) with
  | some entry => exact .succeed _ entry.2
  | none =>
      dsimp only [Option.map_none]
      split
      · refine .bind (lookup_reflects reflection context name) fun outcome => ?_
        cases outcome with
        | ok value => exact .succeed _ value
        | error error => exact .bind (bindingHelper_reflects reflection) fun helper => .succeed _ helper
      · exact lookup_reflects reflection context name

/-- The member that a length is, `undefined` where there is none. -/
def lengthMember : Option Nat → Evaluation σ Value
  | some length => return .int (Int32.ofNat length)
  | none => return .undefined

theorem member_reflects (value : Value) (name : String) :
    Reflects related outside (Except.map (Value.rename names))
      (member value name : Evaluation σ Value).run
      (member (value.rename names) name).run := by
  refine context_reflects reflection fun context => ?_
  rw [Value.unwrapped_rename]
  have plain : ∀ other : Value, Reflects related outside
      (Except.map (Value.rename names))
      (if other.isNullish then
        throw (.noMembers name (displayValue context other))
      else
        lengthMember (if name = "length" then length? other else none) : Evaluation σ Value).run
      (if (other.rename names).isNullish then
        throw (.noMembers name (displayValue context (other.rename names)))
      else
        lengthMember (if name = "length" then length? (other.rename names) else none) :
        Evaluation σ Value).run := by
    intro other
    rw [Value.isNullish_rename, displayValue_rename, length?_rename]
    split
    · exact .fail _ _
    · unfold lengthMember
      split
      · exact .succeed _ (Value.int _)
      · exact .succeed _ Value.undefined
  cases value.unwrapped with
  | object id => exact objectMember_reflects reflection id name
  | record record =>
      have given := recordMember_rename names context.schema record name
      have same := @Reflects.succeed σ _ _ Exception related outside
        (Value.rename names) (recordMember context.schema record name)
      rw [given] at same
      exact same
  | _ => exact plain _

theorem select_reflects (value key : Value) :
    Reflects related outside (Except.map (Value.rename names))
      (select value key : Evaluation σ Value).run
      (select (value.rename names) (key.rename names)).run := by
  refine context_reflects reflection fun context => ?_
  rw [displayValue_rename]
  cases value with
  | array identity items =>
      simp only [Value.rename, Value.renameAll_eq_map, item_rename]
      exact .succeed _ (item items key)
  | _ => exact member_reflects reflection _ _

omit reflection in
theorem requireFunction_reflects (value : Value) :
    Reflects related outside (Except.map (Function.rename names))
      (requireFunction value : Evaluation σ Function).run
      (requireFunction (value.rename names)).run := by
  unfold requireFunction
  rw [Value.unwrapped_rename, Value.function?_rename]
  cases value.unwrapped.function? with
  | some callee => exact .succeed _ callee
  | none => exact .fail _ _

/-- The functions that scripts call do the same under other identities. -/
def CallsReflect (names : Nat → Nat) (related : World σ → World σ → Prop) (outside : Outside σ) :
    Prop :=
  ∀ callee context, Reflects related outside (Except.map (Boxed.rename names))
    (invoke callee context : Evaluation σ Boxed).run
    (invoke (callee.rename names) (context.rename names)).run

theorem call_reflects (calls : CallsReflect names related outside) (context : CallContext)
    (callee : Function) (this? : Option ObjectId) (arguments : List Value) :
    Reflects related outside (Except.map (Value.rename names))
      (call context callee this? arguments : Evaluation σ Value).run
      (call (context.rename names) (callee.rename names) this?
        (arguments.map (Value.rename names))).run := by
  refine .attempt (calls callee _) fun result => ?_
  rw [Boxed.toValue_rename]
  exact .lift (place_reflects reflection result.toValue)

end Looks

/-! ## Expressions -/

section Expressions

open Script Evaluation

mutual

/-- An expression does the same under other identities if the functions it calls do. -/
theorem evaluate_reflects (reflection : Reflection names room related)
    (calls : CallsReflect names related outside) (context : CallContext)
    (locals : List (String × Value)) (expr : Expr) :
    Reflects related outside (Except.map (Value.rename names))
      (evaluate context locals expr : Evaluation σ Value).run
      (evaluate (context.rename names)
        (Value.renameLocals names locals) expr).run := by
  cases expr with
  | literal constant =>
      cases constant <;> exact .succeed (Value.rename names) _
  | array items =>
      simp only [evaluate]
      refine .attempt (evaluateAll_reflects reflection calls context locals items) fun values => ?_
      refine .perform (freshIdentity_reflects reflection) fun identity => ?_
      have made := @Reflects.succeed σ _ _ Exception related outside
        (Value.rename names) (.array (some identity) values)
      rw [Value.rename, Value.renameAll_eq_map] at made
      exact made
  | this =>
      simp only [evaluate, CallContext.rename]
      cases context.this? with
      | none => exact .succeed _ Value.undefined
      | some id => exact .succeed _ (Value.object id)
  | name identifier => exact name_reflects reflection context locals identifier
  | member object identifier =>
      simp only [evaluate]
      exact .attempt (evaluate_reflects reflection calls context locals object) fun value =>
        member_reflects reflection value identifier
  | index object key =>
      simp only [evaluate]
      refine .attempt (evaluate_reflects reflection calls context locals object) fun value => ?_
      rw [Value.unwrapped_rename]
      refine .perform (place_reflects reflection value.unwrapped) fun unwrapped => ?_
      exact .attempt (evaluate_reflects reflection calls context locals key) fun selector =>
        select_reflects reflection unwrapped selector
  | call target arguments =>
      have values := evaluateAll_reflects reflection calls context locals arguments
      by_cases method : ∃ object identifier, target = .member object identifier
      · rcases method with ⟨object, identifier, rfl⟩
        rw [evaluate, evaluate]
        refine .attempt (evaluate_reflects reflection calls context locals object) fun value => ?_
        dsimp only
        rw [Value.unwrapped_rename]
        refine .attempt (member_reflects reflection value.unwrapped identifier) fun found => ?_
        refine .attempt (requireFunction_reflects found) fun callee => ?_
        refine .attempt values fun values => ?_
        rw [receiverObject?_rename]
        exact call_reflects reflection calls context callee _ values
      · have plain : ∀ object identifier, target = .member object identifier → False :=
          fun object identifier same => method ⟨object, identifier, same⟩
        rw [evaluate, evaluate]
        · refine .attempt (evaluate_reflects reflection calls context locals target) fun found => ?_
          refine .attempt (requireFunction_reflects found) fun callee => ?_
          exact .attempt values fun values => call_reflects reflection calls context callee _ values
        · exact plain
        · exact plain
  | unary operator operand =>
      simp only [evaluate]
      refine .attempt (evaluate_reflects reflection calls context locals operand) fun value => ?_
      rw [Value.unwrapped_rename, unary_rename]
      exact .succeed _ (Script.unary operator value.unwrapped)
  | binary operator left right =>
      simp only [evaluate]
      refine .attempt (evaluate_reflects reflection calls context locals left) fun x => ?_
      refine .attempt (evaluate_reflects reflection calls context locals right) fun y => ?_
      refine context_reflects reflection fun types => ?_
      rw [Value.unwrapped_rename, Value.unwrapped_rename, binary_rename reflection.distinguishes]
      exact .succeed _ (Script.binary types operator x.unwrapped y.unwrapped)
  | and left right =>
      simp only [evaluate]
      refine .attempt (evaluate_reflects reflection calls context locals left) fun value => ?_
      rw [Value.truthy_rename]
      split
      · exact evaluate_reflects reflection calls context locals right
      · exact .succeed _ value
  | or left right =>
      simp only [evaluate]
      refine .attempt (evaluate_reflects reflection calls context locals left) fun value => ?_
      rw [Value.truthy_rename]
      split
      · exact .succeed _ value
      · exact evaluate_reflects reflection calls context locals right
  | conditional test yes no =>
      simp only [evaluate]
      refine .attempt (evaluate_reflects reflection calls context locals test) fun value => ?_
      rw [Value.truthy_rename]
      split
      · exact evaluate_reflects reflection calls context locals yes
      · exact evaluate_reflects reflection calls context locals no
  | arrow parameters body location =>
      simp only [evaluate]
      exact .perform (freshIdentity_reflects reflection) fun identity =>
        .succeed (Value.rename names)
          (.function (.mk identity "<arrow>" location (.script parameters body locals)) false)

theorem evaluateAll_reflects (reflection : Reflection names room related)
    (calls : CallsReflect names related outside) (context : CallContext)
    (locals : List (String × Value)) (exprs : List Expr) :
    Reflects related outside (Except.map (List.map (Value.rename names)))
      (evaluateAll context locals exprs : Evaluation σ (List Value)).run
      (evaluateAll (context.rename names)
        (Value.renameLocals names locals) exprs).run := by
  cases exprs with
  | nil => exact .succeed _ []
  | cons expr rest =>
      simp only [evaluateAll]
      refine .attempt (evaluate_reflects reflection calls context locals expr) fun value => ?_
      exact .attempt (evaluateAll_reflects reflection calls context locals rest) fun values =>
        .succeed _ (value :: values)

end

end Expressions

theorem callFunction_reflects (reflection : Reflection names room related)
    (calls : CallsReflect names related outside) (callee : Function)
    (context : Script.CallContext) :
    Reflects related outside (Except.map (Boxed.rename names))
      (Host.mute.callFunction callee context : Script.Evaluation σ Boxed).run
      (Host.mute.callFunction (callee.rename names)
        (context.rename names)).run := by
  rcases callee with ⟨identity, name, location, body⟩
  cases body with
  | script parameters expr locals =>
      have values := parameterValues_rename names parameters context
      have all : Script.Evaluation.parameterValues parameters (context.rename names) ++
          Value.renameLocals names locals =
            Value.renameLocals names
              (Script.Evaluation.parameterValues parameters context ++ locals) := by
        rw [values]
        simp only [Value.renameLocals_eq_map, List.map_append]
      simp only [Host.callFunction, Function.rename, Function.body, FunctionBody.rename, all]
      exact .attempt (evaluate_reflects reflection calls context _ expr) fun value =>
        .succeed _ (Boxed.dynamic value)
  | markBinding =>
      simp only [Host.callFunction, Function.rename, Function.body, FunctionBody.rename,
        argument_rename]
      cases context.argument 0 with
      | function marked _ => exact .succeed _ (Boxed.dynamic (.function marked true))
      | _ => exact .fail _ _
  | host id => exact fun _ _ _ => .endless
  | typed type id => exact fun _ _ _ => .endless

/-- The functions that scripts call do the same under other identities, unless they are of the host. -/
theorem calls_reflect (reflection : Reflection names room related) (bound : Nat) :
    CallsReflect names related (Outside.within (Host.mute : Host σ) bound) := by
  induction bound with
  | zero => exact fun _ _ _ _ _ => .endless
  | succ bound step =>
      intro callee context world other relates
      exact callFunction_reflects reflection step callee context world other relates


end Engine

end PropertyBinding
