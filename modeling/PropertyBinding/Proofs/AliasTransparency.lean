import PropertyBinding.Proofs.Capture

namespace PropertyBinding

/-!
# Access through an alias

An operation on a property follows the alias chain first, and goes on with the
property that it ends at.  So it does not matter by which name of a chain the
operation is called: from the same world, and with the same code outside, it gives
the same result and leaves the same world, with the same cells, writers, interceptors
and edges.

The exception is the assignment of a literal.  It chooses the form of the value by
what the class says about the name it is given, before it follows the chain.  The
script form that an open slot asks for is therefore chosen under the slot's own name
only, and under the name of an alias a literal that is no script value is refused.
-/

/-- A value whose arrays all have an identity already. -/
def Value.IsPlaced (value : Value) : Prop :=
  ∀ next, value.place next = (value, next)

namespace ObjectGraph

variable {graph : ObjectGraph} {ref target : PropertyRef} {depth : Nat}

/-- The end of an alias chain is its own end. -/
theorem resolve_resolved (resolved : graph.resolve ref depth = .ok target) (other : Nat) :
    graph.resolve target other = .ok target := by
  rcases not_alias_of_resolve resolved with ⟨property, described, direct⟩
  exact resolve_of_direct described direct other

/-- A name that resolves is described by its class. -/
theorem property_of_resolve (resolved : graph.resolve ref depth = .ok target) :
    ∃ property, graph.property ref = .ok property := by
  cases described : graph.property ref with
  | ok property => exact ⟨property, rfl⟩
  | error error =>
      simp [ObjectGraph.resolve, ObjectGraph.follow, described, bind, Except.bind] at resolved

/-- A name that resolves to another is the name of an alias, which is no open slot. -/
theorem not_var_of_resolve {property : Property} (described : graph.property ref = .ok property)
    (resolved : graph.resolve ref depth = .ok target) (different : ref ≠ target) :
    property.isVar = false := by
  cases pointer : property.isAlias with
  | false =>
      rw [resolve_of_direct described pointer depth] at resolved
      cases resolved
      exact absurd rfl different
  | true =>
      have storage : property.storage = .alias := by simpa [Property.isAlias] using pointer
      simp [Property.isVar, storage]

end ObjectGraph

namespace Engine

variable {σ α : Type} {world : World σ} {ref target : PropertyRef} {property : Property}

/-- Two operations that do the same from a world, whatever code is outside. -/
def Alike (world : World σ) (first second : Engine σ α) : Prop :=
  ∀ outside, first outside world = second outside world

namespace Alike

variable {β ε : Type} {first second : Engine σ α}

theorem refl (operation : Engine σ α) : Alike world operation operation := fun _ => rfl

theorem symm (alike : Alike world first second) : Alike world second first :=
  fun outside => (alike outside).symm

theorem trans {third : Engine σ α} (left : Alike world first second)
    (right : Alike world second third) : Alike world first third :=
  fun outside => (left outside).trans (right outside)

/-- What comes after two operations that do the same makes no difference. -/
theorem attempt {first second : Attempt ε σ α} (alike : Alike world first.run second.run)
    (next : α → Attempt ε σ β) : Alike world (first >>= next).run (second >>= next).run := by
  intro outside
  show (first.run outside world).bind _ = (second.run outside world).bind _
  rw [alike outside]

/-- A question that the graph answers is as good as its answer. -/
theorem answered {question : ObjectGraph → Except ε α} {answer : α}
    (known : question world.graph = .ok answer) (next : α → Attempt ε σ β) :
    Alike world (Attempt.ask question >>= next).run (next answer).run := by
  intro outside
  rw [apply_ask, known]

end Alike

/-- What goes on from the end of an alias chain goes on alike under both names. -/
theorem alike_of_resolve {next : PropertyRef → Attempt PropertyError σ α}
    (resolved : world.graph.resolve ref defaultAliasDepth = .ok target) :
    Alike world (resolve ref >>= next).run (resolve target >>= next).run :=
  (Alike.answered resolved next).trans
    (Alike.answered (ObjectGraph.resolve_resolved resolved defaultAliasDepth) next).symm

/-- All accesses but the assignment of a literal do the same under two names. -/
structure Interchangeable (world : World σ) (first second : PropertyRef) : Prop where
  read : Alike world (read first).run (read second).run
  readValue : Alike world (readValue first).run (readValue second).run
  peek : Alike world (peek first).run (peek second).run
  write : ∀ value flags, Alike world (write first value flags).run (write second value flags).run
  writeVar : ∀ value flags,
    Alike world (writeVar first value flags).run (writeVar second value flags).run
  reset : ∀ flags, Alike world (reset first flags).run (reset second flags).run
  installInterceptor : ∀ id,
    Alike world (installInterceptor first id).run (installInterceptor second id).run
  removeInterceptor : Alike world (removeInterceptor first) (removeInterceptor second)
  hasInterceptor : Alike world (hasInterceptor first) (hasInterceptor second)

/-- A name can be exchanged for the one that it resolves to. -/
theorem interchangeable_of_resolve
    (resolved : world.graph.resolve ref defaultAliasDepth = .ok target) :
    Interchangeable world ref target := by
  have settled := ObjectGraph.resolve_resolved resolved defaultAliasDepth
  have reads : Alike world (read ref).run (read target).run := alike_of_resolve resolved
  constructor
  case read => exact reads
  case readValue => exact reads.attempt _
  case peek =>
    intro outside
    show some (world.graph.peek ref defaultAliasDepth, world) =
      some (world.graph.peek target defaultAliasDepth, world)
    rw [ObjectGraph.peek, ObjectGraph.peek, resolved, settled]
  case write => exact fun _ _ => alike_of_resolve resolved
  case writeVar => exact fun _ _ => alike_of_resolve resolved
  case reset => exact fun _ => alike_of_resolve resolved
  case installInterceptor => exact fun _ => alike_of_resolve resolved
  case removeInterceptor =>
    intro outside
    simp only [removeInterceptor, apply_bind, apply_graph, Option.bind_some, resolved, settled]
  case hasInterceptor =>
    intro outside
    simp only [hasInterceptor, apply_bind, apply_graph, Option.bind_some, resolved, settled]

/-! ## Assignments -/

/-- An assignment under the name of a property that is no open slot is a write. -/
theorem assign_alike_write (described : world.graph.property ref = .ok property)
    (closed : property.isVar = false) (value : Native) :
    Alike world (assign ref value).run (write ref value .none).run := by
  refine (Alike.answered described _).trans ?_
  rw [closed]
  exact .refl _

/-- An assignment under the name of an open slot is a write of the script form. -/
theorem assign_alike_writeVar (described : world.graph.property ref = .ok property)
    (slotted : property.isVar = true) (value : Native) :
    Alike world (assign ref value).run
      (Attempt.perform (place value.toValue) >>= fun placed => writeVar ref placed .none).run := by
  refine (Alike.answered described _).trans ?_
  rw [slotted]
  exact .refl _

/-- A write to an open slot takes a script value as it is and refuses every other. -/
theorem write_alike_slot (resolved : world.graph.resolve ref defaultAliasDepth = .ok target)
    (described : world.graph.property target = .ok property) (slotted : property.isVar = true)
    (value : Native) (flags : WriteFlags) :
    Alike world (write ref value flags).run
      (match value with
        | .script content => writeVar ref content flags
        | _ => throw (PropertyError.typeMismatch property.name "var")).run := by
  refine (Alike.answered resolved _).trans ((Alike.answered described _).trans ?_)
  rw [slotted]
  cases value with
  | script content =>
      exact (Alike.answered resolved fun stored => storeVar stored content flags).symm
  | _ => exact .refl _

/-- Under its own name an open slot takes the script form of a literal as both names do. -/
theorem assign_slot_alike (resolved : world.graph.resolve ref defaultAliasDepth = .ok target)
    (described : world.graph.property target = .ok property) (slotted : property.isVar = true)
    (value : Native) :
    Alike world (assign target value).run
      (Attempt.perform (place value.toValue) >>= fun placed => writeVar ref placed .none).run := by
  refine (assign_alike_writeVar described slotted value).trans ?_
  intro outside
  let placed : World σ := { world with identities := (value.toValue.place world.identities).2 }
  have still : placed.graph.resolve ref defaultAliasDepth = .ok target := resolved
  rw [apply_perform, apply_perform]
  exact (alike_of_resolve still outside).symm

/--
An alias is transparent for all accesses, except that the assignment of a literal
that is no script value is refused under the name of an alias of an open slot,
while under the slot's own name its script form is written.
-/
theorem alias_transparent_but_literals
    (resolved : world.graph.resolve ref defaultAliasDepth = .ok target) :
    Interchangeable world ref target ∧
    ∃ property, world.graph.property target = .ok property ∧
      (property.isVar = false → ∀ value,
        Alike world (assign ref value).run (assign target value).run) ∧
      (property.isVar = true → ref ≠ target →
        (∀ content : Value, content.IsPlaced →
          Alike world (assign ref (.script content)).run (assign target (.script content)).run) ∧
        (∀ value : Native, (∀ content, value ≠ .script content) →
          Alike world (assign ref value).run
              (pure (.error (.typeMismatch property.name "var"))) ∧
            Alike world (assign target value).run
              (Attempt.perform (place value.toValue) >>= fun placed =>
                writeVar ref placed .none).run)) := by
  rcases ObjectGraph.not_alias_of_resolve resolved with ⟨property, described, direct⟩
  rcases ObjectGraph.property_of_resolve resolved with ⟨given, named⟩
  have writes : ∀ value, Alike world (write ref value .none).run (write target value .none).run :=
    fun value => (interchangeable_of_resolve resolved).write value .none
  refine ⟨interchangeable_of_resolve resolved, property, described, fun closed value => ?_,
    fun slotted different => ?_⟩
  · by_cases same : ref = target
    · rw [same]
      exact .refl _
    · have pointer := ObjectGraph.not_var_of_resolve named resolved same
      exact (assign_alike_write named pointer value).trans
        ((writes value).trans (assign_alike_write described closed value).symm)
  · have pointer := ObjectGraph.not_var_of_resolve named resolved different
    have refuses : ∀ value, Alike world (assign ref value).run _ := fun value =>
      (assign_alike_write named pointer value).trans
        (write_alike_slot resolved described slotted value .none)
    refine ⟨fun content placed => ?_, fun value literal => ⟨?_, ?_⟩⟩
    · refine (refuses (.script content)).trans (Alike.trans ?_
        (assign_slot_alike resolved described slotted (.script content)).symm)
      intro outside
      rw [apply_perform]
      show _ = (writeVar ref (content.place world.identities).1 .none).run outside
        { world with identities := (content.place world.identities).2 }
      rw [placed world.identities]
    · refine (refuses value).trans ?_
      cases value with
      | script content => exact absurd rfl (literal content)
      | _ => exact .refl _
    · exact assign_slot_alike resolved described slotted value

section Slot

/-! ## An alias of an open slot -/

/-- A class with an open slot and an alias. -/
def slotSchema : Schema :=
  Schema.empty.defineClass "Note" none [.var "content", .aliased "text" .var]

/-- Makes a note with the alias on the slot. -/
def prepareNote : Attempt PropertyError Unit Unit := do
  let note ← Attempt.perform (create 0 none)
  setAlias ⟨note, 1⟩ ⟨note, 0⟩

/-- The note with the alias on the slot. -/
def note : World Unit :=
  ((runWithin 0 Host.silent prepareNote.run (.initial slotSchema ())).map Prod.snd).getD
    (.initial slotSchema ())

/--
Under the name of the alias a number is refused, which the slot takes under its own
name; everything else is the same under both names.
-/
theorem note_refuses_literal :
    note.graph.resolve ⟨⟨0, 0⟩, 1⟩ defaultAliasDepth = .ok ⟨⟨0, 0⟩, 0⟩ ∧
    Interchangeable note ⟨⟨0, 0⟩, 1⟩ ⟨⟨0, 0⟩, 0⟩ ∧
    Alike note (assign ⟨⟨0, 0⟩, 1⟩ (.int 7)).run
      (pure (.error (.typeMismatch "content" "var"))) ∧
    ∃ after, runWithin 0 Host.silent (assign ⟨⟨0, 0⟩, 0⟩ (.int 7)).run note =
      some (.ok (), after) := by
  have resolved : note.graph.resolve ⟨⟨0, 0⟩, 1⟩ defaultAliasDepth = .ok ⟨⟨0, 0⟩, 0⟩ := rfl
  rcases alias_transparent_but_literals resolved with ⟨same, property, described, _, slotted⟩
  cases described
  exact ⟨resolved, same, ((slotted rfl (by decide)).2 (.int 7) (by simp)).1, _,
    by with_unfolding_all rfl⟩

end Slot

end Engine

end PropertyBinding
