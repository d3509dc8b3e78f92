import PropertyBinding.Proofs.Storing
import PropertyBinding.Proofs.Wiring

namespace PropertyBinding

/-!
# Settled bindings

A binding is settled when nothing would change if it were evaluated now: it
follows what its expression reads in the world as it is, and its target holds
what the result is written back to, or its latest failure is the one that the
evaluation or the write-back ends with.

An expression is lawful when it ends, does nothing but read, reads only below
the target, and cannot tell apart inputs that the store takes for equal.  Then a
binding stays settled as long as what it reads keeps its value and what it
writes keeps its plain form.
-/

variable {σ : Type}

/-- What a function reads and gives in a world, whoever is told of the reads. -/
def Observes (host : Host σ) (callee : Function) (context : Script.CallContext) (world : World σ)
    (reads : List Source) (result : Except Script.Exception Boxed) : Prop :=
  ∀ collector?, Evaluates host callee context { world with collector? := collector? } reads result

namespace World

/-- The value whose changes a source announces. -/
def valueOf? (world : World σ) : Source → Option Native
  | .property object signal => (world.graph.cell? ⟨object, signal⟩).map Cell.read
  | .notifier id => (world.notifiers[id]?).map fun notifier => .script notifier.value

/-- Whether a source has the same value in another world, or one that the store takes for equal. -/
def Steady (world other : World σ) (source : Source) : Prop :=
  other.valueOf? source = world.valueOf? source ∨
    ∃ former value, world.valueOf? source = some former ∧ other.valueOf? source = some value ∧
      former.same value = true

end World

/-- Whether a function is fit to be what a binding of a ranked family evaluates. -/
structure LawfulFunction (host : Host σ) (start : World σ) (rank : PropertyRef → Nat) (binding : Binding)
    (callee : Function) : Prop where
  ends : ∀ world : World σ, start.graph.SameShape world.graph →
    ∃ reads result, Observes host callee binding.call world reads result
  climbs : ∀ world : World σ, start.graph.SameShape world.graph → ∀ reads result,
    Observes host callee binding.call world reads result →
      ∀ source ∈ reads, source.level rank < binding.level rank
  respects : ∀ world other : World σ, start.graph.SameShape world.graph →
    start.graph.SameShape other.graph → ∀ reads result,
      Observes host callee binding.call world reads result →
        (∀ source ∈ reads, world.Steady other source) →
          ∃ result', Observes host callee binding.call other reads result' ∧
            result'.map Boxed.plain = result.map Boxed.plain

namespace Binding

/-- The function that a binding evaluates, or why there is none, as far as that is known. -/
def function? (binding : Binding) : Option (Except Script.CompileError Function) :=
  match binding.expression with
  | .function callee => some (.ok callee)
  | .source _ => binding.compiled?

/-- Whether a function, or the error in place of one, is what an evaluation of a binding may find. -/
def MayFind (binding : Binding) : Except Script.CompileError Function → Prop
  | .ok callee => binding.MayCall callee
  | .error error =>
      match binding.expression, binding.compiled? with
      | .function _, _ => False
      | .source _, some known => known = .error error
      | .source source, none => source.compile = .error error

theorem mayFind_of_function? {binding : Binding} {function : Except Script.CompileError Function}
    (known : binding.function? = some function) : binding.MayFind function := by
  cases written : binding.expression with
  | function callee =>
      simp only [function?, written] at known
      cases known
      simp [MayFind, MayCall, written]
  | source source =>
      simp only [function?, written] at known
      cases function <;> simp [MayFind, MayCall, written, known]

/-- Whether the latest failure of a binding is of a kind and has a message. -/
def HasFailed (binding : Binding) (kind : FailureKind) (message : String) : Prop :=
  ∃ failure, binding.error? = some failure ∧ failure.kind = kind ∧ failure.message = message

end Binding

/-- Whether a binding follows what its evaluation would read now, and how that would end, up to plain forms. -/
inductive Computes (host : Host σ) (world : World σ) (binding : Binding) :
    Except Failure Boxed → Prop where
  | uncompiled {error : Script.CompileError} {failure : Failure}
      (function : binding.function? = some (.error error)) (sources : binding.reads.sources = [])
      (kind : failure.kind = .compile) (message : failure.message = error.message) :
      Computes host world binding (.error failure)
  | thrown {callee : Function} {reads : List Source} {error : Script.Exception} {failure : Failure}
      (function : binding.function? = some (.ok callee))
      (observed : Observes host callee binding.call world reads (.error error))
      (sources : binding.reads.sources = reads.eraseDups)
      (kind : failure.kind = .evaluation) (message : failure.message = error.message) :
      Computes host world binding (.error failure)
  | given {callee : Function} {reads : List Source} {value result : Boxed}
      (function : binding.function? = some (.ok callee))
      (observed : Observes host callee binding.call world reads (.ok value))
      (sources : binding.reads.sources = reads.eraseDups) (plain : result.plain = value.plain) :
      Computes host world binding (.ok result)

/-- Whether a world holds what an update of a binding leaves there, given how the evaluation ended. -/
inductive Recorded (world : World σ) (binding : Binding) : Except Failure Boxed → Prop where
  | failed {failure : Failure} (failed : binding.HasFailed failure.kind failure.message) :
      Recorded world binding (.error failure)
  | refused {result : Boxed} {strategy : WriteStrategy} {property : Property} {error : WriteError}
      (chosen : world.adapters[binding.adapter]? = some (some strategy))
      (described : world.graph.property binding.target.property = .ok property)
      (form : strategy.cellOf world.graph.context property result = .error error)
      (failed : binding.HasFailed (error.kind?.getD .property) error.message) :
      Recorded world binding (.ok result)
  | stored {result : Boxed} {strategy : WriteStrategy} {property : Property} {cell stored : Cell}
      (chosen : world.adapters[binding.adapter]? = some (some strategy))
      (described : world.graph.property binding.target.property = .ok property)
      (form : strategy.cellOf world.graph.context property result = .ok cell)
      (succeeded : binding.error? = none)
      (found : world.graph.cell? binding.target.property = some stored)
      (plain : stored.plain = cell.plain) : Recorded world binding (.ok result)

/-- Whether nothing would change if a binding were evaluated now. -/
def Settled (host : Host σ) (world : World σ) (binding : Binding) : Prop :=
  ∃ result, Computes host world binding result ∧ Recorded world binding result

/-! ## What keeps a binding settled -/

/-- What a binding computes depends on its function, its edges, and the values of what it reads. -/
theorem Computes.transfer {host : Host σ} {start world other : World σ} {rank : PropertyRef → Nat}
    {binding changed former : Binding} {result : Except Failure Boxed}
    (computes : Computes host world binding result)
    (lawful : ∀ callee, binding.MayCall callee → LawfulFunction host start rank former callee)
    (call : binding.call = former.call) (shape : start.graph.SameShape world.graph)
    (shape' : start.graph.SameShape other.graph)
    (steady : ∀ source ∈ binding.reads.sources, world.Steady other source)
    (function : changed.function? = binding.function?) (call' : changed.call = former.call)
    (reads : changed.reads.sources = binding.reads.sources) :
    Computes host other changed result := by
  cases computes with
  | uncompiled known sources kind message =>
      exact .uncompiled (function.trans known) (reads.trans sources) kind message
  | thrown known observed sources kind message =>
      rw [call] at observed
      rcases (lawful _ (Binding.mayFind_of_function? known)).respects world other shape shape' _ _
        observed fun source member => steady source (by
          rw [sources]
          exact List.mem_eraseDups.mpr member) with ⟨result, observed', same⟩
      cases result with
      | ok value => cases same
      | error error =>
          cases same
          exact .thrown (function.trans known) (call' ▸ observed') (reads.trans sources) kind message
  | given known observed sources plain =>
      rw [call] at observed
      rcases (lawful _ (Binding.mayFind_of_function? known)).respects world other shape shape' _ _
        observed fun source member => steady source (by
          rw [sources]
          exact List.mem_eraseDups.mpr member) with ⟨result, observed', same⟩
      cases result with
      | error error => cases same
      | ok value =>
          have equal : value.plain = _ := Except.ok.inj same
          exact .given (function.trans known) (call' ▸ observed') (reads.trans sources)
            (plain.trans equal.symm)

/-- What a binding follows ranks below it. -/
theorem Computes.below {host : Host σ} {start world : World σ} {rank : PropertyRef → Nat}
    {binding former : Binding} {result : Except Failure Boxed}
    (computes : Computes host world binding result)
    (lawful : ∀ callee, binding.MayCall callee → LawfulFunction host start rank former callee)
    (call : binding.call = former.call) (shape : start.graph.SameShape world.graph)
    {source : Source} (member : source ∈ binding.reads.sources) :
    source.level rank < former.level rank := by
  have climbs : ∀ {callee reads outcome}, binding.function? = some (.ok callee) →
      Observes host callee binding.call world reads outcome →
        binding.reads.sources = reads.eraseDups → source.level rank < former.level rank := by
    intro callee reads outcome known observed sources
    rw [sources] at member
    exact (lawful callee (Binding.mayFind_of_function? known)).climbs world shape reads outcome
      (call ▸ observed) source (List.mem_eraseDups.mp member)
  cases computes with
  | uncompiled known sources kind message =>
      rw [sources] at member
      cases member
  | thrown known observed sources kind message => exact climbs known observed sources
  | given known observed sources plain => exact climbs known observed sources

/-- What is recorded of a result is in the target and in the latest failure. -/
theorem Recorded.transfer {world other : World σ} {binding changed : Binding}
    {result : Except Failure Boxed} (recorded : Recorded world binding result)
    (adapters : other.adapters = world.adapters) (shape : world.graph.SameShape other.graph)
    (cell : (other.graph.cell? binding.target.property).map Cell.plain =
      (world.graph.cell? binding.target.property).map Cell.plain)
    (target : changed.target = binding.target) (adapter : changed.adapter = binding.adapter)
    (latest : changed.error? = binding.error?) : Recorded other changed result := by
  cases recorded with
  | failed failed =>
      rcases failed with ⟨failure, found, same⟩
      exact .failed ⟨failure, latest.trans found, same⟩
  | refused chosen described form failed =>
      rcases failed with ⟨failure, found, same⟩
      rw [shape.property] at described
      rw [shape.context] at form
      refine .refused ?_ ?_ form ⟨failure, latest.trans found, same⟩
      · rw [adapters, adapter, chosen]
      · rw [target, described]
  | stored chosen described form succeeded found plain =>
      rw [shape.property] at described
      rw [shape.context] at form
      rw [found] at cell
      rcases Option.map_eq_some_iff.mp cell with ⟨stored, found', same⟩
      refine .stored ?_ ?_ form (latest.trans succeeded) ?_ (same.trans plain)
      · rw [adapters, adapter, chosen]
      · rw [target, described]
      · rw [target, found']

/-- Sources have the values that cells and notifiers hold. -/
theorem World.valueOf?_congr {world other : World σ}
    (cells : ∀ ref, other.graph.cell? ref = world.graph.cell? ref)
    (notifiers : other.notifiers = world.notifiers) (source : Source) :
    other.valueOf? source = world.valueOf? source := by
  cases source with
  | property object signal => rw [World.valueOf?, World.valueOf?, cells]
  | notifier id => rw [World.valueOf?, World.valueOf?, notifiers]

/-- A binding stays settled where no value changes and nothing that a change of it shows in. -/
theorem Settled.transfer {host : Host σ} {start world other : World σ} {rank : PropertyRef → Nat}
    {binding changed former : Binding} (settled : Settled host world binding)
    (lawful : ∀ callee, binding.MayCall callee → LawfulFunction host start rank former callee)
    (call : binding.call = former.call) (shape : start.graph.SameShape world.graph)
    (graph : other.graph = world.graph) (notifiers : other.notifiers = world.notifiers)
    (adapters : other.adapters = world.adapters) (function : changed.function? = binding.function?)
    (call' : changed.call = binding.call) (reads : changed.reads = binding.reads)
    (target : changed.target = binding.target) (adapter : changed.adapter = binding.adapter)
    (latest : changed.error? = binding.error?) : Settled host other changed := by
  rcases settled with ⟨result, computes, recorded⟩
  refine ⟨result, ?_, ?_⟩
  · exact computes.transfer lawful call shape (graph ▸ shape)
      (fun source _ => .inl (World.valueOf?_congr (fun _ => by rw [graph]) notifiers source))
      function (call'.trans call) (congrArg ReadSet.sources reads)
  · refine recorded.transfer adapters ?_ (by rw [graph]) target adapter latest
    rw [graph]
    exact .refl world.graph

end PropertyBinding
