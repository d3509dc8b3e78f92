import PropertyBinding.Proofs.Tenure
import PropertyBinding.Proofs.Trails
import PropertyBinding.Proofs.Updates

namespace PropertyBinding

/-!
# What occurrences do

The occurrences of a run name what is done and for whom, and `Pace` says once what each of
them may change.  A binding that is not being updated changes in an occurrence that is
about its edges or that enables or disables it, and in no other.  A cell changes when its
property is written, and with its object.  Nothing is stored for a binding that is not
being updated.

A collector is told of reads only while its binding is updated, and objects keep the names
that they have.  Both are so wherever a run stands, and so each occurrence of a run is a
pace from its world to the next one.
-/

/-! ## Occurrences -/

namespace Occurrence

/-- Whether an occurrence lets go of the edges of a binding. -/
def turns (id : BindingId) : Occurrence → Bool
  | .begins turned | .retires turned | .drops turned => turned = id
  | _ => false

/-- Whether a binding may be enabled or disabled by an occurrence. -/
def switches (id : BindingId) : Occurrence → Bool
  | .asks switched _ _ | .retires switched => switched = id
  | _ => false

/-- Whether a property keeps its cell. -/
def spares (ref : PropertyRef) : Occurrence → Bool
  | .puts _ place | .yields _ place | .stores _ place _ _ => place ≠ ref
  | .destroys id => ref.object ≠ id
  | .vanishes => false
  | _ => true

/-- In whose update something is done. -/
def worker? : Occurrence → Option BindingId
  | .ends id | .puts (some id) _ | .consults id _ | .yields id _ | .stores id _ _ _ => some id
  | _ => none

end Occurrence

variable {σ : Type}

/-- Whether a binding with a target is being updated. -/
def World.Updates (world : World σ) (id : BindingId) (target : BindingTarget) : Prop :=
  ∃ binding, world.bindings[id]? = some binding ∧ binding.updating = true ∧ binding.target = target

theorem World.Updates.marked {world : World σ} {id : BindingId} {target : BindingTarget}
    (updates : world.Updates id target) : world.isUpdating id = true := by
  rcases updates with ⟨binding, found, updating, _⟩
  exact (World.isUpdating_of_found found).trans updating

/-- What is the case when something happens. -/
def Occurrence.Warranted (world : World σ) : Occurrence → Prop
  | .begins id => world.opens id = true
  | .drops id => world.keepsBinding id = false
  | .ends id | .yields id _ => ∃ target, world.Updates id target
  | .puts (some id) _ => ∃ target, world.Updates id target ∧ target.field? = none
  | .consults id ref => (∃ target, world.Updates id target) ∧ world.graph.interceptor? ref ≠ none
  | .stores id _ field _ => ∃ target, world.Updates id target ∧ target.field? = some field
  | _ => True

/-- Only a binding that is being updated has anything done in its update. -/
theorem Occurrence.Warranted.updating {world : World σ} {occurrence : Occurrence} {id : BindingId}
    (warranted : occurrence.Warranted world) (works : occurrence.worker? = some id) :
    world.isUpdating id = true := by
  cases occurrence with
  | ends | yields =>
      cases works
      rcases warranted with ⟨_, updates⟩
      exact updates.marked
  | puts author? =>
      cases author? <;> cases works
      rcases warranted with ⟨_, updates, _⟩
      exact updates.marked
  | consults =>
      cases works
      rcases warranted with ⟨⟨_, updates⟩, _⟩
      exact updates.marked
  | stores =>
      cases works
      rcases warranted with ⟨_, updates, _⟩
      exact updates.marked
  | _ => cases works

/-! ## Bindings and cells -/

/-- What an occurrence leaves of a binding as it was. -/
structure Binding.Fares (occurrence : Occurrence) (id : BindingId) (former binding : Binding) :
    Prop where
  target : binding.target = former.target
  retired : occurrence ≠ .retires id → binding.retired = former.retired
  enabled : occurrence.switches id = false → binding.enabled = former.enabled
  disabled : ∀ write, occurrence = .asks id false write → binding.enabled = false
  /-- A binding that is not being updated stays as it is, but for the edges it lets go of. -/
  evaluations : former.updating = false → binding.evaluations = former.evaluations
  error : former.updating = false → binding.error? = former.error?
  reads : former.updating = false → occurrence.turns id = false → binding.reads = former.reads
  idle : former.updating = false → occurrence ≠ .begins id → binding.updating = false
  going : former.updating = true → occurrence ≠ .ends id → binding.updating = true

namespace Binding.Fares

variable {occurrence : Occurrence} {id : BindingId} {former binding : Binding}

theorem refl (unasked : ∀ write, occurrence ≠ .asks id false write) (former : Binding) :
    Fares occurrence id former former :=
  ⟨rfl, fun _ => rfl, fun _ => rfl, fun write told => absurd told (unasked write), fun _ => rfl,
    fun _ => rfl, fun _ _ => rfl, fun idle _ => idle, fun going _ => going⟩

theorem of_unaltered (unasked : ∀ write, occurrence ≠ .asks id false write)
    (unaltered : former.Unaltered binding) : Fares occurrence id former binding where
  target := unaltered.target
  retired _ := unaltered.retired
  enabled _ := unaltered.enabled
  disabled write told := absurd told (unasked write)
  evaluations _ := unaltered.evaluations
  error _ := by rw [error?, unaltered.pending, error?]
  reads _ _ := unaltered.reads
  idle idle _ := unaltered.updating.trans idle
  going going _ := unaltered.updating.trans going

/-- What is noted of a binding in its own update is for that update to answer for. -/
theorem of_furthered (unasked : ∀ write, occurrence ≠ .asks id false write)
    (going : former.updating = true) (furthered : former.Furthered binding) :
    Fares occurrence id former binding where
  target := furthered.target
  retired _ := furthered.retired
  enabled _ := furthered.enabled
  disabled write told := absurd told (unasked write)
  evaluations idle := absurd going (by simp [idle])
  error idle := absurd going (by simp [idle])
  reads idle := absurd going (by simp [idle])
  idle idle := absurd going (by simp [idle])
  going going _ := furthered.updating.trans going

end Binding.Fares

/-- What an occurrence does from a world to the next one. -/
structure Pace (world : World σ) (occurrence : Occurrence) (later : World σ) : Prop where
  warranted : occurrence.Warranted world
  bindings : ∀ (id : BindingId) former, world.bindings[id]? = some former →
    ∃ binding, later.bindings[id]? = some binding ∧ former.Fares occurrence id binding
  cells : ∀ ref cell, occurrence.spares ref = true → world.graph.cell? ref = some cell →
    later.graph.cell? ref = some cell
  /-- A number is put in a field of the record that is there, and in no other. -/
  stored : ∀ id ref field number, occurrence = .stores id ref field number →
    ∃ current changed, world.graph.cell? ref = some (.native (.record current)) ∧
      current.setField? field number = some changed ∧
        later.graph.cell? ref = some (.native (.record changed))

/-- Whether a world has come from another one in which the same updates are going on. -/
structure World.Resumes (world later : World σ) : Prop where
  vacant : world.graph.Vacant → later.graph.Vacant
  listener : ∀ id, later.collector? = some (.binding id) → world.collector? = some (.binding id)
  bindings : ∀ (id : BindingId) former, world.bindings[id]? = some former →
    ∃ binding, later.bindings[id]? = some binding ∧ binding.updating = former.updating ∧
      binding.target = former.target

/-- Whether somebody's update is going on in a world. -/
def Hand.Serves (world : World σ) : Hand → Prop
  | .code => True
  | .update id target => world.Updates id target
  | .storage id => ∃ target, world.Updates id target ∧ target.field? = none
  | .yielding id _ => ∃ target, world.Updates id target

/-- Whether a world is such that somebody can act in it. -/
structure World.Poised (hand : Hand) (world : World σ) : Prop where
  vacant : world.graph.Vacant
  /-- A binding is told of reads while it is being updated only. -/
  listening : ∀ id, world.collector? = some (.binding id) → world.isUpdating id = true
  serves : hand.Serves world

namespace World

variable {world middle later : World σ} {id : BindingId} {target : BindingTarget} {hand : Hand}

namespace Resumes

theorem refl (world : World σ) : world.Resumes world :=
  ⟨fun vacant => vacant, fun _ same => same, fun _ former found => ⟨former, found, rfl, rfl⟩⟩

theorem trans (first : world.Resumes middle) (second : middle.Resumes later) :
    world.Resumes later where
  vacant vacant := second.vacant (first.vacant vacant)
  listener id told := first.listener id (second.listener id told)
  bindings id former found := by
    rcases first.bindings id former found with ⟨between, found, marked, aimed⟩
    rcases second.bindings id between found with ⟨binding, found, marked', aimed'⟩
    exact ⟨binding, found, marked'.trans marked, aimed'.trans aimed⟩

theorem updates (resumes : world.Resumes later) (updates : world.Updates id target) :
    later.Updates id target := by
  rcases updates with ⟨former, found, going, aimed⟩
  rcases resumes.bindings id former found with ⟨binding, found, same, aimed'⟩
  exact ⟨binding, found, same.trans going, aimed'.trans aimed⟩

theorem marked (resumes : world.Resumes later) (marked : world.isUpdating id = true) :
    later.isUpdating id = true := by
  cases found : world.bindings[id]? with
  | none =>
      rw [isUpdating, found] at marked
      cases marked
  | some former =>
      rw [isUpdating_of_found found] at marked
      exact (resumes.updates ⟨former, found, marked, rfl⟩).marked

theorem serves (resumes : world.Resumes later) (serves : hand.Serves world) :
    hand.Serves later := by
  cases hand with
  | code => trivial
  | update => exact resumes.updates serves
  | storage =>
      rcases serves with ⟨target, updates, plain⟩
      exact ⟨target, resumes.updates updates, plain⟩
  | yielding =>
      rcases serves with ⟨target, updates⟩
      exact ⟨target, resumes.updates updates⟩

/-- Work that leaves the marks and targets of bindings alone resumes with the same listener. -/
theorem of_graph (vacant : world.graph.Vacant → later.graph.Vacant)
    (collector : later.collector? = world.collector?) (bindings : later.bindings = world.bindings) :
    world.Resumes later :=
  ⟨vacant, fun _ told => collector ▸ told,
    fun _ former found => ⟨former, bindings ▸ found, rfl, rfl⟩⟩

theorem of_unnoted (unnoted : Unnoted world later) : world.Resumes later where
  vacant := by
    rw [unnoted.graph]
    exact fun vacant => vacant
  listener _ told := unnoted.collector ▸ told
  bindings id former found := by
    rcases unnoted.bindings id former found with ⟨binding, found', unaltered⟩
    exact ⟨binding, found', unaltered.updating, unaltered.target⟩

theorem of_modify (graph : later.graph = world.graph)
    (collector : later.collector? = world.collector?) {change : Binding → Binding}
    (bindings : later.bindings = world.bindings.modify id change)
    (same : ∀ binding, (change binding).updating = binding.updating ∧
      (change binding).target = binding.target) : world.Resumes later where
  vacant := by
    rw [graph]
    exact fun vacant => vacant
  listener _ told := collector ▸ told
  bindings other former found := by
    refine ⟨if id = other then change former else former, ?_, ?_⟩
    · rw [bindings, List.getElem?_modify, found]
      split <;> rfl
    · split
      · exact same former
      · exact ⟨rfl, rfl⟩

end Resumes

/-- Where nothing has happened, everybody can act on nobody's behalf. -/
theorem Poised.initial (schema : Schema) (state : σ) :
    (World.initial schema state).Poised .code where
  vacant := .empty schema
  listening := nofun
  serves := trivial

theorem Poised.onward (poised : world.Poised hand) (resumes : world.Resumes later) :
    later.Poised hand where
  vacant := resumes.vacant poised.vacant
  listening id told := resumes.marked (poised.listening id (resumes.listener id told))
  serves := resumes.serves poised.serves

/-- A read leaves marks and targets alone. -/
theorem Resumes.capture (world : World σ) (source : Source) :
    world.Resumes (world.capture source) where
  vacant := by
    rw [(world.capture_frame source).1]
    exact fun vacant => vacant
  listener id told := by
    unfold World.capture at told
    split at told
    · exact told
    · next other collects =>
      rw [collects]
      rw [← told]
      unfold follow
      split
      · exact collects.symm
      · split
        · exact collects.symm
        · exact collects.symm
    · cases told
  bindings id former found := by
    rcases capture_goes found with ⟨binding, found', goes⟩
    rcases found_capture found' with ⟨_, before, same⟩
    rw [found] at before
    cases before
    refine ⟨binding, found', goes.updating, ?_⟩
    rw [same]

/-- A binding that is told of reads in its own update is marked. -/
theorem Poised.hearing (poised : world.Poised hand) {collector? : Option Collector}
    (own : ∀ id, collector? = some (.binding id) → ∃ target, hand = .update id target) :
    World.Poised hand { world with collector? := collector? } where
  vacant := poised.vacant
  listening id told := by
    rcases own id told with ⟨target, rfl⟩
    exact World.Updates.marked poised.serves
  serves := poised.serves

/-- In the update of a binding that has just begun it is marked. -/
theorem Poised.begun (poised : world.Poised hand) (opens : world.opens id = true)
    {binding : Binding} (found : world.bindings[id]? = some binding) :
    (world.retained.begun id).Poised (.update id binding.target) where
  vacant := poised.vacant
  listening other told := by
    show (world.begun id).isUpdating other = true
    exact (isUpdating_begun opens).mpr (.inr (poised.listening other told))
  serves := by
    refine ⟨_, World.found_letGo found, ?_⟩
    rw [if_pos rfl]
    exact ⟨rfl, rfl⟩

/-- When an update is over, the same updates are going on as before it. -/
theorem Resumes.around (opens : world.opens id = true)
    (resumes : (world.retained.begun id).Resumes middle) :
    world.Resumes (middle.finished id) where
  vacant := resumes.vacant
  listener := resumes.listener
  bindings other former found := by
    have begun : (world.retained.begun id).bindings[other]? = some _ := World.found_letGo found
    rcases resumes.bindings other _ begun with ⟨binding, found', marked, aimed⟩
    refine ⟨if id = other then { binding with updating := false } else binding, ?_, ?_⟩
    · rw [finished, List.getElem?_modify, found']
      split <;> rfl
    · by_cases same : id = other
      · subst same
        rcases found_of_opens opens with ⟨_, present, _, _, idle⟩
        rw [found] at present
        cases present
        simp only [if_true] at aimed ⊢
        exact ⟨idle.symm, aimed⟩
      · simp only [if_neg same] at marked aimed ⊢
        exact ⟨marked, aimed⟩

theorem Poised.lend (poised : world.Poised hand) {other : Hand} (serves : other.Serves world) :
    world.Poised other :=
  ⟨poised.vacant, poised.listening, serves⟩

end World

/-! ## Paces -/

section Cells

variable {graph removed : ObjectGraph} {ref : PropertyRef} {cell : Cell}

/-- Cells stay in their objects when another object is made. -/
theorem ObjectGraph.cell?_create (vacant : graph.Vacant) (classId : ClassId)
    (name? : Option String) (held : graph.cell? ref = some cell) :
    (graph.create classId name?).2.cell? ref = some cell := by
  rcases Option.bind_eq_some_iff.mp held with ⟨object, living, stored⟩
  exact Option.bind_eq_some_iff.mpr ⟨object, object?_create vacant classId name? living, stored⟩

/-- Cells stay in their objects when another object goes. -/
theorem ObjectGraph.cell?_remove {id : ObjectId} {object : Object}
    (gone : graph.remove? id = some (object, removed)) (apart : ref.object ≠ id)
    (held : graph.cell? ref = some cell) : removed.cell? ref = some cell := by
  rcases Option.bind_eq_some_iff.mp held with ⟨holder, living, stored⟩
  rcases object?_remove gone living with ⟨same, _⟩ | stays
  · exact absurd same apart
  · exact Option.bind_eq_some_iff.mpr ⟨holder, stays, stored⟩

end Cells

namespace Pace

variable {world later : World σ} {occurrence : Occurrence} {id : BindingId}

theorem of_unnoted (unnoted : Unnoted world later) : Pace world .other later where
  warranted := trivial
  bindings id former found := by
    rcases unnoted.bindings id former found with ⟨binding, found', unaltered⟩
    exact ⟨binding, found', .of_unaltered nofun unaltered⟩
  cells ref cell _ held := by rwa [unnoted.graph]
  stored := nofun

/-- What is done to objects leaves the bindings alone. -/
theorem of_graph (warranted : occurrence.Warranted world)
    (unasked : ∀ id write, occurrence ≠ .asks id false write)
    (unstored : ∀ id ref field number, occurrence ≠ .stores id ref field number)
    (bindings : later.bindings = world.bindings)
    (cells : ∀ ref cell, occurrence.spares ref = true → world.graph.cell? ref = some cell →
      later.graph.cell? ref = some cell) : Pace world occurrence later where
  warranted := warranted
  bindings id former found := ⟨former, bindings ▸ found, .refl (unasked id) former⟩
  cells := cells
  stored id ref field number told := absurd told (unstored id ref field number)

/-- What is done to a binding leaves the objects and all other bindings alone. -/
theorem of_modify (warranted : occurrence.Warranted world)
    (unasked : ∀ other write, other ≠ id → occurrence ≠ .asks other false write)
    (unstored : ∀ id ref field number, occurrence ≠ .stores id ref field number)
    (graph : later.graph = world.graph) {change : Binding → Binding}
    (bindings : later.bindings = world.bindings.modify id change)
    (fares : ∀ former, world.bindings[id]? = some former →
      former.Fares occurrence id (change former)) : Pace world occurrence later where
  warranted := warranted
  bindings other former found := by
    refine ⟨if id = other then change former else former, ?_, ?_⟩
    · rw [bindings, List.getElem?_modify, found]
      split <;> rfl
    · split
      · next same => exact same ▸ fares former (same ▸ found)
      · next apart => exact .refl (fun write => unasked other write (Ne.symm apart)) former
  cells _ _ _ held := by rwa [graph]
  stored id ref field number told := absurd told (unstored id ref field number)

theorem retires (world : World σ) (id : BindingId) : Pace world (.retires id) (world.ended id) :=
  of_modify trivial nofun nofun rfl rfl fun _ _ =>
    ⟨rfl, fun apart => absurd rfl apart, by simp [Occurrence.switches], nofun, fun _ => rfl,
      fun _ => rfl, by simp [Occurrence.turns], fun idle _ => idle, fun going _ => going⟩

theorem drops (unkept : world.keepsBinding id = false) :
    Pace world (.drops id) (world.cleared id) :=
  of_modify unkept nofun nofun rfl rfl fun _ _ =>
    ⟨rfl, fun _ => rfl, fun _ => rfl, nofun, fun _ => rfl, fun _ => rfl,
      by simp [Occurrence.turns], fun idle _ => idle, fun going _ => going⟩

theorem begins (opens : world.opens id = true) :
    Pace world (.begins id) (world.retained.begun id) :=
  of_modify opens nofun nofun rfl rfl fun _ _ =>
    ⟨rfl, fun _ => rfl, fun _ => rfl, nofun, fun _ => rfl, fun _ => rfl,
      by simp [Occurrence.turns], fun _ apart => absurd rfl apart, fun _ _ => rfl⟩

theorem ends {target : BindingTarget} (updates : world.Updates id target) :
    Pace world (.ends id) (world.finished id) :=
  of_modify ⟨target, updates⟩ nofun nofun rfl rfl fun _ _ =>
    ⟨rfl, fun _ => rfl, fun _ => rfl, nofun, fun _ => rfl, fun _ => rfl, fun _ _ => rfl,
      fun _ _ => rfl, fun _ apart => absurd rfl apart⟩

theorem switches (world : World σ) (id : BindingId) (enabled write fast : Bool) :
    Pace world (.asks id enabled write) (Engine.switched world id enabled fast) := by
  refine of_modify trivial ?_ nofun rfl rfl fun former _ => ?_
  · rintro other _ apart same
    cases same
    exact apart rfl
  · refine ⟨rfl, fun _ => rfl, by simp [Occurrence.switches], ?_, fun _ => rfl, fun _ => rfl,
      fun _ _ => rfl, fun idle _ => idle, fun going _ => going⟩
    rintro _ same
    cases same
    rfl

theorem attempts (world : World σ) (id : BindingId) : Pace world (.attempts id) world :=
  of_graph trivial nofun nofun rfl fun _ _ _ held => held

/-- A binding that is not being updated is not told of reads. -/
theorem captures (listening : ∀ id, world.collector? = some (.binding id) →
    world.isUpdating id = true) (source : Source) : Pace world .other (world.capture source) where
  warranted := trivial
  bindings id former found := by
    rcases World.capture_goes found with ⟨binding, found', goes⟩
    rcases World.found_capture found' with ⟨_, before, same⟩
    rw [found] at before
    cases before
    refine ⟨binding, found', ?_⟩
    rw [same]
    refine ⟨rfl, fun _ => rfl, fun _ => rfl, nofun, fun _ => rfl, fun _ => rfl, fun idle _ => ?_,
      fun idle _ => idle, fun going _ => going⟩
    cases goes with
    | tended tended => exact tended.reads
    | follows _ _ collects =>
        have marked := listening id collects
        rw [World.isUpdating_of_found found, idle] at marked
        cases marked
    | retires told => cases told
    | drops told => cases told
  cells _ _ _ held := by rwa [(world.capture_frame source).1]
  stored := nofun

/-- The latest failure stays when it has been reported. -/
theorem acknowledges {binding : Binding} {failure : Failure}
    (found : world.bindings[id]? = some binding) (waits : binding.unreported? = some failure) :
    Pace world .other { world with
      bindings := world.bindings.modify id fun binding => binding.withPending failure true } := by
  refine of_modify trivial nofun nofun rfl rfl fun former found' => ?_
  rw [found] at found'
  cases found'
  exact ⟨rfl, fun _ => rfl, fun _ => rfl, nofun, fun _ => rfl,
    fun _ => (Binding.error?_of_unreported waits).symm, fun _ _ => rfl, fun idle _ => idle,
    fun going _ => going⟩

/-- A write of a property is for whoever acts. -/
theorem writes {hand : Hand} {ref : PropertyRef} (told : hand.Writes ref occurrence)
    (serves : hand.Serves world) (cell : Cell) :
    Pace world occurrence (world.holding ref cell) := by
  have cells : ∀ other content, occurrence.spares other = true →
      world.graph.cell? other = some content →
        (world.holding ref cell).graph.cell? other = some content := by
    intro other content spared held
    have apart : ref ≠ other := by
      cases told <;> simpa [Occurrence.spares] using spared
    rw [World.holding, ObjectGraph.cell?_setCell_ne _ apart]
    exact held
  cases told with
  | code => exact of_graph trivial nofun nofun rfl cells
  | storage => exact of_graph serves nofun nofun rfl cells
  | yielding => exact of_graph serves nofun nofun rfl cells

theorem stores {target : BindingTarget} {ref : PropertyRef} {field : Nat} {number : Float}
    {current changed : Record} (updates : world.Updates id target)
    (aims : target.field? = some field)
    (holds : world.graph.cell? ref = some (.native (.record current)))
    (set : current.setField? field number = some changed) :
    Pace world (.stores id ref field number) (world.holding ref (.native (.record changed))) where
  warranted := ⟨target, updates, aims⟩
  bindings _ former found := by
    refine ⟨former, found, .refl (fun _ told => ?_) former⟩
    cases told
  cells other content spared held := by
    have apart : ref ≠ other := by simpa [Occurrence.spares] using spared
    rw [World.holding, ObjectGraph.cell?_setCell_ne _ apart]
    exact held
  stored _ _ _ _ told := by
    cases told
    refine ⟨current, changed, holds, set, ?_⟩
    rw [World.holding, ObjectGraph.cell?_setCell, if_pos rfl, holds]
    rfl

end Pace

/-! ## Interceptors that are asked -/

/--
Whether a binding has asked the interceptor of a property, in an update that is going on
still.
-/
def Asking (id : BindingId) (ref : PropertyRef) (past : List Occurrence) : Prop :=
  ∃ before after, past = before ++ .consults id ref :: after ∧ .ends id ∉ after

theorem Asking.onward {id : BindingId} {ref : PropertyRef} {past rest : List Occurrence}
    (asking : Asking id ref past) (lasts : .ends id ∉ rest) : Asking id ref (past ++ rest) := by
  rcases asking with ⟨before, after, rfl, pending⟩
  refine ⟨before, after ++ rest, by simp, fun member => ?_⟩
  rcases List.mem_append.mp member with earlier | later
  · exact pending earlier
  · exact lasts later

/-- Who is asking has asked before, or has since. -/
theorem Asking.parts {id : BindingId} {ref : PropertyRef} {past rest : List Occurrence}
    (asking : Asking id ref (past ++ rest)) : Asking id ref past ∨ .consults id ref ∈ rest := by
  rcases asking with ⟨before, after, split, pending⟩
  rcases List.append_eq_append_iff.mp split with ⟨middle, _, same⟩ | ⟨middle, rfl, same⟩
  · exact .inr (by simp [same])
  · cases middle with
    | nil =>
        rw [List.nil_append] at same
        exact .inr (same ▸ List.mem_cons_self)
    | cons occurrence middle =>
        cases same
        exact .inl ⟨before, middle, rfl, fun member => pending (List.mem_append_left _ member)⟩

/-- Whether what an interceptor has made is stored only by the update that has asked it. -/
def Consulted (past events : List Occurrence) : Prop :=
  ∀ before id ref rest, events = before ++ .yields id ref :: rest → Asking id ref (past ++ before)

namespace Consulted

variable {past events rest : List Occurrence} {occurrence : Occurrence}

theorem nil (past : List Occurrence) : Consulted past [] := by
  intro before id ref rest split
  cases before <;> cases split

theorem cons (first : ∀ id ref, occurrence = .yields id ref → Asking id ref past)
    (later : Consulted (past ++ [occurrence]) rest) : Consulted past (occurrence :: rest) := by
  intro before id ref others split
  cases before with
  | nil =>
      cases split
      rw [List.append_nil]
      exact first id ref rfl
  | cons earliest before =>
      cases split
      rw [List.append_cons]
      exact later before id ref others rfl

theorem append (first : Consulted past events) (later : Consulted (past ++ events) rest) :
    Consulted past (events ++ rest) := by
  induction events generalizing past with
  | nil => simpa using later
  | cons occurrence events step =>
      refine cons (fun id ref told => ?_) (step ?_ ?_)
      · simpa using first [] id ref events (congrArg (· :: events) told)
      · intro before id ref others split
        rw [← List.append_cons]
        exact first (occurrence :: before) id ref others (congrArg (occurrence :: ·) split)
      · rwa [List.append_assoc, List.singleton_append]

theorem upTo (consulted : Consulted past (events ++ rest)) : Consulted past events := by
  rintro before id ref others rfl
  exact consulted before id ref (others ++ rest) (by simp)

end Consulted

/-! ## Passages -/

/-- Whether an occurrence is no end of an update and stores nothing from an interceptor. -/
def Occurrence.isPlain : Occurrence → Bool
  | .ends _ | .yields _ _ => false
  | _ => true

/--
Whether stages lead from a world to another pace by pace, with the same updates going on
before and after, none of which is ended between, and with all interceptors asked before
what they have made is stored.
-/
structure Passage (hand : Hand) (world : World σ) (tale : List (Stage (World σ) Occurrence))
    (later : World σ) : Prop where
  trail : Trail Pace world tale later
  resumes : world.Resumes later
  lasts : ∀ id, world.isUpdating id = true → .ends id ∉ eventsOf tale
  consulted : ∀ past : List Occurrence, (∀ id ref, hand = .yielding id ref →
    world.isUpdating id = true ∧ Asking id ref past) → Consulted past (eventsOf tale)

namespace Passage

variable {hand : Hand} {world middle later : World σ} {occurrence : Occurrence}
  {tale rest : List (Stage (World σ) Occurrence)}

theorem stay (hand : Hand) (world : World σ) : Passage hand world [] world :=
  ⟨.stay world, .refl world, fun _ _ => List.not_mem_nil, fun past _ => .nil past⟩

/-- What is done on nobody's behalf may be done wherever somebody acts. -/
theorem lend (passage : Passage .code world tale later) : Passage hand world tale later :=
  ⟨passage.trail, passage.resumes, passage.lasts, fun past _ => passage.consulted past nofun⟩

theorem append (first : Passage hand world tale middle) (second : Passage hand middle rest later) :
    Passage hand world (tale ++ rest) later where
  trail := first.trail.append second.trail
  resumes := first.resumes.trans second.resumes
  lasts id marked := by
    rw [eventsOf_append, List.mem_append, not_or]
    exact ⟨first.lasts id marked, second.lasts id (first.resumes.marked marked)⟩
  consulted past asks := by
    rw [eventsOf_append]
    refine (first.consulted past asks).append (second.consulted _ fun id ref yields => ?_)
    rcases asks id ref yields with ⟨marked, asking⟩
    exact ⟨first.resumes.marked marked, asking.onward (first.lasts id marked)⟩

theorem one (plain : occurrence.isPlain = true) (pace : Pace world occurrence later)
    (resumes : world.Resumes later) : Passage hand world [⟨world, occurrence⟩] later where
  trail := .one pace
  resumes := resumes
  lasts id _ ends := by
    cases List.mem_singleton.mp ends
    cases plain
  consulted past _ := by
    refine .cons (fun id ref yields => ?_) (.nil _)
    cases yields
    cases plain

theorem cons (plain : occurrence.isPlain = true) (pace : Pace world occurrence middle)
    (resumes : world.Resumes middle) (passage : Passage hand middle rest later) :
    Passage hand world (⟨world, occurrence⟩ :: rest) later :=
  (one plain pace resumes).append passage

/-- What is written is from an interceptor only if it is stored for one who has asked it. -/
theorem writes {ref : PropertyRef} (told : hand.Writes ref occurrence)
    (serves : hand.Serves world) (cell : Cell) :
    Passage hand world [⟨world, occurrence⟩] (world.holding ref cell) where
  trail := .one (.writes told serves cell)
  resumes := .of_graph (fun vacant => vacant.update ref.object _) rfl rfl
  lasts id _ ends := by
    cases List.mem_singleton.mp ends
    cases told
  consulted past asks := by
    refine .cons (fun id ref yields => ?_) (.nil _)
    cases told <;> cases yields
    exact (asks _ _ rfl).2

/-- An update that has come to its end ends itself and no other one. -/
theorem around {id : BindingId} {binding : Binding} (found : world.bindings[id]? = some binding)
    (opens : world.opens id = true)
    (passage : Passage (.update id binding.target) (world.retained.begun id) tale middle)
    (poised : world.Poised hand) :
    Passage hand world (⟨world, .begins id⟩ :: tale ++ [⟨middle, .ends id⟩])
      (middle.finished id) where
  trail := by
    have updates : middle.Updates id binding.target :=
      passage.resumes.updates (poised.begun opens found).serves
    exact .step (.begins opens) (passage.trail.append (.one (.ends updates)))
  resumes := .around opens passage.resumes
  lasts other marked := by
    have apart : other ≠ id := by
      rintro rfl
      rcases World.found_of_opens opens with ⟨_, found', _, _, idle⟩
      rw [World.isUpdating_of_found found', idle] at marked
      cases marked
    have inside : .ends other ∉ eventsOf tale :=
      passage.lasts other ((World.isUpdating_begun opens).mpr (.inr marked))
    simp [inside, apart]
  consulted past _ := by
    rw [List.cons_append, eventsOf_cons, eventsOf_append]
    exact .cons nofun ((passage.consulted _ nofun).append (.cons nofun (.nil _)))

/-- What is stored as a whole is no interceptor's. -/
theorem storage {id : BindingId} (passage : Passage (.storage id) world tale later) :
    Passage hand world tale later :=
  ⟨passage.trail, passage.resumes, passage.lasts, fun past _ => passage.consulted past nofun⟩

/-- An interceptor is asked first, and what is stored then is what it has made. -/
theorem yielding {id : BindingId} {target : BindingTarget} {ref : PropertyRef}
    (passage : Passage (.yielding id ref) world tale later) (updates : world.Updates id target)
    (watched : world.graph.interceptor? ref ≠ none) :
    Passage hand world (⟨world, .consults id ref⟩ :: tale) later where
  trail :=
    .step (.of_graph ⟨⟨target, updates⟩, watched⟩ nofun nofun rfl fun _ _ _ held => held)
      passage.trail
  resumes := passage.resumes
  lasts other marked := by simpa using passage.lasts other marked
  consulted past _ := by
    refine .cons nofun (passage.consulted _ fun other place same => ?_)
    cases same
    exact ⟨updates.marked, past, [], rfl, List.not_mem_nil⟩

/-- While a collector is told of reads everything else goes on. -/
theorem hearing {collector? : Option Collector}
    (passage : Passage hand { world with collector? := collector? } tale later)
    (starts : Pace world .other { world with collector? := collector? })
    (ends : Pace later .other { later with collector? := world.collector? }) :
    Passage hand world (⟨world, .other⟩ :: tale ++ [⟨later, .other⟩])
      { later with collector? := world.collector? } where
  trail := .step starts (passage.trail.append (.one ends))
  resumes := ⟨passage.resumes.vacant, fun _ told => told, passage.resumes.bindings⟩
  lasts id marked := by simpa using passage.lasts id marked
  consulted past asks := by
    rw [List.cons_append, eventsOf_cons, eventsOf_append]
    refine .cons nofun ((passage.consulted _ fun id ref yields => ?_).append
      (.cons nofun (.nil _)))
    rcases asks id ref yields with ⟨marked, asking⟩
    exact ⟨marked, asking.onward (by simp)⟩

end Passage

/-- A binding that is being updated goes on, unless its update ends. -/
theorem Pace.marked {world later : World σ} {occurrence : Occurrence} {id : BindingId}
    (pace : Pace world occurrence later) (goes : occurrence ≠ .ends id)
    (marked : world.isUpdating id = true) : later.isUpdating id = true := by
  cases found : world.bindings[id]? with
  | none =>
      rw [World.isUpdating, found] at marked
      cases marked
  | some former =>
      rcases pace.bindings id former found with ⟨binding, found', fares⟩
      rw [World.isUpdating_of_found found] at marked
      rw [World.isUpdating_of_found found']
      exact fares.going marked goes

/-! ## Runs -/

namespace Engine

variable {α : Type} {host : Host σ} {bound : Nat} {hand : Hand} {operation : Engine σ α}
  {world after : World σ} {tale : List (Stage (World σ) Occurrence)} {result : α}

/-- What prompts an update leads to where it is called. -/
theorem Prompts.passage {id : BindingId} {flags : WriteFlags} {operation : Engine σ Unit}
    {world called : World σ} {prelude : List (Stage (World σ) Occurrence)}
    (prompts : Prompts id flags operation world prelude called) (hand : Hand) :
    Passage hand world prelude called := by
  cases prompts with
  | update => exact .stay hand world
  | enable =>
      refine .cons rfl (.switches world id true true _) ?_ (.one rfl (.attempts _ id) (.refl _))
      exact .of_modify rfl rfl rfl fun _ => ⟨rfl, rfl⟩

/-- What is told of a run is a passage, wherever somebody can act. -/
theorem Enacted.passage (told : Enacted host bound hand operation world tale result after)
    (poised : world.Poised hand) : Passage hand world tale after := by
  induction told with
  | value | get | declined => exact .stay _ _
  | sequence _ _ begun rest =>
      have passage := begun poised
      exact passage.append (rest (poised.onward passage.resumes))
  | visit _ _ inner => exact (inner (poised.lend trivial)).lend
  | change _ unnoted world =>
      exact .one rfl (.of_unnoted (unnoted world)) (.of_unnoted (unnoted world))
  | arrange _ id kept world =>
      refine .one rfl (.of_graph trivial nofun nofun rfl fun ref _ _ held => ?_)
        (.of_graph (fun vacant => vacant.update id _) rfl rfl)
      exact (ObjectGraph.cell?_update _ _ ref kept).trans held
  | create _ classId name? world =>
      exact .one rfl (.of_graph trivial nofun nofun rfl fun _ _ _ held =>
          ObjectGraph.cell?_create poised.vacant classId name? held)
        (.of_graph (fun vacant => vacant.create classId name?) rfl rfl)
  | @destroy _ _ id _ graph world _ _ removed _ inner =>
      have resumes : world.Resumes (world.without id graph) :=
        .of_graph (fun vacant => vacant.remove removed) rfl rfl
      have pace : Pace world (.destroys id) (world.without id graph) := by
        refine .of_graph trivial nofun nofun rfl fun ref _ spared held => ?_
        exact ObjectGraph.cell?_remove removed (by simpa [Occurrence.spares] using spared) held
      exact .cons rfl pace resumes (inner (poised.onward resumes))
  | vanish _ world =>
      exact .one rfl (.of_graph trivial nofun nofun rfl nofun)
        (.of_graph (fun _ => .empty _) rfl rfl)
  | @setAlias _ _ ref target changed world points =>
      rw [ObjectGraph.eq_of_setAlias points]
      exact (Passage.writes (.code ref) trivial _).lend
  | @store _ _ _ _ writes _ cell _ _ _ _ _ _ _ inner =>
      have stored := Passage.writes writes poised.serves cell
      exact stored.append (inner ((poised.onward stored.resumes).lend trivial)).lend
  | retire _ id world =>
      exact .one rfl (.retires world id) (.of_modify rfl rfl rfl fun _ => ⟨rfl, rfl⟩)
  | drop _ unkept => exact .one rfl (.drops unkept) (.of_modify rfl rfl rfl fun _ => ⟨rfl, rfl⟩)
  | capture _ source world =>
      exact .one rfl (.captures poised.listening source) (.capture world source)
  | @scope _ _ hand collector? own _ world after tale _ _ inner =>
      have passage := inner (poised.hearing own)
      have starts : Pace world .other { world with collector? := collector? } :=
        .of_graph trivial nofun nofun rfl fun _ _ _ held => held
      have ends : Pace after .other { after with collector? := world.collector? } :=
        .of_graph trivial nofun nofun rfl fun _ _ _ held => held
      exact passage.hearing starts ends
  | acknowledge _ found waits =>
      exact .one rfl (.acknowledges found waits) (.of_modify rfl rfl rfl fun _ => ⟨rfl, rfl⟩)
  | opened prompts found opens _ _ inner last =>
      have led := prompts.passage .code
      have poised := poised.onward led.resumes
      have around := (inner (poised.begun opens found)).around found opens poised
      have ended := last (poised.onward around.resumes)
      simpa using (led.append around).append ended
  | closed prompts => exact prompts.passage .code
  | refused prompts _ _ _ inner =>
      have led := prompts.passage .code
      exact led.append (inner (poised.onward led.resumes))
  | @denied _ id flags? _ world _ _ =>
      exact .one rfl (.of_graph trivial nofun nofun rfl fun _ _ _ held => held) (.refl world)
  | switch => exact .one rfl (.switches _ _ _ _ _) (.of_modify rfl rfl rfl fun _ => ⟨rfl, rfl⟩)
  | @tend _ id _ change furthered world =>
      refine .one rfl (.of_modify trivial nofun nofun rfl rfl fun former found => ?_)
        (.of_modify rfl rfl rfl fun former =>
          ⟨(furthered former).updating, (furthered former).target⟩)
      rcases poised.serves with ⟨binding, found', going, _⟩
      rw [found] at found'
      cases found'
      exact .of_furthered nofun going (furthered former)
  | whole plain _ inner => exact (inner (poised.lend ⟨_, poised.serves, plain⟩)).storage
  | intercepted watched _ _ inner =>
      exact (inner (poised.lend ⟨_, poised.serves⟩)).yielding poised.serves watched
  | @stores _ _ _ _ stored _ _ _ _ changed _ _ world _ _ aims holds set _ _ _ inner =>
      have resumes : world.Resumes (world.holding stored (.native (.record changed))) :=
        .of_graph (fun vacant => vacant.update stored.object _) rfl rfl
      exact .cons rfl (.stores poised.serves aims holds set) resumes
        (inner ((poised.onward resumes).lend trivial)).lend

end Engine

end PropertyBinding
