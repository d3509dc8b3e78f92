import PropertyBinding.Proofs.Paces

namespace PropertyBinding

/-!
# Bindings on fields of one property

Bindings on different fields of a record share its property.  What each of them stores is
the whole record, made from the one that is there with one field changed, and subscribers
who are told may have another one updated before the first update is over.  Nothing gets
lost in that: the record is looked up and stored in one stretch, unless an interceptor is
asked in between.

So as long as nobody else writes the property, each step of a run keeps this: a field has
the number that was stored last for its owner, or the one from the beginning, and there
are as many fields as before.
-/

/-! ## Numbers that were stored -/

/-- Who writes which property. -/
def Occurrence.writes? : Occurrence → Option (Option BindingId × PropertyRef)
  | .puts author? place => some (author?, place)
  | .yields id place | .stores id place _ _ => some (some id, place)
  | _ => none

/-- The number that an occurrence puts in a field of a property for a binding. -/
def Occurrence.number? (id : BindingId) (ref : PropertyRef) : Occurrence → Option Float
  | .stores author place _ number => if author = id ∧ place = ref then some number else none
  | _ => none

/-- The number that was put in a field of a property for a binding last. -/
def lastNumber? (id : BindingId) (ref : PropertyRef) (past : List Occurrence) : Option Float :=
  (past.filterMap (Occurrence.number? id ref)).getLast?

theorem lastNumber?_append_one (id : BindingId) (ref : PropertyRef) (past : List Occurrence)
    (occurrence : Occurrence) :
    lastNumber? id ref (past ++ [occurrence]) =
      (occurrence.number? id ref).or (lastNumber? id ref past) := by
  rw [lastNumber?, List.filterMap_append, List.getLast?_append, lastNumber?]
  cases told : occurrence.number? id ref <;> simp [told]

theorem Occurrence.number?_of_spares {occurrence : Occurrence} {ref : PropertyRef}
    (spares : occurrence.spares ref = true) (id : BindingId) :
    occurrence.number? id ref = none := by
  cases occurrence with
  | stores author place =>
      have apart : place ≠ ref := by simpa [Occurrence.spares] using spares
      exact if_neg fun same => apart same.2
  | _ => rfl

/-! ## Records and their owners -/

/--
Whether a record has what was stored last in each field for its owner, in some
occurrences, and otherwise what another record has.
-/
structure Record.Gathers (owner? : Nat → Option BindingId) (ref : PropertyRef)
    (past : List Occurrence) (initial final : Record) : Prop where
  type : final.type = initial.type
  length : final.fields.length = initial.fields.length
  fields : ∀ field, final.fields[field]? =
    ((owner? field).bind fun id => lastNumber? id ref past).or initial.fields[field]?

/-- Whether an occurrence changes a property for the owner of a field only, and that field. -/
def Occurrence.Respects (owner? : Nat → Option BindingId) (ref : PropertyRef)
    (occurrence : Occurrence) : Prop :=
  occurrence.spares ref = true ∨ ∃ id field number, occurrence = .stores id ref field number ∧
    ∀ other, owner? other = some id ↔ other = field

variable {owner? : Nat → Option BindingId} {ref : PropertyRef} {past : List Occurrence}
  {initial current changed : Record}

namespace Record.Gathers

theorem refl (record : Record) : Gathers owner? ref [] record record :=
  ⟨rfl, rfl, fun field => by cases owner? field <;> rfl⟩

/-- An occurrence that is about something else adds nothing. -/
theorem spared {occurrence : Occurrence} (spares : occurrence.spares ref = true)
    (gathers : Gathers owner? ref past initial current) :
    Gathers owner? ref (past ++ [occurrence]) initial current where
  type := gathers.type
  length := gathers.length
  fields field := by
    simp only [lastNumber?_append_one, Occurrence.number?_of_spares spares, Option.none_or]
    exact gathers.fields field

/-- A number that is stored for the owner of a field is in that field, and the others stay. -/
theorem stored {id : BindingId} {field : Nat} {number : Float}
    (owns : ∀ other, owner? other = some id ↔ other = field)
    (set : current.setField? field number = some changed)
    (gathers : Gathers owner? ref past initial current) :
    Gathers owner? ref (past ++ [.stores id ref field number]) initial changed := by
  unfold Record.setField? at set
  split at set
  · next inRange =>
    cases set
    refine ⟨gathers.type, ?_, fun other => ?_⟩
    · simp [gathers.length]
    · simp only [lastNumber?_append_one, List.getElem?_set]
      by_cases same : field = other
      · rw [(owns other).mpr same.symm]
        simp [same, same ▸ inRange, Occurrence.number?]
      · rw [if_neg same, gathers.fields other]
        cases owner : owner? other with
        | none => rfl
        | some keeper =>
            have apart : id ≠ keeper := by
              rintro rfl
              exact same ((owns other).mp owner).symm
            simp [Occurrence.number?, apart]
  · cases set

end Record.Gathers

variable {σ : Type}

/-- After each pace that respects them, the fields have what their owners have stored. -/
theorem Pace.gathers {world later : World σ} {occurrence : Occurrence}
    (pace : Pace world occurrence later) (respects : occurrence.Respects owner? ref)
    (holds : world.graph.cell? ref = some (.native (.record current)))
    (gathers : Record.Gathers owner? ref past initial current) :
    ∃ record, later.graph.cell? ref = some (.native (.record record)) ∧
      Record.Gathers owner? ref (past ++ [occurrence]) initial record := by
  rcases respects with spares | ⟨id, field, number, rfl, owns⟩
  · exact ⟨current, pace.cells ref _ spares holds, gathers.spared spares⟩
  · rcases pace.stored id ref field number rfl with ⟨former, changed, held, set, stands⟩
    rw [holds] at held
    cases held
    exact ⟨changed, stands, gathers.stored owns set⟩

/-! ## Properties that nobody else writes -/

/--
Whether a property without an interceptor is written in a stretch of a run for the owners
of its fields only, while its object is there.
-/
structure Reserved (owner? : Nat → Option BindingId) (ref : PropertyRef)
    (past stretch : List (Stage (World σ) Occurrence)) (finish : World σ) : Prop where
  /-- The owner of a field is a binding on that field, and so of no other one. -/
  owned : ∀ field id, owner? field = some id → ∃ binding,
    finish.bindings[id]? = some binding ∧ binding.target.field? = some field
  sole : ∀ stage ∈ stretch, ∀ author?, stage.event.writes? = some (author?, ref) →
    ∃ field id, owner? field = some id ∧ author? = some id
  unwatched : ∀ stage ∈ stretch, stage.state.graph.interceptor? ref = none
  /-- No owner waits for an interceptor that was there before. -/
  unasked : ∀ field id, owner? field = some id → ¬Asking id ref (eventsOf past)
  remains : ∀ stage ∈ stretch, stage.event ≠ .destroys ref.object ∧ stage.event ≠ .vanishes

/-- A binding that has asked an interceptor and goes on is being updated. -/
theorem Asking.marked {first last : World σ} {past : List (Stage (World σ) Occurrence)}
    {id : BindingId} (trail : Trail Pace first past last) (asking : Asking id ref (eventsOf past)) :
    last.isUpdating id = true := by
  rcases asking with ⟨before, after, split, pending⟩
  rcases stages_of_events split with ⟨early, world, late, rfl, same⟩
  have events : eventsOf late = after := by simpa [same] using split
  rcases trail.stepped with ⟨_, pace⟩
  rcases pace.warranted with ⟨⟨target, updates⟩, _⟩
  have onward := trail.onward.within (fun _ occurrence => occurrence ≠ .ends id) ?unended
  · refine onward.preserve (fun world => world.isUpdating id = true) (fun marked stepped => ?_)
      updates.marked
    exact stepped.2.marked stepped.1 marked
  case unended =>
    intro stage member ends
    rcases List.mem_cons.mp member with rfl | later
    · cases ends
    · exact pending (events ▸ List.mem_map.mpr ⟨stage, later, ends⟩)

/-- A binding that was being updated once still has the target that it had then. -/
theorem World.Updates.aims {world finish : World σ} {stages : List (Stage (World σ) Occurrence)}
    {id : BindingId} {target : BindingTarget} (updates : world.Updates id target)
    (trail : Trail Pace world stages finish) {binding : Binding}
    (found : finish.bindings[id]? = some binding) : binding.target = target := by
  have aims : ∃ binding, finish.bindings[id]? = some binding ∧ binding.target = target := by
    refine trail.preserve (fun world : World σ => ∃ binding, world.bindings[id]? = some binding ∧
      binding.target = target) (fun aims pace => ?_) ?_
    · rcases aims with ⟨former, found, aims⟩
      rcases pace.bindings id former found with ⟨binding, found', fares⟩
      exact ⟨binding, found', fares.target.trans aims⟩
    · rcases updates with ⟨binding, found, _, aims⟩
      exact ⟨binding, found, aims⟩
  rcases aims with ⟨_, found', aims⟩
  rw [found] at found'
  cases found'
  exact aims

/-- What happens in a stretch in which a property is reserved respects the owners of its fields. -/
theorem Reserved.respects {first finish : World σ}
    {past stretch : List (Stage (World σ) Occurrence)}
    (reserved : Reserved owner? ref past stretch finish)
    (trail : Trail Pace first (past ++ stretch) finish)
    (consulted : Consulted [] (eventsOf (past ++ stretch))) (stage : Stage (World σ) Occurrence)
    (member : stage ∈ stretch) : stage.event.Respects owner? ref := by
  rcases List.append_of_mem member with ⟨before, after, rfl⟩
  rcases stage with ⟨world, occurrence⟩
  rw [← List.append_assoc] at trail
  rcases trail.stepped with ⟨_, pace⟩
  have onward := trail.onward
  have warranted := pace.warranted
  cases occurrence with
  | puts author? place =>
      by_cases same : place = ref
      · subst same
        rcases reserved.sole _ member author? rfl with ⟨field, id, owner, rfl⟩
        rcases reserved.owned field id owner with ⟨binding, found, aims⟩
        rcases warranted with ⟨target, updates, plain⟩
        rw [updates.aims onward found, plain] at aims
        cases aims
      · exact .inl (by simpa [Occurrence.spares] using same)
  | yields id place =>
      by_cases same : place = ref
      · subst same
        rcases reserved.sole _ member (some id) rfl with ⟨field, _, owner, told⟩
        cases told
        have asking : Asking id place ([] ++ eventsOf (past ++ before)) := by
          refine consulted (eventsOf (past ++ before)) id place (eventsOf after) ?_
          rw [← List.append_assoc, eventsOf_append, eventsOf_cons]
        rw [List.nil_append, eventsOf_append] at asking
        rcases asking.parts with earlier | asked
        · exact absurd earlier (reserved.unasked field id owner)
        · rcases List.mem_map.mp asked with ⟨⟨former, _⟩, within, rfl⟩
          rcases trail.step_of_mem
            (List.mem_append_left _ (List.mem_append_right _ within)) with ⟨_, pace'⟩
          exact absurd (reserved.unwatched _ (List.mem_append_left _ within)) pace'.warranted.2
      · exact .inl (by simpa [Occurrence.spares] using same)
  | stores author place field number =>
      by_cases same : place = ref
      · subst same
        rcases reserved.sole _ member (some author) rfl with ⟨named, id, owner, told⟩
        cases told
        rcases warranted with ⟨target, updates, aims⟩
        have owns : ∀ other, owner? other = some author → other = field := by
          intro other owner
          rcases reserved.owned other author owner with ⟨binding, found, aims'⟩
          rw [updates.aims onward found, aims] at aims'
          exact (Option.some.inj aims').symm
        refine .inr ⟨author, field, number, rfl, fun other => ⟨owns other, ?_⟩⟩
        rintro rfl
        exact owns named owner ▸ owner
      · exact .inl (by simpa [Occurrence.spares] using same)
  | destroys id =>
      have apart : ref.object ≠ id := fun same => (reserved.remains _ member).1 (by rw [same])
      exact .inl (by simpa [Occurrence.spares] using apart)
  | vanishes => exact absurd rfl (reserved.remains _ member).2
  | _ => exact .inl rfl

/-- In a stretch in which a property is reserved its fields get what their owners store. -/
theorem Reserved.gathers {first last start finish : World σ}
    {tale past stretch : List (Stage (World σ) Occurrence)}
    (reserved : Reserved owner? ref past stretch finish) (trail : Trail Pace first tale last)
    (consulted : Consulted [] (eventsOf tale)) (starts : Stands tale last past start)
    (ends : Stands tale last (past ++ stretch) finish)
    (holds : start.graph.cell? ref = some (.native (.record initial))) :
    ∃ final, finish.graph.cell? ref = some (.native (.record final)) ∧
      Record.Gathers owner? ref (eventsOf stretch) initial final := by
  have told : Consulted [] (eventsOf (past ++ stretch)) := by
    rcases ends with ⟨_, _, rfl⟩ | ⟨rfl, _⟩
    · rw [eventsOf_append] at consulted
      exact consulted.upTo
    · exact consulted
  have respects := reserved.respects (trail.upTo ends) told
  have onward := (trail.stretch starts ends).within
    (fun _ occurrence => occurrence.Respects owner? ref) respects
  refine onward.keep (fun past world => ∃ record,
    world.graph.cell? ref = some (.native (.record record)) ∧
      Record.Gathers owner? ref past initial record) ?_ ⟨initial, holds, .refl initial⟩
  rintro past state event next ⟨record, holds, gathers⟩ ⟨respects, pace⟩
  exact pace.gathers respects holds gathers

namespace Engine

variable {α : Type} {host : Host σ} {bound : Nat} {hand : Hand} {operation : Engine σ α}
  {world after : World σ} {tale : List (Stage (World σ) Occurrence)} {result : α}

variable {schema : Schema} {state : σ}

/--
In a run of operations with any foreign code that deals with the engine, as long as a
property without an interceptor is written by bindings on fields of it only, each on its
own field, however their updates nest: at every moment the property holds a record of the
same type with as many fields, each of which has the number that its own binding has stored
last, or the one from the beginning.
-/
theorem field_bindings_keep_their_numbers (obeys : host.Obeys Dealing)
    (dealing : Dealing operation)
    (run : runWithin bound host operation (.initial schema state) = some (result, after)) :
    (∃ tale, Enacted host bound .code operation (.initial schema state) tale result after) ∧
      ∀ tale, Enacted host bound .code operation (.initial schema state) tale result after →
        ∀ owner? ref past stretch start finish initial,
          Stands tale after past start → Stands tale after (past ++ stretch) finish →
            start.graph.cell? ref = some (.native (.record initial)) →
              Reserved owner? ref past stretch finish →
                ∃ final, finish.graph.cell? ref = some (.native (.record final)) ∧
                  Record.Gathers owner? ref (eventsOf stretch) initial final := by
  refine ⟨dealing.enacted obeys run, fun tale told => ?_⟩
  intro owner? ref past stretch start finish initial starts ends holds reserved
  have passage := told.passage (.initial schema state)
  exact reserved.gathers passage.trail (passage.consulted [] nofun) starts ends holds

section Coordinates

/-! ### A point with a binding on each coordinate -/

def cardSchema : Schema :=
  Schema.empty.defineClass "Card" none [.native "place" (.record 0)]

/-- The place of the card, a point. -/
def cardPlace : PropertyRef := ⟨⟨0, 0⟩, 0⟩

/-- A host with a function for a number. -/
def steadyHost : Host Unit :=
  { Host.silent with call := fun _ _ => return .double 2.5 }

/-- The function of each coordinate. -/
def steadyNumber : Function := .mk 0 "number" .none (.host 0)

def coordinateContext : BindingContext := ⟨0, {}, .empty⟩

/-- A coordinate of the place. -/
def coordinateTarget (field : Nat) : BindingTarget := ⟨cardPlace, some field⟩

/-- Makes a card, and a binding on each coordinate of its place. -/
def prepareCard : Attempt PropertyError Unit Unit := do
  let _ ← Attempt.perform (create 0 none)
  let _ ← createBinding coordinateContext (coordinateTarget 0) (.function steadyNumber)
    { notifyOnChange := false }
  let _ ← createBinding coordinateContext (coordinateTarget 1) (.function steadyNumber)
    { notifyOnChange := false }

/-- The card with both bindings. -/
def preparedCard : World Unit :=
  ((runWithin 3 steadyHost prepareCard.run (.initial cardSchema ())).map Prod.snd).getD
    (.initial cardSchema ())

def quietFlags : WriteFlags := { quiet := true }

/-- Makes the card and enables the binding on its first coordinate. -/
def moveCard : Attempt PropertyError Unit Unit := do
  prepareCard
  Attempt.perform (setEnabled 0 true (some quietFlags))

theorem steadyHost_obeys : steadyHost.Obeys Dealing where
  call _ _ := .value _
  callTyped _ _ := .value _
  intercept _ _ _ := .value _
  announce _ := .value _
  handle _ _ := .value _
  retire _ := .value _

theorem prepareCard_dealing : Dealing prepareCard.run := by
  have sequential : Sequential (σ := Unit) Dealing := ⟨.value, .sequence, .get⟩
  refine sequential.perform (.offered (.create 0 none)) fun _ => ?_
  refine sequential.attempt (.offered (.createBinding _ _ _ _)) fun _ => ?_
  exact sequential.attempt (.offered (.createBinding _ _ _ _)) fun _ => sequential.succeed _

theorem moveCard_dealing : Dealing moveCard.run := by
  have sequential : Sequential (σ := Unit) Dealing := ⟨.value, .sequence, .get⟩
  exact sequential.attempt prepareCard_dealing fun _ =>
    sequential.done (.offered (.setEnabled _ _ _))

theorem preparedCard_run :
    runWithin 3 steadyHost prepareCard.run (.initial cardSchema ()) =
      some (.ok (), preparedCard) := by
  rfl

/-- The binding on the first coordinate, which has just been enabled. -/
def enabledCoordinate : Binding :=
  { context := coordinateContext, expression := .function steadyNumber,
    target := coordinateTarget 0, this? := none, arguments := [], adapter := 0, enabled := true,
    notifyOnChange := false, fastPath := true, location? := none }

/-- The card when the binding on the first coordinate is enabled. -/
def calledCard : World Unit := switched preparedCard 0 true true

/-- The card when the update of the binding has begun. -/
def begunCard : World Unit := calledCard.retained.begun 0

/-- The card when the function of the binding has been called. -/
def countedCard : World Unit :=
  { begunCard with bindings := begunCard.bindings.modify 0 fun binding =>
      { binding with evaluations := binding.evaluations + 1 } }

/-- The card with the number in its place. -/
def movedCard : World Unit := countedCard.holding cardPlace (.native (.record ⟨0, [2.5, 0]⟩))

/-- The card when the binding has noted its success. -/
def notedCard : World Unit :=
  { movedCard with bindings := movedCard.bindings.modify 0 fun binding =>
      { binding with pending? := none } }

/-- The card when the binding is not being updated any more. -/
def leftCard : World Unit := notedCard.finished 0

/-- The card after the update. -/
def restedCard : World Unit :=
  { leftCard with graphHolders := leftCard.graphHolders - 1 }

/-- What happens in the update of the first coordinate. -/
abbrev Moving {α : Type} : Engine Unit α → World Unit → List (Stage (World Unit) Occurrence) →
    α → World Unit → Prop :=
  Enacted steadyHost 3 (.update 0 (coordinateTarget 0))

/-- The function of the binding is called, and nothing else happens meanwhile. -/
theorem coordinate_evaluates :
    Moving (evaluateBinding 0 enabledCoordinate) begunCard
      [⟨begunCard, .other⟩, ⟨{ begunCard with collector? := none }, .other⟩]
      (.ok (.dynamic (.double 2.5))) begunCard := by
  have nobody : ∀ id, (none : Option Collector) = some (.binding id) →
      ∃ target, Hand.update 0 (coordinateTarget 0) = .update id target := nofun
  have answered : Enacted steadyHost 2 .code
      ((Query.call steadyNumber ⟨.empty, none, []⟩).answer steadyHost)
      { begunCard with collector? := none } [] (.ok (.dynamic (.double 2.5)))
      { begunCard with collector? := none } := .value _ _ _
  have called : Moving
      (withCollector none (foreign (Query.call steadyNumber ⟨.empty, none, []⟩).step)) begunCard
      [⟨begunCard, .other⟩, ⟨{ begunCard with collector? := none }, .other⟩]
      (.ok (.dynamic (.double 2.5))) begunCard :=
    .scope nobody (.visit _ answered)
  show Enacted _ _ _ _ _ ([] ++ ([_, _] ++ [])) _ _
  exact .sequence (.value _ _ _) (.sequence called (.value _ _ _))

/-- The number is put in the place without a break. -/
theorem coordinate_stores :
    Moving (storeResult 0 enabledCoordinate (.dynamic (.double 2.5)) quietFlags :
      WriteBack Unit Unit).run countedCard [⟨countedCard, .stores 0 cardPlace 0 2.5⟩] (.ok ())
      movedCard := by
  have silent : Enacted steadyHost 3 .code
      (announceChange cardPlace 0
        (!((Cell.native (.record ⟨0, [0, 0]⟩)).holds (.record ⟨0, [2.5, 0]⟩)))
        { quietFlags with keep := true, bypass := true }) movedCard [] () movedCard := by
    rw [announceChange]
    exact .value _ _ _
  have holds : countedCard.graph.cell? cardPlace = some (.native (.record ⟨0, [0, 0]⟩)) := rfl
  have unbroken : ∀ outside,
      (write cardPlace (.record ⟨0, [2.5, 0]⟩)
        { quietFlags with keep := true, bypass := true }).run outside countedCard =
      (store cardPlace 0 (.native (.record ⟨0, [2.5, 0]⟩))
        (fun cell => cell.holds (.record ⟨0, [2.5, 0]⟩))
        { quietFlags with keep := true, bypass := true }).run outside countedCard := fun _ => rfl
  have stores : Moving (write cardPlace (.record ⟨0, [2.5, 0]⟩)
        { quietFlags with keep := true, bypass := true } : Attempt PropertyError Unit Unit).run
      countedCard [⟨countedCard, .stores 0 cardPlace 0 2.5⟩] (.ok ()) movedCard :=
    .stores rfl holds rfl rfl unbroken silent
  have resolves : Moving (WriteBack.access (Attempt.ask fun graph => graph.resolve cardPlace 16) :
      WriteBack Unit PropertyRef).run countedCard [] (.ok cardPlace) countedCard :=
    .rename _ (.look (fun graph => graph.resolve cardPlace 16) _ _)
  have found : Moving (Attempt.perform (binding? 0) : WriteBack Unit (Option Binding)).run
      countedCard [] (.ok countedCard.bindings[0]?) countedCard := .rename _ (.seek 0 _ _)
  have described : Moving (WriteBack.access (Attempt.ask fun graph => graph.property cardPlace) :
      WriteBack Unit Property).run countedCard []
      ((countedCard.graph.property cardPlace).mapError .ofProperty) countedCard :=
    .rename _ (.look (fun graph => graph.property cardPlace) _ _)
  have peeked : Moving (WriteBack.access (Engine.peek cardPlace) : WriteBack Unit Native).run
      countedCard [] (.ok (.record ⟨0, [0, 0]⟩)) countedCard :=
    .rename _ (.look (fun graph => graph.peek cardPlace defaultAliasDepth) _ _)
  show Enacted _ _ _ _ _ ([] ++ ([] ++ ([] ++ ([] ++ ([] ++ [_]))))) _ _
  refine .succeeds resolves (.succeeds found ?_)
  refine .succeeds described ?_
  refine .succeeds (.value _ _ _) ?_
  refine .succeeds peeked ?_
  exact .rename _ stores

theorem coordinate_updates :
    Moving (evaluation 0 enabledCoordinate quietFlags) begunCard
      [⟨begunCard, .other⟩, ⟨{ begunCard with collector? := none }, .other⟩, ⟨begunCard, .other⟩,
        ⟨countedCard, .stores 0 cardPlace 0 2.5⟩, ⟨movedCard, .other⟩] () notedCard := by
  have counted : ∀ binding : Binding,
      binding.Furthered { binding with evaluations := binding.evaluations + 1 } :=
    fun _ => ⟨rfl, rfl, rfl, rfl⟩
  have noted : ∀ binding : Binding, binding.Furthered { binding with pending? := none } :=
    fun _ => ⟨rfl, rfl, rfl, rfl⟩
  have counts : Moving
      (modifyBinding 0 fun binding => { binding with evaluations := binding.evaluations + 1 })
      begunCard [⟨begunCard, .other⟩] () countedCard := .tend counted begunCard
  have notes : Moving (modifyBinding 0 fun binding => { binding with pending? := none })
      movedCard [⟨movedCard, .other⟩] () notedCard := .tend noted movedCard
  have looks : Moving graph countedCard [] countedCard.graph countedCard := .look id _ _
  show Enacted _ _ _ _ _ ([_, _] ++ ([_] ++ ([] ++ ([] ++ ([_] ++ [_]))))) _ _
  refine .sequence coordinate_evaluates (.sequence counts (.sequence looks ?_))
  exact .sequence (.seek 0 _ _) (.sequence coordinate_stores notes)

/-- What happens when the binding on the first coordinate is enabled. -/
def cardMoves : List (Stage (World Unit) Occurrence) :=
  [⟨preparedCard, .asks 0 true true⟩, ⟨calledCard, .attempts 0⟩, ⟨calledCard, .begins 0⟩,
    ⟨begunCard, .other⟩, ⟨{ begunCard with collector? := none }, .other⟩, ⟨begunCard, .other⟩,
    ⟨countedCard, .stores 0 cardPlace 0 2.5⟩, ⟨movedCard, .other⟩, ⟨notedCard, .ends 0⟩,
    ⟨leftCard, .other⟩]

theorem coordinate_enabled :
    Enacted steadyHost 3 .code (setEnabled 0 true (some quietFlags)) preparedCard cardMoves ()
      restedCard := by
  have found : preparedCard.bindings[0]? =
      some { enabledCoordinate with enabled := false, fastPath := false } := rfl
  have prompts : Prompts 0 quietFlags (setEnabled 0 true (some quietFlags)) preparedCard
      [⟨preparedCard, .asks 0 true true⟩, ⟨calledCard, .attempts 0⟩] calledCard :=
    .enable found rfl rfl
  have settled : Enacted steadyHost 3 .code (settle 0) leftCard [] () leftCard := by
    show Enacted _ _ _ _ _ ([] ++ []) _ _
    exact .sequence (.get _ _) (.value _ _ _)
  have unnoted : ∀ world : World Unit,
      Unnoted world { world with graphHolders := world.graphHolders - 1 } :=
    fun _ => .of_bindings rfl rfl rfl
  have released : Enacted steadyHost 3 .code releaseGraph leftCard [⟨leftCard, .other⟩] ()
      restedCard := by
    show Enacted _ _ _ _ _ ([_] ++ ([] ++ [])) _ _
    refine .sequence (.change _ unnoted leftCard) ?_
    refine .sequence (.get _ _) ?_
    exact .value _ _ _
  have ending : Enacted steadyHost 3 .code (do settle 0; releaseGraph) leftCard
      [⟨leftCard, .other⟩] () restedCard := .sequence settled released
  exact .opened prompts rfl (by decide +kernel) coordinate_updates ending

/-- The binding on each coordinate. -/
def coordinateOwner? (field : Nat) : Option BindingId :=
  if field < 2 then some field else none

theorem coordinates_reserved {past : List (Stage (World Unit) Occurrence)}
    (trail : Trail Pace (.initial cardSchema ()) past preparedCard) :
    Reserved coordinateOwner? cardPlace past cardMoves restedCard where
  owned field id owner := by
    rcases field with _ | _ | _
    · cases owner
      exact ⟨_, rfl, rfl⟩
    · cases owner
      exact ⟨_, rfl, rfl⟩
    · cases owner
  sole stage member author? writes := by
    simp only [cardMoves, List.mem_cons, List.not_mem_nil, or_false] at member
    rcases member with rfl | rfl | rfl | rfl | rfl | rfl | rfl | rfl | rfl | rfl <;> cases writes
    exact ⟨0, 0, rfl, rfl⟩
  unwatched := by decide +kernel
  unasked field id owner asking := by
    have marked := asking.marked trail
    rcases field with _ | _ | _ <;> cases owner <;> cases marked
  remains stage member := by
    simp only [cardMoves, List.mem_cons, List.not_mem_nil, or_false] at member
    rcases member with rfl | rfl | rfl | rfl | rfl | rfl | rfl | rfl | rfl | rfl <;>
      constructor <;> intro happens <;> cases happens

/-- The first coordinate gets the number of its binding, and the second stays. -/
theorem coordinates_keep_their_numbers :
    ∃ past,
      Enacted steadyHost 3 .code moveCard.run (.initial cardSchema ()) (past ++ cardMoves) (.ok ())
        restedCard ∧
      Reserved coordinateOwner? cardPlace past cardMoves restedCard ∧
      restedCard.graph.cell? cardPlace = some (.native (.record ⟨0, [2.5, 0]⟩)) ∧
      Record.Gathers coordinateOwner? cardPlace (eventsOf cardMoves) ⟨0, [0, 0]⟩
        ⟨0, [2.5, 0]⟩ := by
  rcases prepareCard_dealing.enacted steadyHost_obeys preparedCard_run with ⟨past, prepared⟩
  have enabled : Enacted steadyHost 3 .code
      (Attempt.perform (setEnabled 0 true (some quietFlags)) : Attempt PropertyError Unit Unit).run
      preparedCard cardMoves (.ok ()) restedCard := .rename Except.ok coordinate_enabled
  have told : Enacted steadyHost 3 .code moveCard.run (.initial cardSchema ()) (past ++ cardMoves)
      (.ok ()) restedCard := .succeeds prepared enabled
  have reserved := coordinates_reserved (prepared.passage (.initial cardSchema ())).trail
  have keeps := (field_bindings_keep_their_numbers steadyHost_obeys moveCard_dealing told.run).2
    (past ++ cardMoves) told
  have holds : restedCard.graph.cell? cardPlace = some (.native (.record ⟨0, [2.5, 0]⟩)) := rfl
  rcases keeps coordinateOwner? cardPlace past cardMoves preparedCard restedCard ⟨0, [0, 0]⟩
    (.inl ⟨_, _, rfl⟩) (.inr ⟨rfl, rfl⟩) rfl reserved with ⟨final, held, gathers⟩
  rw [holds] at held
  cases held
  exact ⟨past, told, reserved, holds, gathers⟩

end Coordinates

end Engine

end PropertyBinding
