import PropertyBinding.Proofs.Framing

namespace PropertyBinding

/-!
# Who is told of reads

Scopes of collectors nest: what is read is told to the collector of the innermost
scope, and the end of a scope brings back the collector that waited.  So a binding is
told of exactly those reads for which its own scope is the innermost one, and that is
only while it is updated.  What a binding follows is at every moment what it was told
of since its latest update began, each source once and in the order of the first reads.
-/

variable {σ : Type}

/-! ## Collectors in their scopes -/

/-- Whether a collector has come out of another: it is the same, or a recorder with more reads. -/
inductive Collector.Continues : Option Collector → Option Collector → Prop
  | same (collector? : Option Collector) : Continues collector? collector?
  | recorded (reads more : List Source) :
      Continues (some (.recorder reads)) (some (.recorder (reads ++ more)))

namespace Collector.Continues

variable {first second third : Option Collector} {id : BindingId}

theorem trans (left : Continues first second) (right : Continues second third) :
    Continues first third := by
  cases left with
  | same => exact right
  | recorded reads more =>
      cases right with
      | same => exact .recorded reads more
      | recorded _ others =>
          rw [List.append_assoc]
          exact .recorded reads (more ++ others)

/-- A binding that collects is the same all along. -/
theorem binding_iff (continues : Continues first second) :
    second = some (.binding id) ↔ first = some (.binding id) := by
  cases continues with
  | same => rfl
  | recorded reads more => simp

end Collector.Continues

/-- The collector of the innermost scope. -/
def attention : List Frame → Option Collector
  | [] => none
  | .scope collector? _ :: _ => collector?
  | _ :: rest => attention rest

/--
Whether a collector is the one of the innermost scope, and those that wait are the ones
of the scopes around it.
-/
def Attended : List Frame → Option Collector → Prop
  | [], now => Collector.Continues none now
  | .scope collector? outer? :: rest, now =>
      Collector.Continues collector? now ∧ Attended rest outer?
  | _ :: rest, now => Attended rest now

/--
Whether all bindings of a world are there later, and are to follow what they read if
they were to.
-/
def World.KeepsListeners (world later : World σ) : Prop :=
  ∀ (id : BindingId) former, world.bindings[id]? = some former →
    ∃ binding, later.bindings[id]? = some binding ∧ binding.listener? id = former.listener? id

namespace World.KeepsListeners

variable {world later : World σ}

theorem of_bindings (same : later.bindings = world.bindings) : world.KeepsListeners later :=
  fun _ former found => ⟨former, same ▸ found, rfl⟩

theorem modify {id : BindingId} {change : Binding → Binding}
    (bindings : later.bindings = world.bindings.modify id change)
    (kept : ∀ binding, (change binding).notifyOnChange = binding.notifyOnChange) :
    world.KeepsListeners later := by
  intro other former found
  rw [bindings, List.getElem?_modify, found]
  refine ⟨_, rfl, ?_⟩
  split
  · rw [Binding.listener?, kept, Binding.listener?]
  · rfl

theorem begun (id : BindingId) : world.KeepsListeners (world.begun id) :=
  modify (show _ = world.bindings.modify id _ from rfl) fun _ => rfl

theorem finished (id : BindingId) : world.KeepsListeners (world.finished id) :=
  modify (show _ = world.bindings.modify id _ from rfl) fun _ => rfl

/-- Work that foreign code cannot interrupt takes no binding away. -/
theorem act {event : Event} (act : Act world event later) : world.KeepsListeners later := by
  intro id former found
  rcases act.goes found with ⟨binding, present, goes⟩
  refine ⟨binding, present, ?_⟩
  cases goes with
  | tended tended => rw [Binding.listener?, tended.notifies, Binding.listener?]
  | follows => rfl
  | retires => rfl
  | drops => rfl

end World.KeepsListeners

/-- Whether all that goes on on a stack may go on there. -/
def Seated (world : World σ) (stack : List Frame) : Prop :=
  ∀ frame rest, frame :: rest <:+ stack → world.Admits rest frame

namespace Seated

variable {world later : World σ} {stack : List Frame} {frame : Frame}

theorem pop (seated : Seated world (frame :: stack)) : Seated world stack :=
  fun inner rest within => seated inner rest (within.trans (List.suffix_cons frame stack))

theorem push (seated : Seated world stack) (admitted : world.Admits stack frame) :
    Seated world (frame :: stack) := by
  intro inner rest suffix
  rcases List.suffix_cons_iff.mp suffix with same | within
  · cases same
    exact admitted
  · exact seated inner rest within

theorem carry (seated : Seated world stack) (kept : world.KeepsListeners later) :
    Seated later stack := by
  intro frame rest suffix
  rcases seated frame rest suffix with ⟨evaluates, own⟩
  refine ⟨fun id updates => ?_, own⟩
  have before := evaluates id updates
  cases frame with
  | visit => exact before
  | emission => trivial
  | update => trivial
  | scope collector? outer? =>
      rcases before with ⟨former, found, collects⟩
      rcases kept id former found with ⟨binding, present, same⟩
      exact ⟨binding, present, collects.trans same.symm⟩

end Seated

namespace Attended

variable {stack : List Frame} {now later : Option Collector}

theorem continues (attended : Attended stack now) : Collector.Continues (attention stack) now := by
  induction stack with
  | nil => exact attended
  | cons frame rest step =>
      cases frame with
      | scope => exact attended.1
      | visit => exact step attended
      | emission => exact step attended
      | update => exact step attended

theorem step (attended : Attended stack now) (continues : Collector.Continues now later) :
    Attended stack later := by
  induction stack with
  | nil => exact Collector.Continues.trans attended continues
  | cons frame rest step =>
      cases frame with
      | scope => exact ⟨attended.1.trans continues, attended.2⟩
      | visit => exact step attended
      | emission => exact step attended
      | update => exact step attended

end Attended

/-- A read tells the collector, which stays. -/
theorem World.continues_capture (world : World σ) (source : Source) :
    Collector.Continues world.collector? (world.capture source).collector? := by
  unfold capture
  split
  · exact .same _
  · unfold follow
    split
    · exact .same _
    · split <;> exact .same _
  · next reads recorded =>
    rw [recorded]
    exact .recorded reads [source]

/-- Work that foreign code cannot interrupt leaves the collector in its place. -/
theorem Act.continues {world later : World σ} {event : Event} (act : Act world event later) :
    Collector.Continues world.collector? later.collector? := by
  have still : later.collector? = world.collector? →
      Collector.Continues world.collector? later.collector? := by
    intro same
    rw [same]
    exact .same _
  cases act with
  | beside same => exact still same.collector
  | note => exact still (world.noted_frame _ _).2.2.2
  | refuse => exact still (world.noted_frame _ _).2.2.2
  | read => exact world.continues_capture _
  | object => exact still rfl
  | create => exact still rfl
  | destroy => exact still rfl
  | vanish => exact still rfl
  | tend => exact still rfl
  | append => exact still rfl
  | retire => exact still rfl
  | drop => exact still rfl
  | subscribe => exact still rfl
  | unsubscribe => exact still rfl

/-- Whatever is told of, the collector that was there before is there afterwards. -/
theorem Engine.Told.continues {host : Host σ} {bound : Nat} {stack : List Frame} {α : Type}
    {operation : Engine σ α} {world after : World σ} {tale : List (Moment σ)} {result : α}
    (told : Told host bound stack operation world tale result after) :
    Collector.Continues world.collector? after.collector? := by
  induction told with
  | still => exact .same _
  | act _ act => exact act.continues
  | sequence _ _ first second => exact first.trans second
  | alike _ _ same => exact same
  | visit _ _ inner => exact inner
  | scope => exact .same _
  | emission _ inner => exact inner
  | frame _ _ inner => exact inner

/-! ## What a binding is told of -/

/-- The source that a binding is told of in a moment, if it is told of one. -/
def Moment.toldTo (id : BindingId) (moment : Moment σ) : Option Source :=
  match moment.event with
  | .reads source =>
      if attention moment.scene.stack = some (.binding id) then some source else none
  | _ => none

theorem Moment.toldTo_eq_some {id : BindingId} {moment : Moment σ} {source : Source} :
    moment.toldTo id = some source ↔
      moment.event = .reads source ∧ attention moment.scene.stack = some (.binding id) := by
  unfold Moment.toldTo
  split
  · next read told => rw [told]; split <;> simp_all
  · next silent =>
    exact ⟨nofun, fun told => absurd told.1 (silent source)⟩

/-- What a binding has been told of after a moment, if it is to follow anything. -/
def Moment.hear (id : BindingId) (heard : Option (List Source)) (moment : Moment σ) :
    Option (List Source) :=
  if moment.event.turns id then
    if moment.event = .begins id then some [] else none
  else
    heard.map fun sources => sources ++ (moment.toldTo id).toList

section Hear

variable {id : BindingId} {moment : Moment σ} {heard : Option (List Source)}

theorem hear_calm (calm : moment.event.turns id = false) :
    moment.hear id heard = heard.map fun sources => sources ++ (moment.toldTo id).toList :=
  if_neg (by simp [calm])

/-- A source that is known already adds nothing to what was told. -/
theorem hear_known (calm : moment.event.turns id = false)
    (known : ∀ source, moment.toldTo id = some source →
      heard = none ∨ (heard.getD []).eraseDups.contains source = true) :
    ((moment.hear id heard).getD []).eraseDups = (heard.getD []).eraseDups ∧
      (moment.hear id heard = none ↔ heard = none) := by
  rw [hear_calm calm]
  cases heard with
  | none => exact ⟨rfl, Iff.rfl⟩
  | some before =>
      refine ⟨?_, by simp⟩
      cases told : moment.toldTo id with
      | none => simp
      | some source =>
          have member : source ∈ before := by
            simpa using (known source told).resolve_left nofun
          show (before ++ [source]).eraseDups = before.eraseDups
          rw [eraseDups_append_one, if_pos (List.contains_iff_mem.mpr member)]

/-- A source comes after those that were told before. -/
theorem hear_new {before : List Source} {source : Source} (told : moment.toldTo id = some source) :
    moment.hear id (some before) = some (before ++ [source]) := by
  have calm : moment.event.turns id = false := by
    rw [(Moment.toldTo_eq_some.mp told).1]
    rfl
  rw [hear_calm calm, told]
  rfl

end Hear

/--
What a binding has been told of since its latest update began, unless it was retired or
dropped after that.
-/
def heard (id : BindingId) (past : List (Moment σ)) : Option (List Source) :=
  past.foldl (Moment.hear id) none

namespace World

variable {world : World σ} {id : BindingId} {binding : Binding}

/-- The sources that a binding follows. -/
def sourcesOf (world : World σ) (id : BindingId) : List Source :=
  (world.readsOf id).sources

theorem sourcesOf_of_found (found : world.bindings[id]? = some binding) :
    world.sourcesOf id = binding.reads.sources := by
  rw [sourcesOf, readsOf, found]
  rfl

/-- A binding that lets go of its edges follows nothing, and the others what they followed. -/
theorem readsOf_letGo {change : Binding → Binding} {other : BindingId} :
    (world.letGo id change).readsOf other = if id = other then .empty else world.readsOf other := by
  unfold readsOf letGo
  rw [List.getElem?_modify]
  cases world.bindings[other]? with
  | none => split <;> rfl
  | some binding => split <;> rfl

theorem isRetired_begun {other : BindingId} :
    (world.begun id).isRetired other = world.isRetired other := by
  have same : ((world.begun id).bindings[other]?).map (·.retired) =
      (world.bindings[other]?).map (·.retired) := Binding.map_modify _ _ _ fun _ => rfl
  rw [isRetired, same, isRetired]

theorem isRetired_of_found (found : world.bindings[id]? = some binding) :
    world.isRetired id = binding.retired := by
  rw [isRetired, found]
  rfl

end World

section Heard

variable {id : BindingId} {past during : List (Moment σ)} {moment : Moment σ}

theorem heard_append_one : heard id (past ++ [moment]) = moment.hear id (heard id past) := by
  rw [heard, List.foldl_append]
  rfl

/-- What is told without another beginning comes after what was told before. -/
theorem heard_append (calm : ∀ moment ∈ during, moment.event.turns id = false) :
    heard id (past ++ during) =
      (heard id past).map fun sources => sources ++ during.filterMap (·.toldTo id) := by
  induction during generalizing past with
  | nil => simp
  | cons moment rest step =>
      have others : heard id ((past ++ [moment]) ++ rest) = (heard id (past ++ [moment])).map
          fun sources => sources ++ rest.filterMap (·.toldTo id) :=
        step fun moment member => calm moment (List.mem_cons_of_mem _ member)
      have first : moment.event.turns id = false := calm moment List.mem_cons_self
      rw [List.append_assoc] at others
      rw [show past ++ moment :: rest = past ++ ([moment] ++ rest) from rfl, others,
        heard_append_one, Moment.hear, first]
      cases told : moment.toldTo id <;> simp [Option.map_map, Function.comp_def, told]

theorem heard_other {scene : Scene σ} : heard id (past ++ [⟨scene, .other⟩]) = heard id past := by
  rw [heard_append_one]
  simp [Moment.hear, Event.turns, Moment.toldTo]

end Heard

/-- Whether a binding follows what it was told of, after a part of a tale. -/
structure Heeds (past : List (Moment σ)) (scene : Scene σ) (id : BindingId) : Prop where
  sources : scene.world.sourcesOf id = ((heard id past).getD []).eraseDups
  /-- A binding that is updated and follows nothing more was retired. -/
  deaf : heard id past = none → id ∈ scene.updates → scene.world.isRetired id = true
  retired : scene.world.isRetired id = true → heard id past = none

/-- Whether all bindings follow what they were told of, and are told of what they are to follow. -/
structure Heeded (past : List (Moment σ)) (scene : Scene σ) : Prop extends Framed past scene where
  attended : Attended scene.stack scene.world.collector?
  seated : Seated scene.world scene.stack
  heeds : ∀ id, Heeds past scene id

/-- The scope of a collector that is attended to is on the stack. -/
theorem scope_of_attention {stack : List Frame} {collector : Collector}
    (attends : attention stack = some collector) :
    ∃ outer? rest, .scope (some collector) outer? :: rest <:+ stack := by
  induction stack with
  | nil => cases attends
  | cons frame rest step =>
      have deeper : attention rest = some collector →
          ∃ outer? below, .scope (some collector) outer? :: below <:+ frame :: rest := by
        intro inner
        rcases step inner with ⟨outer?, below, suffix⟩
        exact ⟨outer?, below, suffix.trans (List.suffix_cons frame rest)⟩
      cases frame with
      | scope collector? outer? =>
          rw [attention] at attends
          subst attends
          exact ⟨outer?, rest, List.suffix_rfl⟩
      | visit => exact deeper attends
      | emission => exact deeper attends
      | update => exact deeper attends

namespace Heeded

variable {past : List (Moment σ)} {scene next : Scene σ} {event : Event}

/-- A binding is told of reads only while it is updated. -/
theorem listens (heeded : Heeded past scene) {id : BindingId}
    (attends : attention scene.stack = some (.binding id)) : id ∈ scene.updates := by
  rcases scope_of_attention attends with ⟨outer?, rest, suffix⟩
  have opened : .update id ∈ rest := 
    List.mem_of_mem_head? ((heeded.seated _ rest suffix).own id outer? rfl)
  have onStack := suffix.subset (List.mem_cons_of_mem _ opened)
  exact List.mem_filterMap.mpr ⟨.update id, onStack, rfl⟩

theorem collects_iff (heeded : Heeded past scene) {id : BindingId} :
    scene.world.collector? = some (.binding id) ↔ attention scene.stack = some (.binding id) :=
  heeded.attended.continues.binding_iff

theorem initial (schema : Schema) (state : σ) : Heeded [] ⟨[], .initial schema state⟩ where
  toFramed := .initial schema state
  attended := .same none
  seated frame rest suffix := by cases List.eq_nil_of_suffix_nil suffix
  heeds id := ⟨rfl, fun _ member => by (cases member), fun retired => by (cases retired)⟩

/-- A binding that is there after a moment follows what it was told of. -/
theorem heeds_of_found {moment : Moment σ} {id : BindingId} {binding : Binding}
    (present : next.world.bindings[id]? = some binding)
    (sources : binding.reads.sources = ((moment.hear id (heard id past)).getD []).eraseDups)
    (deaf : moment.hear id (heard id past) = none → id ∈ next.updates → binding.retired = true)
    (retired : binding.retired = true → moment.hear id (heard id past) = none) :
    Heeds (past ++ [moment]) next id := by
  rw [← World.isRetired_of_found present, ← heard_append_one] at deaf retired
  rw [← heard_append_one] at sources
  exact ⟨(World.sourcesOf_of_found present).trans sources, deaf, retired⟩

/-- Work that foreign code cannot interrupt makes a binding follow what it is told of. -/
theorem heeds_act {world later : World σ} {stack : List Frame} {id : BindingId} {former : Binding}
    (heeded : Heeded past ⟨stack, world⟩) (act : Act world event later)
    (found : world.bindings[id]? = some former) :
    Heeds (past ++ [⟨⟨stack, world⟩, event⟩]) ⟨stack, later⟩ id := by
  have sources : former.reads.sources = ((heard id past).getD []).eraseDups :=
    (World.sourcesOf_of_found found).symm.trans (heeded.heeds id).sources
  have deaf : heard id past = none → id ∈ Scene.updates ⟨stack, world⟩ → former.retired = true :=
    fun nothing going =>
      (World.isRetired_of_found found).symm.trans ((heeded.heeds id).deaf nothing going)
  have retired : former.retired = true → heard id past = none := fun isRetired =>
    (heeded.heeds id).retired ((World.isRetired_of_found found).trans isRetired)
  rcases act.goes found with ⟨binding, present, goes⟩
  cases goes with
  | tended tended calm useless =>
      have known : ∀ source, Moment.toldTo id ⟨⟨stack, world⟩, event⟩ = some source →
          heard id past = none ∨ ((heard id past).getD []).eraseDups.contains source = true := by
        intro source told
        rcases Moment.toldTo_eq_some.mp told with ⟨reads, attends⟩
        rcases useless source reads (heeded.collects_iff.mpr attends) with isRetired | known
        · exact .inl (retired isRetired)
        · exact .inr (sources ▸ known)
      have same := hear_known calm known
      refine heeds_of_found present ?_ ?_ ?_
      · rw [same.1, ← sources, tended.reads]
      · rw [same.2, tended.retired]
        exact deaf
      · rw [same.2, tended.retired]
        exact retired
  | follows source told collects active new =>
      have attends := heeded.collects_iff.mp collects
      cases hears : heard id past with
      | none =>
          rw [deaf hears (heeded.listens attends)] at active
          cases active
      | some before =>
          have more : Moment.hear id (some before) ⟨⟨stack, world⟩, event⟩ =
              some (before ++ [source]) :=
            hear_new (Moment.toldTo_eq_some.mpr ⟨told, attends⟩)
          rw [hears] at sources
          refine heeds_of_found present ?_ ?_ ?_ <;> rw [hears, more]
          · have fresh : before.contains source = false := by
              simpa [ReadSet.contains, sources] using new
            rw [Option.getD_some, eraseDups_append_one, fresh]
            show List.map Edge.source (former.reads.edges ++ [⟨source, world.channels.next⟩]) = _
            rw [List.map_append]
            exact congrArg (fun others => others ++ [source]) sources
          · intro nothing
            cases nothing
          · intro isRetired
            rw [show former.retired = true from isRetired] at active
            cases active
  | retires told =>
      subst told
      refine heeds_of_found present ?_ (fun _ _ => rfl) fun _ => ?_
      · simp [Moment.hear, Event.turns, ReadSet.sources, ReadSet.empty]
      · simp [Moment.hear, Event.turns]
  | drops told unkept =>
      subst told
      refine heeds_of_found present ?_ (fun _ going => ?_) fun _ => ?_
      · simp [Moment.hear, Event.turns, ReadSet.sources, ReadSet.empty]
      · have marked := (heeded.marked id).mpr going
        rw [World.isUpdating_of_found found] at marked
        simp [World.keepsBinding, found, marked] at unkept
      · simp [Moment.hear, Event.turns]

/-- A binding that is not there before such work is told of nothing in it. -/
theorem heeds_missing {world later : World σ} {stack : List Frame} {id : BindingId}
    (heeded : Heeded past ⟨stack, world⟩) (act : Act world event later)
    (missing : world.bindings[id]? = none) :
    Heeds (past ++ [⟨⟨stack, world⟩, event⟩]) ⟨stack, later⟩ id := by
  have idle : id ∉ Scene.updates ⟨stack, world⟩ := by
    intro going
    have marked := (heeded.marked id).mpr going
    simp [World.isUpdating, missing] at marked
  have before : ((heard id past).getD []).eraseDups = [] := by
    rw [← (heeded.heeds id).sources]
    simp [World.sourcesOf, World.readsOf, missing, ReadSet.sources, ReadSet.empty]
  have silent : Moment.toldTo id ⟨⟨stack, world⟩, event⟩ = none := by
    refine Option.eq_none_iff_forall_ne_some.mpr fun source told => ?_
    exact idle (heeded.listens (Moment.toldTo_eq_some.mp told).2)
  have still : later.sourcesOf id = [] ∧ later.isRetired id = false := by
    cases found : later.bindings[id]? with
    | none =>
        simp [World.sourcesOf, World.readsOf, World.isRetired, found, ReadSet.sources,
          ReadSet.empty]
    | some binding =>
        have fresh := act.fresh missing found
        rw [World.sourcesOf_of_found found, World.isRetired_of_found found, fresh.reads]
        exact ⟨rfl, fresh.retired⟩
  refine ⟨still.1.trans ?_, fun _ going => absurd going idle, fun isRetired => ?_⟩
  · rw [heard_append_one]
    cases turns : event.turns id with
    | true =>
        rw [Moment.hear, if_pos turns]
        split <;> rfl
    | false =>
        refine ((hear_known turns fun source told => ?_).1.trans before).symm
        rw [silent] at told
        cases told
  · rw [still.2] at isRetired
    cases isRetired

/-- A move that is no work on a binding and changes none keeps what it follows. -/
theorem heeds_other {id : BindingId} (heeded : Heeded past scene)
    (bindings : next.world.bindings = scene.world.bindings)
    (updates : next.updates = scene.updates) : Heeds (past ++ [⟨scene, .other⟩]) next id := by
  have heeds := heeded.heeds id
  refine ⟨?_, ?_, ?_⟩ <;> rw [heard_other]
  · rw [World.sourcesOf, World.readsOf, bindings]
    exact heeds.sources
  · rw [updates, World.isRetired, bindings]
    exact heeds.deaf
  · rw [World.isRetired, bindings]
    exact heeds.retired

/-- A binding whose update begins follows nothing yet, and the others what they followed. -/
theorem heeds_begin {world : World σ} {stack : List Frame} {id begun : BindingId}
    (heeded : Heeded past ⟨stack, world⟩) (opens : world.opens begun = true) :
    Heeds (past ++ [⟨⟨stack, world⟩, .begins begun⟩]) ⟨.update begun :: stack, world.begun begun⟩
      id := by
  have heeds := heeded.heeds id
  by_cases same : begun = id
  · subst same
    rcases World.found_of_opens opens with ⟨binding, found, _, active, _⟩
    have hears : heard begun (past ++ [⟨⟨stack, world⟩, .begins begun⟩]) = some [] := by
      simp [heard_append_one, Moment.hear, Event.turns]
    refine ⟨?_, ?_, fun isRetired => ?_⟩
    · rw [hears, World.sourcesOf, World.begun, World.readsOf_letGo, if_pos rfl]
      rfl
    · rw [hears]
      intro nothing
      cases nothing
    · rw [World.isRetired_begun, World.isRetired_of_found found, active] at isRetired
      cases isRetired
  · have hears : heard id (past ++ [⟨⟨stack, world⟩, .begins begun⟩]) = heard id past := by
      simp [heard_append_one, Moment.hear, Event.turns, same, Moment.toldTo]
    refine ⟨?_, fun nothing going => ?_, fun isRetired => ?_⟩
    · rw [hears, World.sourcesOf, World.begun, World.readsOf_letGo, if_neg same]
      exact heeds.sources
    · rw [World.isRetired_begun]
      have going : id ∈ begun :: Scene.updates ⟨stack, world⟩ := going
      exact heeds.deaf (hears ▸ nothing) ((List.mem_cons.mp going).resolve_left (Ne.symm same))
    · rw [World.isRetired_begun] at isRetired
      exact hears.trans (heeds.retired isRetired)

/-- The end of an update leaves what bindings follow. -/
theorem heeds_finish {world : World σ} {stack : List Frame} {id ended : BindingId}
    (heeded : Heeded past ⟨.update ended :: stack, world⟩) :
    Heeds (past ++ [⟨⟨.update ended :: stack, world⟩, .other⟩]) ⟨stack, world.finished ended⟩
      id := by
  have heeds := heeded.heeds id
  have reads : ((world.finished ended).bindings[id]?).map (·.reads) =
      (world.bindings[id]?).map (·.reads) := Binding.map_modify _ _ _ fun _ => rfl
  have retired : ((world.finished ended).bindings[id]?).map (·.retired) =
      (world.bindings[id]?).map (·.retired) := Binding.map_modify _ _ _ fun _ => rfl
  refine ⟨?_, ?_, ?_⟩ <;> rw [heard_other]
  · rw [World.sourcesOf, World.readsOf, reads]
    exact heeds.sources
  · rw [World.isRetired, retired]
    exact fun nothing going => heeds.deaf nothing (List.mem_cons_of_mem _ going)
  · rw [World.isRetired, retired]
    exact heeds.retired

/-- Each move keeps the reads of bindings with what they were told of. -/
theorem move (heeded : Heeded past scene) (move : Move scene event next) :
    Heeded (past ++ [⟨scene, event⟩]) next := by
  have framed := heeded.toFramed.move move
  have attended := heeded.attended
  have seated := heeded.seated
  cases move with
  | @act world later _ stack act =>
      refine ⟨framed, attended.step act.continues, seated.carry (.act act), fun id => ?_⟩
      cases found : world.bindings[id]? with
      | none => exact heeds_missing heeded act found
      | some former => exact heeds_act heeded act found
  | enter admitted =>
      exact ⟨framed, attended, seated.push admitted, fun _ => heeded.heeds_other rfl rfl⟩
  | leave => exact ⟨framed, attended, seated.pop, fun _ => heeded.heeds_other rfl rfl⟩
  | collect admitted =>
      exact ⟨framed, ⟨.same _, attended⟩, (seated.push admitted).carry (.of_bindings rfl),
        fun _ => heeded.heeds_other rfl rfl⟩
  | resume =>
      exact ⟨framed, attended.2, seated.pop.carry (.of_bindings rfl),
        fun _ => heeded.heeds_other rfl rfl⟩
  | announce =>
      exact ⟨framed, attended, (seated.push (.emission _)).carry (.of_bindings rfl),
        fun _ => heeded.heeds_other rfl rfl⟩
  | announced =>
      exact ⟨framed, attended, seated.pop.carry (.of_bindings rfl),
        fun _ => heeded.heeds_other rfl rfl⟩
  | @begin world begun stack opens =>
      exact ⟨framed, attended, (seated.push (.update begun)).carry (.begun begun),
        fun id => heeds_begin heeded opens⟩
  | @finish stack world ended =>
      exact ⟨framed, attended, seated.pop.carry (.finished ended),
        fun id => heeds_finish heeded⟩

end Heeded

/-! ## Exact read-sets -/

/--
Whether what a binding follows is, after a part of a tale, exactly what its latest
update was told of.
-/
structure Exact (past : List (Moment σ)) (scene : Scene σ) (id : BindingId) : Prop where
  follows : scene.world.sourcesOf id = ((heard id past).getD []).eraseDups
  /-- Since an update began, without another one and without retirement. -/
  evaluated : ∀ earlier opening during, past = earlier ++ ⟨opening, .begins id⟩ :: during →
    (∀ moment ∈ during, moment.event.turns id = false) →
      scene.world.sourcesOf id = (during.filterMap (·.toldTo id)).eraseDups
  /-- Since the binding was retired or dropped. -/
  released : ∀ earlier moment during, past = earlier ++ moment :: during →
    moment.event = .retires id ∨ moment.event = .drops id →
      (∀ moment ∈ during, moment.event.turns id = false) → scene.world.sourcesOf id = []
  retired : scene.world.isRetired id = true → scene.world.sourcesOf id = []
  /--
  In an update, the expression is called only where its reads are told to the binding,
  if it is to follow them.
  -/
  evaluates : ∀ frame rest, frame :: .update id :: rest <:+ scene.stack →
    scene.world.Evaluates id frame
  /-- Nobody tells the binding anything between its updates. -/
  listens : ∀ moment ∈ past, ∀ source, moment.toldTo id = some source → id ∈ moment.scene.updates

section Heard

variable {id : BindingId} {earlier during : List (Moment σ)} {moment : Moment σ}

/-- What was told before the read-set was emptied for the last time does not count. -/
theorem heard_since (turns : moment.event.turns id = true)
    (calm : ∀ moment ∈ during, moment.event.turns id = false) :
    heard id (earlier ++ moment :: during) =
      if moment.event = .begins id then some (during.filterMap (·.toldTo id)) else none := by
  rw [show earlier ++ moment :: during = (earlier ++ [moment]) ++ during by simp,
    heard_append calm, heard_append_one, Moment.hear, if_pos turns]
  split <;> rfl

end Heard

theorem Heeded.exact {past : List (Moment σ)} {scene : Scene σ} (heeded : Heeded past scene)
    {id : BindingId} (listens : ∀ moment ∈ past, ∀ source, moment.toldTo id = some source →
      id ∈ moment.scene.updates) : Exact past scene id := by
  have follows := (heeded.heeds id).sources
  constructor
  case follows => exact follows
  case listens => exact listens
  case evaluated =>
    rintro earlier opening during rfl calm
    rw [follows, heard_since (by simp [Event.turns]) calm, if_pos rfl]
    rfl
  case released =>
    rintro earlier moment during rfl turned calm
    have turns : moment.event.turns id = true := by
      rcases turned with told | told <;> simp [told, Event.turns]
    have other : moment.event ≠ .begins id := by
      rcases turned with told | told <;> simp [told]
    rw [follows, heard_since turns calm, if_neg other]
    rfl
  case retired =>
    intro isRetired
    rw [follows, (heeded.heeds id).retired isRetired]
    rfl
  case evaluates => exact fun frame rest suffix => (heeded.seated frame _ suffix).evaluates id rfl

namespace Engine

variable {host : Host σ} {bound : Nat} {α : Type} {operation : Engine σ α} {state : σ}
  {schema : Schema} {result : α} {after : World σ}

end Engine

end PropertyBinding
