import PropertyBinding.Proofs.Kinship

namespace PropertyBinding

/-!
# Wiring

The bindings and the channels of a world fit together: each edge of a binding is
a subscription that its channel lists and that is held, and whoever is listed
is a binding that ranks above the source.  Dropped subscriptions may still be
listed, and announcements that are going on hold what they call; so holds are
counted, with those of the announcements apart.
-/

/-- How high a source is when the properties are ranked; the notifiers are at the bottom. -/
def Source.level (rank : PropertyRef → Nat) : Source → Nat
  | .property object signal => rank ⟨object, signal⟩ + 1
  | .notifier _ => 0

/-- How high a binding is: as high as what it writes. -/
def Binding.level (rank : PropertyRef → Nat) (binding : Binding) : Nat :=
  rank binding.target.property + 1

namespace World

variable {σ : Type}

/-- The subscriptions of all edges. -/
def subscriptions (world : World σ) : List SubscriptionId :=
  world.bindings.flatMap fun binding => binding.reads.subscriptions

/-- Whether edges and subscribers fit together, while announcements hold some subscriptions. -/
structure Wired (rank : PropertyRef → Nat) (held : List SubscriptionId) (world : World σ) :
    Prop where
  listed : ∀ (id : BindingId) binding, world.bindings[id]? = some binding →
    ∀ edge ∈ binding.reads.edges,
      ⟨edge.subscription, .binding id⟩ ∈ world.channels.subscribersOf edge.source
  climbs : ∀ source, ∀ subscriber ∈ world.channels.subscribersOf source,
    ∃ (id : BindingId) (binding : Binding), subscriber.callback = .binding id ∧
      world.bindings[id]? = some binding ∧ source.level rank < binding.level rank
  counted : ∀ subscription, world.subscriptions.count subscription + held.count subscription ≤
    world.channels.held.count subscription

end World

/-- An edge to a new source comes after the others. -/
theorem ReadSet.insert?_new {reads : ReadSet} {edge : Edge}
    (new : reads.contains edge.source = false) :
    (reads.insert? edge).getD reads = ⟨reads.edges ++ [edge]⟩ := by
  rw [insert?, new]
  rfl

/-! ## Counting -/

/-- One changed item changes a count by what it contributes. -/
theorem count_flatMap_modify {α β : Type} [BEq β] {items : List α} {place : Nat} {item : α}
    (found : items[place]? = some item) (parts : α → List β) (change : α → α) (part : β) :
    ((items.modify place change).flatMap parts).count part + (parts item).count part =
      (items.flatMap parts).count part + (parts (change item)).count part := by
  induction items generalizing place with
  | nil => simp at found
  | cons head rest step =>
      cases place with
      | zero =>
          simp only [List.getElem?_cons_zero, Option.some.injEq] at found
          subst found
          simp only [List.modify_zero_cons, List.flatMap_cons, List.count_append]
          omega
      | succ place =>
          have others := step (by simpa using found)
          simp only [List.modify_succ_cons, List.flatMap_cons, List.count_append]
          omega

namespace Channels

theorem count_held_releaseAll (channels : Channels) (ids : List SubscriptionId)
    (subscription : SubscriptionId) :
    channels.held.count subscription ≤
      (channels.releaseAll ids).held.count subscription + ids.count subscription := by
  induction ids generalizing channels with
  | nil => simp [releaseAll]
  | cons id rest step =>
      have others := step (channels.release id)
      have first : channels.held.count subscription ≤
          (channels.release id).held.count subscription + [id].count subscription := by
        simp only [release, List.count_erase, List.count_singleton]
        omega
      have whole : (channels.releaseAll (id :: rest)) = (channels.release id).releaseAll rest := rfl
      rw [whole, List.count_cons]
      simp only [List.count_singleton] at first
      omega

theorem held_startAnnouncement (channels : Channels) (source : Source) :
    (channels.startAnnouncement source).2.held =
      (channels.liveOf source).map (·.id) ++ channels.held := by
  unfold startAnnouncement
  split
  · next missing => simp [liveOf, subscribersOf, missing]
  · rfl

end Channels

/-! ## What keeps a world wired -/

namespace World.Wired

variable {σ : Type} {rank : PropertyRef → Nat} {held : List SubscriptionId} {world : World σ}
  {id : BindingId} {binding : Binding}

/-- The subscription of an edge is live. -/
theorem live (wired : world.Wired rank held) (found : world.bindings[id]? = some binding)
    {edge : Edge} (member : edge ∈ binding.reads.edges) :
    ⟨edge.subscription, .binding id⟩ ∈ world.channels.liveOf edge.source := by
  have listed : edge.subscription ∈ world.subscriptions :=
    List.mem_flatMap.mpr ⟨binding, List.mem_of_getElem? found, List.mem_map_of_mem member⟩
  have positive := List.count_pos_iff.mpr listed
  have counted := wired.counted edge.subscription
  have isHeld : edge.subscription ∈ world.channels.held := List.count_pos_iff.mp (by omega)
  exact List.mem_filter.mpr
    ⟨wired.listed id binding found edge member, List.contains_iff_mem.mpr isHeld⟩

/-- Only the channels and the bindings count. -/
theorem congr {other : World σ} (wired : world.Wired rank held)
    (channels : other.channels = world.channels) (bindings : other.bindings = world.bindings) :
    other.Wired rank held := by
  refine ⟨?_, ?_, ?_⟩
  · rw [channels, bindings]
    exact wired.listed
  · rw [channels, bindings]
    exact wired.climbs
  · unfold World.subscriptions
    rw [channels, bindings]
    exact wired.counted

/-- A change of one binding's edges, with what belongs to it in the channels. -/
theorem rewire (wired : world.Wired rank held) (found : world.bindings[id]? = some binding)
    {change : Binding → Binding} {channels : Channels}
    (target : (change binding).target = binding.target)
    (keeps : ∀ source, ∀ subscriber ∈ world.channels.liveOf source,
      subscriber ∈ channels.subscribersOf source)
    (own : ∀ edge ∈ (change binding).reads.edges,
      ⟨edge.subscription, .binding id⟩ ∈ channels.subscribersOf edge.source)
    (origin : ∀ source, ∀ subscriber ∈ channels.subscribersOf source,
      subscriber ∈ world.channels.subscribersOf source ∨
        subscriber.callback = .binding id ∧ source.level rank < binding.level rank)
    (counted : ∀ subscription, (change binding).reads.subscriptions.count subscription +
      world.channels.held.count subscription ≤
        channels.held.count subscription + binding.reads.subscriptions.count subscription) :
    World.Wired rank held
      { world with channels := channels, bindings := world.bindings.modify id change } := by
  have level : (change binding).level rank = binding.level rank := by
    rw [Binding.level, target, Binding.level]
  have here : (world.bindings.modify id change)[id]? = some (change binding) := by
    simp [found]
  have elsewhere : ∀ other, other ≠ id →
      (world.bindings.modify id change)[other]? = world.bindings[other]? := by
    intro other different
    simp [Ne.symm different]
  refine ⟨?_, ?_, ?_⟩
  · intro other former present edge member
    by_cases same : other = id
    · subst same
      rw [here] at present
      cases present
      exact own edge member
    · rw [elsewhere other same] at present
      exact keeps _ _ (wired.live present member)
  · intro source subscriber member
    rcases origin source subscriber member with old | ⟨calls, climbs⟩
    · rcases wired.climbs source subscriber old with ⟨other, former, calls, present, climbs⟩
      by_cases same : other = id
      · subst same
        rw [found] at present
        cases present
        exact ⟨other, change binding, calls, here, level ▸ climbs⟩
      · exact ⟨other, former, calls, (elsewhere other same).trans present, climbs⟩
    · exact ⟨id, change binding, calls, here, level ▸ climbs⟩
  · intro subscription
    have former := wired.counted subscription
    have changed := count_flatMap_modify found (fun binding => binding.reads.subscriptions) change
      subscription
    have own := counted subscription
    simp only [World.subscriptions] at former ⊢
    omega

/-- A change of a binding other than its edges and its target. -/
theorem modify (wired : world.Wired rank held) (id : BindingId) {change : Binding → Binding}
    (reads : ∀ binding, (change binding).reads = binding.reads)
    (target : ∀ binding, (change binding).target = binding.target) :
    World.Wired rank held { world with bindings := world.bindings.modify id change } := by
  cases found : world.bindings[id]? with
  | none =>
      have outside : world.bindings.length ≤ id := List.getElem?_eq_none_iff.mp found
      rw [List.modify_eq_self outside]
      exact wired
  | some binding =>
      refine wired.rewire found (target binding) ?_ ?_ ?_ ?_
      · exact fun _ _ live => Channels.mem_subscribersOf_of_mem_liveOf live
      · intro edge member
        rw [reads] at member
        exact wired.listed id binding found edge member
      · exact fun _ _ member => .inl member
      · intro subscription
        rw [reads]
        omega

/-- A binding follows a source that it ranks above. -/
theorem follow (wired : world.Wired rank held) (found : world.bindings[id]? = some binding)
    {source : Source} (above : source.level rank < binding.level rank) :
    (world.follow id source).Wired rank held := by
  unfold World.follow
  rw [found]
  dsimp only
  split
  · exact wired
  · next admitted =>
    simp only [Bool.or_eq_true, not_or, Bool.not_eq_true] at admitted
    have inserted : (binding.reads.insert? ⟨source, world.channels.next⟩).getD binding.reads =
        ⟨binding.reads.edges ++ [⟨source, world.channels.next⟩]⟩ := ReadSet.insert?_new admitted.2
    refine wired.rewire found rfl ?_ ?_ ?_ ?_
    · exact fun _ _ live => Channels.subscribe_of_live live _ _
    · intro edge member
      have listed : edge ∈ ((binding.reads.insert? ⟨source, world.channels.next⟩).getD
          binding.reads).edges := member
      rw [inserted] at listed
      rcases List.mem_append.mp listed with old | new
      · exact Channels.subscribe_of_live (wired.live found old) _ _
      · rw [List.mem_singleton] at new
        subst new
        exact Channels.subscribe_self _ _ _
    · intro other subscriber member
      rcases Channels.mem_subscribe member with old | ⟨rfl, rfl⟩
      · exact .inl old
      · exact .inr ⟨rfl, above⟩
    · intro subscription
      have own : ((binding.reads.insert? ⟨source, world.channels.next⟩).getD
          binding.reads).subscriptions = binding.reads.subscriptions ++ [world.channels.next] := by
        rw [inserted]
        simp [ReadSet.subscriptions]
      show List.count subscription ((binding.reads.insert? ⟨source, world.channels.next⟩).getD
          binding.reads).subscriptions + world.channels.held.count subscription ≤
        (world.channels.next :: world.channels.held).count subscription +
          binding.reads.subscriptions.count subscription
      rw [own, List.count_append, List.count_cons, List.count_cons, List.count_nil]
      omega

/-- A binding lets go of its edges. -/
theorem clear (wired : world.Wired rank held) (found : world.bindings[id]? = some binding) :
    World.Wired rank held
      { world with
        channels := world.channels.releaseAll binding.reads.subscriptions
        bindings := world.bindings.modify id fun binding => { binding with reads := .empty } } := by
  refine wired.rewire found rfl ?_ ?_ ?_ ?_
  · intro source subscriber live
    rw [Channels.subscribersOf_releaseAll]
    exact Channels.mem_subscribersOf_of_mem_liveOf live
  · intro edge member
    cases member
  · intro source subscriber member
    rw [Channels.subscribersOf_releaseAll] at member
    exact .inl member
  · intro subscription
    have released := world.channels.count_held_releaseAll binding.reads.subscriptions subscription
    show 0 + _ ≤ _
    omega

/-- An announcement holds what it is going to call. -/
theorem startAnnouncement (wired : world.Wired rank held) (source : Source) :
    World.Wired rank ((world.channels.liveOf source).map (·.id) ++ held)
      { world with channels := (world.channels.startAnnouncement source).2 } := by
  refine ⟨?_, ?_, ?_⟩
  · intro id binding found edge member
    rw [Channels.subscribersOf_startAnnouncement]
    split
    · next same => exact same ▸ wired.live found member
    · exact wired.listed id binding found edge member
  · exact fun other subscriber member =>
      wired.climbs other subscriber (Channels.mem_startAnnouncement member)
  · intro subscription
    have counted := wired.counted subscription
    rw [Channels.held_startAnnouncement, List.count_append, List.count_append]
    simp only [World.subscriptions] at counted ⊢
    omega

/-- An announcement that is over holds nothing any more. -/
theorem endAnnouncement {ids : List SubscriptionId} (wired : world.Wired rank (ids ++ held)) :
    World.Wired rank held { world with channels := world.channels.releaseAll ids } := by
  refine ⟨?_, ?_, ?_⟩
  · intro id binding found edge member
    rw [Channels.subscribersOf_releaseAll]
    exact wired.listed id binding found edge member
  · intro source subscriber member
    rw [Channels.subscribersOf_releaseAll] at member
    exact wired.climbs source subscriber member
  · intro subscription
    have counted := wired.counted subscription
    have released := world.channels.count_held_releaseAll ids subscription
    rw [List.count_append] at counted
    simp only [World.subscriptions] at counted ⊢
    omega

end World.Wired

/-! ## What a binding collects -/

/-- One more item at the end of a list is new only if it was not in it. -/
theorem eraseDups_append_one {α : Type} [BEq α] [LawfulBEq α] (items : List α) (item : α) :
    (items ++ [item]).eraseDups =
      if items.contains item then items.eraseDups else items.eraseDups ++ [item] := by
  rw [List.eraseDups_append, List.cons_removeAll, List.nil_removeAll]
  cases items.contains item with
  | true => simp
  | false => simp [List.eraseDups_cons]

namespace World

variable {σ : Type} {rank : PropertyRef → Nat} {held : List SubscriptionId} {world : World σ}
  {id : BindingId} {binding : Binding}

/-- What a world has become when a binding has collected some reads: its read-set shows no more than that. -/
structure Collected (rank : PropertyRef → Nat) (held : List SubscriptionId) (world : World σ)
    (id : BindingId) (reads : List Source) (after : World σ) : Prop where
  same : ∃ edges channels, after = { world with
    channels := channels
    bindings := world.bindings.modify id fun binding => { binding with reads := edges } } ∧
      edges.sources = reads.eraseDups
  wired : after.Wired rank held

theorem modify_self {change : Binding → Binding} (found : world.bindings[id]? = some binding)
    (same : change binding = binding) : world.bindings.modify id change = world.bindings := by
  apply List.ext_getElem?
  intro place
  rw [List.getElem?_modify]
  by_cases here : id = place
  · subst here
    rw [found]
    simp [same]
  · simp [here]

/-- What a binding reads is in its read-set from then on, in the order of the first reads. -/
theorem collected (wired : world.Wired rank held) (collector : world.collector? = some (.binding id))
    (found : world.bindings[id]? = some binding) (active : binding.retired = false)
    (former : List Source) (sources : binding.reads.sources = former.eraseDups)
    (reads : List Source) (above : ∀ source ∈ reads, source.level rank < binding.level rank) :
    Collected rank held world id (former ++ reads) (world.captureAll reads) := by
  induction reads generalizing world binding former with
  | nil =>
      refine ⟨⟨binding.reads, world.channels, ?_, by rw [List.append_nil, sources]⟩, wired⟩
      rw [modify_self found rfl]
      rfl
  | cons source rest step =>
      have followed : world.capture source = world.follow id source := by
        rw [capture, collector]
      have wiredNext := wired.follow found (above source List.mem_cons_self)
      have others : ∀ source ∈ rest, source.level rank < binding.level rank :=
        fun source member => above source (List.mem_cons_of_mem _ member)
      have next := eraseDups_append_one former source
      have whole : world.captureAll (source :: rest) = (world.follow id source).captureAll rest := by
        rw [captureAll, List.foldl_cons, followed]
        rfl
      have joined : former ++ source :: rest = (former ++ [source]) ++ rest := by simp
      rw [whole, joined]
      have known : binding.reads.contains source = former.contains source := by
        rw [ReadSet.contains, sources, Bool.eq_iff_iff]
        simp
      by_cases old : binding.reads.contains source = true
      · have still : world.follow id source = world := by
          simp only [World.follow, found, active, old, Bool.or_true, if_true]
        rw [still]
        refine step wired collector found active (former ++ [source]) ?_ others
        rw [next, if_pos (known ▸ old), sources]
      · rw [Bool.not_eq_true] at old
        have inserted : ∀ subscription, (binding.reads.insert? ⟨source, subscription⟩).getD
            binding.reads = ⟨binding.reads.edges ++ [⟨source, subscription⟩]⟩ := by
          intro subscription
          rw [ReadSet.insert?, old]
          rfl
        have moved : world.follow id source = { world with
            channels := (world.channels.subscribe source (.binding id)).2
            bindings := world.bindings.modify id fun binding =>
              { binding with
                reads := (binding.reads.insert? ⟨source, world.channels.next⟩).getD binding.reads } } := by
          simp only [World.follow, found, active, old, Bool.or_false, Bool.false_eq_true, if_false]
          rfl
        have foundNext : (world.follow id source).bindings[id]? = some { binding with
            reads := ⟨binding.reads.edges ++ [⟨source, world.channels.next⟩]⟩ } := by
          rw [moved]
          simp [found, inserted]
        have sourcesNext : (⟨binding.reads.edges ++ [⟨source, world.channels.next⟩]⟩ : ReadSet).sources =
            (former ++ [source]).eraseDups := by
          rw [next, ← known, old]
          simp [ReadSet.sources, ← sources]
        have collectorNext : (world.follow id source).collector? = some (.binding id) := by
          rw [moved]
          exact collector
        rcases step wiredNext collectorNext foundNext active (former ++ [source]) sourcesNext others
          with ⟨⟨edges, channels, same, exact'⟩, wired⟩
        refine ⟨⟨edges, channels, ?_, exact'⟩, wired⟩
        rw [same, moved, List.modify_modify_eq]
        rfl

end World

end PropertyBinding
