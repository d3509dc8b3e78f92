import Mathlib.Data.List.Nodup
import PropertyBinding.Proofs.Wiring

namespace PropertyBinding

/-!
# Who holds subscriptions

A subscription is held by the edge it belongs to and by the announcements that are
going to call it, and by nobody else if a binding subscribed.  `Dual` says this of some
channels, together with what makes each edge and its subscription belong to each other.
Each change of channels and edges keeps it.

The names of subscriptions are counted through, so one that was dropped never comes
back; nobody has to know of such a one how often it is held, only that it is held by
announcements alone.
-/

namespace Channels

/-- Who is held no more than it was given up is not held any more. -/
theorem count_releaseAll (channels : Channels) (ids : List SubscriptionId)
    (subscription : SubscriptionId) :
    (channels.releaseAll ids).held.count subscription =
      channels.held.count subscription - ids.count subscription := by
  induction ids generalizing channels with
  | nil => rfl
  | cons id rest step =>
      have whole : channels.releaseAll (id :: rest) = (channels.release id).releaseAll rest := rfl
      rw [whole, step]
      simp only [release, List.count_erase, List.count_cons]
      omega

theorem next_releaseAll (channels : Channels) (ids : List SubscriptionId) :
    (channels.releaseAll ids).next = channels.next := by
  induction ids generalizing channels with
  | nil => rfl
  | cons id rest step => exact step (channels.release id)

theorem isLive_iff {channels : Channels} {subscriber : Subscriber} :
    channels.isLive subscriber = true ↔ 0 < channels.held.count subscriber.id := by
  rw [isLive, List.contains_iff_mem, List.count_pos_iff]

theorem next_startAnnouncement (channels : Channels) (source : Source) :
    (channels.startAnnouncement source).2.next = channels.next := by
  unfold startAnnouncement
  split <;> rfl

theorem subscribersOf_removeObject (channels : Channels) (id : ObjectId) (source : Source) :
    (channels.removeObject id).subscribersOf source =
      if isPropertyOf id source then [] else channels.subscribersOf source := by
  simp only [removeObject, subscribersOf, Entries.get?_keep]
  cases isPropertyOf id source <;> rfl

theorem subscribersOf_removeProperties (channels : Channels) (source : Source) :
    channels.removeProperties.subscribersOf source =
      if isProperty source then [] else channels.subscribersOf source := by
  simp only [removeProperties, subscribersOf, Entries.get?_keep]
  cases isProperty source <;> rfl

end Channels

/--
Whether edges and subscribers belong to each other, while announcements hold some
subscriptions.  Only for lasting sources is each edge also listed.
-/
structure Dual (lasting : Source → Prop) (reads : BindingId → ReadSet)
    (holding : List SubscriptionId) (channels : Channels) : Prop where
  heldBelow : ∀ subscription ∈ channels.held, subscription < channels.next
  holdingBelow : ∀ subscription ∈ holding, subscription < channels.next
  listedBelow : ∀ source, ∀ subscriber ∈ channels.subscribersOf source,
    subscriber.id < channels.next
  apart : ∀ source, ((channels.subscribersOf source).map (·.id)).Nodup
  once : ∀ id, (reads id).sources.Nodup
  unique : ∀ id, ∀ edge ∈ (reads id).edges, ∀ other, ∀ edge' ∈ (reads other).edges,
    edge.subscription = edge'.subscription → id = other ∧ edge = edge'
  /-- An edge has a hold besides those of the announcements. -/
  held : ∀ id, ∀ edge ∈ (reads id).edges,
    holding.count edge.subscription < channels.held.count edge.subscription
  /-- There is no other hold on what a binding subscribed to. -/
  owed : ∀ source, ∀ subscriber ∈ channels.subscribersOf source, ∀ id,
    subscriber.callback = .binding id →
      channels.held.count subscriber.id ≤
        holding.count subscriber.id + if ⟨source, subscriber.id⟩ ∈ (reads id).edges then 1 else 0
  listed : ∀ id, ∀ edge ∈ (reads id).edges, lasting edge.source →
    ⟨edge.subscription, .binding id⟩ ∈ channels.subscribersOf edge.source

namespace Dual

variable {lasting : Source → Prop} {reads : BindingId → ReadSet} {holding : List SubscriptionId}
  {channels : Channels} {id : BindingId} {source : Source}

/-- Where there are no subscriptions, there are no edges. -/
theorem empty (lasting : Source → Prop) : Dual lasting (fun _ => .empty) [] {} := by
  constructor <;> simp [ReadSet.empty, ReadSet.sources, Channels.subscribersOf]

/-- The subscription of an edge is not a new one. -/
theorem below (dual : Dual lasting reads holding channels) {edge : Edge}
    (member : edge ∈ (reads id).edges) : edge.subscription < channels.next := by
  have held := dual.held id edge member
  exact dual.heldBelow _ (List.count_pos_iff.mp (Nat.zero_lt_of_lt held))

/-- The subscription of an edge to a lasting source is live. -/
theorem live (dual : Dual lasting reads holding channels) {edge : Edge}
    (member : edge ∈ (reads id).edges) (lasts : lasting edge.source) :
    ⟨edge.subscription, .binding id⟩ ∈ channels.liveOf edge.source := by
  have held := dual.held id edge member
  exact List.mem_filter.mpr ⟨dual.listed id edge member lasts,
    Channels.isLive_iff.mpr (Nat.zero_lt_of_lt held)⟩

theorem apart_live (dual : Dual lasting reads holding channels) (source : Source) :
    ((channels.liveOf source).map (·.id)).Nodup :=
  (List.filter_sublist.map _).nodup (dual.apart source)

/-! ## What keeps edges and subscribers together -/

/-- Sources may stop lasting. -/
theorem weaken {others : Source → Prop} (dual : Dual lasting reads holding channels)
    (lasts : ∀ id, ∀ edge ∈ (reads id).edges, others edge.source → lasting edge.source) :
    Dual others reads holding channels :=
  { dual with
    listed := fun id edge member other =>
      dual.listed id edge member (lasts id edge member other) }

/-- Channels of sources that do not last may go. -/
theorem prune {others : Channels} (dual : Dual lasting reads holding channels)
    (next : others.next = channels.next) (held : others.held = channels.held)
    (goes : ∀ source, others.subscribersOf source = channels.subscribersOf source ∨
      others.subscribersOf source = [] ∧ ¬lasting source) :
    Dual lasting reads holding others := by
  have fewer : ∀ source, ∀ subscriber ∈ others.subscribersOf source,
      subscriber ∈ channels.subscribersOf source := by
    intro source subscriber member
    rcases goes source with same | ⟨gone, _⟩
    · rwa [same] at member
    · rw [gone] at member
      cases member
  refine ⟨held ▸ next ▸ dual.heldBelow, next ▸ dual.holdingBelow, ?_, fun source => ?_, dual.once,
    dual.unique, held ▸ dual.held, ?_, ?_⟩
  · rw [next]
    exact fun source subscriber member => dual.listedBelow source _ (fewer _ _ member)
  · rcases goes source with same | ⟨gone, _⟩
    · exact same ▸ dual.apart source
    · simp [gone]
  · rw [held]
    exact fun source subscriber member => dual.owed source _ (fewer _ _ member)
  · intro id edge member lasts
    rcases goes edge.source with same | ⟨_, fades⟩
    · exact same ▸ dual.listed id edge member lasts
    · exact absurd lasts fades

/-- Names of subscriptions stay apart, since that of a new one is not in use. -/
theorem apart_subscribe (dual : Dual lasting reads holding channels) (source other : Source)
    (callback : Callback) :
    (((channels.subscribe source callback).2.subscribersOf other).map (·.id)).Nodup := by
  rw [Channels.subscribersOf_subscribe]
  split
  · have fresh : channels.next ∉ (channels.liveOf source).map (·.id) := by
      intro member
      rcases List.mem_map.mp member with ⟨subscriber, listed, same⟩
      have below := dual.listedBelow source _ (Channels.mem_subscribersOf_of_mem_liveOf listed)
      exact Nat.lt_irrefl _ (same ▸ below)
    rw [List.map_append]
    refine List.nodup_append.mpr ⟨dual.apart_live source, by simp, ?_⟩
    rintro id member new isNew rfl
    rw [List.mem_singleton.mp isNew] at member
    exact fresh member
  · exact dual.apart other

/-- A new subscription belongs to a new edge if a binding subscribes, and to none otherwise. -/
theorem subscribe (dual : Dual lasting reads holding channels) (source : Source)
    (callback : Callback) {grown : BindingId → ReadSet}
    (edges : ∀ id edge, edge ∈ (grown id).edges ↔
      edge ∈ (reads id).edges ∨ callback = .binding id ∧ edge = ⟨source, channels.next⟩)
    (once : ∀ id, (grown id).sources.Nodup) :
    Dual lasting grown holding (channels.subscribe source callback).2 := by
  have unheld : channels.held.count channels.next = 0 :=
    List.count_eq_zero.mpr fun member => Nat.lt_irrefl _ (dual.heldBelow _ member)
  have unannounced : holding.count channels.next = 0 :=
    List.count_eq_zero.mpr fun member => Nat.lt_irrefl _ (dual.holdingBelow _ member)
  have count : ∀ subscription, (channels.next :: channels.held).count subscription =
      channels.held.count subscription + if channels.next = subscription then 1 else 0 := by
    intro subscription
    rw [List.count_cons]
    simp
  constructor
  case once => exact once
  case heldBelow =>
    intro subscription member
    rcases List.mem_cons.mp member with rfl | old
    · exact Nat.lt_succ_self _
    · exact Nat.lt_succ_of_lt (dual.heldBelow _ old)
  case holdingBelow =>
    exact fun subscription member => Nat.lt_succ_of_lt (dual.holdingBelow _ member)
  case listedBelow =>
    intro other subscriber member
    rcases Channels.mem_subscribe member with old | ⟨_, rfl⟩
    · exact Nat.lt_succ_of_lt (dual.listedBelow other _ old)
    · exact Nat.lt_succ_self _
  case apart =>
    intro other
    exact dual.apart_subscribe source other callback
  case unique =>
    intro id edge member other edge' member' same
    rcases (edges id edge).mp member with old | ⟨calls, rfl⟩
    · rcases (edges other edge').mp member' with old' | ⟨_, rfl⟩
      · exact dual.unique id edge old other edge' old' same
      · exact absurd (same ▸ dual.below old) (Nat.lt_irrefl _)
    · rcases (edges other edge').mp member' with old' | ⟨calls', rfl⟩
      · exact absurd (same ▸ dual.below old') (Nat.lt_irrefl _)
      · cases calls.symm.trans calls'
        exact ⟨rfl, rfl⟩
  case held =>
    intro id edge member
    show _ < (channels.next :: channels.held).count edge.subscription
    rw [count]
    rcases (edges id edge).mp member with old | ⟨_, rfl⟩
    · have held := dual.held id edge old
      omega
    · simp [unannounced]
  case owed =>
    intro other subscriber member id calls
    show (channels.next :: channels.held).count subscriber.id ≤ _
    rw [count]
    rcases Channels.mem_subscribe member with old | ⟨rfl, rfl⟩
    · have below := dual.listedBelow other _ old
      have owed := dual.owed other _ old id calls
      rw [if_neg (Nat.ne_of_gt below)]
      refine Nat.le_trans owed (Nat.add_le_add_left ?_ _)
      split
      · next before => exact Nat.le_of_eq (if_pos ((edges id _).mpr (.inl before))).symm
      · exact Nat.zero_le _
    · rw [if_pos rfl, if_pos ((edges id _).mpr (.inr ⟨calls, rfl⟩)), unheld]
      omega
  case listed =>
    intro id edge member lasts
    rcases (edges id edge).mp member with old | ⟨rfl, rfl⟩
    · exact Channels.subscribe_of_live (dual.live old lasts) _ _
    · exact Channels.subscribe_self _ _ _

/-- Holds that are given up leave the names of subscriptions and those who are listed. -/
theorem heldBelow_releaseAll (dual : Dual lasting reads holding channels)
    (ids : List SubscriptionId) :
    ∀ subscription ∈ (channels.releaseAll ids).held,
      subscription < (channels.releaseAll ids).next := by
  intro subscription member
  have counted := List.count_pos_iff.mpr member
  rw [Channels.count_releaseAll] at counted
  rw [Channels.next_releaseAll]
  exact dual.heldBelow _ (List.count_pos_iff.mp (by omega))

/-- A binding that lets go of its edges gives up their holds. -/
theorem letGo (dual : Dual lasting reads holding channels) (id : BindingId) :
    Dual lasting (fun other => if id = other then .empty else reads other) holding
      (channels.releaseAll (reads id).subscriptions) := by
  have edges : ∀ {other : BindingId} {edge : Edge},
      edge ∈ (if id = other then ReadSet.empty else reads other).edges →
        id ≠ other ∧ edge ∈ (reads other).edges := by
    intro other edge member
    split at member
    · cases member
    · next different => exact ⟨different, member⟩
  constructor
  case heldBelow => exact dual.heldBelow_releaseAll _
  case holdingBelow =>
    rw [Channels.next_releaseAll]
    exact dual.holdingBelow
  case listedBelow =>
    simpa [Channels.next_releaseAll] using dual.listedBelow
  case apart =>
    simpa using dual.apart
  case once =>
    intro other
    split
    · exact .nil
    · exact dual.once other
  case unique =>
    intro other edge member another edge' member'
    exact dual.unique other edge (edges member).2 another edge' (edges member').2
  case held =>
    intro other edge member
    have kept := dual.held other edge (edges member).2
    have others : (reads id).subscriptions.count edge.subscription = 0 := by
      refine List.count_eq_zero.mpr fun listed => ?_
      rcases List.mem_map.mp listed with ⟨own, member', same⟩
      exact (edges member).1 (dual.unique id own member' other edge (edges member).2 same).1
    rw [Channels.count_releaseAll, others]
    exact kept
  case owed =>
    intro source subscriber member other calls
    rw [Channels.subscribersOf_releaseAll] at member
    have owed := dual.owed source subscriber member other calls
    rw [Channels.count_releaseAll]
    by_cases same : id = other
    · subst same
      have given : (if (⟨source, subscriber.id⟩ : Edge) ∈ (reads id).edges then 1 else 0) ≤
          (reads id).subscriptions.count subscriber.id := by
        split
        · next own => exact List.count_pos_iff.mpr (List.mem_map.mpr ⟨_, own, rfl⟩)
        · exact Nat.zero_le _
      omega
    · rw [if_neg same]
      omega
  case listed =>
    intro other edge member lasts
    rw [Channels.subscribersOf_releaseAll]
    exact dual.listed other edge (edges member).2 lasts

/-- An announcement holds what it is going to call. -/
theorem startAnnouncement (dual : Dual lasting reads holding channels) (source : Source) :
    Dual lasting reads ((channels.liveOf source).map (·.id) ++ holding)
      (channels.startAnnouncement source).2 := by
  have called : ∀ subscription ∈ (channels.liveOf source).map (·.id),
      subscription < channels.next := by
    intro subscription member
    rcases List.mem_map.mp member with ⟨subscriber, live, rfl⟩
    exact dual.listedBelow source _ (Channels.mem_subscribersOf_of_mem_liveOf live)
  constructor
  case once => exact dual.once
  case unique => exact dual.unique
  case heldBelow =>
    rw [Channels.held_startAnnouncement, Channels.next_startAnnouncement]
    exact fun subscription member =>
      (List.mem_append.mp member).elim (called subscription) (dual.heldBelow subscription)
  case holdingBelow =>
    rw [Channels.next_startAnnouncement]
    exact fun subscription member =>
      (List.mem_append.mp member).elim (called subscription) (dual.holdingBelow subscription)
  case listedBelow =>
    rw [Channels.next_startAnnouncement]
    exact fun other subscriber member =>
      dual.listedBelow other _ (Channels.mem_startAnnouncement member)
  case apart =>
    intro other
    rw [Channels.subscribersOf_startAnnouncement]
    split
    · exact dual.apart_live source
    · exact dual.apart other
  case held =>
    intro id edge member
    have kept := dual.held id edge member
    rw [Channels.held_startAnnouncement, List.count_append, List.count_append]
    omega
  case owed =>
    intro other subscriber member id calls
    have owed := dual.owed other subscriber (Channels.mem_startAnnouncement member) id calls
    rw [Channels.held_startAnnouncement, List.count_append, List.count_append]
    omega
  case listed =>
    intro id edge member lasts
    rw [Channels.subscribersOf_startAnnouncement]
    split
    · next same => exact same ▸ dual.live member lasts
    · exact dual.listed id edge member lasts

/-- An announcement that is over holds nothing any more. -/
theorem endAnnouncement {ids : List SubscriptionId}
    (dual : Dual lasting reads (ids ++ holding) channels) :
    Dual lasting reads holding (channels.releaseAll ids) := by
  constructor
  case heldBelow => exact dual.heldBelow_releaseAll ids
  case once => exact dual.once
  case unique => exact dual.unique
  case holdingBelow =>
    rw [Channels.next_releaseAll]
    exact fun subscription member => dual.holdingBelow _ (List.mem_append_right _ member)
  case listedBelow =>
    simpa [Channels.next_releaseAll] using dual.listedBelow
  case apart =>
    simpa using dual.apart
  case held =>
    intro id edge member
    have kept := dual.held id edge member
    rw [List.count_append] at kept
    rw [Channels.count_releaseAll]
    omega
  case owed =>
    intro source subscriber member id calls
    rw [Channels.subscribersOf_releaseAll] at member
    have owed := dual.owed source subscriber member id calls
    rw [List.count_append] at owed
    rw [Channels.count_releaseAll]
    omega
  case listed =>
    simpa using dual.listed

/-- A subscription that belongs to no edge may be given up by whoever has it. -/
theorem release (dual : Dual lasting reads holding channels) {subscription : SubscriptionId}
    (foreign : ∀ id, ∀ edge ∈ (reads id).edges, edge.subscription ≠ subscription) :
    Dual lasting reads holding (channels.release subscription) := by
  have count : ∀ other, (channels.release subscription).held.count other =
      channels.held.count other - if subscription = other then 1 else 0 := by
    intro other
    rw [Channels.release, List.count_erase]
    by_cases same : subscription = other <;> simp [same]
  refine ⟨fun other member => dual.heldBelow other (List.mem_of_mem_erase member),
    dual.holdingBelow, dual.listedBelow, dual.apart, dual.once, dual.unique, ?_, ?_, dual.listed⟩
  · intro id edge member
    rw [count, if_neg (Ne.symm (foreign id edge member))]
    exact dual.held id edge member
  · intro source subscriber member id calls
    rw [count]
    exact Nat.le_trans (Nat.sub_le _ _) (dual.owed source subscriber member id calls)

/-! ## While nothing is announced -/

end Dual

end PropertyBinding
