import Mathlib.Data.List.Induction
import PropertyBinding.Proofs.ActiveWriter
import PropertyBinding.Proofs.Holding
import PropertyBinding.Proofs.Notices

namespace PropertyBinding

/-!
# No change goes unnoticed

Subscribers may subscribe, give subscriptions up, announce and assign in the middle of an
announcement, so announcements nest.  Whom an announcement calls is settled when it begins:
those who have registered with the source and are still held, by themselves or by an
announcement that is going on, in the order in which they registered.  Calls nest like
brackets, and the assignment of another value to a notifier encloses an announcement of its
own.  So the last change among all that happens up to some return is announced before that
return, to everybody who was there and stayed.
-/

/-! ## The order of notices -/

namespace Notice

/-- Whether a notice stands alone. -/
def isPlain : Notice → Bool
  | .subscribes _ _ | .drops _ | .closes _ | .creates _ _ | .keeps _ _ | .other => true
  | .sets _ _ | .returns _ | .emits _ _ | .calls _ | .ends _ => false

end Notice

/--
Whether notices are those of something that begins and ends.  Of an announcement that is
going to call some subscribers they are those of each call in turn.
-/
inductive Bracketed : Option (List Subscriber) → List Notice → Prop
  | nil : Bracketed none []
  | plain {notice : Notice} {rest : List Notice} (plain : notice.isPlain = true)
      (later : Bracketed none rest) : Bracketed none (notice :: rest)
  | emission {source : Source} {called : List Subscriber} {calls rest : List Notice}
      (inner : Bracketed (some called) calls) (later : Bracketed none rest) :
      Bracketed none (.emits source called :: calls ++ .ends called :: rest)
  | set {id : NotifierId} {value : Value} {called : List Subscriber} {calls rest : List Notice}
      (inner : Bracketed (some called) calls) (later : Bracketed none rest) :
      Bracketed none
        (.sets id value :: .emits (.notifier id) called :: calls ++
          .ends called :: .returns id :: rest)
  | done : Bracketed (some []) []
  | call {subscriber : Subscriber} {others : List Subscriber} {body rest : List Notice}
      (inner : Bracketed none body) (later : Bracketed (some others) rest) :
      Bracketed (some (subscriber :: others)) (.calls subscriber :: body ++ rest)

namespace Bracketed

variable {doing : Option (List Subscriber)} {called : List Subscriber}
  {notices rest : List Notice}

theorem append (first : Bracketed none notices) (later : Bracketed none rest) :
    Bracketed none (notices ++ rest) := by
  generalize plain : (none : Option (List Subscriber)) = doing at first
  induction first with
  | nil => exact later
  | plain alone _ ih => exact .plain alone (ih plain)
  | emission inner _ _ ih =>
      rw [List.append_assoc, List.cons_append]
      exact .emission inner (ih plain)
  | set inner _ _ ih =>
      rw [List.append_assoc, List.cons_append, List.cons_append]
      exact .set inner (ih plain)
  | done | call => cases plain

/-- An announcement calls each of those it is going to call. -/
theorem calls (bracketed : Bracketed (some called) notices) :
    ∀ subscriber ∈ called, .calls subscriber ∈ notices := by
  generalize announcing : some called = doing at bracketed
  induction bracketed generalizing called with
  | nil | plain | emission | set => cases announcing
  | done =>
      cases announcing
      exact nofun
  | call _ _ _ ih =>
      cases announcing
      intro subscriber member
      rcases List.mem_cons.mp member with rfl | member
      · exact List.mem_cons_self
      · exact List.mem_append_right _ (ih rfl subscriber member)

end Bracketed

/-- Whether each change of a notifier is followed by an announcement of it, and its return. -/
def Answered (notices : List Notice) : Prop :=
  ∀ (early late : List Notice) (id : NotifierId) (value : Value),
    notices = early ++ .sets id value :: late →
      ∃ called calls rest, Bracketed (some called) calls ∧
        late = .emits (.notifier id) called :: calls ++ .ends called :: .returns id :: rest

namespace Answered

variable {notices rest : List Notice} {notice : Notice}

theorem nil : Answered [] := fun _ _ _ _ split => absurd split (by simp)

theorem cons (other : ∀ id value, notice ≠ .sets id value) (later : Answered rest) :
    Answered (notice :: rest) := by
  intro early late id value split
  cases early with
  | nil => exact absurd (List.cons.inj split).1 (other id value)
  | cons => exact later _ _ _ _ (List.cons.inj split).2

theorem append (first : Answered notices) (later : Answered rest) :
    Answered (notices ++ rest) := by
  intro early late id value split
  rcases List.append_eq_append_iff.mp split with ⟨between, rfl, ends⟩ | ⟨between, begins, ends⟩
  · exact later _ _ _ _ ends
  · cases between with
    | nil => exact later [] _ _ _ ends.symm
    | cons notice between =>
        cases ends
        rcases first _ _ _ _ begins with ⟨called, calls, following, bracketed, rfl⟩
        exact ⟨called, calls, following ++ rest, bracketed, by simp⟩

end Answered

theorem Bracketed.answered {doing : Option (List Subscriber)} {notices : List Notice}
    (bracketed : Bracketed doing notices) : Answered notices := by
  induction bracketed with
  | nil | done => exact Answered.nil
  | plain alone _ ih =>
      refine Answered.cons (fun id value same => ?_) ih
      rw [same] at alone
      cases alone
  | emission _ _ inner later =>
      refine Answered.cons (by simp) (inner.append ?_)
      exact Answered.cons (by simp) later
  | @set id value called calls rest bracketed _ inner later =>
      have bracket : Answered (.emits (.notifier id) called :: (calls ++
          .ends called :: .returns id :: rest)) := by
        refine Answered.cons (by simp) (inner.append ?_)
        exact Answered.cons (by simp) (Answered.cons (by simp) later)
      intro early late other given split
      cases early with
      | nil =>
          cases split
          exact ⟨called, calls, rest, bracketed, rfl⟩
      | cons => exact bracket _ _ _ _ (List.cons.inj split).2
  | call _ _ inner later => exact Answered.cons (by simp) (inner.append later)

/-! ## Who is registered, and who is held -/

/-- How a notice changes who is registered with a source. -/
def enroll (source : Source) (registered : List Subscriber) : Notice → List Subscriber
  | .subscribes other subscriber =>
      if other = source then registered ++ [subscriber] else registered
  | .closes object? => if Channels.goesWith object? source then [] else registered
  | _ => registered

/-- Who has registered with a source, in order; the channels of dead objects have nobody. -/
def registered (source : Source) (past : List Notice) : List Subscriber :=
  past.foldl (enroll source) []

/-- How a notice changes how often a subscription is held. -/
def hold (id : SubscriptionId) (count : Nat) : Notice → Nat
  | .subscribes _ subscriber => count + [subscriber.id].count id
  | .drops ids => count - ids.count id
  | .emits _ called => count + (called.map (·.id)).count id
  | .ends called => count - (called.map (·.id)).count id
  | _ => count

/--
How often a subscription is held: once by who subscribed, until that one gives it up, and
by each announcement that is going to call it, until that is over.
-/
def holds (id : SubscriptionId) (past : List Notice) : Nat :=
  past.foldl (hold id) 0

/-- Who is registered with a source and held, in the order of registration. -/
def present (source : Source) (past : List Notice) : List Subscriber :=
  (registered source past).filter fun subscriber => 0 < holds subscriber.id past

@[simp]
theorem registered_nil (source : Source) : registered source [] = [] := rfl

@[simp]
theorem registered_concat (source : Source) (past : List Notice) (notice : Notice) :
    registered source (past ++ [notice]) = enroll source (registered source past) notice :=
  List.foldl_concat ..

@[simp]
theorem holds_nil (id : SubscriptionId) : holds id [] = 0 := rfl

@[simp]
theorem holds_concat (id : SubscriptionId) (past : List Notice) (notice : Notice) :
    holds id (past ++ [notice]) = hold id (holds id past) notice :=
  List.foldl_concat ..

/-- Who has registered with a notifier stays registered. -/
theorem mem_registered {id : NotifierId} {subscriber : Subscriber} {past : List Notice}
    (member : .subscribes (.notifier id) subscriber ∈ past) :
    subscriber ∈ registered (.notifier id) past := by
  induction past using List.reverseRecOn with
  | nil => cases member
  | append_singleton past notice ih =>
      rw [registered_concat]
      rcases List.mem_append.mp member with member | member
      · have listed := ih member
        cases notice with
        | subscribes other newcomer =>
            simp only [enroll]
            split
            · exact List.mem_append_left _ listed
            · exact listed
        | closes object? => cases object? <;> exact listed
        | _ => exact listed
      · cases List.mem_singleton.mp member
        simp [enroll]

/-! ## Announcements that are going on -/

/-- How a notice changes which announcements are going on, the latest first. -/
def nest (ongoing : List (List Subscriber)) : Notice → List (List Subscriber)
  | .emits _ called => called :: ongoing
  | .ends _ => ongoing.tail
  | _ => ongoing

/-- Whether each announcement that ends is the latest of those that are going on. -/
def Nested : List (List Subscriber) → List Notice → Prop
  | _, [] => True
  | ongoing, notice :: rest =>
      (∀ called, notice = .ends called → ongoing.head? = some called) ∧
        Nested (nest ongoing notice) rest

/-- How often the announcements that are going on hold a subscription. -/
def engaged (id : SubscriptionId) (ongoing : List (List Subscriber)) : Nat :=
  (ongoing.flatten.map (·.id)).count id

theorem nested_append {ongoing : List (List Subscriber)} {notices rest : List Notice} :
    Nested ongoing (notices ++ rest) ↔
      Nested ongoing notices ∧ Nested (notices.foldl nest ongoing) rest := by
  induction notices generalizing ongoing with
  | nil => simp [Nested]
  | cons notice notices ih => simp [Nested, ih, and_assoc]

/-- What begins and ends leaves what is going on as it is. -/
theorem Bracketed.nested {doing : Option (List Subscriber)} {notices : List Notice}
    (bracketed : Bracketed doing notices) (ongoing : List (List Subscriber)) :
    Nested ongoing notices ∧ notices.foldl nest ongoing = ongoing := by
  induction bracketed generalizing ongoing with
  | nil | done => exact ⟨trivial, rfl⟩
  | @plain notice rest alone _ ih =>
      have same : nest ongoing notice = ongoing := by cases notice <;> first | rfl | cases alone
      refine ⟨⟨fun called ends => ?_, same.symm ▸ (ih ongoing).1⟩, ?_⟩
      · rw [ends] at alone
        cases alone
      · rw [List.foldl_cons, same]
        exact (ih ongoing).2
  | @emission source called calls rest _ _ inner later =>
      rcases inner (called :: ongoing) with ⟨within, closed⟩
      simp [Nested, nested_append, nest, within, closed, later ongoing]
  | @set id value called calls rest _ _ inner later =>
      rcases inner (called :: ongoing) with ⟨within, closed⟩
      simp [Nested, nested_append, nest, within, closed, later ongoing]
  | @call subscriber others body rest _ _ inner later =>
      simp [Nested, nested_append, nest, inner ongoing, later ongoing]

/-- A subscription that is not given up is held as often as announcements and others do. -/
theorem Nested.held {ongoing : List (List Subscriber)} {notices : List Notice}
    (nested : Nested ongoing notices) {id : SubscriptionId} {own count : Nat}
    (undropped : ∀ ids, .drops ids ∈ notices → id ∉ ids)
    (held : own + engaged id ongoing ≤ count) :
    own + engaged id (notices.foldl nest ongoing) ≤ notices.foldl (hold id) count := by
  induction notices generalizing ongoing count with
  | nil => exact held
  | cons notice rest ih =>
      refine ih nested.2 (fun ids member => undropped ids (List.mem_cons_of_mem _ member)) ?_
      cases notice with
      | drops ids =>
          have absent := List.count_eq_zero.mpr (undropped ids List.mem_cons_self)
          simpa only [nest, hold, absent, Nat.sub_zero] using held
      | subscribes => exact Nat.le_add_right_of_le held
      | emits source called =>
          simp only [nest, hold, engaged, List.flatten_cons, List.map_append, List.count_append] at held ⊢
          omega
      | ends called =>
          rcases List.head?_eq_some_iff.mp (nested.1 called rfl) with ⟨others, rfl⟩
          simp only [nest, hold, engaged, List.tail_cons, List.flatten_cons, List.map_append,
            List.count_append] at held ⊢
          omega
      | _ => exact held

/-- Who has subscribed and has not given that up is held. -/
theorem Nested.holds_pos {past : List Notice} (nested : Nested [] past) {source : Source}
    {subscriber : Subscriber} (member : .subscribes source subscriber ∈ past)
    (undropped : ∀ ids, .drops ids ∈ past → subscriber.id ∉ ids) :
    0 < holds subscriber.id past := by
  rcases List.append_of_mem member with ⟨before, since, rfl⟩
  rcases nested_append.mp nested with ⟨earlier, _, later⟩
  have first : 0 + engaged subscriber.id (before.foldl nest []) ≤ holds subscriber.id before :=
    earlier.held (fun ids member => undropped ids (List.mem_append_left _ member)) (Nat.le_refl 0)
  have last : 1 + engaged subscriber.id (since.foldl nest (before.foldl nest [])) ≤
      since.foldl (hold subscriber.id) (holds subscriber.id before + 1) :=
    later.held (fun ids member => undropped ids (by simp [member])) (by simp only [nest]; omega)
  have whole : holds subscriber.id (before ++ .subscribes source subscriber :: since) =
      since.foldl (hold subscriber.id) (holds subscriber.id before + 1) := by
    simp [holds, hold]
  omega

/-! ## Whom an announcement calls -/

theorem present_concat (source : Source) (past : List Notice) (notice : Notice) :
    present source (past ++ [notice]) =
      (enroll source (registered source past) notice).filter fun subscriber =>
        0 < hold subscriber.id (holds subscriber.id past) notice := by
  simp only [present, registered_concat, holds_concat]

/-- A stricter test needs to look only at those who pass the weaker one. -/
theorem filter_stricter {α : Type} {strict weak : α → Bool} (list : List α)
    (implies : ∀ member, strict member = true → weak member = true) :
    list.filter strict = (list.filter weak).filter strict := by
  rw [List.filter_filter]
  refine List.filter_congr fun member _ => ?_
  cases passes : strict member with
  | true => rw [implies member passes, Bool.and_self]
  | false => rw [Bool.false_and]

namespace Channels

/--
Whether channels hold and list subscriptions as the notices before say.  A subscription that
nobody holds may have left its channel; its name is not given to another.
-/
structure Enrolled (past : List Notice) (channels : Channels) : Prop where
  held : ∀ id, channels.held.count id = holds id past
  live : ∀ source, channels.liveOf source = present source past
  known : ∀ source, ∀ subscriber ∈ channels.subscribersOf source, subscriber.id < channels.next
  listed : ∀ source, ∀ subscriber ∈ registered source past, subscriber.id < channels.next
  fresh : ∀ id, channels.next ≤ id → holds id past = 0

namespace Enrolled

variable {past : List Notice} {channels later : Channels} {notice : Notice}

theorem initial : Enrolled [] {} where
  held _ := rfl
  live _ := rfl
  known _ _ member := by cases member
  listed _ _ member := by cases member
  fresh _ _ := rfl

theorem isLive_eq (enrolled : channels.Enrolled past) (subscriber : Subscriber) :
    channels.isLive subscriber = decide (0 < holds subscriber.id past) := by
  rw [Bool.eq_iff_iff, isLive_iff, enrolled.held, decide_eq_true_iff]

/-- Notices that are not about subscriptions change nothing. -/
theorem aside (enrolled : channels.Enrolled past)
    (enrolls : ∀ source listed, enroll source listed notice = listed)
    (holding : ∀ id count, hold id count notice = count) :
    channels.Enrolled (past ++ [notice]) where
  held id := by rw [holds_concat, holding, enrolled.held]
  live source := by
    simp only [present_concat, enrolls, holding]
    exact enrolled.live source
  known := enrolled.known
  listed source subscriber member := by
    rw [registered_concat, enrolls] at member
    exact enrolled.listed source subscriber member
  fresh id beyond := by rw [holds_concat, holding, enrolled.fresh id beyond]

/-- Who gives up holds is held so much less; nobody is registered or struck off. -/
theorem releaseAll (enrolled : channels.Enrolled past) (ids : List SubscriptionId)
    (enrolls : ∀ source listed, enroll source listed notice = listed)
    (holding : ∀ id count, hold id count notice = count - ids.count id) :
    (channels.releaseAll ids).Enrolled (past ++ [notice]) := by
  have held : ∀ id, (channels.releaseAll ids).held.count id = holds id (past ++ [notice]) := by
    intro id
    rw [count_releaseAll, enrolled.held, holds_concat, holding]
  refine ⟨held, fun source => ?_, fun source => ?_, fun source subscriber member => ?_,
    fun id beyond => ?_⟩
  · have live : (channels.releaseAll ids).isLive =
        fun subscriber => decide (0 < holds subscriber.id past - ids.count subscriber.id) := by
      funext subscriber
      rw [Bool.eq_iff_iff, isLive_iff, held, holds_concat, holding, decide_eq_true_iff]
    have fewer : ∀ subscriber : Subscriber,
        decide (0 < holds subscriber.id past - ids.count subscriber.id) = true →
          decide (0 < holds subscriber.id past) = true := by
      intro subscriber
      simp only [decide_eq_true_iff]
      omega
    have former := enrolled.live source
    rw [liveOf, funext enrolled.isLive_eq] at former
    rw [liveOf, subscribersOf_releaseAll, live, present_concat, enrolls,
      filter_stricter _ fewer, former]
    simp only [holding]
    exact (filter_stricter _ fewer).symm
  · rw [subscribersOf_releaseAll, next_releaseAll]
    exact enrolled.known source
  · rw [registered_concat, enrolls] at member
    rw [next_releaseAll]
    exact enrolled.listed source subscriber member
  · rw [next_releaseAll] at beyond
    rw [holds_concat, holding, enrolled.fresh id beyond, Nat.zero_sub]

/-- An announcement calls who is registered and held, and holds them once more. -/
theorem startAnnouncement (enrolled : channels.Enrolled past) (source : Source) :
    (channels.startAnnouncement source).2.Enrolled
      (past ++ [.emits source (channels.liveOf source)]) := by
  have held : ∀ id, (channels.startAnnouncement source).2.held.count id =
      holds id (past ++ [.emits source (channels.liveOf source)]) := by
    intro id
    rw [held_startAnnouncement, List.count_append, enrolled.held, holds_concat, hold,
      Nat.add_comm]
  -- only who is held already is held once more
  have same : ∀ id, 0 < hold id (holds id past) (.emits source (channels.liveOf source)) ↔
      0 < holds id past := by
    intro id
    refine ⟨fun positive => ?_, fun positive => Nat.lt_of_lt_of_le positive (Nat.le_add_right _ _)⟩
    by_cases called : id ∈ (channels.liveOf source).map (·.id)
    · rcases List.mem_map.mp called with ⟨subscriber, member, rfl⟩
      rw [← enrolled.held, ← isLive_iff]
      exact (List.mem_filter.mp member).2
    · simpa [hold, List.count_eq_zero.mpr called] using positive
  have live : (channels.startAnnouncement source).2.isLive = channels.isLive := by
    funext subscriber
    rw [Bool.eq_iff_iff, isLive_iff, isLive_iff, held, holds_concat, same, enrolled.held]
  refine ⟨held, fun other => ?_, fun other subscriber member => ?_, fun other subscriber => ?_,
    fun id beyond => ?_⟩
  · have presence : present other (past ++ [.emits source (channels.liveOf source)]) =
        present other past := by
      rw [present_concat]
      simp only [same]
      rfl
    rw [presence, ← enrolled.live, liveOf, live, subscribersOf_startAnnouncement]
    split
    · next equal =>
      rw [← equal]
      exact (filter_stricter _ fun _ passes => passes).symm
    · rfl
  · rw [next_startAnnouncement]
    exact enrolled.known other subscriber (mem_startAnnouncement member)
  · rw [next_startAnnouncement, registered_concat]
    exact enrolled.listed other subscriber
  · rw [next_startAnnouncement] at beyond
    have before := enrolled.fresh id beyond
    have after := same id
    rw [holds_concat]
    omega

/-- Whoever has another name is held as before when somebody subscribes. -/
theorem hold_subscribes_of_ne {id next : SubscriptionId} (different : id ≠ next) (count : Nat)
    (source : Source) (callback : Callback) :
    hold id count (.subscribes source ⟨next, callback⟩) = count := by
  simp [hold, Ne.symm different]

/-- Who subscribes is present after all others. -/
theorem present_subscribe (enrolled : channels.Enrolled past) (source other : Source)
    (callback : Callback) :
    present other (past ++ [.subscribes source ⟨channels.next, callback⟩]) =
      present other past ++ if source = other then [⟨channels.next, callback⟩] else [] := by
  have listed : ((registered other past).filter fun subscriber =>
      0 < hold subscriber.id (holds subscriber.id past)
        (.subscribes source ⟨channels.next, callback⟩)) = present other past := by
    refine List.filter_congr fun subscriber member => ?_
    have earlier := Nat.ne_of_lt (enrolled.listed _ _ member)
    rw [hold_subscribes_of_ne earlier]
  rw [present_concat]
  simp only [enroll]
  split
  · rw [List.filter_append, listed]
    simp [hold]
  · rw [listed, List.append_nil]

/-- Who subscribes is live after all others. -/
theorem liveOf_subscribe (enrolled : channels.Enrolled past) (source other : Source)
    (callback : Callback) :
    (channels.subscribe source callback).2.liveOf other =
      channels.liveOf other ++ if source = other then [⟨channels.next, callback⟩] else [] := by
  have earlier : ∀ subscriber ∈ channels.subscribersOf other,
      (channels.subscribe source callback).2.isLive subscriber = channels.isLive subscriber := by
    intro subscriber member
    have different := Nat.ne_of_lt (enrolled.known _ _ member)
    simp [isLive, subscribe, different]
  have kept : (channels.subscribersOf other).filter (channels.subscribe source callback).2.isLive =
      channels.liveOf other :=
    List.filter_congr earlier
  rw [liveOf, subscribersOf_subscribe]
  split
  · next same =>
    subst same
    have still : (channels.liveOf source).filter (channels.subscribe source callback).2.isLive =
        channels.liveOf source := by
      rw [List.filter_eq_self]
      intro subscriber member
      rw [earlier _ (mem_subscribersOf_of_mem_liveOf member)]
      exact (List.mem_filter.mp member).2
    rw [List.filter_append, still]
    simp [isLive, subscribe]
  · rw [kept, List.append_nil]

/-- Who subscribes is registered after all others, and held once. -/
theorem subscribe (enrolled : channels.Enrolled past) (source : Source) (callback : Callback) :
    (channels.subscribe source callback).2.Enrolled
      (past ++ [.subscribes source ⟨channels.next, callback⟩]) := by
  refine ⟨fun id => ?_, fun other => ?_, fun other subscriber member => ?_,
    fun other subscriber member => ?_, fun id beyond => ?_⟩
  · have first : (channels.subscribe source callback).2.held = [channels.next] ++ channels.held :=
      rfl
    rw [first, List.count_append, enrolled.held, holds_concat, hold, Nat.add_comm]
  · rw [enrolled.liveOf_subscribe, enrolled.present_subscribe, enrolled.live]
  · rcases mem_subscribe member with old | ⟨_, rfl⟩
    · exact Nat.lt_succ_of_lt (enrolled.known other _ old)
    · exact Nat.lt_succ_self _
  · rw [registered_concat] at member
    simp only [enroll] at member
    split at member
    · rcases List.mem_append.mp member with member | member
      · exact Nat.lt_succ_of_lt (enrolled.listed other _ member)
      · cases List.mem_singleton.mp member
        exact Nat.lt_succ_self _
    · exact Nat.lt_succ_of_lt (enrolled.listed other _ member)
  · have beyond : channels.next < id := beyond
    rw [holds_concat, hold_subscribes_of_ne (Nat.ne_of_gt beyond)]
    exact enrolled.fresh id (Nat.le_of_lt beyond)

/-- The channels that go have nobody registered any more. -/
theorem closing (enrolled : channels.Enrolled past) (object? : Option ObjectId) :
    (channels.closing object?).Enrolled (past ++ [.closes object?]) := by
  have same : (channels.closing object?).held = channels.held ∧
      (channels.closing object?).next = channels.next := by
    cases object? <;> exact ⟨rfl, rfl⟩
  have listing : ∀ source, (channels.closing object?).subscribersOf source =
      if goesWith object? source then [] else channels.subscribersOf source := by
    intro source
    cases object? with
    | none => exact subscribersOf_removeProperties channels source
    | some id => exact subscribersOf_removeObject channels id source
  have live : (channels.closing object?).isLive = channels.isLive := by
    funext subscriber
    rw [isLive, isLive, same.1]
  refine ⟨fun id => ?_, fun source => ?_, fun source subscriber member => ?_,
    fun source subscriber member => ?_, fun id beyond => ?_⟩
  · rw [same.1, holds_concat]
    exact enrolled.held id
  · rw [liveOf, listing, live, present_concat, enroll]
    split
    · rfl
    · exact enrolled.live source
  · rw [listing] at member
    rw [same.2]
    split at member
    · cases member
    · exact enrolled.known source subscriber member
  · rw [registered_concat, enroll] at member
    rw [same.2]
    split at member
    · cases member
    · exact enrolled.listed source subscriber member
  · rw [same.2] at beyond
    rw [holds_concat]
    exact enrolled.fresh id beyond

end Enrolled

end Channels

/-! ## Values and versions -/

/-- How often a notifier has been given another value. -/
def changes (id : NotifierId) (past : List Notice) : Nat :=
  past.countP fun
    | .sets other _ => other = id
    | _ => false

/-- How a notice changes the value of a notifier. -/
def assign (id : NotifierId) (value? : Option Value) : Notice → Option Value
  | .creates other value | .sets other value => if other = id then some value else value?
  | _ => value?

/-- The value of a notifier: the last one it was given. -/
def valueAfter (id : NotifierId) (past : List Notice) : Option Value :=
  past.foldl (assign id) none

@[simp]
theorem changes_concat (id : NotifierId) (past : List Notice) (notice : Notice) :
    changes id (past ++ [notice]) = changes id past + changes id [notice] :=
  List.countP_append ..

@[simp]
theorem valueAfter_concat (id : NotifierId) (past : List Notice) (notice : Notice) :
    valueAfter id (past ++ [notice]) = assign id (valueAfter id past) notice :=
  List.foldl_concat ..

/-- Another value makes another version. -/
theorem Notifier.assign?_eq_some {notifier changed : Notifier} {value : Value}
    (assigned : notifier.assign? value = some changed) :
    notifier.value.same value = false ∧
      changed = { notifier with value := value, version := notifier.version + 1 } := by
  unfold assign? at assigned
  split at assigned
  · cases assigned
  · next differs =>
    exact ⟨Bool.eq_false_iff.mpr differs, (Option.some.inj assigned).symm⟩

theorem Notifier.same_of_assign? {notifier : Notifier} {value : Value}
    (unassigned : notifier.assign? value = none) : notifier.value.same value = true := by
  unfold assign? at unassigned
  split at unassigned
  · next equal => exact equal
  · cases unassigned

namespace World

variable {σ : Type} {past : List Notice} {world later : World σ} {notice : Notice}

/-- Whether notifiers have the values and versions that the notices before say. -/
structure Counted (past : List Notice) (world : World σ) : Prop where
  kept : ∀ {id : NotifierId} {notifier : Notifier}, world.notifiers[id]? = some notifier →
    notifier.version = changes id past ∧ valueAfter id past = some notifier.value
  unmade : ∀ {id : NotifierId}, world.notifiers[id]? = none →
    changes id past = 0 ∧ valueAfter id past = none

namespace Counted

theorem initial {schema : Schema} {state : σ} : (World.initial schema state).Counted [] where
  kept found := by cases found
  unmade _ := ⟨rfl, rfl⟩

/-- Notices that are not about notifiers change nothing. -/
theorem aside (counted : world.Counted past) (notifiers : later.notifiers = world.notifiers)
    (uncounted : ∀ id, changes id [notice] = 0)
    (assigns : ∀ id value?, assign id value? notice = value?) :
    later.Counted (past ++ [notice]) where
  kept {id notifier} found := by
    rw [changes_concat, uncounted, Nat.add_zero, valueAfter_concat, assigns]
    exact counted.kept (notifiers ▸ found)
  unmade {id} absent := by
    rw [changes_concat, uncounted, Nat.add_zero, valueAfter_concat, assigns]
    exact counted.unmade (notifiers ▸ absent)

theorem create (counted : world.Counted past) (label : String) (value : Value)
    (notifiers : later.notifiers = world.notifiers ++ [⟨label, value, 0⟩]) :
    later.Counted (past ++ [.creates world.notifiers.length value]) where
  kept {id notifier} found := by
    rw [changes_concat, valueAfter_concat]
    rw [notifiers, List.getElem?_append] at found
    split at found
    · next earlier =>
      have apart : world.notifiers.length ≠ id := Nat.ne_of_gt earlier
      simpa [changes, assign, apart] using counted.kept found
    · next beyond =>
      have place : id = world.notifiers.length := by
        have inside := (List.getElem?_eq_some_iff.mp found).1
        exact Nat.le_antisymm (Nat.le_of_sub_eq_zero (Nat.lt_one_iff.mp inside))
          (Nat.not_lt.mp beyond)
      subst place
      rw [Nat.sub_self] at found
      cases found
      have unmade := counted.unmade (List.getElem?_eq_none (Nat.le_refl world.notifiers.length))
      simp [changes, assign]
      exact unmade.1.symm
  unmade {id} absent := by
    rw [notifiers, List.getElem?_eq_none_iff, List.length_append, List.length_singleton] at absent
    have apart : world.notifiers.length ≠ id := by omega
    rw [changes_concat, valueAfter_concat]
    simpa [changes, assign, apart] using counted.unmade (List.getElem?_eq_none (by omega))

theorem set (counted : world.Counted past) {id : NotifierId} {value : Value} {changed : Notifier}
    (assigned : (world.notifiers[id]?).bind (·.assign? value) = some changed) :
    (world.reset id changed).Counted (past ++ [.sets id value]) := by
  rcases Option.bind_eq_some_iff.mp assigned with ⟨notifier, found, assigned⟩
  rcases Notifier.assign?_eq_some assigned with ⟨_, rfl⟩
  constructor
  · intro other now present
    rw [reset, List.getElem?_set] at present
    rw [changes_concat, valueAfter_concat]
    split at present
    · next same =>
      subst same
      split at present
      · cases present
        simp [changes, assign]
        exact (counted.kept found).1
      · cases present
    · next apart => simpa [changes, assign, apart] using counted.kept present
  · intro other absent
    rw [reset, List.getElem?_eq_none_iff, List.length_set, ← List.getElem?_eq_none_iff] at absent
    have apart : id ≠ other := by
      rintro rfl
      rw [found] at absent
      cases absent
    rw [changes_concat, valueAfter_concat]
    simpa [changes, assign, apart] using counted.unmade absent

end Counted

end World

/-! ## What each step keeps -/

/-- Work without foreign code keeps what channels and notifiers have to do with notices. -/
theorem Deed.keeps {σ : Type} {world later : World σ} {notice : Notice} {past : List Notice}
    (deed : Deed world notice later) (enrolled : world.channels.Enrolled past)
    (counted : world.Counted past) :
    later.channels.Enrolled (past ++ [notice]) ∧ later.Counted (past ++ [notice]) := by
  cases deed with
  | other channels notifiers =>
      exact ⟨channels ▸ enrolled.aside (fun _ _ => rfl) fun _ _ => rfl,
        counted.aside notifiers (fun _ => rfl) fun _ _ => rfl⟩
  | subscribe source callback channels notifiers =>
      exact ⟨channels ▸ enrolled.subscribe source callback,
        counted.aside notifiers (fun _ => rfl) fun _ _ => rfl⟩
  | drop ids channels notifiers =>
      exact ⟨channels ▸ enrolled.releaseAll ids (fun _ _ => rfl) fun _ _ => rfl,
        counted.aside notifiers (fun _ => rfl) fun _ _ => rfl⟩
  | close object? channels notifiers =>
      exact ⟨channels ▸ enrolled.closing object?,
        counted.aside notifiers (fun _ => rfl) fun _ _ => rfl⟩
  | create label value channels notifiers =>
      exact ⟨channels ▸ enrolled.aside (fun _ _ => rfl) fun _ _ => rfl,
        counted.create label value notifiers⟩
  | keep same =>
      exact ⟨enrolled.aside (fun _ _ => rfl) fun _ _ => rfl,
        counted.aside rfl (fun _ => rfl) fun _ _ => rfl⟩

namespace Engine

variable {σ α : Type} {host : Host σ} {bound : Nat} {operation : Engine σ α}
  {world later after : World σ} {notice : Notice} {past : List Notice}
  {tale : List (Stage (World σ) Notice)} {result : α}

/-- Each stride keeps it too. -/
theorem Stride.keeps (stride : Stride world notice later)
    (kept : world.channels.Enrolled past ∧ world.Counted past) :
    later.channels.Enrolled (past ++ [notice]) ∧ later.Counted (past ++ [notice]) := by
  rcases kept with ⟨enrolled, counted⟩
  cases stride with
  | deed deed => exact deed.keeps enrolled counted
  | sets changes =>
      exact ⟨enrolled.aside (fun _ _ => rfl) fun _ _ => rfl, counted.set changes⟩
  | returns =>
      exact ⟨enrolled.aside (fun _ _ => rfl) fun _ _ => rfl,
        counted.aside rfl (fun _ => rfl) fun _ _ => rfl⟩
  | emits source =>
      exact ⟨enrolled.startAnnouncement source,
        counted.aside rfl (fun _ => rfl) fun _ _ => rfl⟩
  | calls =>
      exact ⟨enrolled.aside (fun _ _ => rfl) fun _ _ => rfl,
        counted.aside rfl (fun _ => rfl) fun _ _ => rfl⟩
  | ends called =>
      exact ⟨enrolled.releaseAll _ (fun _ _ => rfl) fun _ _ => rfl,
        counted.aside rfl (fun _ => rfl) fun _ _ => rfl⟩

/-- What is told of a run is in order. -/
theorem Posted.bracketed {doing : Option (List Subscriber)}
    (told : Posted host bound doing operation world tale result after) :
    Bracketed doing (eventsOf tale) := by
  induction told with
  | still => exact .nil
  | deed _ deed => exact .plain (by cases deed <;> rfl) .nil
  | sequence _ _ first second =>
      rw [eventsOf_append]
      exact first.append second
  | visit _ inner => exact inner
  | emission _ inner =>
      simp only [eventsOf_cons, eventsOf_append, eventsOf_nil, List.cons_append]
      exact .emission inner .nil
  | done => exact .done
  | call _ _ first later =>
      simp only [eventsOf_cons, eventsOf_append, List.cons_append]
      exact .call first later
  | set _ _ inner =>
      simp only [eventsOf_cons, eventsOf_append, eventsOf_nil, List.cons_append]
      exact .set inner .nil

/-! ## Changes -/

/-- Whether what is told of a run misses no change of any notifier, and nobody who is to know. -/
structure Unmissed (tale : List (Stage (World σ) Notice)) (after : World σ) : Prop where
  /--
  An announcement calls each of those it is going to call once, in their order, before it
  ends; the assignment of another value returns after an announcement of its own.
  -/
  bracketed : Bracketed none (eventsOf tale)
  /-- An announcement calls who is registered and held when it begins. -/
  called : ∀ past world source called rest, tale = past ++ ⟨world, .emits source called⟩ :: rest →
    called = present source (eventsOf past)
  /-- The version of a notifier is the number of its changes, at every moment. -/
  version : ∀ past world, Stands tale after past world → ∀ (id : NotifierId) notifier,
    world.notifiers[id]? = some notifier →
      notifier.version = changes id (eventsOf past) ∧
        valueAfter id (eventsOf past) = some notifier.value
  /-- A change is the assignment of a value that does not equal the one before. -/
  changed : ∀ past world id value rest, tale = past ++ ⟨world, .sets id value⟩ :: rest →
    ∃ former, valueAfter id (eventsOf past) = some former ∧ former.same value = false
  /-- The assignment of a value that equals the one before is none. -/
  kept : ∀ past world id value rest, tale = past ++ ⟨world, .keeps id value⟩ :: rest →
    ∀ former, valueAfter id (eventsOf past) = some former → former.same value = true
  /--
  When something is over in which a notifier has changed, an outermost assignment for
  instance, then everybody who had subscribed to the notifier before it began, and has not
  given that up, has been called since each of these changes, the last one included.
  -/
  latest : ∀ before span rest, eventsOf tale = before ++ span ++ rest → Bracketed none span →
    ∀ early id value late, span = early ++ .sets id value :: late →
      ∀ subscriber, .subscribes (.notifier id) subscriber ∈ before →
        (∀ ids, .drops ids ∈ before ++ span → subscriber.id ∉ ids) → .calls subscriber ∈ late

theorem Posted.unmissed {schema : Schema} {state : σ}
    (told : Posted host bound none operation (.initial schema state) tale result after) :
    Unmissed tale after := by
  have trail := told.trail
  have begun : (World.initial schema state).channels.Enrolled [] ∧
      (World.initial schema state).Counted [] :=
    ⟨.initial, .initial⟩
  have kept : ∀ past world, Stands tale after past world →
      world.channels.Enrolled (eventsOf past) ∧ world.Counted (eventsOf past) :=
    fun past world stands => (trail.upTo stands).keep
      (fun past world => world.channels.Enrolled past ∧ world.Counted past)
      (fun kept stride => stride.keeps kept) begun
  have called : ∀ past world source called rest,
      tale = past ++ ⟨world, .emits source called⟩ :: rest →
        called = present source (eventsOf past) := by
    intro past world source called rest split
    rcases (split ▸ trail).stepped with ⟨_, stride⟩
    cases stride with
    | deed deed => cases deed
    | emits => exact (kept past world (.inl ⟨_, rest, split⟩)).1.live source
  refine ⟨told.bracketed, called, ?version, ?changed, ?kept, ?latest⟩
  case version =>
    exact fun past world stands id notifier found => (kept past world stands).2.kept found
  case changed =>
    intro past world id value rest split
    rcases (split ▸ trail).stepped with ⟨_, stride⟩
    cases stride with
    | deed deed => cases deed
    | sets changes =>
        rcases Option.bind_eq_some_iff.mp changes with ⟨notifier, found, assigned⟩
        exact ⟨notifier.value, ((kept past world (.inl ⟨_, rest, split⟩)).2.kept found).2,
          (Notifier.assign?_eq_some assigned).1⟩
  case kept =>
    intro past world id value rest split former valued
    have counted := (kept past world (.inl ⟨_, rest, split⟩)).2
    rcases (split ▸ trail).stepped with ⟨_, stride⟩
    cases stride with
    | deed deed =>
        cases deed with
        | keep same =>
            cases found : world.notifiers[id]? with
            | none =>
                rw [(counted.unmade found).2] at valued
                cases valued
            | some notifier =>
                rw [(counted.kept found).2] at valued
                cases valued
                rw [found, Option.bind_some] at same
                exact Notifier.same_of_assign? same
  case latest =>
    intro before span rest split bracketed early id value late cut subscriber member undropped
    rcases bracketed.answered early late id value cut with ⟨announced, calls, following, inner, rfl⟩
    have whole : eventsOf tale = (before ++ early ++ [.sets id value]) ++
        .emits (.notifier id) announced ::
          (calls ++ .ends announced :: .returns id :: following ++ rest) := by
      rw [split, cut]
      simp
    rcases stages_of_events whole with ⟨past, world, others, stages, events⟩
    have nested : Nested [] (before ++ early ++ [.sets id value]) :=
      (nested_append.mp (whole ▸ (told.bracketed.nested []).1)).1
    -- who stayed is among those whom the announcement of the last change calls
    have among : subscriber ∈ announced := by
      rw [called past world _ _ others stages, events]
      refine List.mem_filter.mpr ⟨mem_registered (by simp [member]), decide_eq_true ?_⟩
      have stayed : ∀ ids, .drops ids ∈ before ++ early ++ [.sets id value] →
          subscriber.id ∉ ids := by
        intro ids dropped
        have dropped : .drops ids ∈ before ++ early := by simpa using dropped
        refine undropped ids ?_
        rw [cut, ← List.append_assoc]
        exact List.mem_append_left _ dropped
      have subscribed :
          .subscribes (.notifier id) subscriber ∈ before ++ early ++ [.sets id value] := by
        simp [member]
      exact nested.holds_pos subscribed stayed
    exact List.mem_cons_of_mem _ (List.mem_append_left _ (inner.calls subscriber among))

/--
In a run with any foreign code that deals with the engine, subscribers that subscribe, give
subscriptions up, announce or assign among it, no change of a notifier is missed.  Each
announcement calls exactly those who are registered and held when it begins, in order and
once each.  The version of a notifier is the number of assignments of another value.  When
an assignment has returned, everybody who had subscribed before it began and is still
subscribed has been called since the last change.
-/
theorem no_change_goes_unnoticed {schema : Schema} {state : σ} (obeys : host.Obeys Dealing)
    (dealing : Dealing operation)
    (run : runWithin bound host operation (.initial schema state) = some (result, after)) :
    (∃ tale, Posted host bound none operation (.initial schema state) tale result after) ∧
      ∀ tale, Posted host bound none operation (.initial schema state) tale result after →
        Unmissed tale after :=
  ⟨dealing.posted obeys run, fun _ told => told.unmissed⟩

section Restless

/-! ### A subscriber that takes a change back -/

/-- A host whose first subscriber sets the notifier back. -/
def restlessHost : Host Unit :=
  { Host.silent with
    announce := fun id => if id = 0 then assignNotifier 0 (.bool false) else return }

/-- Makes a notifier with two subscribers, the restless one first, and changes its value. -/
def stirNotifier : Engine Unit Unit := do
  let _ ← createNotifier "level" (.bool false)
  let _ ← subscribe (.notifier 0) (.host 0)
  let _ ← subscribe (.notifier 0) (.host 1)
  assignNotifier 0 (.bool true)

/-- The world with the notifier, which has its first value again. -/
def stirredWorld : World Unit :=
  ((runWithin 3 restlessHost stirNotifier (.initial panelSchema ())).map Prod.snd).getD
    (.initial panelSchema ())

theorem stirredWorld_run :
    runWithin 3 restlessHost stirNotifier (.initial panelSchema ()) = some ((), stirredWorld) :=
  runWithin_of_ends _ (by decide +kernel)

theorem restlessHost_obeys : restlessHost.Obeys Dealing where
  call _ _ := .value _
  callTyped _ _ := .value _
  intercept _ _ _ := .value _
  announce _ := Sequential.branch (.offered (.assignNotifier _ _)) (.value ())
  handle _ _ := .value _
  retire _ := .value _

theorem stirNotifier_dealing : Dealing stirNotifier :=
  .sequence (.offered (.createNotifier _ _)) fun _ =>
    .sequence (.subscribe _ 0) fun _ => .sequence (.subscribe _ 1) fun _ =>
      .offered (.assignNotifier _ _)

/-- The notifier has changed twice, and what is told of that misses neither change. -/
theorem restless_subscriber_is_noticed :
    runWithin 3 restlessHost stirNotifier (.initial panelSchema ()) = some ((), stirredWorld) ∧
      (stirredWorld.notifiers[0]?).map (·.version) = some 2 ∧
      ∃ tale, Posted restlessHost 3 none stirNotifier (.initial panelSchema ()) tale ()
          stirredWorld ∧
        Unmissed tale stirredWorld ∧ changes 0 (eventsOf tale) = 2 := by
  have twice : (stirredWorld.notifiers[0]?).map (·.version) = some 2 := by decide +kernel
  rcases no_change_goes_unnoticed restlessHost_obeys stirNotifier_dealing stirredWorld_run
    with ⟨⟨tale, told⟩, unmissed⟩
  rcases Option.map_eq_some_iff.mp twice with ⟨notifier, found, version⟩
  have counted := (unmissed tale told).version tale stirredWorld (.inr ⟨rfl, rfl⟩) 0 notifier found
  exact ⟨stirredWorld_run, twice, tale, told, unmissed tale told, counted.1.symm.trans version⟩

end Restless

end Engine

end PropertyBinding
