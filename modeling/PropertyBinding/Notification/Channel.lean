import PropertyBinding.Entries
import PropertyBinding.Object.Graph

namespace PropertyBinding

/-!
# Change channels

Each property and each notifier has a channel that announces its changes to
subscribers, in the order in which they subscribed.  A subscription is live as
long as someone holds it, and one that nobody holds any more leaves its channel
at the next subscription or announcement there.

An announcement holds the subscriptions it is going to call until it is done.
So one that is dropped meanwhile is still called, by this announcement and by
every other that starts before this one ends.
-/

/-- The name of a notifier. -/
abbrev NotifierId : Type := Nat

/-- The name of a subscription. -/
abbrev SubscriptionId : Type := Nat

/-- What a tracked read can depend on. -/
inductive Source where
  /-- The change signal of a property that is no alias. -/
  | property (object : ObjectId) (signal : Nat)
  | notifier (id : NotifierId)
deriving Repr, DecidableEq

/-- What a subscriber does when it is called. -/
inductive Callback where
  /-- Evaluates a binding again. -/
  | binding (id : BindingId)
  | host (id : HostId)
deriving Repr, DecidableEq

/-- A subscription to a channel. -/
structure Subscriber where
  id : SubscriptionId
  callback : Callback
deriving Repr, DecidableEq

/-- All channels with their subscribers, and who is still held. -/
structure Channels where
  subscribers : Entries Source (List Subscriber) := .empty
  /-- The subscriptions that are held, each as often as it has holders. -/
  held : List SubscriptionId := []
  /-- The name of the next subscription. -/
  next : SubscriptionId := 0

namespace Channels

/-- The subscribers of a source, the dropped ones that have not left yet included. -/
def subscribersOf (channels : Channels) (source : Source) : List Subscriber :=
  (channels.subscribers.get? source).getD []

/-- Whether someone holds a subscription. -/
def isLive (channels : Channels) (subscriber : Subscriber) : Bool :=
  channels.held.contains subscriber.id

/-- The live subscribers of a source. -/
def liveOf (channels : Channels) (source : Source) : List Subscriber :=
  (channels.subscribersOf source).filter channels.isLive

/-- The number of subscribers of a source, the dropped ones that have not left yet included. -/
def count (channels : Channels) (source : Source) : Nat :=
  (channels.subscribersOf source).length

/-- Adds a subscriber after the live ones and holds its subscription. -/
def subscribe (channels : Channels) (source : Source) (callback : Callback) :
    SubscriptionId × Channels :=
  let id := channels.next
  (id,
    { subscribers :=
        channels.subscribers.put source (channels.liveOf source ++ [⟨id, callback⟩])
      held := id :: channels.held
      next := id + 1 })

/-- Gives up one hold on a subscription. -/
def release (channels : Channels) (id : SubscriptionId) : Channels :=
  { channels with held := channels.held.erase id }

/-- Gives up one hold on each of some subscriptions. -/
def releaseAll (channels : Channels) (ids : List SubscriptionId) : Channels :=
  ids.foldl release channels

/-- Prunes a channel and holds the subscribers that are left for an announcement. -/
def startAnnouncement (channels : Channels) (source : Source) : List Subscriber × Channels :=
  match channels.subscribers.get? source with
  | none => ([], channels)
  | some _ =>
      let live := channels.liveOf source
      (live,
        { channels with
          subscribers := channels.subscribers.put source live
          held := live.map (·.id) ++ channels.held })

/-- Whether a source is a property of an object. -/
def isPropertyOf (id : ObjectId) : Source → Bool
  | .property object _ => object = id
  | .notifier _ => false

/-- Removes the channels of an object's properties. -/
def removeObject (channels : Channels) (id : ObjectId) : Channels :=
  { channels with subscribers := channels.subscribers.keep fun source => !isPropertyOf id source }

/-- Whether a source is a property. -/
def isProperty : Source → Bool
  | .property _ _ => true
  | .notifier _ => false

/-- Removes the channels of all properties. -/
def removeProperties (channels : Channels) : Channels :=
  { channels with subscribers := channels.subscribers.keep fun source => !isProperty source }

/-- The number of properties that have a channel. -/
def propertyCount (channels : Channels) : Nat :=
  (channels.subscribers.keys.filter isProperty).length

end Channels

end PropertyBinding
