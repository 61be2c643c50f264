import Flowscript.Dict
import Flowscript.Run.Event

/-!
# The event bus

Every subscriber receives, one at a time, the events published after it subscribed. The bus keeps a
limited number of events; a subscriber that falls behind by more is first told how many events it
has lost and then goes on with the oldest one kept.
-/

namespace Flowscript

/-- A bus: how many events it keeps, all events published on it, and for each subscriber how many
of them lie behind it. -/
structure Bus where
  capacity : Nat
  published : Array Event
  positions : Dict Nat

/-- What a subscriber gets when it asks for an event. -/
inductive Received where
  | unknownSubscriber
  | empty
  | lagged (missed : Nat)
  | event (e : Event)

namespace Bus

/-- A bus that keeps `capacity` events, rounded up to a power of two. -/
def new (capacity : Nat) : Bus :=
  { capacity := capacity.nextPowerOfTwo, published := #[], positions := ∅ }

/-- How many events a bus keeps where nothing else is asked for. -/
def defaultCapacity : Nat := 256

/-- Publishes an event. -/
def publish (b : Bus) (e : Event) : Bus :=
  { b with published := b.published.push e }

/-- Subscribes under a name, in place of an earlier subscriber of that name. -/
def subscribe (b : Bus) (who : String) : Bus :=
  { b with positions := b.positions.insert who b.published.size }

/-- Ends a subscription. -/
def unsubscribe (b : Bus) (who : String) : Bus :=
  { b with positions := b.positions.erase who }

/-- Moves a subscriber behind the first `position` events. -/
def move (b : Bus) (who : String) (position : Nat) : Bus :=
  { b with positions := b.positions.insert who position }

/-- The position of the oldest event that is kept. -/
def oldest (b : Bus) : Nat :=
  b.published.size - b.capacity

/-- What the subscriber receives next. -/
def receive (b : Bus) (who : String) : Received × Bus :=
  match b.positions.get? who with
  | none => (.unknownSubscriber, b)
  | some position =>
    if position < b.oldest then (.lagged (b.oldest - position), b.move who b.oldest)
    else
      match b.published[position]? with
      | none => (.empty, b)
      | some e => (.event e, b.move who (position + 1))

/-- Everything that the subscriber receives until nothing is left, at most `n` times. -/
def drainUpTo (b : Bus) (who : String) : Nat → List Received × Bus
  | 0 => ([], b)
  | n + 1 =>
    match b.receive who with
    | (.lagged missed, b) =>
      let (more, b) := drainUpTo b who n
      (.lagged missed :: more, b)
    | (.event e, b) =>
      let (more, b) := drainUpTo b who n
      (.event e :: more, b)
    | (_, b) => ([], b)

/-- Everything that the subscriber receives until nothing is left. -/
def drain (b : Bus) (who : String) : List Received × Bus :=
  b.drainUpTo who (b.published.size + 1)

end Bus

end Flowscript
