/-!
# Events and their bus

The bus numbers the events it is given. Every handler holds the number of its next event, starting
at the number of events sent before it subscribed. Only the newest 256 events stay readable: a
handler that has fallen further behind goes on with the oldest of those.
-/

set_option autoImplicit false

namespace Dimming

/-- The identity of a document. -/
structure DocumentId where
  /-- The number handed out to it. -/
  number : Nat
  deriving DecidableEq, Repr, Inhabited

/-- What an editor announces. -/
inductive Event where
  | documentOpened (id : DocumentId)
  | documentClosed (id : DocumentId)
  | repaintRequested (id : DocumentId)
  | overlayToggled (id : DocumentId) (on : Bool)
  | levelChanged (id : DocumentId) (level : Nat)
  | configChanged
  deriving DecidableEq, Repr, Inhabited

/-- A bus of events with its handlers. -/
structure Bus where
  /-- The events sent so far, oldest first. -/
  sent : Array Event
  /-- The number of the next event of each handler; none once the handler is gone. -/
  handlers : List (Option Nat)
  /-- How many senders are left. -/
  senders : Nat
  deriving Repr, Inhabited

namespace Bus

/-- How many events stay readable. -/
def capacity : Nat := 256

/-- A fresh bus with one sender and no handler. -/
def fresh : Bus := ⟨#[], [], 1⟩

/-- Sends an event. -/
def emit (bus : Bus) (event : Event) : Bus :=
  { bus with sent := bus.sent.push event }

/-- Sends events in order. -/
def emitAll (bus : Bus) (events : List Event) : Bus :=
  events.foldl emit bus

/-- Adds a handler for all later events and gives its number. -/
def subscribe (bus : Bus) : Nat × Bus :=
  (bus.handlers.length, { bus with handlers := bus.handlers ++ [some bus.sent.size] })

/-- The number of the oldest event that is still readable. -/
def oldest (bus : Bus) : Nat := bus.sent.size - capacity

/-- What the channel answers to a handler. -/
inductive Receipt where
  /-- The event that the handler waits for. -/
  | event (event : Event)
  /-- So many events that the handler waits for are not readable any more. -/
  | lagged (missed : Nat)
  /-- Nothing is queued yet. -/
  | empty
  /-- Nothing is queued and no sender is left. -/
  | closed
  deriving DecidableEq, Repr

/-- Asks the channel once for the event with number `next`, and gives the number to ask for then: after a
lag, that of the oldest event that is still readable. -/
def receive (bus : Bus) (next : Nat) : Receipt × Nat :=
  if next + capacity < bus.sent.size then (.lagged (bus.oldest - next), bus.oldest)
  else match bus.sent[next]? with
    | some event => (.event event, next + 1)
    | none => (if bus.senders = 0 then .closed else .empty, next)

/-- The answer to waiting for an event. -/
inductive Waited where
  /-- An event was queued. -/
  | event (event : Event)
  /-- Nothing is queued and no sender is left. -/
  | closed
  /-- Nothing is queued yet. -/
  | pending
  deriving DecidableEq, Repr

/-- A report of a lag moves a handler on to the oldest event that is still readable. -/
theorem lt_of_receive_lagged {bus : Bus} {next missed after : Nat}
    (h : bus.receive next = (.lagged missed, after)) : next < bus.oldest ∧ after = bus.oldest := by
  unfold receive at h
  split at h
  · next hlt => exact ⟨Nat.lt_sub_of_add_lt hlt, (congrArg Prod.snd h).symm⟩
  · split at h
    · cases h
    · split at h <;> cases h

/-- Asks the channel until it answers something else than a lag. Gives the lags that were reported on the
way, what there is for the handler, and the number to ask for the next time. -/
def await (bus : Bus) (next : Nat) : List Nat × Waited × Nat :=
  match _asked : bus.receive next with
  | (.lagged missed, after) =>
    let (reports, answer) := bus.await after
    (missed :: reports, answer)
  | (.event event, after) => ([], .event event, after)
  | (.empty, after) => ([], .pending, after)
  | (.closed, after) => ([], .closed, after)
termination_by bus.oldest - next
decreasing_by
  obtain ⟨hlt, hafter⟩ := lt_of_receive_lagged ‹_›
  rw [hafter, Nat.sub_self]
  exact Nat.sub_pos_of_lt hlt

/-- Whether a handler exists. -/
def hasHandler (bus : Bus) (handler : Nat) : Bool :=
  (bus.handlers.getD handler none).isSome

/-- Waits for the next event of a handler. -/
def next (bus : Bus) (handler : Nat) : Waited × Bus :=
  match bus.handlers.getD handler none with
  | none => (.closed, bus)
  | some next =>
    let (_, waited, after) := bus.await next
    (waited, { bus with handlers := bus.handlers.set handler (some after) })

/-- Takes the next event of a handler, if one is queued. -/
def tryNext (bus : Bus) (handler : Nat) : Option Event × Bus :=
  match bus.next handler with
  | (.event event, bus) => (some event, bus)
  | (_, bus) => (none, bus)

/-- Takes up to `count` results, as many as are asked for. -/
def tryNextMany (bus : Bus) (handler : Nat) : Nat → List (Option Event) × Bus
  | 0 => ([], bus)
  | count + 1 =>
    let (first, bus) := bus.tryNext handler
    let (rest, bus) := tryNextMany bus handler count
    (first :: rest, bus)

/-- Every event that waits for a handler. -/
def drain (bus : Bus) (handler : Nat) : List Event × Bus :=
  let (answers, bus) := bus.tryNextMany handler capacity
  (answers.filterMap id, bus)

/-- Removes a handler. -/
def dropHandler (bus : Bus) (handler : Nat) : Bus :=
  { bus with handlers := bus.handlers.set handler none }

/-- The number of handlers that are left. -/
def receivers (bus : Bus) : Nat := bus.handlers.countP Option.isSome

/-- The bus in diagnostic output. -/
def describe (bus : Bus) : String :=
  "EventBus \x7b receivers: " ++ toString bus.receivers ++ " \x7d"

end Bus

end Dimming
