/-
EmbeddedGo.Reload — what follows when a watched file changes.

A running binary cannot be exchanged in part, so a changed module with Go asks for a full reload. The
channel hands that message to every client: each client has a queue, and streams take from it.

  §1 which files ask for a reload
  §2 queues, streams and channels
  §3 operations; a stream that waits in vain is given up, and giving up a stream that was ever asked
     for something ends the subscription of its queue
  §4 laws: only sending adds to what a queue received
-/
import EmbeddedGo.Directive
import EmbeddedGo.Host

namespace EmbeddedGo.Reload

/-! ## §1 Files -/

/-- The endings of scripts. -/
def scriptEndings : List Text := [".js", ".ts", ".jsx", ".tsx"]

/-- A name without the line feed it may end with. -/
def withoutFinalBreak (name : Text) : Text :=
  match name.reverse with
  | '\n' :: rest => rest.reverse
  | _ => name

/-- Whether a file of this name is a script. -/
def isScript (name : Text) : Bool :=
  scriptEndings.any (Text.endsWith (withoutFinalBreak name))

/-- Whether a change of a file asks for a reload. Only scripts are read. -/
def isAskedBy (p : Path) : Action Bool := do
  if isScript p.name then return Directive.isPresent (← Host.readText p) else return false

/-! ## §2 Channels -/

/-- What a client is sent: what was taken from its queue, and what still waits there. -/
structure Queue (α : Type) where
  delivered : List α := []
  pending : List α := []

/-- How far a stream has come. -/
inductive StreamState where
  /-- It was never asked for anything. -/
  | fresh
  | running
  | ended
  deriving DecidableEq

/-- A stream and the number of the queue it takes from. -/
structure Stream where
  queue : Nat
  state : StreamState := .fresh

/-- All queues and streams ever made, and the numbers of the queues that are subscribed. -/
structure Channel (α : Type) where
  queues : List (Queue α) := []
  streams : List Stream := []
  subscribed : List Nat := []

namespace Channel

variable {α : Type}

/-- How many queues are subscribed. -/
def subscriberCount (c : Channel α) : Nat := c.subscribed.length

/-! ## §3 Operations -/

/-- A new queue, which is subscribed: its number. -/
def subscribe (c : Channel α) : Nat × Channel α :=
  let n := c.queues.length
  (n, { c with queues := c.queues ++ [{}], subscribed := c.subscribed ++ [n] })

/-- Ends a subscription, if there is one. -/
def unsubscribe (c : Channel α) (queue : Nat) : Channel α :=
  { c with subscribed := c.subscribed.filter (· != queue) }

/-- A payload into every queue that is subscribed. -/
def send (c : Channel α) (payload : α) : Channel α :=
  { c with queues := c.queues.mapIdx fun i q =>
      if c.subscribed.contains i then { q with pending := q.pending ++ [payload] } else q }

/-- A new stream on a queue: its number. -/
def stream (c : Channel α) (queue : Nat) : Nat × Channel α :=
  (c.streams.length, { c with streams := c.streams ++ [{ queue }] })

/-- The channel with another state of a stream. -/
def setState (c : Channel α) (stream : Nat) (state : StreamState) : Channel α :=
  { c with streams := c.streams.modify stream fun s => { s with state } }

/-- Asks a stream for something without waiting for it. -/
def start (c : Channel α) (stream : Nat) : Channel α :=
  match c.streams[stream]? with
  | some ⟨_, .fresh⟩ => c.setState stream .running
  | _ => c

/-- Ends a stream. If it was ever asked for something, its queue is no longer subscribed. -/
def close (c : Channel α) (stream : Nat) : Channel α :=
  match c.streams[stream]? with
  | some ⟨queue, .running⟩ => (c.setState stream .ended).unsubscribe queue
  | some ⟨_, .fresh⟩ => c.setState stream .ended
  | _ => c

/-- What a stream gives when it is asked. -/
inductive Next (α : Type) where
  | value (a : α)
  /-- The stream has ended. -/
  | closed
  /-- Nothing came, and the stream was given up. -/
  | nothing

/-- Takes the first payload from a queue. -/
def take (c : Channel α) (queue : Nat) : Option α × Channel α :=
  match c.queues[queue]? with
  | some ⟨delivered, a :: rest⟩ =>
    (some a, { c with queues := c.queues.set queue ⟨delivered ++ [a], rest⟩ })
  | _ => (none, c)

/-- Asks a stream for its next payload. -/
def next (c : Channel α) (stream : Nat) : Next α × Channel α :=
  match c.streams[stream]? with
  | none | some ⟨_, .ended⟩ => (.closed, c)
  | some ⟨queue, _⟩ =>
    let c := c.start stream
    match c.take queue with
    | (some a, c) => (.value a, c)
    | (none, c) => (.nothing, c.close stream)

/-- How many payloads wait in each queue. -/
def pendingCounts (c : Channel α) : List Nat := c.queues.map (·.pending.length)

/-- Everything a queue was ever sent, in order. -/
def received (c : Channel α) (queue : Nat) : List α :=
  match c.queues[queue]? with
  | some q => q.delivered ++ q.pending
  | none => []

/-! ## §4 Laws -/

/-- A subscribed queue receives what is sent; no other does. -/
theorem received_send (c : Channel α) (payload : α) (queue : Nat) :
    (c.send payload).received queue =
      if c.subscribed.contains queue ∧ queue < c.queues.length then c.received queue ++ [payload]
      else c.received queue := by
  by_cases h : queue < c.queues.length
  · by_cases hs : c.subscribed.contains queue
    · simp [send, received, h]
      grind
    · simp [send, received, h]
      grind
  · simp [send, received, h]

/-- Taking moves a payload without losing it. -/
theorem received_take (c : Channel α) (queue other : Nat) :
    (c.take queue).2.received other = c.received other := by
  unfold take
  split
  · rename_i delivered a rest h
    simp only [received, List.getElem?_set]
    by_cases ho : queue = other
    · subst ho
      simp [h]
      grind
    · simp [ho]
  · rfl

theorem received_setState (c : Channel α) (stream queue : Nat) (state : StreamState) :
    (c.setState stream state).received queue = c.received queue := rfl

theorem received_unsubscribe (c : Channel α) (queue other : Nat) :
    (c.unsubscribe queue).received other = c.received other := rfl

theorem received_start (c : Channel α) (stream queue : Nat) :
    (c.start stream).received queue = c.received queue := by
  unfold start
  split <;> rfl

theorem received_close (c : Channel α) (stream queue : Nat) :
    (c.close stream).received queue = c.received queue := by
  unfold close
  split <;> rfl

theorem received_next (c : Channel α) (stream queue : Nat) :
    (c.next stream).2.received queue = c.received queue := by
  unfold next
  split
  · rfl
  · rfl
  · rename_i q _ _ _
    have h := received_take (c.start stream) q queue
    rw [received_start] at h
    dsimp only
    split
    · rename_i c' hc; rw [hc] at h; exact h
    · rename_i c' hc; rw [hc] at h; rw [received_close]; exact h

end Channel
end EmbeddedGo.Reload
