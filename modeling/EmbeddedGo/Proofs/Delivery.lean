/-
EmbeddedGo.Proofs.Delivery — what is sent while a queue is subscribed is delivered once and in order.

A history lists what happened to a channel, the newest event first. It says by itself when a queue was
subscribed (`isSubscribed`), what its streams gave (`deliveredTo`) and what was sent to it
(`sentTo`); none of this looks at the channel. A channel agrees with its history (`Agrees`), and every
operation keeps that up, so that after any operations what was delivered and what is pending are together
what was sent.

A stream that never was asked for anything ends without a trace, and so the subscription of its queue
goes on. One that was asked has entered its body, and takes the subscription with it when it ends.

  §1 operations and histories
  §2 what a history says
  §3 what an operation does
  §4 the agreement of a channel with its history
  §5 one operation
  §6 all operations
-/
import EmbeddedGo.Reload
import Mathlib.Data.List.Induction
import Mathlib.Data.List.Nodup

namespace EmbeddedGo.Reload

/-! ## §1 Histories -/

/-- What can be done with a channel. -/
inductive Op (α : Type) where
  | subscribe
  | unsubscribe (queue : Nat)
  | send (payload : α)
  | stream (queue : Nat)
  /-- Asks a stream for its next payload, and leaves it waiting if there is none. -/
  | wait (stream : Nat)
  /-- Asks a stream for its next payload, and cancels it if there is none. -/
  | next (stream : Nat)
  | close (stream : Nat)

/-- What happened to a channel. -/
inductive Event (α : Type) where
  | subscribed (queue : Nat)
  | unsubscribed (queue : Nat)
  | sent (payload : α)
  | opened (stream queue : Nat)
  | waiting (stream : Nat)
  | gave (stream : Nat) (payload : α)
  | cancelled (stream : Nat)
  /-- A stream was asked that had ended before. -/
  | finished (stream : Nat)
  | closed (stream : Nat)

/-- An operation on a channel: what happened, and the channel behind it. -/
def Channel.perform {α : Type} (c : Channel α) : Op α → Event α × Channel α
  | .subscribe => (.subscribed c.subscribe.1, c.subscribe.2)
  | .unsubscribe queue => (.unsubscribed queue, c.unsubscribe queue)
  | .send payload => (.sent payload, c.send payload)
  | .stream queue => (.opened (c.stream queue).1 queue, (c.stream queue).2)
  | .wait stream =>
    match c.streams[stream]? with
    | none | some ⟨_, .ended⟩ => (.finished stream, c)
    | some ⟨queue, _⟩ =>
      match (c.start stream).take queue with
      | (some payload, c) => (.gave stream payload, c)
      | (none, c) => (.waiting stream, c)
  | .next stream =>
    match c.next stream with
    | (.value payload, c) => (.gave stream payload, c)
    | (.closed, c) => (.finished stream, c)
    | (.nothing, c) => (.cancelled stream, c)
  | .close stream => (.closed stream, c.close stream)

/-- Operations one after the other: the history, and the channel at the end. -/
def run {α : Type} (ops : List (Op α)) : List (Event α) × Channel α :=
  ops.foldl (fun (history, c) op =>
    let (e, c) := c.perform op
    (e :: history, c)) ([], {})

/-! ## §2 What a history says -/

section History

variable {α : Type}

/-- The queue of a stream that is opened. -/
def Event.opens? (stream : Nat) : Event α → Option Nat
  | opened s queue => if s = stream then some queue else none
  | _ => none

/-- Whether a stream enters its body, or goes on in it. -/
def Event.advances (stream : Nat) : Event α → Bool
  | waiting s | gave s _ => s == stream
  | _ => false

/-- Whether a stream is closed or cancelled. -/
def Event.ends (stream : Nat) : Event α → Bool
  | closed s | cancelled s => s == stream
  | _ => false

/-- Whether a queue is made. -/
def Event.makes (queue : Nat) : Event α → Bool
  | subscribed q => q == queue
  | _ => false

/-- The queue that a stream was opened on. -/
def queueOf? (stream : Nat) (history : List (Event α)) : Option Nat :=
  history.findSome? (Event.opens? stream)

/-- Whether a stream has been advanced and has not ended since. -/
def isUnderWay (stream : Nat) : (history : List (Event α)) → Bool
  | [] => false
  | e :: past => !e.ends stream && (e.advances stream || isUnderWay stream past)

/-- Whether an event ends the subscription of a queue: it is unsubscribed, or a stream on it that was
advanced is closed or cancelled. -/
def endsSubscription (queue : Nat) (past : List (Event α)) : Event α → Bool
  | .unsubscribed q => q == queue
  | .closed stream => queueOf? stream past == some queue && isUnderWay stream past
  | .cancelled stream => queueOf? stream past == some queue
  | _ => false

/-- Whether a queue has been made and its subscription has not been ended since. -/
def isSubscribed (queue : Nat) : (history : List (Event α)) → Bool
  | [] => false
  | e :: past => e.makes queue || (isSubscribed queue past && !endsSubscription queue past e)

/-- What the streams of a queue gave, in order. -/
def deliveredTo (queue : Nat) : (history : List (Event α)) → List α
  | [] => []
  | .gave stream payload :: past =>
    if queueOf? stream past = some queue then deliveredTo queue past ++ [payload]
    else deliveredTo queue past
  | _ :: past => deliveredTo queue past

/-- What was sent while a queue was subscribed, in order. -/
def sentTo (queue : Nat) : (history : List (Event α)) → List α
  | [] => []
  | .sent payload :: past =>
    if isSubscribed queue past then sentTo queue past ++ [payload] else sentTo queue past
  | _ :: past => sentTo queue past

/-- How many queues were made. -/
def queueCount (history : List (Event α)) : Nat :=
  history.countP fun e => match e with | .subscribed _ => true | _ => false

/-- A queue is subscribed from the event that made it until one that ends its subscription. -/
theorem isSubscribed_iff {queue : Nat} {history : List (Event α)} :
    isSubscribed queue history = true ↔
      ∃ since e past, history = since ++ e :: past ∧ e.makes queue = true ∧
        ∀ later ending earlier, since = later ++ ending :: earlier →
          endsSubscription queue (earlier ++ e :: past) ending = false := by
  induction history with
  | nil => simp [isSubscribed]
  | cons first history ih =>
    simp only [isSubscribed, Bool.or_eq_true, Bool.and_eq_true, Bool.not_eq_true', ih]
    constructor
    · rintro (hmakes | ⟨⟨since, e, past, rfl, hmakes, hnone⟩, hfirst⟩)
      · exact ⟨[], first, history, rfl, hmakes, by simp⟩
      · refine ⟨first :: since, e, past, rfl, hmakes, ?_⟩
        rintro (_ | ⟨l, later⟩) ending earlier h
        · cases h
          exact hfirst
        · cases h
          exact hnone later ending earlier rfl
    · rintro ⟨_ | ⟨l, since⟩, e, past, h, hmakes, hnone⟩
      · cases h
        exact .inl hmakes
      · cases h
        refine .inr ⟨⟨since, e, past, rfl, hmakes, fun later ending earlier hs => ?_⟩, ?_⟩
        · exact hnone (first :: later) ending earlier (by rw [hs, List.cons_append])
        · exact hnone [] first since rfl

end History

/-! ## §3 Operations -/

namespace Channel

variable {α : Type} {c c' : Channel α} {e : Event α} {stream queue : Nat}

/-- What can happen to a channel, and what it is then. -/
inductive Becomes (c : Channel α) : Event α → Channel α → Prop where
  | subscribed : Becomes c (.subscribed c.queues.length) c.subscribe.2
  | unsubscribed (queue : Nat) : Becomes c (.unsubscribed queue) (c.unsubscribe queue)
  | sent (payload : α) : Becomes c (.sent payload) (c.send payload)
  | opened (queue : Nat) : Becomes c (.opened c.streams.length queue) (c.stream queue).2
  | waiting {stream queue : Nat} {state : StreamState}
    (h : c.streams[stream]? = some ⟨queue, state⟩) (hstate : state ≠ .ended) :
    Becomes c (.waiting stream) (c.setState stream .running)
  | gave {stream queue : Nat} {state : StreamState} {delivered rest : List α} {payload : α}
    (h : c.streams[stream]? = some ⟨queue, state⟩) (hstate : state ≠ .ended)
    (hqueue : c.queues[queue]? = some ⟨delivered, payload :: rest⟩) :
    Becomes c (.gave stream payload)
      { c.setState stream .running with
        queues := c.queues.set queue ⟨delivered ++ [payload], rest⟩ }
  | cancelled {stream queue : Nat} {state : StreamState}
    (h : c.streams[stream]? = some ⟨queue, state⟩) (hstate : state ≠ .ended) :
    Becomes c (.cancelled stream) ((c.setState stream .ended).unsubscribe queue)
  | finished (stream : Nat) : Becomes c (.finished stream) c
  | closed {stream queue : Nat} (h : c.streams[stream]? = some ⟨queue, .running⟩) :
    Becomes c (.closed stream) ((c.setState stream .ended).unsubscribe queue)
  | closedFresh {stream queue : Nat} (h : c.streams[stream]? = some ⟨queue, .fresh⟩) :
    Becomes c (.closed stream) (c.setState stream .ended)
  | closedOver {stream : Nat} (h : c.streams[stream]?.map Stream.state ≠ some .running) :
    Becomes c (.closed stream) c

theorem getElem?_setState (c : Channel α) (stream other : Nat) (state : StreamState) :
    (c.setState stream state).streams[other]? =
      if stream = other then c.streams[other]?.map fun s => { s with state }
      else c.streams[other]? := by
  rw [setState, List.getElem?_modify]
  split
  · rfl
  · exact id_map _

theorem setState_of_eq {state : StreamState} (h : c.streams[stream]? = some ⟨queue, state⟩) :
    c.setState stream state = c := by
  have hstreams : (c.setState stream state).streams = c.streams := by
    refine List.ext_getElem? fun other => ?_
    rw [getElem?_setState]
    split
    · next heq => rw [← heq, h]; rfl
    · rfl
  exact congrArg (fun streams => { c with streams }) hstreams

theorem setState_setState (first second : StreamState) :
    (c.setState stream first).setState stream second = c.setState stream second := by
  have hstreams : ((c.setState stream first).setState stream second).streams =
      (c.setState stream second).streams := by
    refine List.ext_getElem? fun other => ?_
    simp only [getElem?_setState]
    split
    · rw [Option.map_map]; rfl
    · rfl
  exact congrArg (fun streams => { c with streams }) hstreams

/-- A stream that is asked is running. -/
theorem start_eq {state : StreamState} (h : c.streams[stream]? = some ⟨queue, state⟩)
    (hstate : state ≠ .ended) : c.start stream = c.setState stream .running := by
  rw [start, h]
  cases state with
  | fresh => rfl
  | running => exact (setState_of_eq h).symm
  | ended => exact absurd rfl hstate

theorem close_start_eq {state : StreamState} (h : c.streams[stream]? = some ⟨queue, state⟩)
    (hstate : state ≠ .ended) :
    (c.start stream).close stream = (c.setState stream .ended).unsubscribe queue := by
  have hrunning : (c.setState stream .running).streams[stream]? = some ⟨queue, .running⟩ := by
    rw [getElem?_setState, if_pos rfl, h]
    rfl
  rw [start_eq h hstate, close, hrunning]
  dsimp only
  rw [setState_setState]

/-- A stream that has not ended takes the first payload that waits, if there is one. -/
theorem take_start_cases {state : StreamState} (h : c.streams[stream]? = some ⟨queue, state⟩)
    (hstate : state ≠ .ended) :
    (∃ delivered payload rest, c.queues[queue]? = some ⟨delivered, payload :: rest⟩ ∧
      (c.start stream).take queue = (some payload,
        { c.setState stream .running with
          queues := c.queues.set queue ⟨delivered ++ [payload], rest⟩ })) ∨
    (c.start stream).take queue = (none, c.setState stream .running) := by
  rw [start_eq h hstate]
  unfold take
  rw [show (c.setState stream .running).queues = c.queues from rfl]
  match hqueue : c.queues[queue]? with
  | some ⟨delivered, payload :: rest⟩ => exact .inl ⟨delivered, payload, rest, rfl, rfl⟩
  | some ⟨delivered, []⟩ | none => exact .inr rfl

/-- A stream that was made and has not ended, or one that has nothing to give. -/
theorem stream_cases (c : Channel α) (stream : Nat) :
    c.streams[stream]? = none ∨ (∃ queue, c.streams[stream]? = some ⟨queue, .ended⟩) ∨
      ∃ queue state, c.streams[stream]? = some ⟨queue, state⟩ ∧ state ≠ .ended := by
  match c.streams[stream]? with
  | none => exact .inl rfl
  | some ⟨queue, .ended⟩ => exact .inr (.inl ⟨queue, rfl⟩)
  | some ⟨queue, .fresh⟩ | some ⟨queue, .running⟩ => exact .inr (.inr ⟨queue, _, rfl, by simp⟩)

theorem next_eq {state : StreamState} (h : c.streams[stream]? = some ⟨queue, state⟩)
    (hstate : state ≠ .ended) :
    c.next stream =
      match (c.start stream).take queue with
      | (some payload, c) => (.value payload, c)
      | (none, c) => (.nothing, c.close stream) := by
  rw [next, h]
  cases state with
  | fresh | running => rfl
  | ended => exact absurd rfl hstate

theorem perform_wait_eq {state : StreamState} (h : c.streams[stream]? = some ⟨queue, state⟩)
    (hstate : state ≠ .ended) :
    c.perform (.wait stream) =
      match (c.start stream).take queue with
      | (some payload, c) => (.gave stream payload, c)
      | (none, c) => (.waiting stream, c) := by
  rw [perform, h]
  cases state with
  | fresh | running => rfl
  | ended => exact absurd rfl hstate

/-- An operation does no more than that. -/
theorem becomes_perform (c : Channel α) (op : Op α) :
    Becomes c (c.perform op).1 (c.perform op).2 := by
  cases op with
  | subscribe => exact .subscribed
  | unsubscribe queue => exact .unsubscribed queue
  | send payload => exact .sent payload
  | stream queue => exact .opened queue
  | wait stream =>
    rcases stream_cases c stream with h | ⟨queue, h⟩ | ⟨queue, state, h, hstate⟩
    · rw [perform, h]
      exact .finished stream
    · rw [perform, h]
      exact .finished stream
    · rw [perform_wait_eq h hstate]
      rcases take_start_cases h hstate with ⟨delivered, payload, rest, hqueue, htake⟩ | htake
      · rw [htake]
        exact .gave h hstate hqueue
      · rw [htake]
        exact .waiting h hstate
  | next stream =>
    unfold perform
    dsimp only
    rcases stream_cases c stream with h | ⟨queue, h⟩ | ⟨queue, state, h, hstate⟩
    · rw [next, h]
      exact .finished stream
    · rw [next, h]
      exact .finished stream
    · rw [next_eq h hstate]
      rcases take_start_cases h hstate with ⟨delivered, payload, rest, hqueue, htake⟩ | htake
      · rw [htake]
        exact .gave h hstate hqueue
      · rw [htake]
        dsimp only
        rw [← start_eq h hstate, close_start_eq h hstate]
        exact .cancelled h hstate
  | close stream =>
    unfold perform close
    dsimp only
    split
    · next queue h => exact .closed h
    · next queue h => exact .closedFresh h
    · next hrunning hfresh =>
      refine .closedOver fun h => ?_
      obtain ⟨⟨queue, state⟩, h, rfl⟩ := Option.map_eq_some_iff.1 h
      exact hrunning queue h

/-! ## §4 Agreement -/

/-- What the streams of a queue took from it. -/
def delivered (c : Channel α) (queue : Nat) : List α :=
  match c.queues[queue]? with
  | some q => q.delivered
  | none => []

/-- What waits in a queue. -/
def pending (c : Channel α) (queue : Nat) : List α :=
  match c.queues[queue]? with
  | some q => q.pending
  | none => []

theorem received_eq (c : Channel α) (queue : Nat) :
    c.received queue = c.delivered queue ++ c.pending queue := by
  unfold received delivered pending
  cases c.queues[queue]? with
  | none => rfl
  | some q => rfl

/-- The channel is what its history says. -/
structure Agrees (history : List (Event α)) (c : Channel α) : Prop where
  queueCount : c.queues.length = queueCount history
  made : ∀ queue, history.countP (Event.makes queue) = if queue < c.queues.length then 1 else 0
  delivered : ∀ queue, c.delivered queue = deliveredTo queue history
  received : ∀ queue, c.received queue = sentTo queue history
  subscribed : ∀ queue, queue ∈ c.subscribed ↔ isSubscribed queue history = true
  nodup : c.subscribed.Nodup
  lt_length : ∀ queue ∈ c.subscribed, queue < c.queues.length
  queueOf : ∀ stream, c.streams[stream]?.map Stream.queue = queueOf? stream history
  underWay : ∀ stream, c.streams[stream]?.map Stream.state = some .running ↔
    isUnderWay stream history = true

theorem agrees_nil : Agrees [] ({} : Channel α) where
  queueCount := rfl
  made _ := rfl
  delivered _ := rfl
  received _ := rfl
  subscribed _ := by simp [isSubscribed]
  nodup := .nil
  lt_length _ h := nomatch h
  queueOf _ := rfl
  underWay _ := by simp [isUnderWay]

/-- Queues are never taken away. -/
theorem Becomes.length_le (h : Becomes c e c') : c.queues.length ≤ c'.queues.length := by
  cases h with
  | subscribed => simp [subscribe]
  | sent => simp [send]
  | gave => simp
  | _ => exact Nat.le_refl _

namespace Agrees

variable {past : List (Event α)}

theorem queueOf_eq {state : StreamState} (hagrees : Agrees past c)
    (h : c.streams[stream]? = some ⟨queue, state⟩) : queueOf? stream past = some queue := by
  rw [← hagrees.queueOf, h]
  rfl

theorem isUnderWay_eq (hagrees : Agrees past c)
    (h : c.streams[stream]?.map Stream.state ≠ some .running) : isUnderWay stream past = false :=
  Bool.eq_false_iff.2 (mt (hagrees.underWay stream).2 h)

/-! ### §5 One operation -/

theorem queueCount_step (hagrees : Agrees past c) (h : Becomes c e c') :
    c'.queues.length = Reload.queueCount (e :: past) := by
  have hpast := hagrees.queueCount
  unfold Reload.queueCount at hpast ⊢
  rw [List.countP_cons]
  cases h with
  | subscribed => simp [subscribe, hpast]
  | sent => simp [send, hpast]
  | gave => simp [hpast]
  | _ => exact hpast

theorem made_step (hagrees : Agrees past c) (h : Becomes c e c') (queue : Nat) :
    (e :: past).countP (Event.makes queue) = if queue < c'.queues.length then 1 else 0 := by
  rw [List.countP_cons, hagrees.made]
  cases h with
  | subscribed => grind [subscribe, Event.makes]
  | sent => simp [send, Event.makes]
  | gave => simp [Event.makes]
  | _ => rfl

theorem delivered_step (hagrees : Agrees past c) (h : Becomes c e c') (queue : Nat) :
    c'.delivered queue = deliveredTo queue (e :: past) := by
  have hpast := hagrees.delivered queue
  cases h with
  | subscribed =>
    refine Eq.trans ?_ hpast
    simp only [subscribe, Channel.delivered]
    grind
  | sent =>
    refine Eq.trans ?_ hpast
    simp only [send, Channel.delivered, List.getElem?_mapIdx]
    grind
  | gave h hstate hqueue =>
    rw [deliveredTo, hagrees.queueOf_eq h, ← hpast]
    simp only [Channel.delivered, List.getElem?_set]
    grind
  | _ => exact hpast

theorem received_step (hagrees : Agrees past c) (h : Becomes c e c') (queue : Nat) :
    c'.received queue = sentTo queue (e :: past) := by
  have hpast := hagrees.received queue
  cases h with
  | subscribed =>
    refine Eq.trans ?_ hpast
    simp only [subscribe, Channel.received]
    grind
  | sent =>
    have hsubscribed := hagrees.subscribed queue
    have hlt := hagrees.lt_length queue
    rw [sentTo, received_send, ← hpast]
    simp only [List.contains_iff_mem]
    grind
  | gave h hstate hqueue =>
    refine Eq.trans ?_ hpast
    simp only [Channel.received, List.getElem?_set]
    grind
  | _ => exact hpast

theorem queueOf_step (hagrees : Agrees past c) (h : Becomes c e c') (stream : Nat) :
    c'.streams[stream]?.map Stream.queue = queueOf? stream (e :: past) := by
  have hpast := hagrees.queueOf stream
  have hset (other : Nat) (state : StreamState) :
      (c.setState other state).streams[stream]?.map Stream.queue = queueOf? stream past := by
    rw [getElem?_setState, ← hpast]
    split
    · rw [Option.map_map]; rfl
    · rfl
  cases h with
  | opened queue =>
    simp only [Channel.stream, queueOf?, List.findSome?_cons, Event.opens?]
    rw [queueOf?] at hpast
    grind
  | waiting => exact hset _ _
  | gave => exact hset _ _
  | cancelled => exact hset _ _
  | closed => exact hset _ _
  | closedFresh => exact hset _ _
  | _ => exact hpast

theorem underWay_step (hagrees : Agrees past c) (h : Becomes c e c') (stream : Nat) :
    c'.streams[stream]?.map Stream.state = some .running ↔
      isUnderWay stream (e :: past) = true := by
  have hpast := hagrees.underWay stream
  simp only [isUnderWay]
  cases h with
  | opened =>
    simp only [Channel.stream, Event.ends, Event.advances]
    grind
  | waiting h | gave h =>
    simp only [getElem?_setState, Event.ends, Event.advances]
    grind
  | cancelled | closed | closedFresh =>
    simp only [unsubscribe, getElem?_setState, Event.ends, Event.advances]
    grind
  | closedOver h =>
    simp only [Event.ends, Event.advances]
    grind
  | subscribed | unsubscribed | sent | finished =>
    exact hpast

theorem subscribed_step (hagrees : Agrees past c) (h : Becomes c e c') (queue : Nat) :
    queue ∈ c'.subscribed ↔ isSubscribed queue (e :: past) = true := by
  have hpast := hagrees.subscribed queue
  simp only [isSubscribed, Bool.or_eq_true, Bool.and_eq_true, ← hpast]
  cases h with
  | subscribed =>
    grind [subscribe, endsSubscription, Event.makes]
  | unsubscribed =>
    grind [unsubscribe, endsSubscription, Event.makes]
  | cancelled h =>
    grind [unsubscribe, setState, endsSubscription, Event.makes, hagrees.queueOf_eq h]
  | closed h =>
    have hunderWay := (hagrees.underWay _).1 (by rw [h]; rfl)
    grind [unsubscribe, setState, endsSubscription, Event.makes, hagrees.queueOf_eq h]
  | closedFresh h =>
    have hunderWay := hagrees.isUnderWay_eq (by rw [h]; simp)
    simp [setState, endsSubscription, Event.makes, hunderWay]
  | closedOver h =>
    simp [endsSubscription, Event.makes, hagrees.isUnderWay_eq h]
  | _ => simp [send, Channel.stream, setState, endsSubscription, Event.makes]

theorem nodup_step (hagrees : Agrees past c) (h : Becomes c e c') : c'.subscribed.Nodup := by
  cases h with
  | subscribed =>
    refine List.Nodup.append hagrees.nodup (List.nodup_singleton _) ?_
    exact List.disjoint_singleton.2 fun hin => Nat.lt_irrefl _ (hagrees.lt_length _ hin)
  | unsubscribed | cancelled | closed => exact hagrees.nodup.filter _
  | _ => exact hagrees.nodup

/-- A subscribed queue was made. -/
theorem lt_length_step (hagrees : Agrees past c) (h : Becomes c e c') :
    ∀ queue ∈ c'.subscribed, queue < c'.queues.length := by
  intro queue hin
  have hle := h.length_le
  cases h with
  | subscribed =>
    simp only [subscribe, List.mem_append, List.mem_singleton, List.length_append,
      List.length_singleton] at hin ⊢
    exact hin.elim (fun hin => Nat.lt_succ_of_lt (hagrees.lt_length _ hin)) (by omega)
  | unsubscribed | cancelled | closed => exact hagrees.lt_length _ (List.mem_filter.1 hin).1
  | _ => exact Nat.lt_of_lt_of_le (hagrees.lt_length _ hin) hle

/-- What happens to a channel keeps the agreement. -/
theorem step (hagrees : Agrees past c) (h : Becomes c e c') : Agrees (e :: past) c' where
  queueCount := hagrees.queueCount_step h
  made := hagrees.made_step h
  delivered := hagrees.delivered_step h
  received := hagrees.received_step h
  subscribed := hagrees.subscribed_step h
  nodup := hagrees.nodup_step h
  lt_length := hagrees.lt_length_step h
  queueOf := hagrees.queueOf_step h
  underWay := hagrees.underWay_step h

end Agrees

/-! ## §6 All operations -/

theorem agrees_run (ops : List (Op α)) : Agrees (run ops).1 (run ops).2 := by
  -- The last operation is performed on the channel behind the others.
  induction ops using List.reverseRecOn with
  | nil => exact agrees_nil
  | append_singleton ops op ih =>
    rw [run, List.foldl_append]
    exact ih.step (becomes_perform _ op)

/-- The subscribed queues are counted by going through all queues. -/
theorem Agrees.subscriberCount_eq {history : List (Event α)} (hagrees : Agrees history c) :
    c.subscriberCount =
      (List.range (Reload.queueCount history)).countP (isSubscribed · history) := by
  rw [subscriberCount, List.countP_eq_length_filter, ← hagrees.queueCount]
  refine List.Perm.length_eq ((List.perm_ext_iff_of_nodup hagrees.nodup ?_).2 fun queue => ?_)
  · exact List.nodup_range.filter _
  · rw [List.mem_filter, List.mem_range, ← hagrees.subscribed]
    exact ⟨fun hin => ⟨hagrees.lt_length _ hin, hin⟩, And.right⟩

/-- After any operations: what the streams of a queue gave and what waits in it are together what was
sent while it was subscribed, in that order. A queue is made once, is subscribed from then on until
something ends the subscription, and those that are subscribed are counted. -/
theorem run_delivers (ops : List (Op α)) (queue : Nat) :
    deliveredTo queue (run ops).1 ++ (run ops).2.pending queue = sentTo queue (run ops).1 ∧
      (run ops).1.countP (Event.makes queue) =
        (if queue < queueCount (run ops).1 then 1 else 0) ∧
      (queue ∈ (run ops).2.subscribed ↔
        ∃ since e past, (run ops).1 = since ++ e :: past ∧ e.makes queue = true ∧
          ∀ later ending earlier, since = later ++ ending :: earlier →
            endsSubscription queue (earlier ++ e :: past) ending = false) ∧
      (run ops).2.subscriberCount =
        (List.range (queueCount (run ops).1)).countP (isSubscribed · (run ops).1) := by
  have hagrees := agrees_run ops
  refine ⟨?_, ?_, ?_, hagrees.subscriberCount_eq⟩
  · rw [← hagrees.delivered, ← received_eq, hagrees.received]
  · rw [hagrees.made, hagrees.queueCount]
  · rw [hagrees.subscribed, isSubscribed_iff]

end Channel
end EmbeddedGo.Reload
