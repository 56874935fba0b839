import CalloutHost.Messaging.Flow
import CalloutHost.Proofs.Messaging.Tasks
import Mathlib.Data.List.DropRight

/-!
# Messages are published again, in order

A flow listens until its subscription is closed or it is cancelled. Until then it tries to publish
each message that comes on its subject, once, and the failures that are set are used up by these
tries alone, so how many of them wait is told by the events so far (`Flow.waiting`). What a failure
costs is the one message (`Flow.kept`), as `Flow.Relayed.step` says of one event and
`Flow.republishes_in_order` of every run.
-/

namespace CalloutHost

open ListenTask (Event)

namespace ListenTask.Event

/-- How many publishes are to fail from the event on, if it says so. -/
def failures? : Event → Option Nat
  | .failPublishes count => some count
  | _ => none

/-- The event is a message on a subject. -/
def isOn (subject : String) : Event → Bool
  | .deliver m => m.subject = subject
  | _ => false

end ListenTask.Event

namespace Flow

variable {source target : String} {failures : Nat} {before : List Message}
  {past events : List Event} {e : Event}

/-! ## What the events say -/

/-- How many failures wait for a flow that listens on a subject, some events after it began: the
number that was set last, less the messages that came on the subject since. -/
def waiting (source : String) (failures : Nat) (past : List Event) : Nat :=
  (past.filterMap Event.failures?).getLast?.getD failures -
    (past.rtakeWhile fun e => e.failures?.isNone).countP (Event.isOn source)

/-- The message that an event brings to a flow, if its publish does not fail. -/
def kept? (source : String) (failures : Nat) (past : List Event) : Event → Option Message
  | .deliver m => if m.subject = source ∧ waiting source failures past = 0 then some m else none
  | _ => none

/-- The messages that some events bring to a flow, less those whose publish fails. -/
def kept (source : String) (failures : Nat) (events : List Event) : List Message :=
  (moments [] events).filterMap fun (past, e) => kept? source failures past e

/-- A message as it is published again. -/
def copy (target : String) (m : Message) : Message := ⟨target, none, m.headers, m.payload⟩

/-- The events before the first that ends a flow. -/
def lasting (events : List Event) : List Event := events.takeWhile fun e => !e.ends

theorem waiting_concat_of_some {count : Nat} (h : e.failures? = some count) :
    waiting source failures (past ++ [e]) = count := by
  rw [waiting, List.filterMap_append, List.filterMap_cons_some h, List.filterMap_nil,
    List.getLast?_concat, List.rtakeWhile_concat_neg _ _ _ (by simp [h])]
  rfl

theorem waiting_concat_of_none (h : e.failures? = none) :
    waiting source failures (past ++ [e]) =
      waiting source failures past - if e.isOn source then 1 else 0 := by
  rw [waiting, List.filterMap_append, List.filterMap_cons_none h, List.filterMap_nil,
    List.append_nil, List.rtakeWhile_concat_pos _ _ _ (by simp [h]), List.countP_append,
    List.countP_singleton, Nat.sub_add_eq, waiting]

/-- What ends a flow brings it no message. -/
theorem kept?_of_ends (h : e.ends = true) : kept? source failures past e = none := by
  cases e with
  | deliver m => cases h
  | failPublishes count => cases h
  | close => rfl
  | cancel => rfl

theorem kept_concat :
    kept source failures (past ++ [e]) =
      kept source failures past ++ (kept? source failures past e).toList := by
  rw [kept, moments_concat, List.filterMap_append]
  rfl

theorem lasts_of_open (h : past.any Event.ends = false) : ∀ e ∈ past, (!e.ends) = true :=
  fun e he => by rw [Bool.not_eq_true']; exact Bool.eq_false_iff.2 (List.any_eq_false.1 h e he)

theorem lasting_of_open (h : past.any Event.ends = false) : lasting past = past :=
  List.takeWhile_eq_self_iff.2 (lasts_of_open h)

/-- What comes after the end does not last. -/
theorem lasting_append_of_ended (h : past.any Event.ends = true) :
    lasting (past ++ events) = lasting past := by
  induction past with
  | nil => cases h
  | cons first past ih =>
    rw [lasting, lasting, List.cons_append, List.takeWhile_cons, List.takeWhile_cons]
    cases hfirst : first.ends with
    | true => rfl
    | false =>
      rw [List.any_cons, hfirst, Bool.false_or] at h
      exact congrArg (first :: ·) (ih h)

/-- An event counts among those that last unless it is the end, or comes after it. -/
theorem lasting_concat (h : past.any Event.ends = false) :
    lasting (past ++ [e]) = if e.ends then past else past ++ [e] := by
  rw [lasting, List.takeWhile_append_of_pos (lasts_of_open h), List.takeWhile_cons]
  cases e.ends with
  | true => exact List.append_nil past
  | false => rfl

/-! ## One event -/

/-- What some events have made of a flow since it subscribed. -/
structure Relayed (source target : String) (failures : Nat) (before : List Message)
    (past : List Event) (t : ListenTask) : Prop where
  /-- It has published the messages that were kept, after what was published before it began. -/
  published : t.client.published =
    before ++ (kept source failures (lasting past)).map (copy target)
  /-- It has ended, without an error, just if an event ended it. -/
  outcome : t.outcome = if past.any Event.ends then some (.ok ()) else none
  subscriptions : past.any Event.ends = false → t.client.subscriptions = [⟨source, none⟩]
  /-- Until it ends, the failures that wait are those that the events tell of. -/
  failures : past.any Event.ends = false → t.client.failures = waiting source failures past

theorem relayed_start :
    Relayed source target failures before []
      ((republish source target).start ⟨false, failures, [], before⟩) where
  published := (List.append_nil before).symm
  outcome := rfl
  subscriptions _ := rfl
  failures _ := rfl

/-- A message reaches a flow that listens if it comes on its subject, and the flow tries to publish
it once. -/
theorem Relayed.client_deliver {t : ListenTask} (h : Relayed source target failures before past t)
    (hopen : past.any Event.ends = false) (m : Message) :
    ((republish source target).step t (.deliver m)).client =
      if m.subject = source then t.client.publish (copy target m) else t.client := by
  have hreach : t.reach m.subject = if m.subject = source then 1 else 0 := by
    rw [ListenTask.reach, h.outcome, hopen, MemoryClient.count, h.subscriptions hopen]
    simp [List.countP_singleton, eq_comm]
  rw [step, ListenTask.step, hreach]
  by_cases hsubject : m.subject = source
  · rw [if_pos hsubject, if_pos hsubject, if_neg Nat.one_ne_zero]
    rfl
  · rw [if_neg hsubject, if_neg hsubject, if_pos rfl]

/-- What one event makes a flow that listens publish. -/
theorem Relayed.published_step {t : ListenTask} (h : Relayed source target failures before past t)
    (hopen : past.any Event.ends = false) (e : Event) :
    ((republish source target).step t e).client.published =
      t.client.published ++ ((kept? source failures past e).map (copy target)).toList := by
  cases e with
  | failPublishes count => exact (List.append_nil _).symm
  | close => exact (List.append_nil _).symm
  | cancel => exact (List.append_nil _).symm
  | deliver m =>
    rw [h.client_deliver hopen, kept?]
    by_cases hsubject : m.subject = source
    · rw [if_pos hsubject, MemoryClient.published_publish, h.failures hopen]
      by_cases hnone : waiting source failures past = 0
      · rw [if_pos hnone, if_pos ⟨hsubject, hnone⟩]; rfl
      · rw [if_neg hnone, if_neg fun hboth => hnone hboth.2]; rfl
    · rw [if_neg hsubject, if_neg fun hboth => hsubject hboth.1]
      exact (List.append_nil _).symm

/-- One event sets the failures that wait, or uses one up by a message on the subject, or leaves
them. -/
theorem Relayed.failures_step {t : ListenTask} (h : Relayed source target failures before past t)
    (hopen : past.any Event.ends = false) (e : Event) :
    ((republish source target).step t e).client.failures =
      waiting source failures (past ++ [e]) := by
  cases e with
  | failPublishes count => exact (waiting_concat_of_some rfl).symm
  | close => rw [waiting_concat_of_none rfl]; exact h.failures hopen
  | cancel => rw [waiting_concat_of_none rfl]; exact h.failures hopen
  | deliver m =>
    rw [waiting_concat_of_none rfl, h.client_deliver hopen, ← h.failures hopen]
    by_cases hsubject : m.subject = source <;> simp [hsubject, Event.isOn]

theorem Relayed.subscriptions_step {t : ListenTask}
    (h : Relayed source target failures before past t) (hopen : past.any Event.ends = false)
    (hlasts : e.ends = false) :
    ((republish source target).step t e).client.subscriptions = [⟨source, none⟩] := by
  cases e with
  | failPublishes count => exact h.subscriptions hopen
  | close => cases hlasts
  | cancel => cases hlasts
  | deliver m =>
    rw [h.client_deliver hopen]
    split
    · rw [MemoryClient.subscriptions_publish, h.subscriptions hopen]
    · exact h.subscriptions hopen

/-- One more event, and the flow is still what the events have made of it. -/
theorem Relayed.step {t : ListenTask} (h : Relayed source target failures before past t)
    (e : Event) :
    Relayed source target failures before (past ++ [e]) ((republish source target).step t e) where
  published := by
    -- A flow that has ended publishes nothing, and no event that comes then lasts.
    cases hended : past.any Event.ends with
    | true =>
      have hsome : t.outcome.isSome = true := by rw [h.outcome, hended]; rfl
      rw [lasting_append_of_ended hended, ← h.published]
      exact ListenTask.published_step_of_isSome hsome e
    | false =>
      rw [h.published_step hended, h.published, lasting_of_open hended, lasting_concat hended,
        List.append_assoc, Option.toList_map]
      split
      · next hends => rw [kept?_of_ends hends, Option.toList_none, List.map_nil, List.append_nil]
      · next hlasts => rw [kept_concat, List.map_append]
  outcome := by
    rw [Flow.step, ListenTask.outcome_step, h.outcome, List.any_append, List.any_cons, List.any_nil,
      Bool.or_false]
    cases past.any Event.ends <;> cases e.ends <;> rfl
  subscriptions := by
    intro hopen
    rw [List.any_append, Bool.or_eq_false_iff, List.any_cons, Bool.or_eq_false_iff] at hopen
    exact h.subscriptions_step hopen.1 hopen.2.1
  failures := by
    intro hopen
    rw [List.any_append, Bool.or_eq_false_iff] at hopen
    exact h.failures_step hopen.1 e

/-! ## Runs -/

theorem relayed_run (source target : String) (failures : Nat) (before : List Message)
    (events : List Event) :
    Relayed source target failures before events
      ((republish source target).run ⟨false, failures, [], before⟩ events) := by
  induction events using List.reverseRecOn with
  | nil => exact relayed_start
  | append_singleton events e ih =>
    rw [run, ListenTask.run_concat]
    exact ih.step e

/-- For every run of a flow over a client to which only the flow subscribes: if the client accepts
the subscription, the flow has published, after what was published before it began, exactly the
messages that came on its subject before the first event that ended it and whose own publish met no
failure, in the order in which they came, each once, to its target, with payload and headers as they
were; and it has ended, without an error, just if its subscription was closed or it was cancelled.
If the client refuses, the flow has ended with that error and publishes nothing. -/
theorem republishes_in_order (source target : String) (failures : Nat) (before : List Message)
    (events : List Event) :
    let accepted := (republish source target).run ⟨false, failures, [], before⟩ events
    let refused := (republish source target).run ⟨true, failures, [], before⟩ events
    accepted.client.published =
        before ++ (kept source failures (lasting events)).map
          (fun m => ⟨target, none, m.headers, m.payload⟩) ∧
      accepted.outcome = (if events.any Event.ends then some (.ok ()) else none) ∧
      refused.client.published = before ∧
      refused.outcome = some (.error ⟨source, "subscribe to " ++ source ++ " refused"⟩) := by
  have hrun := relayed_run source target failures before events
  -- Who is refused has ended before the first event.
  have hended : ((republish source target).start
      ⟨true, failures, [], before⟩).outcome.isSome = true := rfl
  exact ⟨hrun.published, hrun.outcome, ListenTask.run_of_isSome hended events⟩

/-- A failure costs one message and leaves those around it. -/
example :
    let message (text : UInt8) : Message := ⟨"in", none, .empty, [text]⟩
    kept "in" 0 [.deliver (message 1), .failPublishes 1, .deliver (message 2),
      .deliver (message 3)] = [message 1, message 3] := by rfl

end Flow

end CalloutHost
