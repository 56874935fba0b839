import CalloutHost.Access.Issuer
import CalloutHost.Proofs.Access.PinnedRuns
import CalloutHost.Proofs.Messaging.Tasks
import Mathlib.Data.List.Basic
import Mathlib.Data.List.Induction

/-!
# One answer for each request

`Issuer.attempt` says when a responder tries to publish something: a message came in on the subject
of the requests, nothing before it ended the responder, the message wants a reply, and the issuer
has an answer on the store as it is then. `Issuer.serviceStep_client` is what one event does to the
client, and `Issuer.serves_each_once` what a run has published: every attempt that no failure was
waiting for, in the order in which the messages came.
-/

namespace CalloutHost

/-! ## Events -/

namespace ServiceEvent

/-- The event ends the responder. -/
def ends : ServiceEvent → Bool
  | .client _ .close => true
  | .client _ .cancel => true
  | _ => false

/-- The event sets how many publishes are to fail. -/
def setsFailures : ServiceEvent → Bool
  | .client _ (.failPublishes _) => true
  | _ => false

/-- The step that the event takes on the store, if it takes one. -/
def pinStep? : ServiceEvent → Option PinnedStep
  | .pins e => some e
  | .client _ _ => none

end ServiceEvent

namespace Issuer

variable {issuer : Issuer} {pins : SharedPins} {past events : List ServiceEvent} {e : ServiceEvent}

/-! ## What the responder tries to publish -/

/-- The store after the steps that some events took on it. -/
def pinsAfter (pins : SharedPins) (past : List ServiceEvent) : SharedPins :=
  (pins.run (past.filterMap ServiceEvent.pinStep?)).2

/-- What the responder tries to publish when an event comes after others. -/
def attempt (issuer : Issuer) (pins : SharedPins) (past : List ServiceEvent) :
    ServiceEvent → Option Message
  | .client now (.deliver m) =>
    if m.subject = requestSubject ∧ past.any ServiceEvent.ends = false then
      issuer.respond (pinsAfter pins past).store now m
    else none
  | _ => none

/-- All that the responder tries to publish while some events come after others. -/
def attempts (issuer : Issuer) (pins : SharedPins) (past events : List ServiceEvent) :
    List Message :=
  (moments past events).filterMap fun (before, e) => issuer.attempt pins before e

theorem respond_eq_some_iff {store : PinnedStore} {now : Int} {m out : Message} :
    issuer.respond store now m = some out ↔
      ∃ reply jwt, m.reply = some reply ∧ issuer.handle store m.payload now = some jwt ∧
        out = ⟨reply, none, .empty, Bytes.ofText jwt⟩ := by
  rw [respond]
  simp only [Option.bind_eq_bind, Option.bind_eq_some_iff, pure, Option.some.injEq]
  constructor
  · rintro ⟨reply, hreply, jwt, hjwt, rfl⟩
    exact ⟨reply, jwt, hreply, hjwt, rfl⟩
  · rintro ⟨reply, jwt, hreply, hjwt, rfl⟩
    exact ⟨reply, hreply, jwt, hjwt, rfl⟩

/-- When the responder tries to publish something, and what. -/
theorem attempt_eq_some_iff {out : Message} :
    issuer.attempt pins past e = some out ↔
      ∃ now m reply jwt, e = .client now (.deliver m) ∧ m.subject = requestSubject ∧
        past.any ServiceEvent.ends = false ∧ m.reply = some reply ∧
          issuer.handle (pinsAfter pins past).store m.payload now = some jwt ∧
            out = ⟨reply, none, .empty, Bytes.ofText jwt⟩ := by
  constructor
  · intro h
    cases e with
    | pins e => cases h
    | client now event =>
      cases event with
      | deliver m =>
        rw [attempt, Option.ite_none_right_eq_some, respond_eq_some_iff] at h
        obtain ⟨⟨hsubject, hopen⟩, reply, jwt, hreply, hjwt, hout⟩ := h
        exact ⟨now, m, reply, jwt, rfl, hsubject, hopen, hreply, hjwt, hout⟩
      | failPublishes _ => cases h
      | close => cases h
      | cancel => cases h
  · rintro ⟨now, m, reply, jwt, rfl, hsubject, hopen, hreply, hjwt, hout⟩
    rw [attempt, if_pos ⟨hsubject, hopen⟩, respond_eq_some_iff]
    exact ⟨reply, jwt, hreply, hjwt, hout⟩

theorem attempts_concat :
    issuer.attempts pins past (events ++ [e]) =
      issuer.attempts pins past events ++ (issuer.attempt pins (past ++ events) e).toList := by
  rw [attempts, moments_concat, List.filterMap_append]
  rfl

/-! ## One event -/

theorem serviceRun_concat (s : Service) :
    issuer.serviceRun s (events ++ [e]) = issuer.serviceStep (issuer.serviceRun s events) e :=
  List.foldl_concat _ _ _ _

theorem pinsAfter_concat :
    pinsAfter pins (past ++ [e]) =
      match e.pinStep? with
      | some step => ((pinsAfter pins past).step step).2
      | none => pinsAfter pins past := by
  rw [pinsAfter, List.filterMap_append, SharedPins.run_append]
  cases e <;> rfl

/-- What the events so far have made of the responder: the store has had all steps and no others,
the responder has ended just if an event ended it, and until then it has its one subscription. -/
structure Served (issuer : Issuer) (pins : SharedPins) (past : List ServiceEvent) (s : Service) :
    Prop where
  /-- The store has had the steps that were taken on it. -/
  pins : s.pins = pinsAfter pins past
  outcome : s.task.outcome = if past.any ServiceEvent.ends then some (.ok ()) else none
  /-- Its subscription is the one that the client has. -/
  subscriptions : past.any ServiceEvent.ends = false →
    s.task.client.subscriptions = [issuer.subscription]

theorem served_service (failures : Nat) :
    Served issuer pins [] (issuer.service ⟨false, failures, [], []⟩ pins) :=
  ⟨rfl, rfl, fun _ => rfl⟩

/-- A message reaches the responder just where it comes in on the subject of the requests before
the responder has ended. -/
theorem Served.reach_eq_zero_iff {s : Service} (h : Served issuer pins past s) (subject : String) :
    s.task.reach subject = 0 ↔
      ¬ (subject = requestSubject ∧ past.any ServiceEvent.ends = false) := by
  rw [ListenTask.reach, h.outcome]
  cases hends : past.any ServiceEvent.ends with
  | true => simp
  | false =>
    rw [MemoryClient.count, h.subscriptions hends]
    simp [subscription, eq_comm]

/-- What one event does to the client of a responder. -/
theorem Served.step_client {s : Service} (h : Served issuer pins past s) (e : ServiceEvent) :
    (issuer.serviceStep s e).task.client =
      match e, issuer.attempt pins past e with
      | _, some out => s.task.client.publish out
      | .client _ (.failPublishes count), none => { s.task.client with failures := count }
      | .client _ .close, none => { s.task.client with subscriptions := [] }
      | _, none => s.task.client := by
  cases e with
  | pins e => rfl
  | client now event =>
    cases event with
    | failPublishes count => rfl
    | close => rfl
    | cancel => rfl
    | deliver m =>
      rw [serviceStep, serveStep, ListenTask.step, attempt, ← h.pins]
      by_cases hreach : m.subject = requestSubject ∧ past.any ServiceEvent.ends = false
      · rw [if_pos hreach, if_neg fun hzero => (h.reach_eq_zero_iff _).1 hzero hreach]
        cases issuer.respond s.pins.store now m <;> rfl
      · rw [if_neg hreach, if_pos ((h.reach_eq_zero_iff _).2 hreach)]

/-- What one event does to how a responder ended. -/
theorem step_outcome (s : Service) (e : ServiceEvent) :
    (issuer.serviceStep s e).task.outcome =
      if e.ends then s.task.outcome <|> some (.ok ()) else s.task.outcome := by
  cases e with
  | pins e => rfl
  | client now event =>
    have hends : (ServiceEvent.client now event).ends = event.ends := by cases event <;> rfl
    rw [hends]
    exact ListenTask.outcome_step s.task event

/-- One more event, and the responder is still what the events have made of it. -/
theorem Served.step {s : Service} (h : Served issuer pins past s) (e : ServiceEvent) :
    Served issuer pins (past ++ [e]) (issuer.serviceStep s e) where
  pins := by
    rw [pinsAfter_concat, ← h.pins]
    cases e <;> rfl
  outcome := by
    rw [step_outcome, h.outcome, List.any_append, List.any_cons, List.any_nil, Bool.or_false]
    cases past.any ServiceEvent.ends <;> cases e.ends <;> rfl
  subscriptions := by
    intro hopen
    rw [List.any_append, Bool.or_eq_false_iff, List.any_cons, Bool.or_eq_false_iff] at hopen
    obtain ⟨hpast, hlast, -⟩ := hopen
    rw [h.step_client e]
    split
    · rw [MemoryClient.subscriptions_publish, h.subscriptions hpast]
    · exact h.subscriptions hpast
    · cases hlast
    · exact h.subscriptions hpast

/-! ## Runs -/

section Runs

variable (issuer pins) (failures : Nat)

/-- The responder begun over a client that has done nothing, of whose publishes the next `failures`
are to fail, after a run. -/
def serviceAfter (events : List ServiceEvent) : Service :=
  issuer.serviceRun (issuer.service ⟨false, failures, [], []⟩ pins) events

theorem serviceAfter_concat (events : List ServiceEvent) (e : ServiceEvent) :
    issuer.serviceAfter pins failures (events ++ [e]) =
      issuer.serviceStep (issuer.serviceAfter pins failures events) e :=
  serviceRun_concat _

theorem served_serviceAfter (events : List ServiceEvent) :
    Served issuer pins events (issuer.serviceAfter pins failures events) := by
  induction events using List.reverseRecOn with
  | nil => exact served_service failures
  | append_singleton events e ih =>
    rw [serviceAfter_concat]
    exact ih.step e

/-- One event sets the failures that wait, or uses one up by an attempt, or leaves them. -/
theorem failures_concat (events : List ServiceEvent) (e : ServiceEvent)
    (hkeeps : e.setsFailures = false) :
    (issuer.serviceAfter pins failures (events ++ [e])).task.client.failures =
      (issuer.serviceAfter pins failures events).task.client.failures -
        (issuer.attempt pins events e).toList.length := by
  rw [serviceAfter_concat, (served_serviceAfter issuer pins failures events).step_client]
  split
  · next hout => rw [MemoryClient.failures_publish, hout]; rfl
  · cases hkeeps
  · next hout => rw [hout]; rfl
  · next hout => rw [hout]; rfl

/-- One event publishes what the responder attempts, if no failure waits for it. -/
theorem published_concat (events : List ServiceEvent) (e : ServiceEvent) :
    (issuer.serviceAfter pins failures (events ++ [e])).task.client.published =
      (issuer.serviceAfter pins failures events).task.client.published ++
        (if (issuer.serviceAfter pins failures events).task.client.failures = 0 then
          issuer.attempt pins events e else none).toList := by
  rw [serviceAfter_concat, (served_serviceAfter issuer pins failures events).step_client]
  split
  · next hout => rw [MemoryClient.published_publish, hout]
  · next hout => rw [hout, ite_self]; simp
  · next hout => rw [hout, ite_self]; simp
  · next hout => rw [hout, ite_self]; simp

/-- A run of events that set no failures uses up one for each attempt, as far as there are any. -/
theorem failures_append (past since : List ServiceEvent)
    (hkeeps : ∀ e ∈ since, e.setsFailures = false) :
    (issuer.serviceAfter pins failures (past ++ since)).task.client.failures =
      (issuer.serviceAfter pins failures past).task.client.failures -
        (issuer.attempts pins past since).length := by
  induction since using List.reverseRecOn with
  | nil => rw [List.append_nil]; rfl
  | append_singleton since e ih =>
    obtain ⟨hsince, hlast⟩ := List.forall_mem_append.1 hkeeps
    rw [← List.append_assoc, failures_concat _ _ _ _ _ (hlast e (List.mem_singleton_self e)),
      ih hsince, attempts_concat, List.length_append, Nat.sub_add_eq]

/-- For every run of the responder over a client that has done nothing, beside a store that others
call: it has published, in the order in which the messages came, what it attempted while no failure
waited; it attempts a publish just for a message on the subject of the requests that comes before
the responder is ended, wants a reply and has an answer on the store of that moment, and the reply
is all it publishes; a failure is used up by an attempt and by nothing else; and it has ended,
without an error, just if its subscription was closed or it was cancelled. -/
theorem serves_each_once (events : List ServiceEvent) :
    (issuer.serviceAfter pins failures events).task.client.published =
      (moments [] events).filterMap (fun (past, e) =>
        if (issuer.serviceAfter pins failures past).task.client.failures = 0 then
          issuer.attempt pins past e
        else none) ∧
    (∀ past e out, issuer.attempt pins past e = some out ↔
      ∃ now m reply jwt, e = .client now (.deliver m) ∧ m.subject = requestSubject ∧
        past.any ServiceEvent.ends = false ∧ m.reply = some reply ∧
          issuer.handle (pinsAfter pins past).store m.payload now = some jwt ∧
            out = ⟨reply, none, .empty, Bytes.ofText jwt⟩) ∧
    (issuer.serviceAfter pins failures []).task.client.failures = failures ∧
    (∀ past now count, (issuer.serviceAfter pins failures
      (past ++ [.client now (.failPublishes count)])).task.client.failures = count) ∧
    (∀ past since, (∀ e ∈ since, e.setsFailures = false) →
      (issuer.serviceAfter pins failures (past ++ since)).task.client.failures =
        (issuer.serviceAfter pins failures past).task.client.failures -
          (issuer.attempts pins past since).length) ∧
    (issuer.serviceAfter pins failures events).task.outcome =
      if events.any ServiceEvent.ends then some (.ok ()) else none := by
  refine ⟨?_, fun _ _ _ => attempt_eq_some_iff, rfl, fun past now count => ?_,
    failures_append issuer pins failures, (served_serviceAfter issuer pins failures events).outcome⟩
  · induction events using List.reverseRecOn with
    | nil => rfl
    | append_singleton events e ih =>
      rw [published_concat, ih, moments_concat, List.filterMap_append, List.nil_append]
      rfl
  · rw [serviceAfter_concat]
    rfl

end Runs

end Issuer

end CalloutHost
