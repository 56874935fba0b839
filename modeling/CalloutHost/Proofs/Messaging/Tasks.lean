import CalloutHost.Messaging.Memory
import Mathlib.Data.List.Basic
import Mathlib.Data.List.Induction

/-!
# Tasks and their clients

What one publish does to a client that keeps everything in memory, and what one event does to how a
task ended. `moments` pairs each of some events with all that comes before it, which is how a run is
described event by event.
-/

namespace CalloutHost

/-! ## What happened before -/

/-- The elements of a list, each with all that comes before it, `past` coming before them all. -/
def moments {α : Type} (past : List α) : List α → List (List α × α)
  | [] => []
  | e :: rest => (past, e) :: moments (past ++ [e]) rest

theorem moments_concat {α : Type} (past events : List α) (e : α) :
    moments past (events ++ [e]) = moments past events ++ [(past ++ events, e)] := by
  induction events generalizing past with
  | nil => rw [List.nil_append, moments, moments, List.append_nil, List.nil_append, moments]
  | cons first rest ih =>
    rw [List.cons_append, moments, ih, moments, List.append_assoc, List.singleton_append,
      List.cons_append]

/-! ## The client -/

namespace MemoryClient

@[simp]
theorem subscriptions_publish (c : MemoryClient) (m : Message) :
    (c.publish m).subscriptions = c.subscriptions := by
  rw [publish]
  split <;> rfl

/-- A publish uses up a failure, if one waits. -/
@[simp]
theorem failures_publish (c : MemoryClient) (m : Message) :
    (c.publish m).failures = c.failures - 1 := by
  rw [publish]
  split
  · next hnone => rw [hnone]
  · next hsome => rw [hsome]; rfl

/-- A publish reaches the client just where no failure waits. -/
@[simp]
theorem published_publish (c : MemoryClient) (m : Message) :
    (c.publish m).published = c.published ++ (if c.failures = 0 then some m else none).toList := by
  rw [publish]
  split
  · next hnone => rw [if_pos hnone]; rfl
  · next hsome => rw [hsome, if_neg (Nat.succ_ne_zero _)]; exact (List.append_nil _).symm

end MemoryClient

/-! ## The task -/

namespace ListenTask

/-- The event ends a task. -/
def Event.ends : Event → Bool
  | .close => true
  | .cancel => true
  | _ => false

variable {react : Message → Option Message}

theorem run_concat (t : ListenTask) (events : List Event) (e : Event) :
    t.run react (events ++ [e]) = (t.run react events).step react e :=
  List.foldl_concat _ _ _ _

/-- Whatever comes of a publish, only the end of its subscription or a cancellation ends a task, and
it ends once. -/
theorem outcome_step (t : ListenTask) (e : Event) :
    (t.step react e).outcome = if e.ends then t.outcome <|> some (.ok ()) else t.outcome := by
  cases e with
  | failPublishes count => rfl
  | close => rfl
  | cancel => rfl
  | deliver m =>
    rw [step]
    split
    · rfl
    · split <;> rfl

/-- A task that has ended publishes nothing more. -/
theorem published_step_of_isSome {t : ListenTask} (h : t.outcome.isSome = true) (e : Event) :
    (t.step react e).client.published = t.client.published := by
  cases e with
  | failPublishes count => rfl
  | close => rfl
  | cancel => rfl
  | deliver m => rw [step, reach, if_pos h, if_pos rfl]

/-- A task that has ended stays as it is, in what it published and in how it ended. -/
theorem run_of_isSome {t : ListenTask} (h : t.outcome.isSome = true) (events : List Event) :
    (t.run react events).client.published = t.client.published ∧
      (t.run react events).outcome = t.outcome := by
  induction events using List.reverseRecOn with
  | nil => exact ⟨rfl, rfl⟩
  | append_singleton events e ih =>
    obtain ⟨hpublished, houtcome⟩ := ih
    rw [run_concat]
    refine ⟨(published_step_of_isSome (houtcome ▸ h) e).trans hpublished, ?_⟩
    rw [outcome_step, houtcome]
    obtain ⟨outcome, hended⟩ := Option.isSome_iff_exists.1 h
    rw [hended]
    exact ite_self _

end ListenTask

end CalloutHost
