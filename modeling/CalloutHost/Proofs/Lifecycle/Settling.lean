import CalloutHost.Lifecycle.Fleet
import CalloutHost.Proofs.Lifecycle.Servers

/-!
# Nothing that a server does unsettles the process

Of whichever generation a server is, and whatever is answered from outside: if what runs is what the
slots hold before it does what it is told, then so it is afterwards (`Server.obey_settles`). Whether
its generation is the latest matters for what it takes down (`Server.stop_spec`), not for this.
-/

namespace CalloutHost

namespace Program

variable {α β : Type}

/-- Run in any process, the program keeps to it that what runs is what the slots hold. -/
structure Settles (p : Program α) : Prop where
  run : ∀ {σ : Type} [Outside σ] (w : World σ), w.Settled → w.Ensures p fun _ x => x.Settled

variable {p : Program α} {areas : List Area}

theorem settles_pure (a : α) : (pure a : Program α).Settles := ⟨fun _ h => h⟩

theorem Settles.bind {f : α → Program β} (hp : p.Settles) (hf : ∀ a, (f a).Settles) :
    (p >>= f).Settles :=
  ⟨fun w h => (hp.run w h).bind fun a x hx => (hf a).run x hx⟩

/-- A program that touches neither engines nor collectors leaves them settled. -/
theorem Within.settles (hp : p.Within areas) (he : Area.engines ∉ areas)
    (hc : Area.collectors ∉ areas) : p.Settles :=
  ⟨fun w h => (World.ensures_sameServices hp he hc w).mono fun _ _ hx => h.congr hx⟩

theorem Within.settles_of_engines (hp : p.Within areas) (hc : Area.collectors ∉ areas)
    (he : ∀ {σ : Type} [Outside σ] (w : World σ), w.EnginesSettled →
      w.Ensures p fun _ x => x.EnginesSettled) : p.Settles :=
  ⟨fun w h => ((he w h.engines).and (World.ensures_collectors hp hc w)).mono
    fun _ _ ⟨hx, hkept⟩ => ⟨hx, h.collectors.congr hkept⟩⟩

theorem Within.settles_of_collectors (hp : p.Within areas) (he : Area.engines ∉ areas)
    (hc : ∀ {σ : Type} [Outside σ] (w : World σ), w.CollectorsSettled →
      w.Ensures p fun _ x => x.CollectorsSettled) : p.Settles :=
  ⟨fun w h => ((hc w h.collectors).and (World.ensures_engines hp he w)).mono
    fun _ _ ⟨hx, hkept⟩ => ⟨h.engines.congr hkept, hx⟩⟩

end Program

open Program (Settles settles_pure)

namespace Supervision

theorem ensureEngine_settles (o : EngineOptions) : (ensureEngine o).Settles :=
  (ensureEngine_within o).settles_of_engines (by decide) fun _ h =>
    (ensureEngine_spec h o).mono fun _ _ hx => hx.1

theorem awaitEngine_settles (e : Nat) : (awaitEngine e).Settles :=
  (awaitEngine_within e).settles_of_engines (by decide) fun _ h =>
    (awaitEngine_spec h e).mono fun _ _ hx => hx.1

theorem ensureCollector_settles (o : CollectorOptions) : (ensureCollector o).Settles :=
  (ensureCollector_within o).settles_of_collectors (by decide) fun _ h =>
    (ensureCollector_spec h o).mono fun _ _ hx => hx.1

theorem shutdownCollector_settles : shutdownCollector.Settles :=
  shutdownCollector_within.settles_of_collectors (by decide) fun _ h =>
    (shutdownCollector_spec h).mono fun _ _ hx => hx.1

end Supervision

namespace Server

theorem isCurrent_settles (s : Server) : s.isCurrent.Settles :=
  s.isCurrent_within.settles (by decide) (by decide)

theorem takeDown_settles : takeDown.Settles :=
  ⟨fun _ h => (takeDown_spec h).mono fun _ _ hx => hx.1⟩

theorem stop_settles (s : Server) : s.stop.Settles :=
  ⟨fun _ h => (s.stop_spec h).mono fun _ _ hx => hx.1⟩

theorem attachCollector_settles (s : Server) (o : Option CollectorOptions) :
    (s.attachCollector o).Settles := by
  rcases o with _ | o
  · refine s.isCurrent_settles.bind fun current => ?_
    split
    · exact Supervision.shutdownCollector_settles.bind fun _ => settles_pure _
    · exact settles_pure _
  · refine (Supervision.ensureCollector_settles o).bind fun answer => ?_
    rcases answer with _ | _ <;> exact settles_pure _

theorem attach_settles (s : Server) (plan : Provisioned) (e : Nat) (o : EngineOptions)
    (responder : Option (Issuer × EngineUser)) : (s.attach plan e o responder).Settles := by
  unfold attach
  refine (Supervision.awaitEngine_settles e).bind fun answer => ?_
  rcases answer with _ | _
  · exact settles_pure _
  refine ((lookupAll_within e _).settles (by decide) (by decide)).bind fun answer => ?_
  rcases answer with _ | _
  · exact settles_pure _
  have hurl : (Program.perform (.engineUrl e)).Within [.none] := Program.within_perform (by simp)
  refine (hurl.settles (by decide) (by decide)).bind fun url => ?_
  refine ((connectResponder_within s url responder).settles (by decide) (by decide)).bind
    fun r => ?_
  rcases r with ⟨_ | _, t⟩
  · exact settles_pure _
  refine ((connectFlows_within t url plan.flows).settles (by decide) (by decide)).bind
    fun r => ?_
  rcases r with ⟨_ | _, u⟩
  · exact settles_pure _
  refine (attachCollector_settles u plan.collector).bind fun answer => ?_
  rcases answer with _ | _ <;> exact settles_pure _

theorem launch_settles (s : Server) (plan : Provisioned) : (s.launch plan).Settles := by
  unfold launch
  refine ((prepare_within plan).settles (by decide) (by decide)).bind
    fun ⟨responder, o⟩ => ?_
  refine (Supervision.ensureEngine_settles o).bind fun answer => ?_
  rcases answer with _ | e
  · exact settles_pure _
  refine (attach_settles s plan e o responder).bind fun r => ?_
  rcases r with ⟨_ | _, t⟩
  · exact t.stop_settles.bind fun _ => settles_pure _
  · exact settles_pure _

theorem start_settles (s : Server) : s.start.Settles := by
  unfold start
  split
  · exact launch_settles s _
  · refine s.isCurrent_settles.bind fun current => ?_
    split
    · exact takeDown_settles.bind fun _ => settles_pure _
    · exact settles_pure _
  · exact settles_pure _

/-- A server of whichever generation leaves the process settled, whatever it is told. -/
theorem obey_settles (s : Server) (command : ServerCommand) : (s.obey command).Settles := by
  cases command with
  | provision =>
    exact (s.provision_within.settles (by decide) (by decide)).bind fun _ => settles_pure _
  | start => exact s.start_settles.bind fun _ => settles_pure _
  | stop => exact s.stop_settles

end Server

end CalloutHost
