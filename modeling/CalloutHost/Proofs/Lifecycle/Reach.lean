import CalloutHost.Lifecycle.Server
import CalloutHost.Proofs.Lifecycle.Run
import CalloutHost.Proofs.Settings.Stability

/-!
# How far the programs of a server reach

Which areas each program touches, and so what it leaves alone. No program changes a secret that was
asked for before (`World.ensures_keeps`).
-/

namespace CalloutHost

open Program (Within perform within_act within_bind within_perform within_pure)

/-! ## Areas -/

namespace Supervision

theorem launchEngine_within (o : EngineOptions) :
    (launchEngine o).Within [.engines, .none] := by
  refine within_act (by simp) fun answer => ?_
  rcases answer with _ | e
  · exact within_pure _
  refine within_act (by simp) fun _ => within_act (by simp) fun answer => ?_
  rcases answer with _ | _
  · exact within_act (by simp) fun _ => within_pure _
  refine within_act (by simp) fun answer => ?_
  rcases answer with _ | _
  · exact within_pure _
  · exact within_act (by simp) fun _ => within_pure _

theorem ensureEngine_within (o : EngineOptions) :
    (ensureEngine o).Within [.engines, .none] := by
  refine within_act (by simp) fun answer => ?_
  rcases answer with _ | e
  · exact launchEngine_within o
  refine within_act (by simp) fun answer => ?_
  rcases answer with fault | _
  · dsimp only
    split
    · exact within_act (by simp) fun _ => within_act (by simp) fun _ => launchEngine_within o
    · exact within_pure _
  · exact within_pure _

theorem awaitEngine_within (e : Nat) : (awaitEngine e).Within [.engines, .none] := by
  refine within_act (by simp) fun answer => ?_
  rcases answer with _ | _
  · exact within_act (by simp) fun _ => within_act (by simp) fun _ => within_pure _
  · exact within_pure _

theorem shutdownEngine_within : shutdownEngine.Within [.engines] := by
  refine within_act (by simp) fun answer => ?_
  rcases answer with _ | e
  · exact within_pure _
  · exact within_perform (by simp)

theorem launchCollector_within (o : CollectorOptions) :
    (launchCollector o).Within [.collectors] := by
  refine within_act (by simp) fun answer => ?_
  rcases answer with _ | c
  · exact within_pure _
  refine within_act (by simp) fun answer => ?_
  rcases answer with _ | _
  · exact within_pure _
  refine within_act (by simp) fun answer => ?_
  rcases answer with _ | _
  · exact within_pure _
  · exact within_act (by simp) fun _ => within_pure _

theorem ensureCollector_within (o : CollectorOptions) :
    (ensureCollector o).Within [.collectors, .none] := by
  refine within_act (by simp) fun answer => ?_
  rcases answer with _ | c
  · exact (launchCollector_within o).mono (by simp)
  refine within_act (by simp) fun answer => ?_
  rcases answer with fault | _
  · split
    · exact within_pure _
    · exact within_act (by simp) fun _ => within_act (by simp) fun _ =>
        (launchCollector_within o).mono (by simp)
    · exact within_pure _
  · exact within_pure _

theorem shutdownCollector_within : shutdownCollector.Within [.collectors] := by
  refine within_act (by simp) fun answer => ?_
  rcases answer with _ | c
  · exact within_pure _
  · exact within_perform (by simp)

end Supervision

namespace Server

theorem isCurrent_within (s : Server) : s.isCurrent.Within [.none] := by
  unfold isCurrent
  split
  · exact within_perform (by simp)
  · exact within_pure _

theorem takeDown_within : takeDown.Within [.engines, .collectors] :=
  within_bind (Supervision.shutdownCollector_within.mono (by simp)) fun _ =>
    Supervision.shutdownEngine_within.mono (by simp)

theorem stop_within (s : Server) :
    s.stop.Within [.engines, .collectors, .clients, .none] := by
  unfold stop
  split
  · exact within_pure _
  refine within_act (by simp) fun _ => ?_
  split
  · refine within_bind (s.isCurrent_within.mono (by simp)) fun current => ?_
    split
    · exact within_bind (takeDown_within.mono (by simp)) fun _ => within_pure _
    · exact within_pure _
  · exact within_pure _

theorem credentials_within (s : Server) (account : String) :
    (s.credentials account).Within [.secrets] := by
  unfold credentials
  split
  · exact within_pure _
  dsimp only
  repeat' split
  all_goals first
    | exact within_pure _
    | exact within_act (by simp) fun _ => within_pure _

theorem connectClient_within (s : Server) (settings : ClientSettings) (worker : Worker) :
    (s.connectClient settings worker).Within [.clients] := by
  refine within_act (by simp) fun answer => ?_
  rcases answer with _ | _ <;> exact within_pure _

theorem connectResponder_within (s : Server) (url : String)
    (responder : Option (Issuer × EngineUser)) :
    (s.connectResponder url responder).Within [.clients] := by
  rcases responder with _ | ⟨issuer, user⟩
  · exact within_pure _
  · exact s.connectClient_within _ _

theorem connectFlows_within (s : Server) (url : String) (flows : List AccountFlow) :
    (s.connectFlows url flows).Within [.secrets, .clients] := by
  induction flows generalizing s with
  | nil => exact within_pure _
  | cons flow flows ih =>
    refine within_bind ((s.credentials_within flow.account).mono (by simp)) fun answer => ?_
    rcases answer with e | credentials
    · exact within_pure _
    refine within_bind ((s.connectClient_within _ _).mono (by simp)) fun answer => ?_
    rcases answer with ⟨_ | _, s'⟩
    · exact within_pure _
    · exact ih s'

theorem lookupAll_within (e : Nat) (names : List String) : (lookupAll e names).Within [.none] := by
  induction names with
  | nil => exact within_pure _
  | cons name names ih =>
    refine within_act (by simp) fun answer => ?_
    rcases answer with _ | _
    · exact within_pure _
    · exact ih

theorem attachCollector_within (s : Server) (o : Option CollectorOptions) :
    (s.attachCollector o).Within [.collectors, .none] := by
  rcases o with _ | o
  · refine within_bind (s.isCurrent_within.mono (by simp)) fun current => ?_
    split
    · exact within_bind (Supervision.shutdownCollector_within.mono (by simp)) fun _ => within_pure _
    · exact within_pure _
  · refine within_bind (Supervision.ensureCollector_within o) fun answer => ?_
    rcases answer with _ | _ <;> exact within_pure _

theorem provision_within (s : Server) : s.provision.Within [.generations, .secrets] := by
  unfold provision
  split
  · exact within_pure _
  refine within_act (by simp) fun g => within_act (by simp) fun answer => ?_
  rcases answer with _ | _ <;> exact within_pure _

theorem prepare_within (plan : Provisioned) : (prepare plan).Within [.secrets] := by
  unfold prepare
  split
  · exact within_pure _
  · exact within_act (by simp) fun _ => within_pure _

theorem attach_within (s : Server) (plan : Provisioned) (e : Nat) (o : EngineOptions)
    (responder : Option (Issuer × EngineUser)) :
    (s.attach plan e o responder).Within [.engines, .collectors, .clients, .secrets, .none] := by
  unfold attach
  refine within_bind ((Supervision.awaitEngine_within e).mono (by decide)) fun answer => ?_
  rcases answer with _ | _
  · exact within_pure _
  refine within_bind ((lookupAll_within e _).mono (by decide)) fun answer => ?_
  rcases answer with _ | _
  · exact within_pure _
  refine within_act (by simp) fun url => ?_
  refine within_bind ((connectResponder_within s url responder).mono (by decide)) fun r => ?_
  rcases r with ⟨_ | _, t⟩
  · exact within_pure _
  refine within_bind ((connectFlows_within t url plan.flows).mono (by decide)) fun r => ?_
  rcases r with ⟨_ | _, u⟩
  · exact within_pure _
  refine within_bind ((attachCollector_within u plan.collector).mono (by decide)) fun answer => ?_
  rcases answer with _ | _ <;> exact within_pure _

theorem launch_within (s : Server) (plan : Provisioned) :
    (s.launch plan).Within [.engines, .collectors, .clients, .secrets, .none] := by
  unfold launch
  refine within_bind ((prepare_within plan).mono (by decide)) fun ⟨responder, o⟩ => ?_
  refine within_bind ((Supervision.ensureEngine_within o).mono (by decide)) fun answer => ?_
  rcases answer with _ | e
  · exact within_pure _
  refine within_bind (attach_within s plan e o responder) fun r => ?_
  rcases r with ⟨_ | _, t⟩
  · exact within_bind ((stop_within t).mono (by decide)) fun _ => within_pure _
  · exact within_pure _

theorem start_within (s : Server) :
    s.start.Within [.engines, .collectors, .clients, .secrets, .none] := by
  unfold start
  split
  · exact launch_within s _
  · refine within_bind ((isCurrent_within s).mono (by decide)) fun current => ?_
    split
    · exact within_bind (takeDown_within.mono (by decide)) fun _ => within_pure _
    · exact within_pure _
  · exact within_pure _

end Server

/-! ## Secrets -/

namespace World

variable {σ α : Type} [Outside σ]

theorem keeps_exec (w : World σ) (a : Action) : w.secrets.Keeps (w.exec a).2.secrets := by
  by_cases ha : a.area = .secrets
  · cases a with
    | provision s => exact s.keeps_provision w.secrets
    | bootstrapUser => exact w.secrets.keeps_bootstrapUser
    | pinnedToken account => exact w.secrets.keeps_pinnedToken account
    | _ => exact absurd ha (by simp)
  · rw [w.exec_secrets ha]
    exact .refl _

/-- Secrets that were asked for before a program are the same after it. -/
theorem ensures_keeps (w : World σ) (p : Program α) :
    w.Ensures p fun _ x => w.secrets.Keeps x.secrets :=
  run_invariant (P := fun x => w.secrets.Keeps x.secrets)
    (fun x a hx => hx.trans (x.keeps_exec a)) p (.refl _)

end World

end CalloutHost
