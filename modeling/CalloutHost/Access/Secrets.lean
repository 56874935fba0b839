import CalloutHost.Access.PinnedStore
import CalloutHost.Engine.Options

/-!
# Secrets of a process

Keys that are made once, when they are first asked for, and are the same for every generation of
settings: the key that signs where none is configured, the user by which the responder connects,
and the pinned tokens.
-/

namespace CalloutHost

/-- What is kept secret over all generations. -/
structure Secrets where
  supply : SeedSupply
  /-- The seed that signs where none is configured. -/
  signing : Option Bytes
  /-- The seed of the responder's user. -/
  bootstrap : Option Bytes
  pinned : PinnedStore

namespace Secrets

/-- Nothing was asked for. -/
def new (supply : SeedSupply) : Secrets := ⟨supply, none, none, .empty⟩

/-- The key that signs where none is configured. -/
def signingKey (s : Secrets) : Nkey.KeyPair × Secrets :=
  match s.signing with
  | some seed => (.ofSeed .account seed, s)
  | none =>
    let seed := s.supply.head
    (.ofSeed .account seed, { s with signing := some seed, supply := s.supply.tail })

/-- The user of a seed: its name is the public key and its password the seed. -/
def userOfSeed (seed : Bytes) : EngineUser where
  name := (Nkey.KeyPair.ofSeed .user seed).publicText
  password := Nkey.KeyPair.seedTextOf .user seed

/-- What may be shown of the responder's user in a log. -/
def redactedUser (u : EngineUser) : String :=
  "BootstrapUser \x7b user: " ++ Text.quoted u.name ++ ", password: " ++ Text.quoted "***" ++
    " \x7d"

/-- The user by which the responder connects. -/
def bootstrapUser (s : Secrets) : EngineUser × Secrets :=
  match s.bootstrap with
  | some seed => (userOfSeed seed, s)
  | none =>
    let seed := s.supply.head
    (userOfSeed seed, { s with bootstrap := some seed, supply := s.supply.tail })

/-- The token of an account, a fresh one if it has none. -/
def pinnedToken (s : Secrets) (account : String) : String × Secrets :=
  let (token, pinned) := s.pinned.getOrCreate s.supply.head account
  (token, { s with pinned, supply := s.pinned.supplyAfter account s.supply })

/-- Binds a fresh token to an account that has none. -/
def addToken (s : Secrets) (account : String) (claims : Option (Claims User)) :
    Except PinnedError String × Secrets :=
  let (outcome, pinned) := s.pinned.add s.supply.head account claims
  (outcome, { s with pinned, supply := s.pinned.supplyAfter account s.supply })

/-- Binds a token that the caller chose. -/
def pinToken (s : Secrets) (token account : String) (claims : Option (Claims User)) :
    Except PinnedError String × Secrets :=
  let (outcome, pinned) := s.pinned.pin token account claims
  (outcome, { s with pinned })

end Secrets

end CalloutHost
