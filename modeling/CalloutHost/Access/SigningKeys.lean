import CalloutHost.Dict
import CalloutHost.Nkey
import CalloutHost.Text.Quoted

/-!
# Signing keys

Which key signs for an account: one key for all, or for each account the seed that a store gives for
it. A store is somebody else's: it may give a seed for one account, refuse the next and be out of
reach for a third. The auth account's own key is that of the issuer's name.
-/

namespace CalloutHost

/-- Why a store gives no seed. -/
inductive KeyStoreError
  | notFound (account : String)
  | unavailable (reason : String)
  deriving DecidableEq, Repr

/-- The text of an error. -/
def KeyStoreError.message : KeyStoreError → String
  | .notFound account => "no signing key stored for account " ++ account
  | .unavailable reason => "key store unavailable: " ++ reason

/-- A store of seeds, by what it answers for an account. -/
structure KeyStore where
  seed : String → Except KeyStoreError String

/-- The store that has these seeds and no others. -/
def KeyStore.memory (seeds : Dict String) : KeyStore where
  seed account :=
    match seeds.get? account with
    | some seed => .ok seed
    | none => .error (.notFound account)

/-- Where keys come from. -/
inductive SigningIdentity
  | fixed (key : Nkey.KeyPair)
  | store (store : KeyStore)

/-- Why there is no key. -/
inductive KeyError
  /-- There are both a key and a store. -/
  | conflict
  /-- There is neither a key nor a store. -/
  | notConfigured (account : String)
  | store (cause : KeyStoreError)
  | invalidSeed (account : String) (cause : Nkey.Error)
  deriving DecidableEq, Repr

/-- The text of an error. -/
def KeyError.message : KeyError → String
  | .conflict => "signing_key and signing_key_store are mutually exclusive"
  | .notConfigured account => "no signing key configured for account " ++ account
  | .store cause => cause.message
  | .invalidSeed account cause =>
    "invalid signing key for account " ++ account ++ ": " ++ cause.message

/-- Finds the keys that sign. -/
structure KeyResolver where
  identity : Option SigningIdentity
  /-- The name of the auth account's key. -/
  issuer : String

namespace KeyResolver

/-- A resolver with a key or a store. -/
def new (key : Option Nkey.KeyPair) (store : Option KeyStore) (issuer : String) :
    Except KeyError KeyResolver :=
  match key, store with
  | some _, some _ => .error .conflict
  | some key, none => .ok ⟨some (.fixed key), issuer⟩
  | none, some store => .ok ⟨some (.store store), issuer⟩
  | none, none => .ok ⟨none, issuer⟩

/-- A resolver with one key, which is also the issuer. -/
def ofKey (key : Nkey.KeyPair) : KeyResolver := ⟨some (.fixed key), key.publicText⟩

/-- A resolver with a store. -/
def ofStore (store : KeyStore) (issuer : String) : KeyResolver := ⟨some (.store store), issuer⟩

/-- The key that signs for an account. -/
def resolve (keys : KeyResolver) (account : String) : Except KeyError Nkey.KeyPair :=
  match keys.identity with
  | some (.store store) => do
    let seed ← (store.seed account).mapError .store
    (Nkey.KeyPair.ofSeedText seed).mapError (.invalidSeed account)
  | some (.fixed key) => .ok key
  | none => .error (.notConfigured account)

/-- The key that signs the answers. -/
def resolveAuth (keys : KeyResolver) : Except KeyError Nkey.KeyPair := keys.resolve keys.issuer

/-- What may be shown of it in a log: no seeds. -/
def redacted (keys : KeyResolver) : String :=
  let identity := match keys.identity with
    | some (.fixed key) => "Some(Static(" ++ Text.quoted key.publicText ++ "))"
    | some (.store _) => "Some(Store)"
    | none => "None"
  "KeyResolver \x7b identity: " ++ identity ++ ", issuer: " ++ Text.quoted keys.issuer ++ " \x7d"

end KeyResolver

end CalloutHost
