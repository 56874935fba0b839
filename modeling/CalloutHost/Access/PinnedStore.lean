import CalloutHost.Claims.User
import CalloutHost.Dict
import CalloutHost.Nkey
import CalloutHost.Text.Quoted

/-!
# Pinned tokens

A pinned token is bound to one account and brings claims that were authorized before, so no policy
is asked. The store finds the account of a token and the token of an account, and what is bound
stays bound. New tokens are the texts of fresh user seeds.

Many callers share the store. A call has it to itself from its beginning to its end, with one
exception: `getOrCreate` looks for the token first, and a call that finds none lets others in before
it looks again and binds a fresh token. So what happens to a shared store (`SharedPins`) is a list
of steps, each of which has the store to itself.
-/

namespace CalloutHost

/-- Where fresh seeds come from. -/
structure SeedSupply where
  seeds : Nat → Bytes
  drawn : Nat

namespace SeedSupply

/-- The next seed. -/
def head (supply : SeedSupply) : Bytes := supply.seeds supply.drawn

/-- The supply without the next seed. -/
def tail (supply : SeedSupply) : SeedSupply := { supply with drawn := supply.drawn + 1 }

end SeedSupply

/-- Why a token is not bound. -/
inductive PinnedError
  | alreadyPinned (account : String)
  | tokenInUse
  | emptyToken
  deriving DecidableEq, Repr

/-- The text of an error. -/
def PinnedError.message : PinnedError → String
  | .alreadyPinned account => "account " ++ account ++ " already has a pinned token"
  | .tokenInUse => "token is already pinned to another account"
  | .emptyToken => "pinned token must not be empty"

/-- What may be shown of a pinned token in a log. -/
def redactedToken : String := "PinnedToken(" ++ Text.quoted "***" ++ ")"

/-- The tokens that are bound. -/
structure PinnedStore where
  /-- The account and the claims of each token. -/
  byToken : Dict (String × Claims User)
  byAccount : Dict String

namespace PinnedStore

/-- No token is bound. -/
def empty : PinnedStore := ⟨.empty, .empty⟩

/-- The account and the claims of a token. -/
def lookup (s : PinnedStore) (token : String) : Option (String × Claims User) :=
  if token = "" then none else s.byToken.get? token

/-- The token of an account. -/
def get? (s : PinnedStore) (account : String) : Option String := s.byAccount.get? account

/-- How many accounts have a token. -/
def size (s : PinnedStore) : Nat := s.byAccount.size

/-- The claims of a token that was bound without any: all the account offers, without limits. -/
def defaultClaims (account : String) : Claims User :=
  let fresh : Claims User := .new ""
  { fresh with registered := { fresh.registered with audience := account } }

/-- Binds a token to an account. -/
def bind (s : PinnedStore) (token account : String) (claims : Option (Claims User)) :
    PinnedStore where
  byToken := s.byToken.insert token (account, claims.getD (defaultClaims account))
  byAccount := s.byAccount.insert account token

/-- Binds a token that the caller chose. -/
def pin (s : PinnedStore) (token account : String) (claims : Option (Claims User)) :
    Except PinnedError String × PinnedStore :=
  if token = "" then (.error .emptyToken, s)
  else if s.byAccount.contains account then (.error (.alreadyPinned account), s)
  else if s.byToken.contains token then (.error .tokenInUse, s)
  else (.ok token, s.bind token account claims)

/-- The token that a fresh seed gives. -/
def mint (seed : Bytes) : String := Nkey.KeyPair.seedTextOf .user seed

/-- Binds a fresh token to an account that has none. -/
def add (s : PinnedStore) (seed : Bytes) (account : String) (claims : Option (Claims User)) :
    Except PinnedError String × PinnedStore :=
  if s.byAccount.contains account then (.error (.alreadyPinned account), s)
  else (.ok (mint seed), s.bind (mint seed) account claims)

/-- The token of an account, looked for once more, and a fresh one if there still is none. Nothing
comes between the look and the binding. -/
def settle (s : PinnedStore) (seed : Bytes) (account : String) : String × PinnedStore :=
  match s.get? account with
  | some token => (token, s)
  | none => (mint seed, s.bind (mint seed) account none)

/-- The token of an account, a fresh one if it has none. Other calls may come between the first look
and what follows it. -/
def getOrCreate (s : PinnedStore) (seed : Bytes) (account : String) : String × PinnedStore :=
  match s.get? account with
  | some token => (token, s)
  | none => s.settle seed account

/-- Whether `add` and `getOrCreate` take a seed for an account. -/
def needsSeed (s : PinnedStore) (account : String) : Bool := !s.byAccount.contains account

/-- The supply after `add` or `getOrCreate` for an account. -/
def supplyAfter (s : PinnedStore) (account : String) (supply : SeedSupply) : SeedSupply :=
  if s.needsSeed account then supply.tail else supply

end PinnedStore

/-! ## Calls side by side -/

/-- A call to the store of pinned tokens. -/
inductive PinnedCall
  | lookup (token : String)
  | get (account : String)
  | add (account : String) (claims : Option (Claims User))
  | pin (token account : String) (claims : Option (Claims User))
  /-- Asks for the token of an account, a fresh one if it has none. -/
  | getOrCreate (account : String)

/-- What a call answers. -/
abbrev PinnedCall.Answer : PinnedCall → Type
  | .lookup _ => Option (String × Claims User)
  | .get _ => Option String
  | .add _ _ => Except PinnedError String
  | .pin _ _ _ => Except PinnedError String
  | .getOrCreate _ => String

/-- A call that is over. -/
structure PinnedReply where
  call : PinnedCall
  answer : call.Answer

/-- Why a call was refused, if it was. -/
def PinnedReply.refusal? : PinnedReply → Option PinnedError
  | ⟨.add _ _, .error cause⟩ => some cause
  | ⟨.pin _ _ _, .error cause⟩ => some cause
  | _ => none

namespace PinnedStore

/-- Performs a call, nothing coming between. A fresh token, if one is needed, is made of the seed.
-/
def perform (s : PinnedStore) (seed : Bytes) : (c : PinnedCall) → c.Answer × PinnedStore
  | .lookup token => (s.lookup token, s)
  | .get account => (s.get? account, s)
  | .add account claims => s.add seed account claims
  | .pin token account claims => s.pin token account claims
  | .getOrCreate account => s.getOrCreate seed account

/-- The token that `add`, `getOrCreate` or `settle` makes for an account, if it makes one. -/
def minted (s : PinnedStore) (seed : Bytes) (account : String) : Option String :=
  if s.needsSeed account then some (mint seed) else none

end PinnedStore

/-- What happens next to a store that is shared. -/
inductive PinnedStep
  | call (c : PinnedCall) (seed : Bytes)
  /-- A call of `getOrCreate` begins: it looks for the token. -/
  | look (account : String)
  /-- The call of `getOrCreate` that waits at this place goes on: it looks again, and binds a fresh
  token if there still is none. -/
  | settle (place : Nat) (seed : Bytes)

/-- A store that is shared. -/
structure SharedPins where
  store : PinnedStore
  /-- The accounts of the calls of `getOrCreate` that have found no token and have to look again. -/
  waiting : List String

namespace SharedPins

/-- No token is bound and no call waits. -/
def new : SharedPins := ⟨.empty, []⟩

/-- A step, and the answer of the call that it ends, if it ends one. -/
def step (x : SharedPins) : PinnedStep → Option PinnedReply × SharedPins
  | .call c seed =>
    let (answer, store) := x.store.perform seed c
    (some ⟨c, answer⟩, { x with store })
  | .look account =>
    match x.store.get? account with
    | some token => (some ⟨.getOrCreate account, token⟩, x)
    | none => (none, { x with waiting := x.waiting ++ [account] })
  | .settle place seed =>
    match x.waiting[place]? with
    | some account =>
      let (token, store) := x.store.settle seed account
      (some ⟨.getOrCreate account, token⟩, ⟨store, x.waiting.eraseIdx place⟩)
    | none => (none, x)

/-- The token that a step makes, if it makes one. -/
def minted (x : SharedPins) : PinnedStep → Option String
  | .call (.add account _) seed => x.store.minted seed account
  | .call (.getOrCreate account) seed => x.store.minted seed account
  | .settle place seed => x.waiting[place]?.bind (x.store.minted seed)
  | _ => none

/-- The steps one after the other, and the answers of the calls that they end. -/
def run (x : SharedPins) : List PinnedStep → List PinnedReply × SharedPins
  | [] => ([], x)
  | e :: steps =>
    let (reply, y) := x.step e
    let (replies, z) := y.run steps
    (reply.toList ++ replies, z)

end SharedPins

end CalloutHost
