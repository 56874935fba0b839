import CalloutHost.Access.PinnedStore
import CalloutHost.Proofs.Access.Decisions
import CalloutHost.Proofs.Keys.Pairs

/-!
# Runs of a shared store of pinned tokens

`PinnedStore.Grows` says all that one step does to the store: nothing, or a token that was free is
bound to an account that had none (`SharedPins.step_grows`). So whatever is bound stays bound
(`PinnedStore.Keeps`), and tokens and accounts point at each other at every moment of a run
(`PinnedStore.TwoWay`, `SharedPins.run_twoWay`). The answer of a call is what the store says when
the call ends (`SharedPins.step_told`), and what it says then it says for the rest of the run.

`SharedPins.run_settled` puts this together for a run of any length, cut at any moment. It asks of
the seeds that are drawn on the way that no token made of them is bound already
(`SharedPins.FreshRun`).
-/

namespace CalloutHost

namespace PinnedStore

variable {s t u : PinnedStore} {token account : String} {claims : Option (Claims User)}
  {seed : Bytes}

/-! ## Two ways to look -/

/-- Tokens and accounts point at each other, and nothing is found under the empty token. -/
structure TwoWay (s : PinnedStore) : Prop where
  /-- An account has the token that is bound to it. -/
  inverse : ∀ account token,
    s.get? account = some token ↔ ∃ claims, s.byToken.get? token = some (account, claims)
  size_eq : s.byToken.size = s.size
  unbound : s.byToken.get? "" = none

theorem twoWay_empty : empty.TwoWay where
  inverse _ _ := ⟨nofun, fun ⟨_, h⟩ => nomatch h⟩
  size_eq := rfl
  unbound := rfl

/-- A token that is bound is looked up. -/
theorem TwoWay.lookup_eq (h : s.TwoWay) (token : String) :
    s.lookup token = s.byToken.get? token := by
  rw [lookup]
  split
  · next heq => rw [heq, h.unbound]
  · rfl

/-! ## What stays bound -/

/-- What is bound in one store is bound in the other. -/
structure Keeps (s t : PinnedStore) : Prop where
  get? : ∀ {account token}, s.get? account = some token → t.get? account = some token
  lookup : ∀ {token found}, s.lookup token = some found → t.lookup token = some found

theorem Keeps.refl (s : PinnedStore) : Keeps s s := ⟨id, id⟩

theorem Keeps.trans (hst : Keeps s t) (htu : Keeps t u) : Keeps s u :=
  ⟨fun h => htu.get? (hst.get? h), fun h => htu.lookup (hst.lookup h)⟩

/-! ## One token more -/

theorem get?_bind (s : PinnedStore) (token account other : String) (claims : Option (Claims User)) :
    (s.bind token account claims).get? other =
      if other = account then some token else s.get? other :=
  s.byAccount.get?_insert account other token

theorem byToken_bind (s : PinnedStore) (token account other : String)
    (claims : Option (Claims User)) :
    (s.bind token account claims).byToken.get? other =
      if other = token then some (account, claims.getD (defaultClaims account))
      else s.byToken.get? other :=
  s.byToken.get?_insert token other _

/-- All that a call can do to the store. -/
inductive Grows (s : PinnedStore) : PinnedStore → Prop
  | same : Grows s s
  /-- It binds a token that is free to an account that has none. -/
  | bound {token account : String} (claims : Option (Claims User)) (named : token ≠ "")
      (free : s.byToken.get? token = none) (first : s.get? account = none) :
      Grows s (s.bind token account claims)

theorem Grows.keeps (h : Grows s t) : Keeps s t := by
  cases h with
  | same => exact .refl s
  | @bound token account claims named free first =>
    constructor
    · intro other found hfound
      rw [get?_bind, if_neg, hfound]
      rintro rfl
      rw [first] at hfound
      cases hfound
    · intro other found hfound
      obtain ⟨hother, hfound⟩ := lookup_eq_some_iff.1 hfound
      refine lookup_eq_some_iff.2 ⟨hother, ?_⟩
      rw [byToken_bind, if_neg, hfound]
      rintro rfl
      rw [free] at hfound
      cases hfound

theorem Grows.twoWay (h : Grows s t) (hs : s.TwoWay) : t.TwoWay := by
  cases h with
  | same => exact hs
  | @bound token account claims named free first =>
    refine ⟨fun other found => ?_, ?_, ?_⟩
    · rw [get?_bind, byToken_bind]
      by_cases hother : other = account
      · subst hother
        by_cases hfound : found = token
        · simp [hfound]
        · -- The account had no token before, so no other token points at it.
          have hnone : ¬∃ claims, s.byToken.get? found = some (other, claims) := fun hex => by
            have := (hs.inverse other found).2 hex
            rw [first] at this
            cases this
          simpa [hfound, Ne.symm hfound] using hnone
      · by_cases hfound : found = token
        · -- The token was free before, so no other account has it.
          have hnone : s.get? other ≠ some found := fun hsome => by
            obtain ⟨_, hclaims⟩ := (hs.inverse other found).1 hsome
            rw [hfound, free] at hclaims
            cases hclaims
          simpa [hother, hfound, Ne.symm hother] using hfound ▸ hnone
        · simpa [hother, hfound] using hs.inverse other found
    · calc (s.bind token account claims).byToken.size
        _ = s.byToken.size + 1 := Dict.size_insert free _
        _ = s.byAccount.size + 1 := by rw [hs.size_eq, size]
        _ = (s.bind token account claims).size := (Dict.size_insert first _).symm
    · rw [byToken_bind, if_neg named.symm, hs.unbound]

/-! ## What the calls do -/

theorem contains_eq_false_iff : s.byAccount.contains account = false ↔ s.get? account = none := by
  rw [Dict.contains_eq_isSome, get?, Option.isSome_eq_false_iff, Option.isNone_iff_eq_none]

theorem needsSeed_iff : s.needsSeed account = true ↔ s.get? account = none := by
  rw [needsSeed, Bool.not_eq_true', contains_eq_false_iff]

theorem minted_eq_some_iff {made : String} :
    s.minted seed account = some made ↔ s.get? account = none ∧ mint seed = made := by
  rw [minted, Option.ite_none_right_eq_some, needsSeed_iff, Option.some_inj]

/-- The token of a fresh seed is not empty. -/
theorem mint_ne_empty (seed : Bytes) : mint seed ≠ "" := fun h => by
  have hsize := congrArg String.utf8ByteSize h
  rw [mint, Nkey.KeyPair.seedTextOf, Nkey.utf8ByteSize_armour, String.utf8ByteSize_empty] at hsize
  omega

/-- A chosen token is refused by one of the checks, before anything is bound, or passes them all and
is bound. -/
theorem pin_cases (s : PinnedStore) (token account : String) (claims : Option (Claims User)) :
    (∃ cause, s.pin token account claims = (.error cause, s)) ∨
    s.pin token account claims = (.ok token, s.bind token account claims) ∧
      token ≠ "" ∧ s.get? account = none ∧ s.byToken.get? token = none := by
  by_cases htoken : token = ""
  · exact .inl ⟨_, by rw [pin, if_pos htoken]⟩
  cases haccount : s.byAccount.contains account with
  | true => exact .inl ⟨_, by rw [pin, if_neg htoken, if_pos haccount]⟩
  | false =>
    have hopen : ¬s.byAccount.contains account = true := Bool.eq_false_iff.1 haccount
    cases hbound : s.byToken.contains token with
    | true => exact .inl ⟨_, by rw [pin, if_neg htoken, if_neg hopen, if_pos hbound]⟩
    | false =>
      refine .inr ⟨?_, htoken, contains_eq_false_iff.1 haccount, ?_⟩
      · rw [pin, if_neg htoken, if_neg hopen, if_neg (Bool.eq_false_iff.1 hbound)]
      · rwa [Dict.contains_eq_isSome, Option.isSome_eq_false_iff, Option.isNone_iff_eq_none]
          at hbound

/-- A fresh token is refused before anything is bound, or is bound. -/
theorem add_cases (s : PinnedStore) (seed : Bytes) (account : String)
    (claims : Option (Claims User)) :
    (∃ cause, s.add seed account claims = (.error cause, s)) ∨
    s.add seed account claims = (.ok (mint seed), s.bind (mint seed) account claims) ∧
      s.get? account = none := by
  cases haccount : s.byAccount.contains account with
  | true => exact .inl ⟨_, by rw [add, if_pos haccount]⟩
  | false =>
    refine .inr ⟨?_, contains_eq_false_iff.1 haccount⟩
    rw [add, if_neg (Bool.eq_false_iff.1 haccount)]

/-- A token that was bound under a name is looked up with what it was bound to. -/
theorem lookup_bind (s : PinnedStore) (named : token ≠ "") :
    (s.bind token account claims).lookup token =
      some (account, claims.getD (defaultClaims account)) :=
  lookup_eq_some_iff.2 ⟨named, (byToken_bind ..).trans (if_pos rfl)⟩

theorem getOrCreate_eq_settle (s : PinnedStore) (seed : Bytes) (account : String) :
    s.getOrCreate seed account = s.settle seed account := by
  rw [getOrCreate, settle]
  split <;> rfl

/-- Whoever settles has the token that the store has from then on. -/
theorem get?_settle (s : PinnedStore) (seed : Bytes) (account : String) :
    (s.settle seed account).2.get? account = some (s.settle seed account).1 := by
  rw [settle]
  split
  · assumption
  · rw [get?_bind, if_pos rfl]

theorem settle_grows (h : ∀ made, s.minted seed account = some made → s.byToken.get? made = none) :
    Grows s (s.settle seed account).2 := by
  rw [settle]
  split
  · exact .same
  · next hnone =>
    have hfree := h _ (minted_eq_some_iff.2 ⟨hnone, rfl⟩)
    exact .bound none (mint_ne_empty seed) hfree hnone

/-- What was bound before stays bound, even if the fresh token is not free now, as long as it was
free then. -/
theorem Keeps.settle (h : Keeps s t) (hfree : s.byToken.get? (mint seed) = none)
    (account : String) : Keeps s (t.settle seed account).2 := by
  rw [PinnedStore.settle]
  split
  · exact h
  · next hnone =>
    constructor
    · intro other found hfound
      rw [get?_bind, if_neg, h.get? hfound]
      rintro rfl
      rw [h.get? hfound] at hnone
      cases hnone
    · intro other found hfound
      obtain ⟨hother, hlater⟩ := lookup_eq_some_iff.1 (h.lookup hfound)
      refine lookup_eq_some_iff.2 ⟨hother, ?_⟩
      rw [byToken_bind, if_neg, hlater]
      rintro rfl
      rw [(lookup_eq_some_iff.1 hfound).2] at hfree
      cases hfree

end PinnedStore

/-! ## Answers -/

open PinnedStore (Grows Keeps TwoWay)

/-- The token that a call was told to be bound is bound in the store, for `add` and `pin` with the
claims that were given to the call. -/
def PinnedReply.HeldBy (s : PinnedStore) : PinnedReply → Prop
  | ⟨.add account claims, .ok token⟩ => s.get? account = some token ∧
    s.lookup token = some (account, claims.getD (PinnedStore.defaultClaims account))
  | ⟨.pin chosen account claims, .ok token⟩ => token = chosen ∧ s.get? account = some token ∧
    s.lookup token = some (account, claims.getD (PinnedStore.defaultClaims account))
  | ⟨.getOrCreate account, token⟩ => s.get? account = some token
  | _ => True

/-- The answer of a call is what the store says. -/
def PinnedReply.ToldBy (s : PinnedStore) : PinnedReply → Prop
  | ⟨.lookup token, answer⟩ => answer = s.lookup token
  | ⟨.get account, answer⟩ => answer = s.get? account
  | reply => reply.HeldBy s

namespace PinnedReply

variable {s t : PinnedStore} {reply : PinnedReply}

theorem ToldBy.held (h : reply.ToldBy s) : reply.HeldBy s := by
  obtain ⟨call, answer⟩ := reply
  cases call with
  | lookup token => trivial
  | get account => trivial
  | add account claims => exact h
  | pin chosen account claims => exact h
  | getOrCreate account => exact h

/-- What was bound stays bound. -/
theorem HeldBy.mono (h : reply.HeldBy s) (hkeeps : Keeps s t) : reply.HeldBy t := by
  obtain ⟨call, answer⟩ := reply
  cases call with
  | lookup token => trivial
  | get account => trivial
  | add account claims =>
    cases answer with
    | error cause => trivial
    | ok token => exact ⟨hkeeps.get? h.1, hkeeps.lookup h.2⟩
  | pin chosen account claims =>
    cases answer with
    | error cause => trivial
    | ok token => exact ⟨h.1, hkeeps.get? h.2.1, hkeeps.lookup h.2.2⟩
  | getOrCreate account => exact hkeeps.get? h

end PinnedReply

namespace SharedPins

variable {x y : SharedPins} {e : PinnedStep} {steps : List PinnedStep} {reply : PinnedReply}

/-! ## One step -/

/-- The token that the step makes, if it makes one, is not bound. -/
def Fresh (x : SharedPins) (e : PinnedStep) : Prop :=
  ∀ made, x.minted e = some made → x.store.byToken.get? made = none

theorem step_grows (h : x.Fresh e) : Grows x.store (x.step e).2.store := by
  cases e with
  | call c seed =>
    cases c with
    | lookup token => exact .same
    | get account => exact .same
    | add account claims =>
      obtain ⟨cause, hadd⟩ | ⟨hadd, hnone⟩ := x.store.add_cases seed account claims
      · rw [step, PinnedStore.perform, hadd]
        exact .same
      · rw [step, PinnedStore.perform, hadd]
        exact .bound claims (PinnedStore.mint_ne_empty seed)
          (h _ (PinnedStore.minted_eq_some_iff.2 ⟨hnone, rfl⟩)) hnone
    | pin token account claims =>
      obtain ⟨cause, hpin⟩ | ⟨hpin, hnamed, hnone, hfree⟩ := x.store.pin_cases token account claims
      · rw [step, PinnedStore.perform, hpin]
        exact .same
      · rw [step, PinnedStore.perform, hpin]
        exact .bound claims hnamed hfree hnone
    | getOrCreate account =>
      simp only [step, PinnedStore.perform, PinnedStore.getOrCreate_eq_settle]
      exact PinnedStore.settle_grows h
  | look account =>
    rw [step]
    split <;> exact .same
  | settle place seed =>
    rw [step]
    split
    · next account hplace =>
      refine PinnedStore.settle_grows fun made hmade => h made ?_
      rw [minted, hplace]
      exact hmade
    · exact .same

/-- A call answers what the store says when the call is over. -/
theorem step_told (h : (x.step e).1 = some reply) : reply.ToldBy (x.step e).2.store := by
  cases e with
  | call c seed =>
    obtain rfl := Option.some.inj h
    cases c with
    | lookup token => rfl
    | get account => rfl
    | add account claims =>
      obtain ⟨cause, hadd⟩ | ⟨hadd, -⟩ := x.store.add_cases seed account claims
      · simp only [step, PinnedStore.perform, hadd]
        trivial
      · simp only [step, PinnedStore.perform, hadd]
        exact ⟨(PinnedStore.get?_bind ..).trans (if_pos rfl),
          x.store.lookup_bind (PinnedStore.mint_ne_empty seed)⟩
    | pin token account claims =>
      obtain ⟨cause, hpin⟩ | ⟨hpin, hnamed, -⟩ := x.store.pin_cases token account claims
      · simp only [step, PinnedStore.perform, hpin]
        trivial
      · simp only [step, PinnedStore.perform, hpin]
        exact ⟨rfl, (PinnedStore.get?_bind ..).trans (if_pos rfl), x.store.lookup_bind hnamed⟩
    | getOrCreate account =>
      simp only [step, PinnedStore.perform, PinnedStore.getOrCreate_eq_settle]
      exact PinnedStore.get?_settle ..
  | look account =>
    rw [step] at h ⊢
    split at h
    · next token hfound =>
      obtain rfl := Option.some.inj h
      exact hfound
    · cases h
  | settle place seed =>
    rw [step] at h ⊢
    split at h
    · next account hplace =>
      obtain rfl := Option.some.inj h
      exact PinnedStore.get?_settle ..
    · cases h

/-- A call that is refused changes nothing. -/
theorem step_refused {cause : PinnedError} (h : (x.step e).1 = some reply)
    (hcause : reply.refusal? = some cause) : (x.step e).2 = x := by
  cases e with
  | call c seed =>
    obtain rfl := Option.some.inj h
    cases c with
    | lookup token => rfl
    | get account => rfl
    | add account claims =>
      obtain ⟨refused, hadd⟩ | ⟨hadd, -⟩ := x.store.add_cases seed account claims
      · simp only [step, PinnedStore.perform, hadd]
      · simp only [hadd] at hcause
        cases hcause
    | pin token account claims =>
      obtain ⟨refused, hpin⟩ | ⟨hpin, -⟩ := x.store.pin_cases token account claims
      · simp only [step, PinnedStore.perform, hpin]
      · simp only [hpin] at hcause
        cases hcause
    | getOrCreate account => cases hcause
  | look account =>
    rw [step] at h ⊢
    split at h
    · rfl
    · cases h
  | settle place seed =>
    rw [step] at h
    split at h
    · obtain rfl := Option.some.inj h
      cases hcause
    · cases h

/-! ## Runs -/

/-- No token that is made on the way is bound already. -/
def FreshRun (x : SharedPins) : List PinnedStep → Prop
  | [] => True
  | e :: steps => x.Fresh e ∧ (x.step e).2.FreshRun steps

theorem run_append (x : SharedPins) (before after : List PinnedStep) :
    x.run (before ++ after) =
      ((x.run before).1 ++ ((x.run before).2.run after).1, ((x.run before).2.run after).2) := by
  induction before generalizing x with
  | nil => rfl
  | cons e before ih => simp only [List.cons_append, run, ih, List.append_assoc]

theorem freshRun_append {before after : List PinnedStep} :
    x.FreshRun (before ++ after) ↔ x.FreshRun before ∧ (x.run before).2.FreshRun after := by
  induction before generalizing x with
  | nil => simp only [List.nil_append, FreshRun, run, true_and]
  | cons e before ih =>
    rw [List.cons_append, FreshRun, FreshRun, ih, and_assoc]
    rfl

/-- What is bound stays bound to the end of a run. -/
theorem run_keeps (h : x.FreshRun steps) : Keeps x.store (x.run steps).2.store := by
  induction steps generalizing x with
  | nil => exact .refl _
  | cons e steps ih => exact (step_grows h.1).keeps.trans (ih h.2)

/-- Tokens and accounts still point at each other after a run. -/
theorem run_twoWay (h : x.FreshRun steps) (hx : x.store.TwoWay) : (x.run steps).2.store.TwoWay := by
  induction steps generalizing x with
  | nil => exact hx
  | cons e steps ih => exact ih h.2 ((step_grows h.1).twoWay hx)

/-- Every answer of a run is what the store said at some moment of the run. -/
theorem told_of_mem_run (h : x.FreshRun steps) (hreply : reply ∈ (x.run steps).1) :
    ∃ s, Keeps x.store s ∧ Keeps s (x.run steps).2.store ∧ reply.ToldBy s := by
  induction steps generalizing x with
  | nil => cases hreply
  | cons e steps ih =>
    have hstep := (step_grows h.1).keeps
    rcases List.mem_append.1 hreply with hnow | hlater
    · exact ⟨_, hstep, run_keeps h.2, step_told (Option.mem_toList.1 hnow)⟩
    · obtain ⟨s, hfrom, hto, htold⟩ := ih h.2 hlater
      exact ⟨s, hstep.trans hfrom, hto, htold⟩

/-- Calls of `getOrCreate` for one account give one token, whatever comes between. -/
theorem getOrCreate_agree {account first second : String} (h : x.FreshRun steps)
    (hfirst : ⟨.getOrCreate account, first⟩ ∈ (x.run steps).1)
    (hsecond : ⟨.getOrCreate account, second⟩ ∈ (x.run steps).1) : first = second := by
  obtain ⟨s, -, hs, hsome⟩ := told_of_mem_run h hfirst
  obtain ⟨t, -, ht, tsome⟩ := told_of_mem_run h hsecond
  exact Option.some.inj ((hs.get? hsome).symm.trans (ht.get? tsome))

/-- From an empty store on, and at every moment of every run: tokens and accounts point at each
other, the token and the claims that an account has now it is told for the rest of the run, calls of
`getOrCreate` for one account give one token, a call that is refused changes nothing, and whatever
was bound by a call before is bound now, to the account and with the claims of that call. -/
theorem run_settled (before after : List PinnedStep) (hfresh : new.FreshRun (before ++ after)) :
    let now := (new.run before).2
    let past := (new.run before).1
    let future := (now.run after).1
    now.store.TwoWay ∧
    (∀ account token, now.store.get? account = some token →
      ∃ claims, now.store.lookup token = some (account, claims) ∧
        (∀ answer, ⟨.get account, answer⟩ ∈ future → answer = some token) ∧
        (∀ answer, ⟨.getOrCreate account, answer⟩ ∈ future → answer = token) ∧
        (∀ answer, ⟨.lookup token, answer⟩ ∈ future → answer = some (account, claims))) ∧
    (∀ account first second, ⟨.getOrCreate account, first⟩ ∈ past ++ future →
      ⟨.getOrCreate account, second⟩ ∈ past ++ future → first = second) ∧
    (∀ e reply cause, (now.step e).1 = some reply → reply.refusal? = some cause →
      (now.step e).2 = now) ∧
    ∀ reply ∈ past, reply.HeldBy now.store := by
  intro now past future
  obtain ⟨hbefore, hafter⟩ := freshRun_append.1 hfresh
  have hnow : now.store.TwoWay := run_twoWay hbefore PinnedStore.twoWay_empty
  refine ⟨hnow, fun account token hhas => ?_, fun account first second hfirst hsecond => ?_,
    fun e reply cause => step_refused, fun reply hmem => ?_⟩
  · obtain ⟨claims, hclaims⟩ := (hnow.inverse account token).1 hhas
    rw [← hnow.lookup_eq] at hclaims
    refine ⟨claims, hclaims, fun answer hmem => ?_, fun answer hmem => ?_, fun answer hmem => ?_⟩
    · obtain ⟨s, hs, -, htold⟩ := told_of_mem_run hafter hmem
      exact htold.trans (hs.get? hhas)
    · obtain ⟨s, hs, -, htold⟩ := told_of_mem_run hafter hmem
      exact Option.some.inj (htold.symm.trans (hs.get? hhas))
    · obtain ⟨s, hs, -, htold⟩ := told_of_mem_run hafter hmem
      exact htold.trans (hs.lookup hclaims)
  · have hall : (new.run (before ++ after)).1 = past ++ future := by rw [run_append]
    rw [← hall] at hfirst hsecond
    exact getOrCreate_agree hfresh hfirst hsecond
  · obtain ⟨s, -, hs, htold⟩ := told_of_mem_run hbefore hmem
    exact htold.held.mono hs

/-- Two calls find no token for `A`, and `B` is pinned before they go on: the first mints a token,
which both answer, and a third call that mints for `C` does not change it. The token of `B` is the
one that was pinned. -/
theorem run_settled_race :
    let race : List PinnedStep := [.look "A", .look "A", .call (.pin "t" "B" none) [],
      .settle 0 (List.replicate 32 1), .settle 0 (List.replicate 32 2)]
    let after : List PinnedStep := [.call (.getOrCreate "C") (List.replicate 32 3),
      .call (.getOrCreate "A") (List.replicate 32 4)]
    let now := (new.run race).2
    new.FreshRun (race ++ after) ∧
      now.store.get? "A" = some (PinnedStore.mint (List.replicate 32 1)) ∧
      (∀ answer, ⟨.getOrCreate "A", answer⟩ ∈ (now.run after).1 →
        answer = PinnedStore.mint (List.replicate 32 1)) ∧
      now.store.get? "B" = some "t" ∧
      now.store.lookup "t" = some ("B", PinnedStore.defaultClaims "B") := by
  intro race after now
  have hnow : now.store.get? "A" = some (PinnedStore.mint (List.replicate 32 1)) := rfl
  have hfresh : new.FreshRun (race ++ after) := by
    refine ⟨nofun, nofun, nofun, ?_, nofun, ?_, nofun, trivial⟩
    · intro made hmade
      obtain rfl : PinnedStore.mint (List.replicate 32 1) = made := Option.some.inj hmade
      decide +kernel
    · intro made hmade
      obtain rfl : PinnedStore.mint (List.replicate 32 3) = made := Option.some.inj hmade
      decide +kernel
  obtain ⟨-, hstable, -, -, hheld⟩ := run_settled race after hfresh
  obtain ⟨_, -, -, hanswers, -⟩ := hstable "A" _ hnow
  have hpinned : ⟨.pin "t" "B" none, .ok "t"⟩ ∈ (new.run race).1 := List.mem_cons_self ..
  exact ⟨hfresh, hnow, hanswers, (hheld _ hpinned).2⟩

end SharedPins

end CalloutHost
