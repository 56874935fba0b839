import CalloutHost.Proofs.Access.Decisions
import CalloutHost.Proofs.Access.Templates

/-!
# The first policy that does not pass

Policies that pass may stand in front of others without any effect
(`Policy.evaluate_append_of_passes`), and those behind one that does not pass are never asked
(`Policy.evaluate_append_of_not_passes`). So claims are issued through a policy that allows, all in
front of it having passed, and nothing but this policy and the request is in them
(`Policy.first_decides`): what the template leaves unset is as in fresh claims
(`UserTemplate.Keeps`).
-/

namespace CalloutHost

namespace Policy

variable {request : Claims AuthRequest} {policies p : List Policy} {policy : Policy}

/-! ## Lists one behind the other -/

/-- None of the policies decides or fails. -/
def Pass (policies : List Policy) : Prop := ∀ policy ∈ policies, policy.vote = .passes

/-- Only a policy that abstains passes. -/
theorem vote_eq_passes_iff : policy.vote = .passes ↔ policy = .abstain := by
  cases policy <;> simp [vote]

theorem first_eq_none_iff : first policies = none ↔ Pass policies := by
  simp [first, Pass]

theorem first_eq_some_iff :
    first policies = some policy ↔ ∃ before after,
      policies = before ++ policy :: after ∧ Pass before ∧ policy.vote ≠ .passes := by
  rw [first, List.find?_eq_some_iff_append]
  simp only [Pass, decide_eq_true_eq, ne_eq, Bool.not_eq_true', decide_eq_false_iff_not,
    Decidable.not_not]
  constructor
  · rintro ⟨hvote, before, after, hsplit, hpass⟩
    exact ⟨before, after, hsplit, hpass, hvote⟩
  · rintro ⟨before, after, hsplit, hpass, hvote⟩
    exact ⟨hvote, before, after, hsplit, hpass⟩

/-- Policies that pass leave it to those behind them. -/
theorem evaluate_append_of_passes (h : Pass p) (q : List Policy) :
    evaluate request (p ++ q) = evaluate request q := by
  have hfirst : first (p ++ q) = first q := by
    rw [first, List.find?_append, ← first, ← first, first_eq_none_iff.2 h, Option.none_or]
  rw [evaluate_eq, evaluate_eq, hfirst]

/-- Behind a policy that does not pass none is asked. -/
theorem evaluate_append_of_not_passes (h : ∃ policy ∈ p, policy.vote ≠ .passes)
    (q : List Policy) : evaluate request (p ++ q) = evaluate request p := by
  have hfirst : first (p ++ q) = first p := by
    obtain ⟨policy, hmem, hvote⟩ := h
    rw [first, List.find?_append, ← first, ← first]
    cases hp : first p with
    | none => exact absurd (first_eq_none_iff.1 hp policy hmem) hvote
    | some found => rfl
  rw [evaluate_eq, evaluate_eq, hfirst]

/-- A policy that decides does so for all behind it. -/
theorem evaluate_append_cons {before : List Policy} (h : Pass before)
    (hvote : policy.vote = .decides) (after : List Policy) :
    evaluate request (before ++ policy :: after) = policy.decide request := by
  rw [evaluate_append_of_passes h, evaluate, hvote]

/-! ## What is issued -/

/-- Claims as a policy that allows issues them: fresh claims for the user of the request and the
expanded account, in which only the template sets anything. -/
structure Issued (account : String) (template : Option UserTemplate) (request : Claims AuthRequest)
    (user : Claims User) : Prop where
  /-- The claims are for the user of the request and for the account; nothing else is claimed. -/
  registered : user.registered = { Registered.empty with
    subject := request.body.userKey, audience := Placeholder.expand request.body true account }
  named : user.registered.audience ≠ ""
  type : user.body.descriptor.type = "user"
  /-- What the template leaves unset is as in fresh claims. -/
  unset : (template.getD .empty).Keeps
    { User.blank with descriptor := ⟨[], "user", Descriptor.currentVersion⟩ } user.body

theorem issue_eq (template : Option UserTemplate) (request : Claims AuthRequest) :
    issue template request =
      (template.getD .empty).render request (.new request.body.userKey) := by
  cases template <;> rfl

theorem issued_of_decide {account : String} {template : Option UserTemplate} {user : Claims User}
    (h : decide request (.allow account template) = .ok user) :
    Issued account template request user := by
  simp only [decide] at h
  split at h
  · cases h
  next hnamed =>
  cases h
  rw [issue_eq]
  exact ⟨rfl, hnamed, rfl, UserTemplate.keeps_apply _ _ _⟩

/-- Only a policy that abstains passes. Of two lists of policies one behind the other, the first
decides unless all in it pass. A policy that denies and one that fails end the search, whatever
stands behind them. Claims are issued exactly if the first policy that does not pass allows and
issues them, and then they are made of this policy and the request alone. -/
theorem first_decides (p q : List Policy) (request : Claims AuthRequest) :
    (∀ policy : Policy, policy.vote = .passes ↔ policy = .abstain) ∧
    ((∃ policy ∈ p, policy.vote ≠ .passes) →
      evaluate request (p ++ q) = evaluate request p) ∧
    (Pass p → evaluate request (p ++ q) = evaluate request q) ∧
    (Pass p → ∀ reason, evaluate request (p ++ .faulty reason :: q) = .error .noMatch) ∧
    (Pass p → ∀ denial : Denial,
      evaluate request (p ++ .deny denial :: q) = .error (.denied denial.text)) ∧
    (∀ user, evaluate request p = .ok user ↔ ∃ before account template after,
      p = before ++ .allow account template :: after ∧ Pass before ∧
        decide request (.allow account template) = .ok user) ∧
    (∀ account template user, decide request (.allow account template) = .ok user →
      Issued account template request user) := by
  refine ⟨fun _ => vote_eq_passes_iff, fun h => evaluate_append_of_not_passes h q,
    fun h => evaluate_append_of_passes h q, ?_, ?_, ?_, fun _ _ _ => issued_of_decide⟩
  · intro h reason
    rw [evaluate_append_of_passes h]
    rfl
  · intro h denial
    rw [evaluate_append_cons h rfl]
    rfl
  · intro user
    constructor
    · intro h
      obtain ⟨account, template, hfirst, -, -⟩ := evaluate_eq_ok_iff.1 h
      obtain ⟨before, after, rfl, hpass, -⟩ := first_eq_some_iff.1 hfirst
      exact ⟨before, account, template, after, rfl, hpass,
        (evaluate_append_cons hpass rfl after).symm.trans h⟩
    · rintro ⟨before, account, template, after, rfl, hpass, hdecide⟩
      rw [evaluate_append_cons hpass rfl after, hdecide]

/-- A policy that fails is not passed over for one that allows, though one that abstains is. -/
theorem first_decides_faulty :
    let request : Claims AuthRequest := .new "U"
    Pass [.abstain] ∧
      (evaluate request ([.abstain] ++ [.allow "APP" none])).isOk = true ∧
        evaluate request ([.abstain] ++ .faulty "down" :: [.allow "APP" none]) =
          .error .noMatch := by
  intro request
  have hpass : Pass [.abstain] := by simp [Pass, vote]
  obtain ⟨-, -, hpasses, hfaulty, -⟩ := first_decides [.abstain] [.allow "APP" none] request
  refine ⟨hpass, ?_, hfaulty hpass "down"⟩
  rw [hpasses hpass]
  decide +kernel

end Policy

end CalloutHost
