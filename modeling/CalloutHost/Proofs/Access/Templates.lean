import CalloutHost.Access.Template
import Mathlib.Data.List.Forall2

/-!
# What a template writes

Rendering a template is told apart from everything else by two things: what the template leaves
unset, and what no template can set, is as it was (`UserTemplate.Keeps`), and what it sets holds
what the template says, text by text expanded (`UserTemplate.Holds`). Both together leave no choice
(`UserTemplate.eq_apply_of_keeps`), so the laws of rendering follow from them without another look
at the fields: a template absorbs those that set nothing else, itself among them, and no others
(`UserTemplate.render_determined`).
-/

namespace CalloutHost.UserTemplate

/-- What a template leaves unset, and what no template can set, is the same in two users. -/
structure Keeps (t : UserTemplate) (before after : User) : Prop where
  publish : t.publish = none → after.permissions.publish = before.permissions.publish
  subscribe : t.subscribe = none → after.permissions.subscribe = before.permissions.subscribe
  reply : t.reply = none → after.permissions.reply = before.permissions.reply
  sources : t.sources = none → after.limits.sources = before.limits.sources
  times : after.limits.times = before.limits.times
  timeZone : t.timeZone = none → after.limits.timeZone = before.limits.timeZone
  subscriptions : t.subscriptions = none → after.limits.subscriptions = before.limits.subscriptions
  data : t.data = none → after.limits.data = before.limits.data
  payload : t.payload = none → after.limits.payload = before.limits.payload
  bearer : t.bearer = false → after.bearer = before.bearer
  connectionTypes : t.connectionTypes = none → after.connectionTypes = before.connectionTypes
  issuerAccount : after.issuerAccount = before.issuerAccount
  descriptor : after.descriptor = before.descriptor

theorem keeps_apply (t : UserTemplate) (request : AuthRequest) (u : User) :
    t.Keeps u (t.apply request u) where
  publish h := by simp [apply, applyPermissions, h]
  subscribe h := by simp [apply, applyPermissions, h]
  reply h := by simp [apply, applyPermissions, h]
  sources h := by simp [apply, applyLimits, h]
  times := rfl
  timeZone h := by simp [apply, applyLimits, h]
  subscriptions h := by simp [apply, applyLimits, h]
  data h := by simp [apply, applyLimits, h]
  payload h := by simp [apply, applyLimits, h]
  bearer h := by simp [apply, h]
  connectionTypes h := by simp [apply, h]
  issuerAccount := rfl
  descriptor := rfl

/-! ## What is set -/

/-- Of as many texts, in the same order, each is the expanded one. -/
def Expands (request : AuthRequest) (texts expanded : List String) : Prop :=
  List.Forall₂ (fun text result => result = Placeholder.expand request false text) texts expanded

/-- Both lists of a rule are expanded, each in its place. -/
structure RuleExpands (request : AuthRequest) (rule expanded : SubjectRule) : Prop where
  allow : Expands request rule.allow expanded.allow
  deny : Expands request rule.deny expanded.deny

theorem expands_iff {request : AuthRequest} {texts expanded : List String} :
    Expands request texts expanded ↔ expanded = expandAll request texts := by
  constructor
  · intro h
    induction h with
    | nil => rfl
    | cons hhead _ ih => rw [hhead, ih]; rfl
  · rintro rfl
    induction texts with
    | nil => exact .nil
    | cons text texts ih => exact .cons rfl ih

theorem ruleExpands_iff {request : AuthRequest} {rule expanded : SubjectRule} :
    RuleExpands request rule expanded ↔ expanded = expandRule request rule := by
  constructor
  · rintro ⟨hallow, hdeny⟩
    rw [expandRule, ← expands_iff.1 hallow, ← expands_iff.1 hdeny]
  · rintro rfl
    exact ⟨expands_iff.2 rfl, expands_iff.2 rfl⟩

/-- What a template sets holds what the template says: texts expanded for the request, numbers and
the rule for replies as they are. -/
structure Holds (t : UserTemplate) (request : AuthRequest) (after : User) : Prop where
  publish : ∀ rule, t.publish = some rule → RuleExpands request rule after.permissions.publish
  subscribe : ∀ rule, t.subscribe = some rule →
    RuleExpands request rule after.permissions.subscribe
  reply : ∀ rule, t.reply = some rule → after.permissions.reply = some rule
  sources : ∀ texts, t.sources = some texts → Expands request texts after.limits.sources
  timeZone : ∀ text, t.timeZone = some text →
    after.limits.timeZone = Placeholder.expand request false text
  subscriptions : ∀ n, t.subscriptions = some n → after.limits.subscriptions = n
  data : ∀ n, t.data = some n → after.limits.data = n
  payload : ∀ n, t.payload = some n → after.limits.payload = n
  bearer : t.bearer = true → after.bearer = true
  connectionTypes : ∀ texts, t.connectionTypes = some texts →
    Expands request texts after.connectionTypes

theorem holds_apply (t : UserTemplate) (request : AuthRequest) (u : User) :
    t.Holds request (t.apply request u) where
  publish rule h := ruleExpands_iff.2 (by simp [apply, applyPermissions, h])
  subscribe rule h := ruleExpands_iff.2 (by simp [apply, applyPermissions, h])
  reply rule h := by simp [apply, applyPermissions, h]
  sources texts h := expands_iff.2 (by simp [apply, applyLimits, h])
  timeZone text h := by simp [apply, applyLimits, h]
  subscriptions n h := by simp [apply, applyLimits, h]
  data n h := by simp [apply, applyLimits, h]
  payload n h := by simp [apply, applyLimits, h]
  bearer h := by simp [apply, h]
  connectionTypes texts h := expands_iff.2 (by simp [apply, h])

variable {t first : UserTemplate} {request : AuthRequest} {u v w : User}

/-- A field that is kept where nothing is set, and holds what is set, is what is set or what it
was. -/
theorem eq_getD {α : Type} {set : Option α} {before after : α}
    (hkeeps : set = none → after = before) (hholds : ∀ a, set = some a → after = a) :
    after = set.getD before := by
  cases set with
  | none => exact hkeeps rfl
  | some a => exact hholds a rfl

/-- `eq_getD` of a field that holds what is set in another form. -/
theorem eq_map_getD {α β : Type} {set : Option α} {form : α → β} {before after : β}
    (hkeeps : set = none → after = before) (hholds : ∀ a, set = some a → after = form a) :
    after = (set.map form).getD before := by
  refine eq_getD (fun h => hkeeps (Option.map_eq_none_iff.1 h)) fun b h => ?_
  obtain ⟨a, ha, rfl⟩ := Option.map_eq_some_iff.1 h
  exact hholds a ha

/-- What is kept and what is set make the whole user. -/
theorem eq_apply_of_keeps (hkeeps : t.Keeps u v) (hholds : t.Holds request v) :
    v = t.apply request u := by
  have hpublish := eq_map_getD hkeeps.publish fun a h => ruleExpands_iff.1 (hholds.publish a h)
  have hsubscribe := eq_map_getD hkeeps.subscribe
    fun a h => ruleExpands_iff.1 (hholds.subscribe a h)
  have hreply : v.permissions.reply = (t.reply <|> u.permissions.reply) := by
    cases hset : t.reply with
    | none => exact hkeeps.reply hset
    | some rule => exact hholds.reply rule hset
  have hsources := eq_map_getD hkeeps.sources fun a h => expands_iff.1 (hholds.sources a h)
  have htimeZone := eq_map_getD hkeeps.timeZone hholds.timeZone
  have hsubscriptions := eq_getD hkeeps.subscriptions hholds.subscriptions
  have hdata := eq_getD hkeeps.data hholds.data
  have hpayload := eq_getD hkeeps.payload hholds.payload
  have hbearer : v.bearer = (u.bearer || t.bearer) := by
    cases hset : t.bearer with
    | false => rw [hkeeps.bearer hset, Bool.or_false]
    | true => rw [hholds.bearer hset, Bool.or_true]
  have htypes := eq_map_getD hkeeps.connectionTypes
    fun a h => expands_iff.1 (hholds.connectionTypes a h)
  calc v = ⟨⟨v.permissions.publish, v.permissions.subscribe, v.permissions.reply⟩,
        ⟨v.limits.sources, v.limits.times, v.limits.timeZone, v.limits.subscriptions,
          v.limits.data, v.limits.payload⟩,
        v.bearer, v.connectionTypes, v.issuerAccount, v.descriptor⟩ := rfl
    _ = t.apply request u := by
        rw [hpublish, hsubscribe, hreply, hsources, hkeeps.times, htimeZone, hsubscriptions, hdata,
          hpayload, hbearer, htypes, hkeeps.issuerAccount, hkeeps.descriptor]
        rfl

/-! ## One template behind another -/

/-- A field that a template may set. -/
inductive Setting
  | publish
  | subscribe
  | reply
  | subscriptions
  | data
  | payload
  | sources
  | timeZone
  | connectionTypes
  | bearer
  deriving DecidableEq, Repr

namespace Setting

/-- What a field holds. -/
def Content : Setting → Type
  | publish | subscribe => SubjectRule
  | reply => Option ReplyRule
  | subscriptions | data | payload => Int64
  | sources | connectionTypes => List String
  | timeZone => String
  | bearer => Bool

instance : (s : Setting) → DecidableEq s.Content
  | publish | subscribe => inferInstanceAs (DecidableEq SubjectRule)
  | reply => inferInstanceAs (DecidableEq (Option ReplyRule))
  | subscriptions | data | payload => inferInstanceAs (DecidableEq Int64)
  | sources | connectionTypes => inferInstanceAs (DecidableEq (List String))
  | timeZone => inferInstanceAs (DecidableEq String)
  | bearer => inferInstanceAs (DecidableEq Bool)

/-- What a field of a user holds. -/
def of (u : User) : (s : Setting) → s.Content
  | publish => u.permissions.publish
  | subscribe => u.permissions.subscribe
  | reply => u.permissions.reply
  | subscriptions => u.limits.subscriptions
  | data => u.limits.data
  | payload => u.limits.payload
  | sources => u.limits.sources
  | timeZone => u.limits.timeZone
  | connectionTypes => u.connectionTypes
  | bearer => u.bearer

end Setting

/-- Whether a template sets a field. -/
def sets (t : UserTemplate) : Setting → Bool
  | .publish => t.publish.isSome
  | .subscribe => t.subscribe.isSome
  | .reply => t.reply.isSome
  | .subscriptions => t.subscriptions.isSome
  | .data => t.data.isSome
  | .payload => t.payload.isSome
  | .sources => t.sources.isSome
  | .timeZone => t.timeZone.isSome
  | .connectionTypes => t.connectionTypes.isSome
  | .bearer => t.bearer

/-- A template sets every field that another one sets. -/
def Covers (t first : UserTemplate) : Prop := ∀ s, first.sets s = true → t.sets s = true

theorem Covers.refl (t : UserTemplate) : t.Covers t := fun _ h => h

/-- What a template leaves unset, those that it covers leave unset. -/
theorem Covers.unset (h : t.Covers first) {s : Setting} (hs : t.sets s = false) :
    first.sets s = false := by
  cases hfirst : first.sets s with
  | false => rfl
  | true => exact (h s hfirst).symm.trans hs

/-- To keep a user is to keep every field that is not set, and what no template can set. -/
theorem keeps_iff : t.Keeps u v ↔
    (∀ s, t.sets s = false → Setting.of v s = Setting.of u s) ∧
      v.limits.times = u.limits.times ∧ v.issuerAccount = u.issuerAccount ∧
        v.descriptor = u.descriptor := by
  constructor
  · intro h
    refine ⟨fun s hs => ?_, h.times, h.issuerAccount, h.descriptor⟩
    cases s with
    | publish => exact h.publish (by simpa [sets] using hs)
    | subscribe => exact h.subscribe (by simpa [sets] using hs)
    | reply => exact h.reply (by simpa [sets] using hs)
    | subscriptions => exact h.subscriptions (by simpa [sets] using hs)
    | data => exact h.data (by simpa [sets] using hs)
    | payload => exact h.payload (by simpa [sets] using hs)
    | sources => exact h.sources (by simpa [sets] using hs)
    | timeZone => exact h.timeZone (by simpa [sets] using hs)
    | connectionTypes => exact h.connectionTypes (by simpa [sets] using hs)
    | bearer => exact h.bearer hs
  · rintro ⟨h, htimes, hissuer, hdescriptor⟩
    exact {
      publish := fun hs => h .publish (by simp [sets, hs])
      subscribe := fun hs => h .subscribe (by simp [sets, hs])
      reply := fun hs => h .reply (by simp [sets, hs])
      sources := fun hs => h .sources (by simp [sets, hs])
      times := htimes
      timeZone := fun hs => h .timeZone (by simp [sets, hs])
      subscriptions := fun hs => h .subscriptions (by simp [sets, hs])
      data := fun hs => h .data (by simp [sets, hs])
      payload := fun hs => h .payload (by simp [sets, hs])
      bearer := fun hs => h .bearer hs
      connectionTypes := fun hs => h .connectionTypes (by simp [sets, hs])
      issuerAccount := hissuer
      descriptor := hdescriptor }

/-- Keeping is handed on from a template to those that cover it. -/
theorem Keeps.trans (h : t.Covers first) (hfirst : first.Keeps u v) (ht : t.Keeps v w) :
    t.Keeps u w := by
  obtain ⟨hfields, htimes, hissuer, hdescriptor⟩ := keeps_iff.1 hfirst
  obtain ⟨hfields', htimes', hissuer', hdescriptor'⟩ := keeps_iff.1 ht
  exact keeps_iff.2 ⟨fun s hs => (hfields' s hs).trans (hfields s (h.unset hs)),
    htimes'.trans htimes, hissuer'.trans hissuer, hdescriptor'.trans hdescriptor⟩

/-- A field that is set holds the same whoever the user is. -/
theorem of_apply_eq {s : Setting} (hs : t.sets s = true) (request : AuthRequest) (u v : User) :
    Setting.of (t.apply request u) s = Setting.of (t.apply request v) s := by
  cases s with
  | bearer =>
    have hbearer : t.bearer = true := hs
    simp only [Setting.of, apply, hbearer, Bool.or_true]
    rfl
  | _ =>
    obtain ⟨_, hset⟩ := Option.isSome_iff_exists.1 hs
    simp only [Setting.of, apply, applyPermissions, applyLimits, hset]
    rfl

/-- A template absorbs those that it covers. -/
theorem apply_apply (h : t.Covers first) (request : AuthRequest) (u : User) :
    t.apply request (first.apply request u) = t.apply request u :=
  eq_apply_of_keeps ((keeps_apply first request u).trans h (keeps_apply t request _))
    (holds_apply t request _)

/-- A user none of whose fields is as in a blank one. -/
def full : User where
  permissions := ⟨⟨["a"], []⟩, ⟨["a"], []⟩, some ⟨0, 0⟩⟩
  limits := ⟨["a"], [], "a", 0, 0, 0⟩
  bearer := true
  connectionTypes := ["a"]
  issuerAccount := ""
  descriptor := .empty

theorem of_full_ne (s : Setting) : Setting.of full s ≠ Setting.of .blank s := by
  cases s <;> decide

/-- A template absorbs no others: of a field that only the other one sets, two users who differ
there would have to be the same. -/
theorem covers_of_absorbs
    (h : ∀ u, t.apply request (first.apply request u) = t.apply request u) : t.Covers first := by
  intro s hfirst
  cases ht : t.sets s with
  | true => rfl
  | false =>
    have hsame (u : User) : Setting.of (first.apply request u) s = Setting.of u s := by
      have hkeeps := (keeps_iff.1 (keeps_apply t request (first.apply request u))).1 s ht
      rw [h u] at hkeeps
      exact hkeeps.symm.trans ((keeps_iff.1 (keeps_apply t request u)).1 s ht)
    have hset := of_apply_eq hfirst request full .blank
    rw [hsame, hsame] at hset
    exact absurd hset (of_full_ne s)

/-- Rendering is determined: of the claims that may come of it, those are rendered whose registered
data is as it was, which keep what the template leaves unset and hold what it sets. A template that
is rendered again changes nothing, and it absorbs exactly those templates whose fields it sets
all. -/
theorem render_determined (t : UserTemplate) (request : Claims AuthRequest) (c : Claims User) :
    (∀ d, d = t.render request c ↔ d.registered = c.registered ∧ t.Keeps c.body d.body ∧
      t.Holds request.body d.body) ∧
    t.render request (t.render request c) = t.render request c ∧
    ∀ first : UserTemplate, t.Covers first ↔
      ∀ c, t.render request (first.render request c) = t.render request c := by
  have habsorbs (first : UserTemplate) (h : t.Covers first) (c : Claims User) :
      t.render request (first.render request c) = t.render request c := by
    rw [render, render, apply_apply h]
    rfl
  refine ⟨fun d => ⟨?_, ?_⟩, habsorbs t (.refl t) c, fun first => ⟨habsorbs first, fun h => ?_⟩⟩
  · rintro rfl
    exact ⟨rfl, keeps_apply t _ _, holds_apply t _ _⟩
  · rintro ⟨hregistered, hkeeps, hholds⟩
    calc d = ⟨d.registered, d.body⟩ := rfl
      _ = t.render request c := by rw [hregistered, eq_apply_of_keeps hkeeps hholds]; rfl
  · exact covers_of_absorbs fun u => congrArg Claims.body (h ⟨.empty, u⟩)

end CalloutHost.UserTemplate
