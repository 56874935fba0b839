import CalloutHost.Lifecycle.Fleet
import CalloutHost.Proofs.Lifecycle.Fleets
import CalloutHost.Proofs.Lifecycle.Follows

/-!
# The duties of a server

A server that stops or starts begins and ends with nothing to do, be it the latest or not, and
whatever others do in between. One that has started has waited for the engine that it has found in
the slot or put there, and its collector is the one that it has found or put there
(`Server.come_follows`). One that stops puts nothing into the slots (`Server.leave_retreats`), and
takes nothing out unless it is told that its generation is the latest (`Server.leave_refrains`).
-/

namespace CalloutHost

open Program (Within Yields avoids_act avoids_pure follows_act follows_pure perform yields_bind
  yields_pure yields_true)

/-- What holds however a program ends is what it yields. -/
theorem Program.Tends.yields {α : Type} {p : Program α} {own : List Nat} {Q : α → List Nat → Prop}
    {P : α → Prop} (h : p.Tends own Q) (hQ : ∀ a own', Q a own' → P a) : p.Yields P := by
  induction p generalizing own with
  | done a => exact hQ a own h
  | act a next ih => exact fun answer => ih answer (h answer)

/-! ## What servers do not touch -/

namespace Server

variable {k : ServiceKind}

theorem isCurrent_avoids (s : Server) : s.isCurrent.Avoids k := by
  unfold isCurrent
  split
  · cases k <;> exact fun _ => ⟨rfl, trivial⟩
  · exact avoids_pure _

theorem lookupAll_avoids (e : Nat) (names : List String) : (lookupAll e names).Avoids k := by
  induction names with
  | nil => exact avoids_pure _
  | cons name names ih =>
    refine avoids_act fun answer => ⟨by cases k <;> rfl, ?_⟩
    rcases answer with _ | _
    · exact avoids_pure _
    · exact ih

theorem prepare_avoids (plan : Provisioned) : (prepare plan).Avoids k :=
  (prepare_within plan).avoids (by cases k <;> decide) (by decide)

theorem connectResponder_avoids (s : Server) (url : String)
    (responder : Option (Issuer × EngineUser)) : (s.connectResponder url responder).Avoids k :=
  (s.connectResponder_within url responder).avoids (by cases k <;> decide) (by decide)

theorem connectFlows_avoids (s : Server) (url : String) (flows : List AccountFlow) :
    (s.connectFlows url flows).Avoids k :=
  (s.connectFlows_within url flows).avoids (by cases k <;> decide) (by decide)

theorem provision_avoids (s : Server) : s.provision.Avoids k :=
  s.provision_within.avoids (by cases k <;> decide) (by decide)

theorem attachCollector_avoids (s : Server) (o : Option CollectorOptions) :
    (s.attachCollector o).Avoids .engine := by
  rcases o with _ | o
  · refine s.isCurrent_avoids.bind fun current => ?_
    split
    · exact Supervision.shutdownCollector_avoids.bind fun _ => avoids_pure _
    · exact avoids_pure _
  · refine (Supervision.ensureCollector_avoids o).bind fun answer => ?_
    rcases answer with _ | _ <;> exact avoids_pure _

/-! ## What servers end with -/

theorem attach_yields (s : Server) (plan : Provisioned) (e : Nat) (o : EngineOptions)
    (responder : Option (Issuer × EngineUser)) :
    (s.attach plan e o responder).Yields fun r => s.SameOrigin r.2 :=
  (s.attach_tends plan e o responder).yields fun _ _ h => h.2.toSameOrigin

theorem stop_yields (s : Server) : s.stop.Yields fun t => s.SameOrigin t := by
  unfold stop
  split
  · exact yields_pure (.refl s)
  refine yields_bind yields_true fun _ _ => ?_
  split
  · refine yields_bind yields_true fun current _ => ?_
    split
    · exact yields_bind yields_true fun _ _ => yields_pure ⟨rfl, rfl, rfl⟩
    · exact yields_pure ⟨rfl, rfl, rfl⟩
  · exact yields_pure ⟨rfl, rfl, rfl⟩

/-- A server starts only if it was provisioned. -/
theorem start_yields (s : Server) :
    s.start.Yields fun r => s.SameOrigin r.2 ∧
      (r.1 = .ok () → ∃ enabled, s.state = .provisioned enabled) := by
  unfold start
  split
  · next plan hstate _ =>
    refine yields_bind yields_true fun ⟨responder, o⟩ _ => ?_
    refine yields_bind yields_true fun answer _ => ?_
    rcases answer with fault | e
    · exact yields_pure ⟨.refl s, nofun⟩
    refine yields_bind (s.attach_yields plan e o responder) fun ⟨answer, t⟩ ht => ?_
    rcases answer with error | _
    · exact yields_bind t.stop_yields fun u hu => yields_pure ⟨ht.trans hu, nofun⟩
    · exact yields_pure ⟨ht.trans ⟨rfl, rfl, rfl⟩, fun _ => ⟨true, hstate⟩⟩
  · next hstate =>
    refine yields_bind yields_true fun current _ => ?_
    split
    · exact yields_bind yields_true fun _ _ =>
        yields_pure ⟨⟨rfl, rfl, rfl⟩, fun _ => ⟨false, hstate⟩⟩
    · exact yields_pure ⟨⟨rfl, rfl, rfl⟩, fun _ => ⟨false, hstate⟩⟩
  · exact yields_pure ⟨.refl s, nofun⟩

/-- After it was provisioned, the state of a server goes with its plan as before. -/
theorem provision_yields {s : Server} (h : s.Sound) : s.provision.Yields fun r => r.2.Sound := by
  unfold provision
  split
  · exact yields_pure h
  next hstate =>
  rw [ne_eq, not_not] at hstate
  refine yields_bind yields_true fun g _ => yields_bind yields_true fun answer _ => ?_
  rcases answer with cause | plan
  · exact yields_pure ⟨fun _ => h.unplanned hstate, fun _ he => nomatch hstate.symm.trans he⟩
  · exact yields_pure ⟨nofun, fun enabled he => ⟨plan, rfl, ServerState.provisioned.inj he⟩⟩

end Server

/-! ## Nothing is left to do -/

/-- A server that has started by a plan has waited for one engine, which was in the slot as the
server left it, and so was a collector with the options of the plan, if it has any. -/
def Ledger.Fulfils {k : ServiceKind} (m m' : Ledger k) (plan : Provisioned) : Prop :=
  match k with
  | .engine => ∃ e, m'.awaited = e :: m.awaited ∧ m'.seen = some (some e)
  | .collector => ∀ o, plan.collector = some o →
      ∃ c, m'.seen = some (some c) ∧ m'.told = some (c, o)

namespace Server

variable {k : ServiceKind}

theorem takeDown_follows {m : Ledger k} (h : m.duty = none) :
    takeDown.Follows m fun _ m' => m'.duty = none := by
  cases k with
  | engine =>
    refine Supervision.shutdownCollector_avoids.follows_self.bind fun _ m' hm => ?_
    subst hm
    exact Supervision.shutdownEngine_follows h
  | collector =>
    refine (Supervision.shutdownCollector_follows h).bind fun _ m' hm => ?_
    exact Supervision.shutdownEngine_avoids.follows_self.mono fun _ m'' hm' => hm' ▸ hm

theorem stop_follows (s : Server) {m : Ledger k} (h : m.duty = none) :
    s.stop.Follows m fun _ m' => m'.duty = none := by
  unfold stop
  split
  · exact follows_pure h
  refine follows_act fun _ => ⟨m, by cases k <;> exact .none, ?_⟩
  split
  · refine s.isCurrent_avoids.follows_self.bind fun current m' hm => ?_
    subst hm
    split
    · exact (takeDown_follows h).bind fun _ _ hm => follows_pure hm
    · exact follows_pure h
  · exact follows_pure h

theorem attachCollector_follows (s : Server) (o : Option CollectorOptions)
    {m : Ledger .collector} (h : m.duty = none) :
    (s.attachCollector o).Follows m fun r m' => m'.duty = none ∧
      (r = .ok () → ∀ x, o = some x → ∃ c, m'.seen = some (some c) ∧ m'.told = some (c, x)) := by
  rcases o with _ | o
  · refine s.isCurrent_avoids.follows_self.bind fun current m' hm => ?_
    subst hm
    split
    · exact (Supervision.shutdownCollector_follows h).bind
        fun _ _ hm => follows_pure ⟨hm, fun _ _ => nofun⟩
    · exact follows_pure ⟨h, fun _ _ => nofun⟩
  · refine (Supervision.ensureCollector_follows o h).bind fun answer m' hm => ?_
    rcases answer with fault | c
    · exact follows_pure ⟨hm.idle, nofun⟩
    · refine follows_pure ⟨hm.idle, fun _ x hx => ?_⟩
      cases hx
      exact ⟨c, (hm.ok c rfl).2⟩

/-- Between waiting for the engine and seeing to the collector, a server does nothing to either. -/
theorem attach_follows (s : Server) (plan : Provisioned) (e : Nat) (o : EngineOptions)
    (responder : Option (Issuer × EngineUser)) {m ready : Ledger k} {P : Ledger k → Prop}
    (hready : ready.duty = none)
    (hawait : (Supervision.awaitEngine e).Follows m fun r m' =>
      m'.duty = none ∧ (r = .ok () → m' = ready))
    (hcollector : ∀ t : Server, (t.attachCollector plan.collector).Follows ready fun r m' =>
      m'.duty = none ∧ (r = .ok () → P m')) :
    (s.attach plan e o responder).Follows m fun r m' =>
      m'.duty = none ∧ (r.1 = .ok () → P m') := by
  unfold attach
  refine hawait.bind fun answer m' ⟨hidle, hm⟩ => ?_
  rcases answer with waited | _
  · exact follows_pure ⟨hidle, nofun⟩
  rw [hm rfl]
  refine (lookupAll_avoids e _).follows_self.bind fun answer m' hm => ?_
  subst hm
  rcases answer with fault | _
  · exact follows_pure ⟨hready, nofun⟩
  refine follows_act fun url => ⟨m', by cases k <;> exact .none, ?_⟩
  refine (s.connectResponder_avoids url responder).follows_self.bind fun ⟨answer, t⟩ m' hm => ?_
  subst hm
  rcases answer with error | _
  · exact follows_pure ⟨hready, nofun⟩
  refine (t.connectFlows_avoids url plan.flows).follows_self.bind fun ⟨answer, u⟩ m' hm => ?_
  subst hm
  rcases answer with error | _
  · exact follows_pure ⟨hready, nofun⟩
  refine (hcollector u).bind fun answer m' ⟨hidle, hm⟩ => ?_
  rcases answer with error | _
  · exact follows_pure ⟨hidle, nofun⟩
  · exact follows_pure ⟨hidle, fun _ => hm rfl⟩

/-- With the engine that a server has asked for, it does what the plan asks for. -/
theorem ensureEngine_attach (s : Server) (plan : Provisioned) (o : EngineOptions)
    (responder : Option (Issuer × EngineUser)) {m : Ledger k} (h : m.duty = none) :
    (Supervision.ensureEngine o).Follows m fun answer m₁ => m₁.duty = none ∧
      ∀ e, answer = .ok e → (s.attach plan e o responder).Follows m₁ fun r m' =>
        m'.duty = none ∧ (r.1 = .ok () → m.Fulfils m' plan) := by
  cases k with
  | engine =>
    refine (Supervision.ensureEngine_follows o h).mono fun answer m₁ hm₁ => ⟨hm₁.idle, ?_⟩
    intro e he
    obtain ⟨hknown, hseen, -⟩ := hm₁.ok e he
    refine s.attach_follows plan e o responder (by exact hm₁.idle)
      (Supervision.awaitEngine_follows hm₁.idle hknown) fun t => ?_
    exact (t.attachCollector_avoids plan.collector).follows_self.mono fun _ m₂ hm₂ =>
      ⟨by rw [hm₂]; exact hm₁.idle, fun _ => ⟨e, by rw [hm₂, hm₁.awaited], by rw [hm₂, hseen]⟩⟩
  | collector =>
    refine (Supervision.ensureEngine_avoids o).follows_self.mono fun answer m₁ hm₁ => ?_
    subst hm₁
    refine ⟨h, fun e _ => s.attach_follows plan e o responder h ?_ fun t => ?_⟩
    · exact (Supervision.awaitEngine_avoids e).follows_self.mono
        fun _ _ hm => ⟨hm ▸ h, fun _ => hm⟩
    · exact t.attachCollector_follows plan.collector h

theorem launch_follows (s : Server) (plan : Provisioned) {m : Ledger k} (h : m.duty = none) :
    (s.launch plan).Follows m fun r m' => m'.duty = none ∧
      (r.1 = .ok () → m.Fulfils m' plan) := by
  refine (prepare_avoids plan).follows_self.bind fun ⟨responder, o⟩ m' hm => ?_
  subst hm
  refine (s.ensureEngine_attach plan o responder h).bind fun answer m₁ ⟨hidle, hattach⟩ => ?_
  rcases answer with fault | e
  · exact follows_pure ⟨hidle, nofun⟩
  refine (hattach e rfl).bind fun ⟨answer, t⟩ m₂ ⟨hidle, hm⟩ => ?_
  rcases answer with error | _
  · exact (t.stop_follows hidle).bind fun _ _ hm => follows_pure ⟨hm, nofun⟩
  · exact follows_pure ⟨hidle, fun _ => hm rfl⟩

theorem start_follows (s : Server) {m : Ledger k} (h : m.duty = none) :
    s.start.Follows m fun r m' => m'.duty = none ∧
      (r.1 = .ok () → ∀ plan, s.plan = some plan → s.state = .provisioned true →
        m.Fulfils m' plan) := by
  unfold start
  split
  · next plan hstate hplan =>
    refine (s.launch_follows plan h).mono fun r m' ⟨hidle, hm⟩ => ⟨hidle, fun hr x hx _ => ?_⟩
    exact Option.some.inj (hplan.symm.trans hx) ▸ hm hr
  · next hstate =>
    have hdisabled : s.state ≠ .provisioned true := by simp [hstate]
    refine s.isCurrent_avoids.follows_self.bind fun current m' hm => ?_
    subst hm
    split
    · exact (takeDown_follows h).bind
        fun _ _ hm => follows_pure ⟨hm, fun _ _ _ he => absurd he hdisabled⟩
    · exact follows_pure ⟨h, fun _ _ _ he => absurd he hdisabled⟩
  · exact follows_pure ⟨h, nofun⟩

theorem leave_follows (s : Server) {m : Ledger k} (h : m.duty = none) :
    s.leave.Follows m fun _ m' => m'.duty = none :=
  (s.stop_follows h).bind fun _ _ hm => hm

/-- A server that was provisioned and has started has a plan; if it is enabled it has done what the
plan asks for. -/
theorem come_follows {s : Server} (hs : s.Sound) {m : Ledger k} (h : m.duty = none) :
    s.come.Follows m fun r m' => m'.duty = none ∧
      (r.1 = .ok () → ∃ plan, r.2.plan = some plan ∧
        (plan.enabled = true → m.Fulfils m' plan)) := by
  refine (s.provision_avoids.follows_self.and_yields (provision_yields hs)).bind
    fun ⟨_, t⟩ m' ⟨hm, ht⟩ => ?_
  subst hm
  refine ((t.start_follows h).and_yields t.start_yields).mono
    fun r m' ⟨⟨hidle, hm⟩, hsame, hstate⟩ => ⟨hidle, fun hr => ?_⟩
  obtain ⟨enabled, he⟩ := hstate hr
  obtain ⟨plan, hplan, rfl⟩ := ht.planned enabled he
  exact ⟨plan, hsame.plan.trans hplan, fun henabled => hm hr plan hplan (henabled ▸ he)⟩

end Server

/-! ## How a server leaves -/

/-- An effect that puts nothing into the slot and changes no options. -/
def Effect.Retreats {k : ServiceKind} : Effect k → Prop
  | .none | .stopped _ | .taken _ => True
  | _ => False

/-- The answer does not tell that this generation, if it is one, is the latest. -/
def Action.Denies (own : Option Generation) : (a : Action) → a.Answer → Prop
  | .isCurrent g, answer => own = some g → answer = false
  | _, _ => True

namespace Program

variable {α β : Type} {k : ServiceKind} {own : Option Generation}

/-- Whatever is answered, the program puts nothing into the slot of this kind of services and
changes no options of theirs. -/
def Retreats (k : ServiceKind) : Program α → Prop
  | .done _ => True
  | .act a next => ∀ answer, (a.effect k answer).Retreats ∧ (next answer).Retreats k

/-- As long as it is not told that its own generation is the latest, the program empties no slot. -/
def Refrains (own : Option Generation) : Program α → Prop
  | .done _ => True
  | .act a next =>
    (∀ k, a.empties k = false) ∧ ∀ answer, a.Denies own answer → (next answer).Refrains own

theorem Avoids.retreats {p : Program α} (h : p.Avoids k) : p.Retreats k := by
  induction p with
  | done a => trivial
  | act a next ih =>
    intro answer
    rw [(h answer).1]
    exact ⟨trivial, ih answer (h answer).2⟩

theorem Retreats.bind {p : Program α} {f : α → Program β} (h : p.Retreats k)
    (hf : ∀ a, (f a).Retreats k) : (p >>= f).Retreats k := by
  induction p with
  | done a => exact hf a
  | act a next ih => exact fun answer => ⟨(h answer).1, ih answer (h answer).2⟩

theorem Refrains.bind {p : Program α} {f : α → Program β} (h : p.Refrains own)
    (hf : ∀ a, (f a).Refrains own) : (p >>= f).Refrains own := by
  induction p with
  | done a => exact hf a
  | act a next ih => exact ⟨h.1, fun answer hd => ih answer (h.2 answer hd)⟩

end Program

namespace Server

variable {k : ServiceKind}

theorem takeDown_retreats : takeDown.Retreats k := by
  cases k with
  | engine =>
    refine Supervision.shutdownCollector_avoids.retreats.bind fun _ found => ⟨trivial, ?_⟩
    rcases found with _ | e
    · trivial
    · exact fun _ => ⟨trivial, trivial⟩
  | collector =>
    refine Program.Retreats.bind (fun found => ⟨trivial, ?_⟩)
      fun _ => Supervision.shutdownEngine_avoids.retreats
    rcases found with _ | c
    · trivial
    · exact fun _ => ⟨trivial, trivial⟩

theorem leave_retreats (s : Server) : s.leave.Retreats k := by
  refine Program.Retreats.bind ?_ fun _ => trivial
  unfold stop
  split
  · trivial
  refine fun _ => ⟨by cases k <;> trivial, ?_⟩
  change Program.Retreats k (ite _ _ _)
  split
  · refine s.isCurrent_avoids.retreats.bind fun current => ?_
    split
    · exact takeDown_retreats.bind fun _ => trivial
    · trivial
  · trivial

theorem leave_within (s : Server) :
    s.leave.Within [.engines, .collectors, .clients, .none] :=
  Program.within_bind s.stop_within fun _ => trivial

theorem leave_refrains (s : Server) : s.leave.Refrains s.generation := by
  refine Program.Refrains.bind ?_ fun _ => trivial
  unfold stop
  split
  · trivial
  refine ⟨fun k => by cases k <;> rfl, fun _ _ => ?_⟩
  change Program.Refrains s.generation (ite _ _ _)
  split
  · unfold isCurrent
    split
    · next x hx =>
      refine ⟨fun k => by cases k <;> rfl, fun answer hdenied => ?_⟩
      have hfalse : answer = false := hdenied hx
      subst hfalse
      trivial
    · trivial
  · trivial

/-- A server that is provisioned captures one generation at most, before anything else. -/
theorem come_cases (s : Server) :
    s.come.Within [.engines, .collectors, .clients, .secrets, .none] ∨
      ∃ next, s.come = .act .capture next ∧
        ∀ g, (next g).Within [.engines, .collectors, .clients, .secrets, .none] := by
  unfold come provision
  split
  · exact .inl s.start_within
  · refine .inr ⟨_, rfl, fun g => ⟨by simp, fun answer => ?_⟩⟩
    rcases answer with cause | plan <;> exact start_within _

end Server

end CalloutHost
