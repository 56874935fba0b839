import CalloutHost.Proofs.Lifecycle.Servers

/-!
# The clients that a server has open

A program opens clients and closes them. Which of its own it has open in the end is said for all
that it may be answered (`Program.Ends`, `Program.Tends`), and so for all that others may do to the
process in between; when it is run alone, no other client of its is open (`World.ends_run`).

What a server lists as its clients while it connects is what it has open (`Server.attach_tends`). It
has none once it has stopped (`Server.stop_tends`) or has failed to start (`Server.start_tends`).
-/

namespace CalloutHost

open Program (perform)

/-- Which clients of its own somebody has open after an action, and which before. -/
def Action.own : (a : Action) → a.Answer → List Nat → List Nat
  | .connect _ _, .ok client, own => own ++ [client]
  | .closeClients clients, _, own => own.filter (· ∉ clients)
  | _, _, own => own

theorem Action.own_of_area {a : Action} (h : a.area ≠ .clients) (answer : a.Answer)
    (own : List Nat) : a.own answer own = own := by
  cases a <;> first | exact absurd rfl h | rfl

namespace Program

variable {α β : Type} {own own' : List Nat} {Q R : α → List Nat → Prop}

/-- The program may end so, if it is answered accordingly: with this result, and from these clients
of its own open to those. -/
inductive Ends : Program α → List Nat → α → List Nat → Prop
  | done (a : α) (own : List Nat) : Ends (.done a) own a own
  | act {a : Action} {next : a.Answer → Program α} {own own' : List Nat} {result : α}
      (answer : a.Answer) (rest : Ends (next answer) (a.own answer own) result own') :
      Ends (.act a next) own result own'

/-- Whatever is answered, the program ends with such a result and such clients of its own open. -/
def Tends : Program α → List Nat → (α → List Nat → Prop) → Prop
  | .done a, own, Q => Q a own
  | .act a next, own, Q => ∀ answer, (next answer).Tends (a.own answer own) Q

/-- What holds of all ends holds of this one. -/
theorem Tends.of_ends {p : Program α} {a : α} (h : p.Tends own Q) (hends : p.Ends own a own') :
    Q a own' := by
  induction hends with
  | done => exact h
  | act answer _ ih => exact ih (h answer)

theorem tends_pure {a : α} (h : Q a own) : (pure a : Program α).Tends own Q := h

theorem Tends.mono {p : Program α} (h : p.Tends own Q) (hQ : ∀ a own', Q a own' → R a own') :
    p.Tends own R := by
  induction p generalizing own with
  | done a => exact hQ a own h
  | act a next ih => exact fun answer => ih answer (h answer)

theorem Tends.bind {p : Program β} {f : β → Program α} {P : β → List Nat → Prop}
    (h : p.Tends own P) (hf : ∀ b own', P b own' → (f b).Tends own' Q) :
    (p >>= f).Tends own Q := by
  induction p generalizing own with
  | done b => exact hf b own h
  | act a next ih => exact fun answer => ih answer (h answer)

theorem tends_act {a : Action} {f : a.Answer → Program α}
    (h : ∀ answer, (f answer).Tends (a.own answer own) Q) : (perform a >>= f).Tends own Q := h

/-- A program that does not touch clients opens none and closes none. -/
theorem Within.tends {areas : List Area} {p : Program α} (hp : p.Within areas)
    (h : Area.clients ∉ areas) (own : List Nat) : p.Tends own fun _ own' => own' = own := by
  induction p with
  | done a => rfl
  | act a next ih =>
    intro answer
    rw [Action.own_of_area fun ha => h (ha ▸ hp.1)]
    exact ih answer (hp.2 answer)

end Program

/-! ## In a process -/

namespace World

variable {σ α : Type}

/-- A client of the process is open. -/
def IsOpen (w : World σ) (client : Nat) : Prop :=
  ∃ c, w.clients[client]? = some c ∧ c.isOpen = true

/-- No client is open that was never connected. -/
theorem not_isOpen_of_le {w : World σ} {client : Nat} (h : w.clients.length ≤ client) :
    ¬w.IsOpen client := by
  rintro ⟨c, hc, -⟩
  rw [List.getElem?_eq_none h] at hc
  cases hc

variable [Outside σ]

/-- A client that is open after an action was opened by it, or was open before. -/
theorem isOpen_exec {w : World σ} {a : Action} {own : List Nat} {client : Nat}
    (h : w.IsOpen client → client ∈ own) (hopen : (w.exec a).2.IsOpen client) :
    client ∈ a.own (w.exec a).1 own := by
  by_cases ha : a.area = .clients
  · cases a with
    | connect s worker =>
      rw [exec] at hopen ⊢
      split at hopen
      · obtain ⟨c, hc, hopen⟩ := hopen
        change (w.clients ++ [_])[client]? = some c at hc
        refine List.mem_append.2 ?_
        rcases Nat.lt_trichotomy client w.clients.length with hlt | rfl | hgt
        · rw [List.getElem?_append_left hlt] at hc
          exact .inl (h ⟨c, hc, hopen⟩)
        · exact .inr (List.mem_singleton_self _)
        · rw [List.getElem?_eq_none (by simp; omega)] at hc
          cases hc
      · exact h hopen
    | closeClients closed =>
      obtain ⟨c, hc, hopen⟩ := hopen
      change (w.clients.mapIdx _)[client]? = some c at hc
      rw [List.getElem?_mapIdx, Option.map_eq_some_iff] at hc
      obtain ⟨before, hbefore, rfl⟩ := hc
      -- a client that is closed is not open
      by_cases hclosed : closed.contains client = true
      · rw [if_pos hclosed] at hopen
        cases hopen
      · rw [if_neg hclosed] at hopen
        exact List.mem_filter.2 ⟨h ⟨before, hbefore, hopen⟩, by simpa using hclosed⟩
    | _ => cases ha
  · rw [Action.own_of_area ha]
    rw [IsOpen, w.exec_clients ha] at hopen
    exact h hopen

/-- A program that is run alone ends as it may end, and of the clients from some number on, only its
own are open. -/
theorem ends_run_of {w : World σ} {own : List Nat} {n : Nat}
    (h : ∀ client, n ≤ client → w.IsOpen client → client ∈ own) (p : Program α) :
    ∃ own', p.Ends own (w.run p).1 own' ∧
      ∀ client, n ≤ client → (w.run p).2.IsOpen client → client ∈ own' := by
  induction p generalizing w own with
  | done a => exact ⟨own, .done a own, h⟩
  | act a next ih =>
    have hnext : ∀ client, n ≤ client → (w.exec a).2.IsOpen client →
        client ∈ a.own (w.exec a).1 own := fun client hn => isOpen_exec (h client hn)
    obtain ⟨own', hends, hopen⟩ := ih (w.exec a).1 hnext
    exact ⟨own', .act _ hends, hopen⟩

theorem ends_run (w : World σ) (own : List Nat) (p : Program α) :
    ∃ own', p.Ends own (w.run p).1 own' ∧
      ∀ client, w.clients.length ≤ client → (w.run p).2.IsOpen client → client ∈ own' :=
  ends_run_of (fun _ hn hopen => absurd hopen (not_isOpen_of_le hn)) p

end World

/-- What holds however a program ends holds when it is run alone. -/
theorem Program.Tends.ensures {σ α : Type} [Outside σ] {p : Program α} {own : List Nat}
    {Q : α → List Nat → Prop} (h : p.Tends own Q) (w : World σ) :
    w.Ensures p fun a _ => ∃ own', Q a own' := by
  obtain ⟨own', hends, -⟩ := w.ends_run own p
  exact ⟨own', h.of_ends hends⟩

/-! ## What a server has open -/

namespace Server

open Program (tends_act tends_pure)

variable {s : Server} {own : List Nat}

/-- A server that connects has its clients open, and is otherwise as it was. -/
def Lists (s t : Server) (own : List Nat) : Prop := own = t.clients ∧ s.SameButClients t

theorem connectClient_tends (s : Server) (settings : ClientSettings) (worker : Worker) :
    (s.connectClient settings worker).Tends s.clients fun r own => s.Lists r.2 own := by
  refine tends_act fun answer => ?_
  rcases answer with error | client
  · exact tends_pure ⟨rfl, .refl s⟩
  · exact tends_pure ⟨rfl, ⟨rfl, rfl, rfl⟩, rfl⟩

theorem connectResponder_tends (s : Server) (url : String)
    (responder : Option (Issuer × EngineUser)) :
    (s.connectResponder url responder).Tends s.clients fun r own => s.Lists r.2 own := by
  rcases responder with _ | ⟨issuer, user⟩
  · exact tends_pure ⟨rfl, .refl s⟩
  · exact s.connectClient_tends _ _

theorem connectFlows_tends (s : Server) (url : String) (flows : List AccountFlow) :
    (s.connectFlows url flows).Tends s.clients fun r own => s.Lists r.2 own := by
  induction flows generalizing s with
  | nil => exact tends_pure ⟨rfl, .refl s⟩
  | cons flow flows ih =>
    refine ((s.credentials_within flow.account).tends (by decide) _).bind fun answer own hown => ?_
    subst hown
    rcases answer with error | credentials
    · exact tends_pure ⟨rfl, .refl s⟩
    refine (s.connectClient_tends _ _).bind fun ⟨answer, t⟩ own ⟨hown, ht⟩ => ?_
    subst hown
    rcases answer with error | _
    · exact tends_pure ⟨rfl, ht⟩
    · exact (ih t).mono fun _ _ hu => ⟨hu.1, ht.trans hu.2⟩

theorem attach_tends (s : Server) (plan : Provisioned) (e : Nat) (o : EngineOptions)
    (responder : Option (Issuer × EngineUser)) :
    (s.attach plan e o responder).Tends s.clients fun r own => s.Lists r.2 own := by
  unfold attach
  refine ((Supervision.awaitEngine_within e).tends (by decide) _).bind fun answer own hown => ?_
  subst hown
  rcases answer with waited | _
  · exact tends_pure ⟨rfl, .refl s⟩
  refine ((lookupAll_within e _).tends (by decide) _).bind fun answer own hown => ?_
  subst hown
  rcases answer with fault | _
  · exact tends_pure ⟨rfl, .refl s⟩
  refine tends_act fun url => ?_
  refine (s.connectResponder_tends url responder).bind fun ⟨answer, t⟩ own ⟨hown, ht⟩ => ?_
  subst hown
  rcases answer with error | _
  · exact tends_pure ⟨rfl, ht⟩
  refine (t.connectFlows_tends url plan.flows).bind fun ⟨answer, u⟩ own ⟨hown, hu⟩ => ?_
  subst hown
  rcases answer with error | _
  · exact tends_pure ⟨rfl, ht.trans hu⟩
  refine ((u.attachCollector_within plan.collector).tends (by decide) _).bind
    fun answer own hown => ?_
  subst hown
  rcases answer with error | _ <;> exact tends_pure ⟨rfl, ht.trans hu⟩

/-- A server that stops has no clients open. -/
theorem stop_tends (h : s.state = .stopped → s.clients = []) :
    s.stop.Tends s.clients fun t own =>
      own = [] ∧ t.clients = [] ∧ t.state = .stopped ∧ s.SameOrigin t := by
  unfold stop
  split
  · next hs => exact tends_pure ⟨h hs, h hs, hs, .refl s⟩
  refine tends_act fun _ => ?_
  have hclosed : (Action.closeClients s.clients).own () s.clients = [] :=
    List.filter_eq_nil_iff.2 fun client hclient => by simpa using hclient
  rw [hclosed]
  split
  · refine (s.isCurrent_within.tends (by decide) _).bind fun current own hown => ?_
    subst hown
    split
    · refine (takeDown_within.tends (by decide) _).bind fun _ own hown => ?_
      exact tends_pure ⟨hown, rfl, rfl, rfl, rfl, rfl⟩
    · exact tends_pure ⟨rfl, rfl, rfl, rfl, rfl, rfl⟩
  · exact tends_pure ⟨rfl, rfl, rfl, rfl, rfl, rfl⟩

/-- How the start of a server ends. -/
structure StartEnds (s : Server) (answer : Except ServerError Unit) (t : Server)
    (own : List Nat) : Prop where
  clients : own = t.clients
  origin : s.SameOrigin t
  ok : answer = .ok () → t.state = .started
  /-- A start that fails has left it as far as it was or has stopped it, and without clients. -/
  error : ∀ e, answer = .error e → (t.state = s.state ∨ t.state = .stopped) ∧ t.clients = []

theorem launch_tends (hs : s.state ≠ .stopped) (hclients : s.clients = []) (plan : Provisioned) :
    (s.launch plan).Tends [] fun r own => s.StartEnds r.1 r.2 own := by
  unfold launch
  refine ((prepare_within plan).tends (by decide) _).bind fun ⟨responder, o⟩ own hown => ?_
  subst hown
  refine ((Supervision.ensureEngine_within o).tends (by decide) _).bind fun answer own hown => ?_
  subst hown
  rcases answer with fault | e
  · exact tends_pure ⟨hclients.symm, .refl s, nofun, fun _ _ => ⟨.inl rfl, hclients⟩⟩
  rw [← hclients]
  refine (s.attach_tends plan e o responder).bind fun ⟨answer, t⟩ own ⟨hown, ht⟩ => ?_
  subst hown
  rcases answer with error | _
  · have hrunning : t.state = .stopped → t.clients = [] := fun hstopped =>
      absurd (ht.state.symm.trans hstopped) hs
    refine (stop_tends hrunning).bind fun u own ⟨hown, hnone, hstopped, hu⟩ => tends_pure ?_
    exact ⟨hown.trans hnone.symm, ht.toSameOrigin.trans hu, nofun,
      fun _ _ => ⟨.inr hstopped, hnone⟩⟩
  · exact tends_pure ⟨rfl, ht.toSameOrigin.trans ⟨rfl, rfl, rfl⟩, fun _ => rfl, nofun⟩

/-- A server that was provisioned and has no clients starts, or fails and has none. -/
theorem start_tends {enabled : Bool} (hs : s.state = .provisioned enabled)
    (hclients : s.clients = []) : s.start.Tends [] fun r own => s.StartEnds r.1 r.2 own := by
  unfold start
  split
  · next plan _ _ => exact launch_tends (by simp [hs]) hclients plan
  · refine (s.isCurrent_within.tends (by decide) _).bind fun current own hown => ?_
    subst hown
    split
    · refine (takeDown_within.tends (by decide) _).bind fun _ own hown => ?_
      exact tends_pure ⟨hown.trans hclients.symm, ⟨rfl, rfl, rfl⟩, fun _ => rfl, nofun⟩
    · exact tends_pure ⟨hclients.symm, ⟨rfl, rfl, rfl⟩, fun _ => rfl, nofun⟩
  · exact tends_pure ⟨hclients.symm, .refl s, nofun, fun _ _ => ⟨.inl rfl, hclients⟩⟩

/-- A server that is provisioned for the first time is not further and has no plan, or it was
provisioned. -/
theorem provision_tends (hs : s.state = .unprovisioned) (own : List Nat) :
    s.provision.Tends own fun r own' => own' = own ∧ r.2.clients = s.clients ∧
      ((∃ e, r.1 = .error e ∧ r.2.state = .unprovisioned ∧ r.2.plan = s.plan) ∨
        ∃ g enabled, r.1 = .ok g ∧ r.2.state = .provisioned enabled) := by
  unfold provision
  rw [if_neg (not_not_intro hs)]
  refine tends_act fun g => tends_act fun answer => ?_
  rcases answer with cause | plan
  · exact tends_pure ⟨rfl, rfl, .inl ⟨_, rfl, hs, rfl⟩⟩
  · exact tends_pure ⟨rfl, rfl, .inr ⟨g, _, rfl, rfl⟩⟩

end Server

end CalloutHost
