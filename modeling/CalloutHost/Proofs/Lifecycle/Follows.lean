import CalloutHost.Lifecycle.Server
import CalloutHost.Proofs.Lifecycle.Duties
import CalloutHost.Proofs.Lifecycle.Reach

/-!
# Programs that keep a ledger

A program follows a ledger (`Program.Follows`) if it does only what the ledger lets it do, whatever
it is answered, and so whatever others do in between. Every operation of the supervision begins and
ends with nothing to do, and one that ensures an engine or a collector ends with a service that it
has found in the slot or put there (`Ledger.Ensured`).
-/

namespace CalloutHost

open Program (perform)

/-! ## Following a ledger -/

namespace Program

variable {α β : Type} {k : ServiceKind}

/-- Whatever is answered, the program does what the ledger lets it do, and in the end its result and
its ledger are such. -/
def Follows : Program α → Ledger k → (α → Ledger k → Prop) → Prop
  | .done a, m, Q => Q a m
  | .act a next, m, Q =>
    ∀ answer, ∃ m', m.Takes (a.effect k answer) m' ∧ (next answer).Follows m' Q

/-- Whatever is answered, the program does nothing to the services of this kind. -/
def Avoids (k : ServiceKind) : Program α → Prop
  | .done _ => True
  | .act a next => ∀ answer, a.effect k answer = .none ∧ (next answer).Avoids k

/-- Whatever is answered, the result is such. -/
def Yields (P : α → Prop) : Program α → Prop
  | .done a => P a
  | .act _ next => ∀ answer, (next answer).Yields P

variable {m : Ledger k} {Q R : α → Ledger k → Prop} {P : α → Prop}

theorem follows_pure {a : α} (h : Q a m) : (pure a : Program α).Follows m Q := h

theorem follows_act {a : Action} {f : a.Answer → Program α}
    (h : ∀ answer, ∃ m', m.Takes (a.effect k answer) m' ∧ (f answer).Follows m' Q) :
    (perform a >>= f).Follows m Q := h

theorem Follows.mono {p : Program α} (h : p.Follows m Q) (hQ : ∀ a m', Q a m' → R a m') :
    p.Follows m R := by
  induction p generalizing m with
  | done a => exact hQ a m h
  | act a next ih =>
    intro answer
    obtain ⟨m', ht, hrest⟩ := h answer
    exact ⟨m', ht, ih answer hrest⟩

theorem Follows.bind {p : Program α} {f : α → Program β} {Q' : β → Ledger k → Prop}
    (h : p.Follows m Q) (hf : ∀ a m', Q a m' → (f a).Follows m' Q') : (p >>= f).Follows m Q' := by
  induction p generalizing m with
  | done a => exact hf a m h
  | act a next ih =>
    intro answer
    obtain ⟨m', ht, hrest⟩ := h answer
    exact ⟨m', ht, ih answer hrest⟩

theorem avoids_pure (a : α) : (pure a : Program α).Avoids k := trivial

theorem avoids_act {a : Action} {f : a.Answer → Program α}
    (h : ∀ answer, a.effect k answer = .none ∧ (f answer).Avoids k) :
    (perform a >>= f).Avoids k := h

theorem Avoids.bind {p : Program α} {f : α → Program β} (h : p.Avoids k)
    (hf : ∀ a, (f a).Avoids k) : (p >>= f).Avoids k := by
  induction p with
  | done a => exact hf a
  | act a next ih => exact fun answer => ⟨(h answer).1, ih answer (h answer).2⟩

theorem yields_pure {a : α} (h : P a) : (pure a : Program α).Yields P := h

theorem yields_of_forall {p : Program α} (h : ∀ a, P a) : p.Yields P := by
  induction p with
  | done a => exact h a
  | act a next ih => exact ih

theorem yields_true {p : Program α} : p.Yields fun _ => True := yields_of_forall fun _ => trivial

theorem Yields.mono {p : Program α} {R : α → Prop} (h : p.Yields P) (hR : ∀ a, P a → R a) :
    p.Yields R := by
  induction p with
  | done a => exact hR a h
  | act a next ih => exact fun answer => ih answer (h answer)

theorem yields_bind {p : Program α} {f : α → Program β} {P' : β → Prop} (h : p.Yields P)
    (hf : ∀ a, P a → (f a).Yields P') : (p >>= f).Yields P' := by
  induction p with
  | done a => exact hf a h
  | act a next ih => exact fun answer => ih answer (h answer)

/-- A program that does nothing to the services leaves the ledger as it is. -/
theorem Avoids.follows {p : Program α} (h : p.Avoids k) (hp : p.Yields P)
    (hQ : ∀ a, P a → Q a m) : p.Follows m Q := by
  induction p with
  | done a => exact hQ a hp
  | act a next ih =>
    intro answer
    rw [(h answer).1]
    exact ⟨m, .none, ih answer (h answer).2 (hp answer)⟩

theorem Avoids.follows_self {p : Program α} (h : p.Avoids k) : p.Follows m fun _ m' => m' = m :=
  h.follows yields_true fun _ _ => rfl

theorem Follows.and_yields {p : Program α} (h : p.Follows m Q) (hp : p.Yields P) :
    p.Follows m fun a m' => Q a m' ∧ P a := by
  induction p generalizing m with
  | done a => exact ⟨h, hp⟩
  | act a next ih =>
    intro answer
    obtain ⟨m', ht, hrest⟩ := h answer
    exact ⟨m', ht, ih answer hrest (hp answer)⟩

end Program

/-- The area of the services of a kind. -/
def ServiceKind.area : ServiceKind → Area
  | .engine => .engines
  | .collector => .collectors

/-- Only an action on services of a kind, or one that asks, has an effect on them. -/
theorem Action.effect_eq_none {k : ServiceKind} {a : Action} (hk : a.area ≠ k.area)
    (hn : a.area ≠ .none) (answer : a.Answer) : a.effect k answer = .none := by
  cases k <;> cases a <;> first | rfl | exact absurd rfl hk | exact absurd rfl hn

theorem Program.Within.avoids {α : Type} {k : ServiceKind} {p : Program α} {areas : List Area}
    (hp : p.Within areas) (hk : k.area ∉ areas) (hn : Area.none ∉ areas) : p.Avoids k := by
  induction p with
  | done a => trivial
  | act a next ih =>
    intro answer
    refine ⟨Action.effect_eq_none (fun h => hk (h ▸ hp.1)) (fun h => hn (h ▸ hp.1)) answer, ?_⟩
    exact ih answer (hp.2 answer)

/-! ## Supervision -/

/-- Whoever has asked for a service has nothing left to do. If they got one, they have found it in
the slot or put it there, and it has the options. -/
structure Ledger.Ensured {ε : Type} {k : ServiceKind} (m m' : Ledger k) (o : k.Options)
    (r : Except ε Nat) : Prop where
  idle : m'.duty = none
  awaited : m'.awaited = m.awaited
  /-- If there is a service, it is known, was in the slot, and was told the options. -/
  ok : ∀ x, r = .ok x → x ∈ m'.known ∧ m'.seen = some (some x) ∧ m'.told = some (x, o)

namespace Ledger.Ensured

variable {ε : Type} {k : ServiceKind} {m m' : Ledger k} {o : k.Options}

theorem found {x : Nat} (hidle : m'.duty = none) (hawaited : m'.awaited = m.awaited)
    (hknown : x ∈ m'.known) (hseen : m'.seen = some (some x)) (htold : m'.told = some (x, o)) :
    m.Ensured m' o (.ok x : Except ε Nat) where
  idle := hidle
  awaited := hawaited
  ok y hy := by
    cases hy
    exact ⟨hknown, hseen, htold⟩

/-- Of the ledger before, only who was waited for counts. -/
theorem of_awaited {before : Ledger k} {r : Except ε Nat} (h : before.Ensured m' o r)
    (hawaited : before.awaited = m.awaited) : m.Ensured m' o r where
  idle := h.idle
  awaited := h.awaited.trans hawaited
  ok := h.ok

end Ledger.Ensured

open Program (follows_act follows_pure avoids_act avoids_pure)

namespace Supervision

theorem launchEngine_follows (o : EngineOptions) {m : Ledger .engine} (h : m.duty = none) :
    (launchEngine o).Follows m fun r m' => m.Ensured m' o r := by
  refine follows_act fun answer => ?_
  rcases answer with fault | e
  · exact ⟨m, .none, follows_pure ⟨h, rfl, nofun⟩⟩
  refine ⟨_, .created (k := .engine) e o h, follows_act fun _ => ⟨_, .started e rfl, ?_⟩⟩
  refine follows_act fun answer => ?_
  rcases answer with fault | _
  · exact ⟨_, .none, follows_act fun _ =>
      ⟨_, .stopped e (.inl rfl), follows_pure ⟨rfl, rfl, nofun⟩⟩⟩
  refine ⟨_, .none, follows_act fun previous => ⟨_, .installed e previous rfl, ?_⟩⟩
  rcases previous with _ | previous
  · exact follows_pure (.found rfl rfl List.mem_cons_self rfl rfl)
  · refine follows_act fun _ => ⟨_, .stopped previous (.inr rfl), ?_⟩
    exact follows_pure (.found rfl rfl List.mem_cons_self rfl rfl)

theorem ensureEngine_follows (o : EngineOptions) {m : Ledger .engine} (h : m.duty = none) :
    (ensureEngine o).Follows m fun r m' => m.Ensured m' o r := by
  refine follows_act fun found => ⟨_, .looked found, ?_⟩
  rcases found with _ | e
  · exact (launchEngine_follows o (by exact h)).mono fun _ _ hm => hm.of_awaited rfl
  refine follows_act fun answer => ?_
  rcases answer with fault | _
  · refine ⟨_, .none, ?_⟩
    dsimp only
    split
    · refine follows_act fun _ => ⟨_, .dismissed e h (by simp), ?_⟩
      refine follows_act fun _ => ⟨_, .released e rfl, ?_⟩
      exact (launchEngine_follows o rfl).mono fun _ _ hm => hm.of_awaited rfl
    · exact follows_pure ⟨h, rfl, nofun⟩
  · exact ⟨_, .told (k := .engine) e o, follows_pure (.found h rfl (by simp) rfl rfl)⟩

/-- Whoever has waited for an engine has nothing left to do. If it accepts connections, they do not
know more than before. -/
theorem awaitEngine_follows {e : Nat} {m : Ledger .engine} (h : m.duty = none)
    (he : e ∈ m.known) :
    (awaitEngine e).Follows m fun r m' =>
      m'.duty = none ∧ (r = .ok () → m' = { m with awaited := e :: m.awaited }) := by
  refine follows_act fun answer => ⟨_, .awaited e, ?_⟩
  rcases answer with waited | _
  · refine follows_act fun _ => ⟨_, .dismissed e h he, ?_⟩
    exact follows_act fun _ => ⟨_, .released e rfl, follows_pure ⟨rfl, nofun⟩⟩
  · exact follows_pure ⟨h, fun _ => rfl⟩

theorem shutdownEngine_follows {m : Ledger .engine} (h : m.duty = none) :
    shutdownEngine.Follows m fun _ m' => m'.duty = none := by
  refine follows_act fun found => ⟨_, .taken found h, ?_⟩
  rcases found with _ | e
  · exact follows_pure rfl
  · intro _
    exact ⟨_, .stopped e (.inr rfl), rfl⟩

theorem launchCollector_follows (o : CollectorOptions) {m : Ledger .collector}
    (h : m.duty = none) : (launchCollector o).Follows m fun r m' => m.Ensured m' o r := by
  refine follows_act fun answer => ?_
  rcases answer with fault | c
  · exact ⟨m, .none, follows_pure ⟨h, rfl, nofun⟩⟩
  refine ⟨_, .created (k := .collector) c o h, follows_act fun answer => ?_⟩
  rcases answer with fault | _
  · exact ⟨_, .failed c rfl, follows_pure ⟨rfl, rfl, nofun⟩⟩
  refine ⟨_, .started c rfl, follows_act fun previous => ⟨_, .installed c previous rfl, ?_⟩⟩
  rcases previous with _ | previous
  · exact follows_pure (.found rfl rfl List.mem_cons_self rfl rfl)
  · refine follows_act fun _ => ⟨_, .stopped previous (.inr rfl), ?_⟩
    exact follows_pure (.found rfl rfl List.mem_cons_self rfl rfl)

theorem ensureCollector_follows (o : CollectorOptions) {m : Ledger .collector}
    (h : m.duty = none) : (ensureCollector o).Follows m fun r m' => m.Ensured m' o r := by
  refine follows_act fun found => ⟨_, .looked found, ?_⟩
  rcases found with _ | c
  · exact (launchCollector_follows o (by exact h)).mono fun _ _ hm => hm.of_awaited rfl
  refine follows_act fun answer => ?_
  rcases answer with fault | _
  · cases fault with
    | reloadUnsupported =>
      refine ⟨_, .none, follows_act fun _ => ⟨_, .dismissed c h (by simp), ?_⟩⟩
      refine follows_act fun _ => ⟨_, .released c rfl, ?_⟩
      exact (launchCollector_follows o rfl).mono fun _ _ hm => hm.of_awaited rfl
    | _ => exact ⟨_, .none, follows_pure ⟨h, rfl, nofun⟩⟩
  · exact ⟨_, .told (k := .collector) c o, follows_pure (.found h rfl (by simp) rfl rfl)⟩

theorem shutdownCollector_follows {m : Ledger .collector} (h : m.duty = none) :
    shutdownCollector.Follows m fun _ m' => m'.duty = none := by
  refine follows_act fun found => ⟨_, .taken found h, ?_⟩
  rcases found with _ | c
  · exact follows_pure rfl
  · intro _
    exact ⟨_, .stopped c (.inr rfl), rfl⟩

/-! ### The other kind -/

theorem launchEngine_avoids (o : EngineOptions) : (launchEngine o).Avoids .collector := by
  refine avoids_act fun answer => ⟨rfl, ?_⟩
  rcases answer with fault | e
  · exact avoids_pure _
  refine avoids_act fun _ => ⟨rfl, avoids_act fun answer => ⟨rfl, ?_⟩⟩
  rcases answer with fault | _
  · exact avoids_act fun _ => ⟨rfl, avoids_pure _⟩
  refine avoids_act fun previous => ⟨rfl, ?_⟩
  rcases previous with _ | previous
  · exact avoids_pure _
  · exact avoids_act fun _ => ⟨rfl, avoids_pure _⟩

theorem ensureEngine_avoids (o : EngineOptions) : (ensureEngine o).Avoids .collector := by
  refine avoids_act fun found => ⟨rfl, ?_⟩
  rcases found with _ | e
  · exact launchEngine_avoids o
  refine avoids_act fun answer => ⟨rfl, ?_⟩
  rcases answer with fault | _
  · dsimp only
    split
    · exact avoids_act fun _ => ⟨rfl, avoids_act fun _ => ⟨rfl, launchEngine_avoids o⟩⟩
    · exact avoids_pure _
  · exact avoids_pure _

theorem awaitEngine_avoids (e : Nat) : (awaitEngine e).Avoids .collector := by
  refine avoids_act fun answer => ⟨rfl, ?_⟩
  rcases answer with waited | _
  · exact avoids_act fun _ => ⟨rfl, avoids_act fun _ => ⟨rfl, avoids_pure _⟩⟩
  · exact avoids_pure _

theorem shutdownEngine_avoids : shutdownEngine.Avoids .collector :=
  shutdownEngine_within.avoids (by decide) (by decide)

theorem ensureCollector_avoids (o : CollectorOptions) : (ensureCollector o).Avoids .engine := by
  have hlaunch : (launchCollector o).Avoids .engine :=
    (launchCollector_within o).avoids (by decide) (by decide)
  refine avoids_act fun found => ⟨rfl, ?_⟩
  rcases found with _ | c
  · exact hlaunch
  refine avoids_act fun answer => ⟨rfl, ?_⟩
  rcases answer with fault | _
  · cases fault with
    | reloadUnsupported => exact avoids_act fun _ => ⟨rfl, avoids_act fun _ => ⟨rfl, hlaunch⟩⟩
    | _ => exact avoids_pure _
  · exact avoids_pure _

theorem shutdownCollector_avoids : shutdownCollector.Avoids .engine :=
  shutdownCollector_within.avoids (by decide) (by decide)

end Supervision

end CalloutHost
