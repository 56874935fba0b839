import CalloutHost.Lifecycle.Interleave
import CalloutHost.Lifecycle.Script
import CalloutHost.Proofs.Lifecycle.ServerDuties

/-!
# Late stops

One server is stopped while another is provisioned and started, the actions of the two alternating
in any way. Both keep a ledger: the one that leaves puts nothing into the slots, and the one that
comes knows what is in them unless they were emptied since it has looked (`Overlap.Watched.step`).
So in the end the engine and the collector that it has adopted run and are in the slots, unless the
other one has emptied these later (`Fleet.late_stop`).

The server that leaves asks once whether its generation is the latest. Where it asks when the other
one has captured a generation, or where it was not the latest anyway, it empties nothing
(`Overlap.Asked.step`). Where it asks before, it does not ask again when it empties the slots, and
so it takes away the engine that the other one has meanwhile started on (`Fleet.late_stop_taken`).
-/

namespace CalloutHost

/-! ## What is noted -/

namespace Effect

variable {k : ServiceKind}

/-- The slot was looked into, or something was put there. -/
@[simp] def visits : Effect k → Bool
  | .looked _ => true
  | .installed _ _ => true
  | _ => false

/-- The slot was emptied. -/
@[simp] def empties : Effect k → Bool
  | .taken _ => true
  | _ => false

end Effect

namespace Action

theorem visits_eq (k : ServiceKind) (a : Action) (answer : a.Answer) :
    a.visits k = (a.effect k answer).visits := by
  cases k <;> cases a <;> first | rfl | (rcases answer with _ | _ <;> rfl)

theorem empties_eq (k : ServiceKind) (a : Action) (answer : a.Answer) :
    a.empties k = (a.effect k answer).empties := by
  cases k <;> cases a <;> first | rfl | (rcases answer with _ | _ <;> rfl)

theorem effect_eq_awaited_iff (a : Action) (answer : a.Answer) (e : Nat) :
    a.effect .engine answer = .awaited e ↔ a = .awaitEngine e := by
  cases a with
  | awaitEngine x =>
    exact ⟨fun h => congrArg _ (Effect.awaited.inj h), fun h => congrArg _ (awaitEngine.inj h)⟩
  | createEngine _ | reloadEngine _ _ => rcases answer with _ | _ <;> exact ⟨nofun, nofun⟩
  | _ => exact ⟨nofun, nofun⟩

end Action

/-! ## What a party knows of the slot and of options -/

namespace Ledger

variable {k : ServiceKind} {m m' : Ledger k} {eff : Effect k} {v : Services k} {emptied : Bool}

/-- The slot holds what the party has seen there, unless it was emptied since. -/
def Sees (m : Ledger k) (v : Services k) (emptied : Bool) : Prop :=
  ∀ found, m.seen = some found → v.slot.holder = if emptied then none else found

/-- The service that the party has told something last has these options. -/
def Tells (m : Ledger k) (v : Services k) : Prop :=
  ∀ x o, m.told = some (x, o) → x < v.count → v.options x = o

theorem Takes.sees (ht : m.Takes eff m') (hfits : eff.Fits v) (h : m.Sees v emptied) :
    m'.Sees (eff.apply v) (emptied && !eff.visits) := by
  intro found hfound
  cases ht with
  | looked x =>
    cases hfound
    change v.slot.holder = _
    simpa using hfits.symm
  | installed x previous =>
    cases hfound
    simp [Effect.apply, Slot.put]
  | taken x =>
    cases hfound
    simp [Effect.apply, Slot.empty]
  | released x hduty =>
    obtain ⟨before, hbefore, rfl⟩ := Option.map_eq_some_iff.1 hfound
    rw [Effect.holder_apply_released, h before hbefore]
    cases emptied <;> simp
  | _ =>
    change v.slot.holder = _
    simpa using h found hfound

theorem Takes.tells (ht : m.Takes eff m') (hfits : eff.Fits v) (h : m.Tells v) :
    m'.Tells (eff.apply v) := by
  intro y o htold hy
  cases ht with
  | created x =>
    cases htold
    exact Function.update_self ..
  | told x =>
    cases htold
    exact if_pos ⟨rfl, hy⟩
  | _ => exact h y o htold hy

theorem Takes.mem_awaited (ht : m.Takes eff m') (x : Nat) :
    x ∈ m'.awaited ↔ x ∈ m.awaited ∨ eff = .awaited x := by
  cases ht with
  | awaited y => simp [or_comm, eq_comm]
  | _ => simp

/-- Whoever retreats empties the slot or leaves it as it is. -/
theorem Sees.retreat (h : m.Sees v emptied) (heff : eff.Retreats) :
    m.Sees (eff.apply v) (emptied || eff.empties) := by
  intro found hfound
  cases eff with
  | taken x => simp [Effect.apply, Slot.empty]
  | none | stopped x =>
    change v.slot.holder = _
    simpa using h found hfound
  | _ => exact heff.elim

theorem Tells.retreat (h : m.Tells v) (heff : eff.Retreats) : m.Tells (eff.apply v) := by
  cases eff with
  | none | stopped x | taken x => exact h
  | _ => exact heff.elim

end Ledger

/-! ## Steps -/

namespace Overlap

variable {σ : Type} {k : ServiceKind}

section Past

variable {x y : Overlap σ} {a : Action}

theorem emptied_leaving (hpast : y.past = x.past ++ [(.leaving, a)]) (k : ServiceKind) :
    y.emptied k = (x.emptied k || a.empties k) := by
  rw [emptied, hpast, List.foldl_append]
  rfl

theorem emptied_coming (hpast : y.past = x.past ++ [(.coming, a)]) (k : ServiceKind) :
    y.emptied k = (x.emptied k && !a.visits k) := by
  rw [emptied, hpast, List.foldl_append]
  rfl

theorem questions_leaving (hpast : y.past = x.past ++ [(.leaving, a)]) :
    y.questions = (x.questions.1, x.questions.2 && (x.questions.1 || !a.asks)) := by
  rw [questions, hpast, List.foldl_append]
  rfl

theorem questions_coming (hpast : y.past = x.past ++ [(.coming, a)]) :
    y.questions = (x.questions.1 || a.captures, x.questions.2) := by
  rw [questions, hpast, List.foldl_append]
  rfl

end Past

variable [Outside σ] {x : Overlap σ} {party : Party}

theorem step_of_done {r : Except ServerError Unit × Server} (h : x.rest party = .done r) :
    x.step party = x := by
  rw [step, h]

/-- The server whose turn it is not has as much left to do as before. -/
theorem rest_step_of_ne {other : Party} (hne : other ≠ party) :
    (x.step party).rest other = x.rest other := by
  rw [step]
  split
  · rfl
  · exact Function.update_of_ne hne ..

section Acting

variable {a : Action} {next : a.Answer → Program (Except ServerError Unit × Server)}

theorem step_of_act (h : x.rest party = .act a next) :
    x.step party =
      { world := (x.world.exec a).2
        rest := Function.update x.rest party (next (x.world.exec a).1)
        past := x.past ++ [(party, a)] } := by
  rw [step, h]

theorem world_step (h : x.rest party = .act a next) :
    (x.step party).world = (x.world.exec a).2 := by
  rw [step_of_act h]

theorem rest_step (h : x.rest party = .act a next) :
    (x.step party).rest party = next (x.world.exec a).1 := by
  rw [step_of_act h]
  exact Function.update_self ..

theorem past_step (h : x.rest party = .act a next) :
    (x.step party).past = x.past ++ [(party, a)] := by
  rw [step_of_act h]

theorem services_step (h : x.rest party = .act a next) (k : ServiceKind) :
    (x.step party).world.services k =
      (a.effect k (x.world.exec a).1).apply (x.world.services k) := by
  rw [world_step h, World.services_exec]

end Acting

/-! ## Services -/

/-- A server that has come is done, and has done what its plan asks for if it was to run. -/
def Comes (r : Except ServerError Unit × Server) (m : Ledger k) : Prop :=
  m.duty = none ∧ (r.1 = .ok () → ∃ plan, r.2.plan = some plan ∧
    (plan.enabled = true → (Ledger.new []).Fulfils m plan))

/-- All services are in the custody of both servers, and the server that comes knows what is in the
slot, if it was not emptied since. -/
structure Watched (x : Overlap σ) (m : Party → Ledger k) : Prop where
  custody : ∀ y, Custody (x.world.services k) m y
  leaving : (x.rest .leaving).Follows (m .leaving) fun _ m' => m'.duty = none
  /-- It puts nothing into the slot. -/
  retreats : (x.rest .leaving).Retreats k
  coming : (x.rest .coming).Follows (m .coming) Comes
  /-- It knows what is in the slot. -/
  sees : (m .coming).Sees (x.world.services k) (x.emptied k)
  tells : (m .coming).Tells (x.world.services k)
  awaited : k = .engine → ∀ e, (.coming, .awaitEngine e) ∈ x.past ↔ e ∈ (m .coming).awaited

variable {m : Party → Ledger k} {a : Action}
  {next : a.Answer → Program (Except ServerError Unit × Server)}

theorem Watched.leave (h : x.Watched m) (hrest : x.rest .leaving = .act a next) :
    ∃ m' : Party → Ledger k, (x.step .leaving).Watched m' := by
  have hleaving := h.leaving
  have hretreats := h.retreats
  rw [hrest] at hleaving hretreats
  obtain ⟨after, ht, hnext⟩ := hleaving (x.world.exec a).1
  obtain ⟨heffect, hnext'⟩ := hretreats (x.world.exec a).1
  have hother : Function.update m .leaving after .coming = m .coming :=
    Function.update_of_ne (by decide) ..
  refine ⟨Function.update m .leaving after, fun y => ?_, ?_, ?_, ?_, ?_, ?_, fun hk e => ?_⟩
  · rw [services_step hrest]
    exact Custody.step h.custody (i := .leaving) (by rwa [Function.update_self])
      (fun j hj => Function.update_of_ne hj ..) (x.world.effect_fits a k) y
  · rwa [rest_step hrest, Function.update_self]
  · rwa [rest_step hrest]
  · rw [rest_step_of_ne (by decide), hother]
    exact h.coming
  · rw [hother, services_step hrest, emptied_leaving (past_step hrest),
      a.empties_eq k (x.world.exec a).1]
    exact h.sees.retreat heffect
  · rw [hother, services_step hrest]
    exact h.tells.retreat heffect
  · rw [hother, past_step hrest, ← h.awaited hk e]
    simp

theorem Watched.come (h : x.Watched m) (hrest : x.rest .coming = .act a next) :
    ∃ m' : Party → Ledger k, (x.step .coming).Watched m' := by
  have hcoming := h.coming
  rw [hrest] at hcoming
  obtain ⟨after, ht, hnext⟩ := hcoming (x.world.exec a).1
  have hfits := x.world.effect_fits a k
  have hother : Function.update m .coming after .leaving = m .leaving :=
    Function.update_of_ne (by decide) ..
  refine ⟨Function.update m .coming after, fun y => ?_, ?_, ?_, ?_, ?_, ?_, fun hk e => ?_⟩
  · rw [services_step hrest]
    exact Custody.step h.custody (i := .coming) (by rwa [Function.update_self])
      (fun j hj => Function.update_of_ne hj ..) hfits y
  · rw [rest_step_of_ne (by decide), hother]
    exact h.leaving
  · rw [rest_step_of_ne (by decide)]
    exact h.retreats
  · rwa [rest_step hrest, Function.update_self]
  · rw [Function.update_self, services_step hrest, emptied_coming (past_step hrest),
      a.visits_eq k (x.world.exec a).1]
    exact ht.sees hfits h.sees
  · rw [Function.update_self, services_step hrest]
    exact ht.tells hfits h.tells
  · subst hk
    rw [Function.update_self, past_step hrest, ht.mem_awaited, ← h.awaited rfl e,
      a.effect_eq_awaited_iff]
    simp [eq_comm]

theorem Watched.step (h : x.Watched m) (party : Party) :
    ∃ m' : Party → Ledger k, (x.step party).Watched m' := by
  cases hrest : x.rest party with
  | done r =>
    rw [step_of_done hrest]
    exact ⟨m, h⟩
  | act a next =>
    cases party with
    | leaving => exact h.leave hrest
    | coming => exact h.come hrest

theorem Watched.run (h : x.Watched m) (turns : List Party) :
    ∃ m' : Party → Ledger k, (x.run turns).Watched m' := by
  induction turns generalizing x m with
  | nil => exact ⟨m, h⟩
  | cons party turns ih =>
    obtain ⟨m', h'⟩ := h.step party
    exact ih h'

omit [Outside σ] in
theorem watched_new {w : World σ} (hw : w.Settled) (leaving : Server) {coming : Server}
    (hs : coming.Sound) (k : ServiceKind) :
    (new w leaving coming).Watched fun _ => Ledger.new (k := k) [] where
  custody y := hw.custody k y
  leaving := leaving.leave_follows rfl
  retreats := leaving.leave_retreats
  coming := Server.come_follows hs rfl
  sees _ := nofun
  tells _ _ := nofun
  awaited _ e := by simp [new, Ledger.new]

/-- What the server that has come leaves, where its plan has it run. -/
structure Arrived (x : Overlap σ) (plan : Provisioned) : Prop where
  /-- The engine that it has waited for runs and is in the slot, if that was not emptied since. -/
  engine : ∃ e, (∀ y, (.coming, .awaitEngine y) ∈ x.past ↔ y = e) ∧
    (x.emptied .engine = false → x.world.engineSlot.holder = some e ∧ x.world.engineRuns e = true)
  /-- A collector with the options of its plan runs and is in the slot, if that was not emptied. -/
  collector : ∀ o, plan.collector = some o → x.emptied .collector = false →
    ∃ c, x.world.HoldsCollector c o ∧ x.world.collectorRuns c = true

omit [Outside σ] in
theorem exists_done (h : (x.rest party).result?.isSome = true) : ∃ r, x.rest party = .done r := by
  cases hrest : x.rest party with
  | done r => exact ⟨r, rfl⟩
  | act a next =>
    rw [hrest] at h
    exact nomatch h

omit [Outside σ] in
/-- Where nobody has anything left to do, what is in the slot runs. -/
theorem Watched.runs (h : x.Watched m) (hidle : ∀ party, (m party).duty = none) {c : Nat}
    (hc : (x.world.services k).slot.holder = some c) : (x.world.services k).runs c = true := by
  refine ((h.custody c).alive hc).resolve_right fun ⟨party, hduty⟩ => ?_
  exact nomatch (hidle party).symm.trans hduty

omit [Outside σ] in
/-- When both servers are done, nobody has anything left to do, and the server that has come has
done what its plan asks for. -/
theorem Watched.comes (h : x.Watched m) {r : Except ServerError Unit × Server} {b : Server}
    (hleaving : x.rest .leaving = .done r) (hcoming : x.rest .coming = .done (.ok (), b)) :
    (∀ party, (m party).duty = none) ∧
      ∃ plan, b.plan = some plan ∧
        (plan.enabled = true → (Ledger.new []).Fulfils (m .coming) plan) := by
  have hl := h.leaving
  have hc := h.coming
  rw [hleaving] at hl
  rw [hcoming] at hc
  refine ⟨fun party => ?_, hc.2 rfl⟩
  cases party with
  | leaving => exact hl
  | coming => exact hc.1

/-! ## Questions -/

/-- What the server that leaves has asked, and what it has learned. -/
structure Asked (x : Overlap σ) (own : Option Generation) (superseded : Prop) : Prop where
  leaving : (x.rest .leaving).Within [.engines, .collectors, .clients, .none]
  coming : (x.rest .coming).Within [.engines, .collectors, .clients, .secrets, .none] ∨
    ∃ next, x.rest .coming = .act .capture next ∧
      (∀ g, (next g).Within [.engines, .collectors, .clients, .secrets, .none]) ∧
      x.world.generations.count.toNat + 1 < 2 ^ 64
  captured : ∀ g, own = some g → g.number.toNat ≤ x.world.generations.count.toNat
  /-- Its generation is not the latest, be it from the beginning or since another was captured. -/
  older : superseded ∨ x.questions.1 = true →
    ∀ g, own = some g → g.number.toNat < x.world.generations.count.toNat
  /-- If it asked only once that was so, it has emptied nothing, and will not while that is so. -/
  refrains : superseded ∨ x.questions.2 = true →
    (x.rest .leaving).Refrains own ∧ ∀ k, x.emptied k = false

variable {own : Option Generation} {superseded : Prop}

/-- What is older than the latest is not the latest. -/
theorem denies_of_older {w : World σ} {a : Action} (h : a.asks = true → ∀ g, own = some g →
    g.number.toNat < w.generations.count.toNat) : a.Denies own (w.exec a).1 := by
  cases a with
  | isCurrent g =>
    intro hown
    have hlt := h rfl g hown
    refine decide_eq_false fun he => ?_
    rw [he] at hlt
    exact Nat.lt_irrefl _ hlt
  | _ => trivial

theorem Asked.leave (h : x.Asked own superseded) (hrest : x.rest .leaving = .act a next) :
    (x.step .leaving).Asked own superseded := by
  have hwithin := h.leaving
  rw [hrest] at hwithin
  have hgen : (x.step .leaving).world.generations = x.world.generations := by
    rw [world_step hrest]
    exact x.world.exec_generations fun ha => absurd (ha ▸ hwithin.1) (by decide)
  refine ⟨?_, ?_, ?_, ?_, fun hlate => ?_⟩
  · rw [rest_step hrest]
    exact hwithin.2 _
  · rw [rest_step_of_ne (by decide), hgen]
    exact h.coming
  · rw [hgen]
    exact h.captured
  · rw [questions_leaving (past_step hrest), hgen]
    exact h.older
  · rw [questions_leaving (past_step hrest), Bool.and_eq_true, Bool.or_eq_true] at hlate
    obtain ⟨hrefrains, hkept⟩ := h.refrains (hlate.imp_right And.left)
    rw [hrest] at hrefrains
    obtain ⟨hempties, hnext⟩ := hrefrains
    -- what it asks it asks when its generation is no longer the latest
    have hdenied : a.Denies own (x.world.exec a).1 := denies_of_older fun hasks =>
      h.older (hlate.imp_right fun hq => hq.2.resolve_right (by simp [hasks]))
    refine ⟨?_, fun k => ?_⟩
    · rw [rest_step hrest]
      exact hnext _ hdenied
    · rw [emptied_leaving (past_step hrest), hkept k, hempties k]
      rfl

/-- The server that comes captures nothing, or the next generation, and then no other. -/
theorem Asked.captures (h : x.Asked own superseded) (hrest : x.rest .coming = .act a next) :
    ((x.step .coming).rest .coming).Within [.engines, .collectors, .clients, .secrets, .none] ∧
      (a.captures = false ∧ (x.step .coming).world.generations = x.world.generations ∨
        (x.step .coming).world.generations.count.toNat = x.world.generations.count.toNat + 1) := by
  rw [rest_step hrest, world_step hrest]
  rcases h.coming with hwithin | ⟨next', hcapture, hwithin, hcount⟩
  · rw [hrest] at hwithin
    have harea : a.area ≠ .generations := fun ha => absurd (ha ▸ hwithin.1) (by decide)
    refine ⟨hwithin.2 _, .inl ⟨?_, x.world.exec_generations harea⟩⟩
    cases a <;> first | rfl | exact absurd rfl harea
  · rw [hrest] at hcapture
    cases hcapture
    exact ⟨hwithin _, .inr (Generations.toNat_capture hcount)⟩

theorem Asked.come (h : x.Asked own superseded) (hrest : x.rest .coming = .act a next) :
    (x.step .coming).Asked own superseded := by
  obtain ⟨hwithin, hgen⟩ := h.captures hrest
  refine ⟨?_, .inl hwithin, fun g hg => ?_, fun holder g hg => ?_, fun hlate => ?_⟩
  · rw [rest_step_of_ne (by decide)]
    exact h.leaving
  · have hbefore := h.captured g hg
    rcases hgen with ⟨-, hsame⟩ | hnext
    · rwa [hsame]
    · omega
  · have hbefore := h.captured g hg
    rcases hgen with ⟨hnot, hsame⟩ | hnext
    · rw [questions_coming (past_step hrest), hnot, Bool.or_false] at holder
      rw [hsame]
      exact h.older holder g hg
    · omega
  · rw [questions_coming (past_step hrest)] at hlate
    obtain ⟨hrefrains, hkept⟩ := h.refrains hlate
    refine ⟨?_, fun k => ?_⟩
    · rwa [rest_step_of_ne (by decide)]
    · rw [emptied_coming (past_step hrest), hkept k]
      rfl

theorem Asked.step (h : x.Asked own superseded) (party : Party) :
    (x.step party).Asked own superseded := by
  cases hrest : x.rest party with
  | done r =>
    rw [step_of_done hrest]
    exact h
  | act a next =>
    cases party with
    | leaving => exact h.leave hrest
    | coming => exact h.come hrest

theorem Asked.run (h : x.Asked own superseded) (turns : List Party) :
    (x.run turns).Asked own superseded := by
  induction turns generalizing x with
  | nil => exact h
  | cons party turns ih => exact ih (h.step party)

omit [Outside σ] in
theorem asked_new {w : World σ} {leaving : Server} (coming : Server)
    (hcaptured : ∀ g, leaving.generation = some g →
      g.number.toNat ≤ w.generations.count.toNat)
    (hcount : w.generations.count.toNat + 1 < 2 ^ 64) :
    (new w leaving coming).Asked leaving.generation (¬leaving.IsLatest w) where
  leaving := leaving.leave_within
  coming := by
    refine coming.come_cases.imp_right ?_
    rintro ⟨next, hcome, hwithin⟩
    exact ⟨next, hcome, hwithin, hcount⟩
  captured := hcaptured
  older holder g hg := by
    have hnot := holder.resolve_right Bool.false_ne_true
    refine Nat.lt_of_le_of_ne (hcaptured g hg) fun he => hnot ⟨g, hg, ?_⟩
    exact decide_eq_true (UInt64.toNat_inj.1 he.symm)
  refrains _ := ⟨leaving.leave_refrains, fun _ => rfl⟩

end Overlap

/-! ## Fleets -/

namespace Fleet

variable {σ : Type} [Outside σ] {f : Fleet σ}

/-- No server has a generation above the latest. -/
def Numbered (f : Fleet σ) : Prop :=
  ∀ i g, (f.servers i).generation = some g →
    g.number.toNat ≤ f.world.generations.count.toNat

omit [Outside σ] in
theorem numbered_new (outside : σ) (supply : SeedSupply) (patience : Nanoseconds)
    (settings : Nat → Settings) : (new outside supply patience settings).Numbered :=
  fun _ g hg => absurd hg.symm (Option.some_ne_none g)

theorem Numbered.obey_of_captures (h : f.Numbered) {c : FleetCommand} (hc : f.captures c = true)
    (hcount : f.world.generations.count.toNat + 1 < 2 ^ 64) :
    (f.obey c).Numbered ∧ (f.obey c).world.generations.count.toNat =
      f.world.generations.count.toNat + 1 := by
  obtain ⟨hgen, hown, -⟩ := obey_captures hc
  have hnext : (f.obey c).world.generations.count.toNat =
      f.world.generations.count.toNat + 1 := by
    rw [hgen]
    exact Generations.toNat_capture hcount
  refine ⟨fun i g hg => ?_, hnext⟩
  by_cases hi : i = c.server
  · subst hi
    rw [hown] at hg
    cases hg
    rw [hgen]
    exact Nat.le_refl _
  · rw [servers_obey_of_ne f hi] at hg
    have := h i g hg
    omega

theorem Numbered.obey_of_not (h : f.Numbered) {c : FleetCommand} (hc : f.captures c = false) :
    (f.obey c).Numbered := by
  obtain ⟨hgen, hservers⟩ := obey_advances hc
  intro i g hg
  rw [(hservers i).generation] at hg
  rw [hgen]
  exact h i g hg

theorem Numbered.obeyAll (h : f.Numbered) {commands : List FleetCommand}
    (hcount : f.world.generations.count.toNat + (f.captured commands).length < 2 ^ 64) :
    (f.obeyAll commands).Numbered ∧ (f.obeyAll commands).world.generations.count.toNat =
      f.world.generations.count.toNat + (f.captured commands).length := by
  induction commands generalizing f with
  | nil => exact ⟨h, rfl⟩
  | cons c commands ih =>
    cases hc : f.captures c with
    | true =>
      rw [captured_cons_of_captures hc, List.length_cons] at hcount ⊢
      obtain ⟨hnumbered, hnext⟩ := h.obey_of_captures hc (by omega)
      obtain ⟨hall, hlast⟩ := ih hnumbered (by omega)
      exact ⟨hall, by rw [obeyAll_cons, hlast, hnext]; omega⟩
    | false =>
      rw [captured_cons_of_not hc] at hcount ⊢
      rw [← (obey_advances hc).1] at hcount ⊢
      exact ih (h.obey_of_not hc) hcount

/-- What is left after one server was stopped while another was provisioned and started. -/
structure ChangesOver (x : Overlap σ) (superseded : Prop) : Prop where
  /-- Where the start succeeds, the server has a plan, and what the plan asks for runs and is in the
  slots in the end, unless they were emptied after the server had looked into them or put it
  there. -/
  comes : ∀ r b, x.rest .leaving = .done r → x.rest .coming = .done (.ok (), b) →
    ∃ plan, b.plan = some plan ∧ (plan.enabled = true → x.Arrived plan)
  /-- They were not emptied if the generation of the server that is stopped was not the latest in
  the first place, or if the server asks only when the other one has captured its own. -/
  kept : superseded ∨ x.questions.2 = true → ∀ k, x.emptied k = false

/-- In a fresh process, whatever its servers were told before and whatever is answered from outside:
while one server is stopped another is provisioned and started, their actions alternating in any
way. If the start succeeds, the engine that the server has adopted runs and is in the slot, and so
is its collector, where the server that is stopped did not take it out after the other one had found
it or put it there. It does not do so when it asks late. -/
theorem late_stop (outside : σ) (supply : SeedSupply) (patience : Nanoseconds)
    (settings : Nat → Settings) (commands : List FleetCommand) (i j : Nat) (turns : List Party)
    (hcount : ((new outside supply patience settings).captured commands).length + 1 < 2 ^ 64) :
    let f := (new outside supply patience settings).obeyAll commands
    let x := (Overlap.new f.world (f.servers i) (f.servers j)).run turns
    ChangesOver x (¬(f.servers i).IsLatest f.world) := by
  intro f x
  have hfresh : (new outside supply patience settings).Fresh :=
    fresh_new outside supply patience settings
  have hsound : f.Sound := hfresh.sound.obeyAll commands
  have hzero : (new outside supply patience settings).world.generations.count.toNat = 0 := rfl
  obtain ⟨hnumbered, hlast⟩ : f.Numbered ∧ f.world.generations.count.toNat =
      ((new outside supply patience settings).captured commands).length := by
    have hall := (numbered_new outside supply patience settings).obeyAll
      (show _ + (captured _ commands).length < _ by omega)
    rwa [hzero, Nat.zero_add] at hall
  refine ⟨fun r b hleaving hcoming => ?_, fun hlate => ?_⟩
  · have hwatched := Overlap.watched_new hsound.settled (f.servers i) (hsound.servers j)
    obtain ⟨m, h⟩ := (hwatched .engine).run turns
    obtain ⟨m', h'⟩ := (hwatched .collector).run turns
    obtain ⟨hidle, plan, hplan, hengine⟩ := h.comes hleaving hcoming
    obtain ⟨hidle', plan', hplan', hcollector⟩ := h'.comes hleaving hcoming
    cases hplan.symm.trans hplan'
    refine ⟨plan, hplan, fun henabled => ⟨?_, fun o ho hkept => ?_⟩⟩
    · obtain ⟨e, hawaited, hseen⟩ := hengine henabled
      refine ⟨e, fun y => ?_, fun hkept => ?_⟩
      · rw [h.awaited rfl y, hawaited]
        simp [Ledger.new]
      · have hheld := h.sees _ hseen
        rw [hkept] at hheld
        exact ⟨hheld, h.runs hidle hheld⟩
    · obtain ⟨c, hseen, htold⟩ := hcollector henabled o ho
      have hheld := h'.sees _ hseen
      rw [hkept] at hheld
      exact ⟨c, ⟨hheld, h'.tells c o htold ((h'.custody c).held hheld)⟩, h'.runs hidle' hheld⟩
  · have hasked := Overlap.asked_new (f.servers j) (hnumbered i) (by omega)
    exact ((hasked.run turns).refrains hlate).2

/-- The two servers change over side by side, the first asking when the second has captured its
generation. The second takes over the engine with other options. -/
theorem late_stop_alternating :
    let script : Script := Script.new true
    let supply : SeedSupply := ⟨fun n => List.replicate 32 (UInt8.ofNat n), 0⟩
    let settings (i : Nat) : Settings :=
      { Settings.empty with port := some 4500, debug := i = 1 }
    let commands : List FleetCommand := [⟨0, .provision⟩, ⟨0, .start⟩]
    let turns : List Party := .coming :: (List.replicate 20 [Party.leaving, .coming]).flatten
    let f := (new script supply World.defaultPatience settings).obeyAll commands
    let x := (Overlap.new f.world (f.servers 0) (f.servers 1)).run turns
    (f.servers 0).state = .started ∧
      (∃ b plan, x.rest .coming = .done (.ok (), b) ∧ b.plan = some plan ∧
        plan.enabled = true ∧ x.Arrived plan) ∧
      (∀ k, x.emptied k = false) ∧ x.world.engineSlot.holder = some 0 ∧
      (x.world.engine 0).options.debug = true := by
  intro script supply settings commands turns f x
  have hcount : ((new script supply World.defaultPatience settings).captured commands).length + 1 <
      2 ^ 64 := by decide +kernel
  have hlate : ∀ g, (new script supply World.defaultPatience settings).obeyAll commands = g →
      ChangesOver ((Overlap.new g.world (g.servers 0) (g.servers 1)).run turns)
        (¬(g.servers 0).IsLatest g.world) := by
    rintro g rfl
    exact late_stop script supply World.defaultPatience settings commands 0 1 turns hcount
  have hlate : ChangesOver x (¬(f.servers 0).IsLatest f.world) := hlate f rfl
  have hleft : (x.rest .leaving).result?.isSome = true := by decide +kernel
  have hcame : (x.rest .coming).result?.any
      (fun r => r.1.toBool && r.2.plan.any (·.enabled)) = true := by decide +kernel
  have hquestions : x.questions.2 = true := by decide +kernel
  have hslot : x.world.engineSlot.holder = some 0 ∧ (x.world.engine 0).options.debug = true := by
    decide +kernel
  refine ⟨by decide +kernel, ?_⟩
  clear_value x
  obtain ⟨r, hleaving⟩ := Overlap.exists_done hleft
  cases hcoming : x.rest .coming with
  | act a next =>
    rw [hcoming] at hcame
    exact nomatch hcame
  | done ended =>
    rw [hcoming] at hcame
    obtain ⟨hok, henabled⟩ := Bool.and_eq_true_iff.1 hcame
    obtain ⟨_ | _, b⟩ := ended
    · exact nomatch hok
    · obtain ⟨plan, hplan, harrived⟩ := hlate.comes r b hleaving hcoming
      rw [hplan] at henabled
      exact ⟨⟨b, plan, rfl, hplan, henabled, harrived henabled⟩, hlate.kept (.inr hquestions),
        hslot⟩

/-- The first server asks before the second captures its generation, and empties the slot when the
second has taken over the engine in it and has started. The generation of the second is the latest,
and no engine is left to it. -/
theorem late_stop_taken :
    let script : Script := Script.new true
    let supply : SeedSupply := ⟨fun n => List.replicate 32 (UInt8.ofNat n), 0⟩
    let settings (_ : Nat) : Settings := { Settings.empty with port := some 4500 }
    let commands : List FleetCommand := [⟨0, .provision⟩, ⟨0, .start⟩]
    let turns : List Party :=
      List.replicate 2 .leaving ++ List.replicate 10 .coming ++ List.replicate 3 .leaving
    let f := (new script supply World.defaultPatience settings).obeyAll commands
    let x := (Overlap.new f.world (f.servers 0) (f.servers 1)).run turns
    (f.servers 0).state = .started ∧ (x.rest .leaving).result?.isSome = true ∧
      (x.rest .coming).result?.any (fun r => r.1.toBool && r.2.plan.any (·.enabled) &&
        r.2.generation.any x.world.generations.isCurrent) = true ∧
      x.world.engineSlot.holder = none ∧ x.world.engines.length = 1 ∧
      x.world.engineRuns 0 = false := by
  decide +kernel

end Fleet

end CalloutHost
