import CalloutHost.Proofs.Lifecycle.Collectors
import CalloutHost.Proofs.Lifecycle.Engines
import CalloutHost.Proofs.Lifecycle.Reach

/-!
# What a server leaves behind

In a process whose slots govern its engines and collectors (`World.Settled`), a server that stops
leaves nothing if its generation is the latest, and everything as it was otherwise
(`Server.stop_spec`).
-/

namespace CalloutHost

namespace World

variable {σ α : Type}

/-- What runs is what the slots hold. -/
structure Settled (w : World σ) : Prop where
  engines : w.EnginesSettled
  collectors : w.CollectorsSettled

/-- Nothing runs and nothing is held. -/
structure Quiet (w : World σ) : Prop where
  engineSlot : w.engineSlot.holder = none
  collectorSlot : w.collectorSlot.holder = none
  engines : ∀ e, w.engineRuns e = false
  collectors : ∀ c, w.collectorRuns c = false

theorem Settled.quiet {w : World σ} (h : w.Settled) (he : w.engineSlot.holder = none)
    (hc : w.collectorSlot.holder = none) : w.Quiet :=
  ⟨he, hc, h.engines.eq_false he, h.collectors.eq_false hc⟩

/-- The collector that a plan has is held, or none is. -/
def CollectsAs (w : World σ) : Option CollectorOptions → Prop
  | none => w.collectorSlot.holder = none
  | some o => ∃ c, w.HoldsCollector c o

/-- The engines and collectors are the same, and so is what the slots hold. -/
structure SameServices (w x : World σ) : Prop where
  engines : x.engines = w.engines ∧ x.engineSlot = w.engineSlot
  collectors : x.collectors = w.collectors ∧ x.collectorSlot = w.collectorSlot

theorem SameServices.refl (w : World σ) : w.SameServices w := ⟨⟨rfl, rfl⟩, ⟨rfl, rfl⟩⟩

theorem SameServices.trans {w x y : World σ} (h : w.SameServices x) (h' : x.SameServices y) :
    w.SameServices y :=
  ⟨⟨h'.engines.1.trans h.engines.1, h'.engines.2.trans h.engines.2⟩,
    ⟨h'.collectors.1.trans h.collectors.1, h'.collectors.2.trans h.collectors.2⟩⟩

theorem Settled.congr {w x : World σ} (h : w.Settled) (hx : w.SameServices x) : x.Settled :=
  ⟨h.engines.congr hx.engines, h.collectors.congr hx.collectors⟩

theorem Quiet.congr {w x : World σ} (h : w.Quiet) (hx : w.SameServices x) : x.Quiet where
  engineSlot := hx.engines.2 ▸ h.engineSlot
  collectorSlot := hx.collectors.2 ▸ h.collectorSlot
  engines := engineRuns_congr hx.engines.1 ▸ h.engines
  collectors := collectorRuns_congr hx.collectors.1 ▸ h.collectors

theorem CollectsAs.congr {w x : World σ} {o : Option CollectorOptions} (h : w.CollectsAs o)
    (hx : x.collectors = w.collectors ∧ x.collectorSlot = w.collectorSlot) : x.CollectsAs o := by
  cases o with
  | none => exact (congrArg Slot.holder hx.2).trans h
  | some o => exact h.imp fun c hc => hc.congr hx

variable [Outside σ] {areas : List Area} {p : Program α}

theorem ensures_sameServices (hp : p.Within areas) (he : Area.engines ∉ areas)
    (hc : Area.collectors ∉ areas) (w : World σ) : w.Ensures p fun _ x => w.SameServices x :=
  ⟨ensures_engines hp he w, ensures_collectors hp hc w⟩

end World

namespace Server

variable {σ : Type}

/-- The server's generation is the latest. -/
def IsLatest (s : Server) (w : World σ) : Prop :=
  ∃ g, s.generation = some g ∧ w.generations.isCurrent g = true

theorem IsLatest.congr {s : Server} {w x : World σ} (h : s.IsLatest w)
    (hx : x.generations = w.generations) : s.IsLatest x := by
  rw [IsLatest, hx]
  exact h

/-- Two servers of the same generation. -/
structure SameOrigin (s t : Server) : Prop where
  settings : t.settings = s.settings
  generation : t.generation = s.generation
  plan : t.plan = s.plan

theorem SameOrigin.refl (s : Server) : s.SameOrigin s := ⟨rfl, rfl, rfl⟩

theorem SameOrigin.trans {s t u : Server} (h : s.SameOrigin t) (h' : t.SameOrigin u) :
    s.SameOrigin u :=
  ⟨h'.settings.trans h.settings, h'.generation.trans h.generation, h'.plan.trans h.plan⟩

theorem IsLatest.same {s t : Server} {w : World σ} (h : s.IsLatest w) (ht : s.SameOrigin t) :
    t.IsLatest w := by
  rw [IsLatest, ht.generation]
  exact h

/-- A server whose generation is out of date is not the latest. -/
theorem not_isLatest {s : Server} {w : World σ} {g : Generation}
    (hs : s.generation = some g) (hg : w.generations.isCurrent g = false) : ¬s.IsLatest w := by
  rintro ⟨g', hg', hcurrent⟩
  rw [hs] at hg'
  rw [Option.some.inj hg', hcurrent] at hg
  exact nomatch hg

/-- Two servers that differ in their clients only. -/
structure SameButClients (s t : Server) : Prop extends s.SameOrigin t where
  state : t.state = s.state

theorem SameButClients.refl (s : Server) : s.SameButClients s := ⟨.refl s, rfl⟩

theorem SameButClients.trans {s t u : Server} (h : s.SameButClients t) (h' : t.SameButClients u) :
    s.SameButClients u :=
  ⟨h.toSameOrigin.trans h'.toSameOrigin, h'.state.trans h.state⟩

variable [Outside σ] {w : World σ}

/-- A server that asks whether its generation is the latest learns so. -/
theorem isCurrent_spec (s : Server) (w : World σ) :
    w.Ensures s.isCurrent fun answer x => x = w ∧ (answer = true ↔ s.IsLatest w) := by
  unfold isCurrent
  split
  · next g hg =>
    refine ⟨rfl, fun h => ⟨g, hg, h⟩, ?_⟩
    rintro ⟨g', hg', h⟩
    rw [hg] at hg'
    exact Option.some.inj hg' ▸ h
  · next hg =>
    refine World.ensures_pure ⟨rfl, nofun, ?_⟩
    rintro ⟨g, hg', -⟩
    rw [hg] at hg'
    exact nomatch hg'

/-- Taking down leaves nothing. -/
theorem takeDown_spec (h : w.Settled) :
    w.Ensures takeDown fun _ x => x.Settled ∧ x.Quiet := by
  unfold takeDown
  refine ((Supervision.shutdownCollector_spec h.collectors).and
    (World.ensures_engines Supervision.shutdownCollector_within (by decide) w)).bind
    fun _ w₁ ⟨⟨hsettled, hempty⟩, hkept⟩ => ?_
  refine ((Supervision.shutdownEngine_spec (h.engines.congr hkept)).and
    (World.ensures_collectors Supervision.shutdownEngine_within (by decide) w₁)).mono
    fun _ x ⟨⟨hengines, hnone⟩, hcollectors⟩ => ?_
  have hx : x.Settled := ⟨hengines, hsettled.congr hcollectors⟩
  exact ⟨hx, hx.quiet hnone (hcollectors.2 ▸ hempty)⟩

/-- A server that stops is stopped, and else as it was but for its clients. -/
theorem stop_result (s : Server) (w : World σ) :
    w.Ensures s.stop fun t _ => t.state = .stopped ∧ s.SameOrigin t := by
  unfold stop
  split
  · next hs => exact World.ensures_pure ⟨hs, .refl s⟩
  refine World.ensures_perform ?_
  split
  · refine (isCurrent_spec s _).bind fun current x _ => ?_
    split
    · refine World.ensures_bind (World.ensures_of_forall fun _ _ => ?_)
      exact World.ensures_pure ⟨rfl, rfl, rfl, rfl⟩
    · exact World.ensures_pure ⟨rfl, rfl, rfl, rfl⟩
  · exact World.ensures_pure ⟨rfl, rfl, rfl, rfl⟩

/-- A server that stops leaves nothing if its generation is the latest. If it is not, or if there is
nothing to stop, all stays as it was. -/
theorem stop_spec (s : Server) (h : w.Settled) :
    w.Ensures s.stop fun _ x => x.Settled ∧
      (s.state ≠ .stopped → s.state ≠ .unprovisioned → s.IsLatest w → x.Quiet) ∧
      (s.state = .stopped ∨ s.state = .unprovisioned ∨ ¬s.IsLatest w → w.SameServices x) := by
  unfold stop
  split
  · next hs => exact World.ensures_pure ⟨h, fun hne => absurd hs hne, fun _ => .refl w⟩
  refine World.ensures_perform ?_
  -- closing the clients touches neither the services nor the generations
  generalize hw₁ : (w.exec (.closeClients s.clients)).2 = w₁
  have hsame : w.SameServices w₁ := by rw [← hw₁]; exact ⟨⟨rfl, rfl⟩, ⟨rfl, rfl⟩⟩
  have hlatest : s.IsLatest w₁ ↔ s.IsLatest w := by rw [← hw₁]; exact Iff.rfl
  have h₁ := h.congr hsame
  split
  · next hs =>
    refine (isCurrent_spec s w₁).bind fun current x ⟨hx, hcurrent⟩ => ?_
    subst hx
    split
    · next hc =>
      refine (takeDown_spec h₁).bind fun _ y ⟨hy, hquiet⟩ => World.ensures_pure ⟨hy, ?_, ?_⟩
      · exact fun _ _ _ => hquiet
      · rintro (hstop | hun | hnot)
        · contradiction
        · contradiction
        · exact absurd (hlatest.1 (hcurrent.1 hc)) hnot
    · next hc =>
      refine World.ensures_pure ⟨h₁, fun _ _ hl => ?_, fun _ => hsame⟩
      exact absurd (hcurrent.2 (hlatest.2 hl)) hc
  · next hs =>
    exact World.ensures_pure ⟨h₁, fun _ hun => absurd hun hs, fun _ => hsame⟩

end Server

end CalloutHost
