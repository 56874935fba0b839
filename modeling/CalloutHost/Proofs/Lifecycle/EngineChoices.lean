import CalloutHost.Lifecycle.Script
import CalloutHost.Proofs.Engine.Reloads
import CalloutHost.Proofs.Lifecycle.Engines

/-!
# Reuse, replace or refuse

An engine that is asked for is one of three things (`Supervision.EngineChoice`): the engine that
serves, with the new options; none, as the one that serves refused them and goes on as it was; or a
fresh one, where none served or the one that did could not take the options while it runs. A fresh
one is the only engine that runs and is in the slot, or none is left (`Supervision.Launched`).
`Supervision.ensureEngine_chooses` says so in every process where what runs is what is held,
whatever engines answer; waiting for the engine changes nothing, or leaves none
(`Supervision.Awaited`).
-/

namespace CalloutHost

open Program (perform)

namespace World

variable {σ : Type}

/-- No engine is held, and none runs. -/
structure Engineless (w : World σ) : Prop where
  slot : w.engineSlot.holder = none
  runs : ∀ e, w.engineRuns e = false

theorem EnginesSettled.engineless {w : World σ} (h : w.EnginesSettled)
    (hs : w.engineSlot.holder = none) : w.Engineless := ⟨hs, h.eq_false hs⟩

theorem engines_length_of_runs {w : World σ} {e : Nat} (h : w.engineRuns e = true) :
    e < w.engines.length := by
  refine Nat.lt_of_not_le fun hle => ?_
  rw [engineRuns, running_engine_of_le hle] at h
  cases h

variable [Outside σ]

/-- What an engine answers to new options, and what is outside after that. -/
def offer (w : World σ) (e : Nat) (o : EngineOptions) : Except EngineFault Unit × σ :=
  Outside.reloadEngine e (w.engine e) o w.outside

/-- The process after an engine has refused new options. -/
def afterRefusal (w : World σ) (e : Nat) (s : σ) : World σ :=
  { w with outside := s }.note (.reloadEngine e)

/-- The process after an engine has taken new options. -/
def afterTaking (w : World σ) (e : Nat) (o : EngineOptions) (s : σ) : World σ :=
  ({ w with outside := s }.setEngine e fun x =>
    { x with options := o, reloads := x.reloads + 1 }).note (.reloadEngine e)

variable {w : World σ} {e : Nat} {o : EngineOptions} {s : σ} {fault : EngineFault}

theorem exec_reloadEngine_of_error (h : w.offer e o = (.error fault, s)) :
    w.exec (.reloadEngine e o) = (.error fault, w.afterRefusal e s) := by
  rw [exec]
  split
  · next heq => cases heq.symm.trans h
  · next heq =>
    cases heq.symm.trans h
    rfl

theorem exec_reloadEngine_of_ok (h : w.offer e o = (.ok (), s)) :
    w.exec (.reloadEngine e o) = (.ok (), w.afterTaking e o s) := by
  rw [exec]
  split
  · next heq =>
    cases heq.symm.trans h
    rfl
  · next heq => cases heq.symm.trans h

/-- A fresh engine is needed, and what was done for it: nothing if there is none, and if the one
that serves cannot take the options while it runs, it was shut down. -/
inductive Lacks (w : World σ) (o : EngineOptions) : σ → List Call → Prop
  | absent (h : w.engineSlot.holder = none) : w.Lacks o w.outside []
  /-- The engine that is held refuses the options with the words for what it cannot change. -/
  | outdated {e : Nat} {fault : EngineFault} {s : σ} (h : w.engineSlot.holder = some e)
      (hoffer : w.offer e o = (.error fault, s)) (hwords : fault.IsUnsupported) :
      w.Lacks o s [.reloadEngine e, .shutdownEngine e]

end World

namespace Supervision

variable {σ : Type} [Outside σ] {w : World σ} {o : EngineOptions}

/-! ## A fresh engine -/

/-- What comes of launching the engine with the number `n` when `s` is outside and these are the
calls so far. -/
inductive Launched (n : Nat) (o : EngineOptions) (s : σ) (calls : List Call) :
    Except EngineFault Nat → World σ → Prop
  | uncreated {fault : EngineFault} {x : World σ}
      (hcreate : (Outside.createEngine n o s).1 = .error fault)
      (hcalls : x.calls = calls ++ [.createEngineFailed]) (hnone : x.Engineless) :
      Launched n o s calls (.error fault) x
  /-- The engine is created but does not start, and none is left. -/
  | unstarted {fault : EngineFault} {x : World σ}
      (hcreate : (Outside.createEngine n o s).1 = .ok ())
      (hstart : (Outside.startEngine n (Outside.createEngine n o s).2).1 = .error fault)
      (hcalls : x.calls = calls ++ [.createdEngine n, .startEngine n, .shutdownEngine n])
      (hnone : x.Engineless) : Launched n o s calls (.error fault) x
  /-- The engine is created and starts, it is held with the options, and no other engine runs. -/
  | started {x : World σ} (hcreate : (Outside.createEngine n o s).1 = .ok ())
      (hstart : (Outside.startEngine n (Outside.createEngine n o s).2).1 = .ok ())
      (hcalls : x.calls = calls ++ [.createdEngine n, .startEngine n])
      (hheld : x.HoldsEngine n o) (honly : ∀ e, x.engineRuns e = true ↔ e = n) :
      Launched n o s calls (.ok n) x

/-- An engine that is launched where none serves. -/
theorem launchEngine_launched (h : w.EnginesSettled) (hs : w.engineSlot.holder = none)
    (o : EngineOptions) :
    w.Ensures (launchEngine o) (Launched w.engines.length o w.outside w.calls) := by
  -- what runs in the end is known already, so only the answers, the calls and the slot are followed
  suffices hcourse : w.Ensures (launchEngine o) fun answer x => EngineOutcome o answer x →
      Launched w.engines.length o w.outside w.calls answer x from
    hcourse (launchEngine_spec h hs o)
  unfold launchEngine
  generalize hn : w.engines.length = n
  rcases hcreate : Outside.createEngine n o w.outside with ⟨fault | _, s⟩
  · refine World.ensures_act (r := .error fault)
      (x := { w with outside := s }.note .createEngineFailed) ?_ (World.ensures_pure fun hx => ?_)
    · rw [World.exec, hn, hcreate]
    · exact .uncreated (by rw [hcreate]) rfl (hx.1.engineless hs)
  let w₁ : World σ := World.note { w with outside := s, engines := w.engines ++ [⟨o, false, 0⟩] }
    (.createdEngine n)
  refine World.ensures_act (r := .ok n) (x := w₁) ?_ (World.ensures_perform ?_)
  · rw [World.exec, hn, hcreate]
  have hcreated : (Outside.createEngine n o w.outside).1 = .ok () := by rw [hcreate]
  rcases hstart : Outside.startEngine n s with ⟨answer, s'⟩
  have hstarted : (Outside.startEngine n (Outside.createEngine n o w.outside).2).1 = answer := by
    rw [hcreate, hstart]
  let w₂ : World σ := { (w₁.exec (.beginStart n)).2 with outside := s' }
  have hfinish : (w₁.exec (.beginStart n)).2.exec (.finishStart n) = (answer, w₂) := by
    change ((Outside.startEngine n s).1, { (w₁.exec (.beginStart n)).2 with
      outside := (Outside.startEngine n s).2 }) = _
    rw [hstart]
  refine World.ensures_act hfinish ?_
  have hcalls : w₂.calls = w.calls ++ [.createdEngine n, .startEngine n] := by
    change (w.calls ++ [_]) ++ [_] = _
    rw [List.append_assoc]
    rfl
  rcases answer with fault | _
  · refine World.ensures_perform (World.ensures_pure fun hx => ?_)
    refine .unstarted hcreated hstarted ?_ (hx.1.engineless hs)
    change w₂.calls ++ [_] = _
    rw [hcalls, List.append_assoc]
    rfl
  · refine World.ensures_act (r := none) (x := (w₂.exec (.installEngine n)).2) ?_
      (World.ensures_pure fun hx => ?_)
    · change (w.engineSlot.holder, (w₂.exec (.installEngine n)).2) = _
      rw [hs]
    · have hheld := hx.2 n rfl
      exact .started hcreated hstarted hcalls hheld (hx.1.runs_iff hheld.1)

/-! ## The engine that is asked for -/

/-- What comes of asking for an engine with these options. -/
inductive EngineChoice (w : World σ) (o : EngineOptions) : Except EngineFault Nat → World σ → Prop
  /-- The engine that is held takes the options, and that is all that happens. -/
  | kept {e : Nat} {s : σ} (h : w.engineSlot.holder = some e) (hoffer : w.offer e o = (.ok (), s)) :
      EngineChoice w o (.ok e) (w.afterTaking e o s)
  /-- The engine that is held refuses the options for a reason that a fresh engine would not help
  against, and that is all that happens. -/
  | refused {e : Nat} {fault : EngineFault} {s : σ} (h : w.engineSlot.holder = some e)
      (hoffer : w.offer e o = (.error fault, s)) (hwords : ¬fault.IsUnsupported) :
      EngineChoice w o (.error fault) (w.afterRefusal e s)
  /-- A fresh engine is needed, and launched. -/
  | launched {s : σ} {before : List Call} {answer : Except EngineFault Nat} {x : World σ}
      (h : w.Lacks o s before)
      (hlaunched : Launched w.engines.length o s (w.calls ++ before) answer x) :
      EngineChoice w o answer x

theorem ensureEngine_choice (h : w.EnginesSettled) (o : EngineOptions) :
    w.Ensures (ensureEngine o) (EngineChoice w o) := by
  unfold ensureEngine
  refine World.ensures_act (r := w.engineSlot.holder) (x := w) rfl ?_
  rcases hs : w.engineSlot.holder with _ | e
  · refine (launchEngine_launched h hs o).mono fun answer x hx => .launched (.absent hs) ?_
    rwa [List.append_nil]
  rcases hoffer : w.offer e o with ⟨fault | _, s⟩
  · refine World.ensures_act (World.exec_reloadEngine_of_error hoffer) ?_
    dsimp only
    split
    · next hrestart =>
      refine World.ensures_perform (World.ensures_perform ?_)
      generalize hy : (((w.afterRefusal e s).exec (.shutdownEngine e)).2.exec
        (.releaseEngine e)).2 = y
      have hslot : y.engineSlot.holder = none := by
        rw [← hy]
        change (w.engineSlot.release e).holder = none
        rw [Slot.release, if_pos hs]
        rfl
      have hrefused : (w.afterRefusal e s).EnginesSettled := h.congr ⟨rfl, rfl⟩
      have hsettled : y.EnginesSettled := hy ▸ hrefused.discard e
      have hnumber : y.engines.length = w.engines.length := by
        rw [← hy]
        exact List.length_modify ..
      have hcalls : y.calls = w.calls ++ [.reloadEngine e, .shutdownEngine e] := by
        rw [← hy]
        exact List.append_assoc ..
      have houtside : y.outside = s := by rw [← hy]; rfl
      refine (launchEngine_launched hsettled hslot o).mono fun answer x hx =>
        .launched (.outdated hs hoffer (EngineFault.needsRestart_iff.1 hrestart)) ?_
      rwa [hnumber, houtside, hcalls] at hx
    · next hrestart =>
      rw [EngineFault.needsRestart_iff] at hrestart
      exact World.ensures_pure (.refused hs hoffer hrestart)
  · exact World.ensures_act (World.exec_reloadEngine_of_ok hoffer)
      (World.ensures_pure (.kept hs hoffer))

/-- An engine that answers by what it cannot change takes the options that agree with its own, and
refuses all others with the words for it. -/
theorem takes_cases (o other : EngineOptions) :
    o.Agrees other ∧ Script.takes o other = .ok () ∨
      ¬o.Agrees other ∧ ∃ fault, fault.IsUnsupported ∧ Script.takes o other = .error fault := by
  rw [← EngineOptions.blockers_eq_nil_iff]
  unfold Script.takes
  split
  · next heq => exact .inl ⟨heq, rfl⟩
  · next hne => exact .inr ⟨hne, _, EngineFault.isUnsupported_reloadNotSupported _, rfl⟩

/-- An engine that answers so is kept exactly if the options agree. -/
theorem EngineChoice.kept_iff_agrees (h : w.EnginesSettled) {answer : Except EngineFault Nat}
    {x : World σ} (hchoice : EngineChoice w o answer x) {e : Nat}
    (hs : w.engineSlot.holder = some e)
    (hanswers : (w.offer e o).1 = Script.takes (w.engine e).options o) :
    answer = .ok e ↔ (w.engine e).options.Agrees o := by
  have hcases := takes_cases (w.engine e).options o
  rw [← hanswers] at hcases
  cases hchoice with
  | kept hs' hoffer =>
    cases hs.symm.trans hs'
    rw [hoffer] at hcases
    rcases hcases with ⟨hagrees, -⟩ | ⟨-, fault, -, herror⟩
    · exact iff_of_true rfl hagrees
    · cases herror
  | refused hs' hoffer hwords =>
    cases hs.symm.trans hs'
    rw [hoffer] at hcases
    rcases hcases with ⟨-, hok⟩ | ⟨-, fault, hfault, herror⟩
    · cases hok
    · cases herror
      exact absurd hfault hwords
  | launched hlacks hlaunched =>
    cases hlacks with
    | absent hs' => cases hs.symm.trans hs'
    | outdated hs' hoffer =>
      cases hs.symm.trans hs'
      rw [hoffer] at hcases
      rcases hcases with ⟨-, hok⟩ | ⟨hnot, -⟩
      · cases hok
      · refine iff_of_false (fun hok => ?_) hnot
        -- a fresh engine has a number that the one before cannot have
        have hlt := World.engines_length_of_runs ((h e).2 hs)
        subst hok
        cases hlaunched
        exact absurd hlt (Nat.lt_irrefl _)

/-! ## Waiting for the engine -/

/-- What comes of waiting for an engine. -/
inductive Awaited (w : World σ) (e : Nat) : Except Nanoseconds Unit → World σ → Prop
  | ready {s : σ} (hready : Outside.engineReady e (w.engine e) w.outside = (true, s)) :
      Awaited w e (.ok ()) ({ w with outside := s }.note (.readyEngine e))
  /-- The engine does not get ready in time, and none is left. -/
  | late {x : World σ} (hlate : (Outside.engineReady e (w.engine e) w.outside).1 = false)
      (hcalls : x.calls = w.calls ++ [.readyEngine e, .shutdownEngine e])
      (hnone : x.Engineless) : Awaited w e (.error w.patience) x

theorem awaitEngine_awaited (h : w.EnginesSettled) {e : Nat} (hs : w.engineSlot.holder = some e) :
    w.Ensures (awaitEngine e) (Awaited w e) := by
  unfold awaitEngine
  rcases hready : Outside.engineReady e (w.engine e) w.outside with ⟨ready, s⟩
  let x : World σ := { w with outside := s }.note (.readyEngine e)
  have hexec : w.exec (.awaitEngine e) = (if ready then .ok () else .error w.patience, x) := by
    rw [World.exec, hready]
  refine World.ensures_act hexec ?_
  cases ready with
  | true => exact World.ensures_pure (.ready hready)
  | false =>
    refine World.ensures_perform (World.ensures_perform (World.ensures_pure ?_))
    have hsettled : x.EnginesSettled := h.congr ⟨rfl, rfl⟩
    refine .late (by rw [hready]) (List.append_assoc ..) ((hsettled.discard e).engineless ?_)
    change (w.engineSlot.release e).holder = none
    rw [Slot.release, if_pos hs]
    rfl

/-! ## Never half of each -/

/-- Where what runs is what is held, an engine that is asked for is kept, refused, or launched, as
the answers of the engines have it. One that answers by what it cannot change is kept exactly if the
options agree in all that lasts. Waiting for the engine that was given changes nothing, or leaves no
engine. -/
theorem ensureEngine_chooses (h : w.EnginesSettled) (o : EngineOptions) :
    w.Ensures (ensureEngine o) fun answer x => EngineChoice w o answer x ∧
      (∀ e, w.engineSlot.holder = some e →
        (w.offer e o).1 = Script.takes (w.engine e).options o →
          (answer = .ok e ↔ (w.engine e).options.Agrees o)) ∧
      ∀ e, answer = .ok e → x.Ensures (awaitEngine e) (Awaited x e) := by
  refine ((ensureEngine_choice h o).and (ensureEngine_spec h o)).mono
    fun answer x ⟨hchoice, hsettled, hheld⟩ => ⟨hchoice, ?_, ?_⟩
  · exact fun e hs hanswers => hchoice.kept_iff_agrees h hs hanswers
  · exact fun e he => awaitEngine_awaited hsettled (hheld e he).1

/-- An engine that is asked to change its port is replaced, and its successor is waited for. -/
theorem ensureEngine_chooses_port :
    let first := { EngineOptions.default with port := 4500 }
    let second := { EngineOptions.default with port := 5000 }
    let supply : SeedSupply := ⟨fun n => List.replicate 32 (UInt8.ofNat n), 0⟩
    let new := World.new (Script.new false) supply World.defaultPatience
    let w := (new.run (ensureEngine first)).2
    w.EnginesSettled ∧
      (w.run (ensureEngine second)).2.calls =
        [.createdEngine 0, .startEngine 0, .reloadEngine 0, .shutdownEngine 0, .createdEngine 1,
          .startEngine 1] ∧
      w.Ensures (ensureEngine second) fun answer x => EngineChoice w second answer x ∧
        (∀ e, w.engineSlot.holder = some e →
          (w.offer e second).1 = Script.takes (w.engine e).options second →
            (answer = .ok e ↔ (w.engine e).options.Agrees second)) ∧
        ∀ e, answer = .ok e → x.Ensures (awaitEngine e) (Awaited x e) := by
  intro first second supply new w
  have hnew : new.EnginesSettled := Slot.governs_empty fun _ => rfl
  have h : w.EnginesSettled := (ensureEngine_spec hnew first).1
  exact ⟨h, by decide +kernel, ensureEngine_chooses h second⟩

end Supervision

end CalloutHost
