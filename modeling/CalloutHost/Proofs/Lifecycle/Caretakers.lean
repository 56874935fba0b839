import CalloutHost.Proofs.Lifecycle.Fleets
import Mathlib.Data.List.Induction

/-!
# When nothing is left running

What runs in a process is looked after by the server that captured a generation last: only it takes
anything down. So nothing is left when every server was told to stop in the end
(`Fleet.nothing_left`), as long as that server was provisioned, and no other one starts after it
was stopped (`Fleet.tended`). Both are needed: `Fleet.left_running` has a run for each that leaves
an engine which nobody shuts down any more.
-/

namespace CalloutHost

namespace Server

variable {σ : Type} [Outside σ] {w : World σ}

/-- A disabled server that starts takes down what runs, if its generation is the latest. -/
theorem start_disabled {s : Server} (hs : s.state = .provisioned false) :
    s.start = do
      if ← s.isCurrent then takeDown
      return (.ok (), { s with state := .started }) := by
  rw [start, hs]

/-- Where nothing runs, only an enabled server that starts changes that. -/
theorem obey_quiet {s : Server} (h : w.Quiet) {what : ServerCommand}
    (hnot : what = .start → s.state ≠ .provisioned true) :
    w.Ensures (s.obey what) fun _ x => x.Quiet := by
  cases what with
  | provision =>
    exact (World.ensures_sameServices s.provision_within (by decide) (by decide) w).bind
      fun _ _ hx => World.ensures_pure (h.congr hx)
  | start =>
    by_cases hready : ∃ enabled, s.state = .provisioned enabled
    · obtain ⟨_ | _, hstate⟩ := hready
      · have hstart : w.Ensures s.start fun _ x => x.Quiet := by
          rw [start_disabled hstate]
          -- what it takes down does not run
          refine (isCurrent_spec s w).bind fun current x ⟨hx, _⟩ => ?_
          subst hx
          split
          · exact (takeDown_spec h.settled).bind fun _ _ ⟨_, hquiet⟩ => World.ensures_pure hquiet
          · exact World.ensures_pure h
        exact hstart.bind fun _ _ hx => World.ensures_pure hx
      · exact absurd hstate (hnot rfl)
    · exact World.ensures_of_run (run_start_refused (fun enabled he => hready ⟨enabled, he⟩) w) h
  | stop =>
    refine (s.stop_spec h.settled).mono fun _ _ ⟨_, hquiet, hsame⟩ => ?_
    by_cases hstop : s.state = .stopped
    · exact h.congr (hsame (.inl hstop))
    by_cases hun : s.state = .unprovisioned
    · exact h.congr (hsame (.inr (.inl hun)))
    by_cases hl : s.IsLatest w
    · exact hquiet hstop hun hl
    · exact h.congr (hsame (.inr (.inr hl)))

end Server

/-- The last of more commands is the one that was added, if it is for the server. -/
theorem FleetCommand.last_append (commands : List FleetCommand) (c : FleetCommand) (i : Nat) :
    last (commands ++ [c]) i = if c.server = i then some c.what else last commands i := by
  unfold last
  rw [List.filter_append]
  by_cases hi : c.server = i <;> simp [hi]

namespace Fleet

variable {σ : Type} [Outside σ]

/-- An enabled server is told to start when this one was stopped already. -/
def startsLate (f : Fleet σ) (i : Nat) (c : FleetCommand) : Bool :=
  c.what = .start ∧ (f.servers c.server).state = .provisioned true ∧ (f.servers i).state = .stopped

/-- No enabled server is told to start after this one was stopped. -/
def onTime (f : Fleet σ) (i : Nat) : List FleetCommand → Bool
  | [] => true
  | c :: commands => !f.startsLate i c && (f.obey c).onTime i commands

/-- The server that captures last is provisioned successfully when it does, and no enabled server is
told to start after it was stopped. -/
def tended (f : Fleet σ) : List FleetCommand → Bool
  | [] => true
  | c :: commands =>
    let g := f.obey c
    if f.captures c ∧ g.captured commands = [] then
      (g.servers c.server).plan.isSome && g.onTime c.server commands
    else g.tended commands

variable {f : Fleet σ} {c : FleetCommand} {commands : List FleetCommand} {i : Nat}

theorem obey_quiet (h : f.world.Quiet)
    (hnot : c.what = .start → (f.servers c.server).state ≠ .provisioned true) :
    (f.obey c).world.Quiet :=
  of_obey (Server.obey_quiet h hnot)

/-- Where no generation is captured, nothing runs. -/
theorem quiet_of_captured_nil (hs : f.Sound) (hquiet : f.world.Quiet)
    (hplan : ∀ i, (f.servers i).plan = none) (h : f.captured commands = []) :
    (f.obeyAll commands).world.Quiet := by
  induction commands generalizing f with
  | nil => exact hquiet
  | cons c commands ih =>
    obtain ⟨hc, hrest⟩ := captured_cons_eq_nil h
    refine ih (hs.obey c) (obey_quiet hquiet fun _ hstate => ?_) (fun i => ?_) hrest
    · obtain ⟨plan, hsome, -⟩ := (hs.servers c.server).planned true hstate
      exact nomatch hsome.symm.trans (hplan c.server)
    · exact ((obey_advances hc).2 i).plan.trans (hplan i)

/-- The server looks after what runs: it is the one to take it down, and it has done so if it was
stopped. -/
structure Tends (f : Fleet σ) (i : Nat) : Prop where
  /-- What runs is what is held, and the states go with the plans. -/
  sound : f.Sound
  planned : (f.servers i).plan.isSome = true
  latest : (f.servers i).IsLatest f.world
  quiet : (f.servers i).state = .stopped → f.world.Quiet

theorem Tends.obey (h : f.Tends i) (hc : f.captures c = false) (hl : f.startsLate i c = false) :
    (f.obey c).Tends i := by
  obtain ⟨hgen, hservers⟩ := obey_advances hc
  refine ⟨h.sound.obey c, (hservers i).plan ▸ h.planned,
    (h.latest.congr hgen).same (hservers i).toSameOrigin, fun hstopped => ?_⟩
  by_cases hi : i = c.server
  · subst hi
    by_cases hbefore : (f.servers c.server).state = .stopped
    · rw [obey_of_stopped hbefore]
      exact h.quiet hbefore
    · exact of_obey (Server.obey_takes_down h.sound.settled (h.sound.servers c.server) h.planned
        h.latest hbefore c.what) hstopped
  · rw [servers_obey_of_ne f hi] at hstopped
    refine obey_quiet (h.quiet hstopped) fun hwhat hstate => ?_
    exact Bool.false_ne_true (hl.symm.trans (decide_eq_true ⟨hwhat, hstate, hstopped⟩))

theorem Tends.obeyAll (h : f.Tends i) (hc : f.captured commands = [])
    (hl : f.onTime i commands = true) : (f.obeyAll commands).Tends i := by
  induction commands generalizing f with
  | nil => exact h
  | cons c commands ih =>
    obtain ⟨hnot, hrest⟩ := captured_cons_eq_nil hc
    rw [onTime, Bool.and_eq_true, Bool.not_eq_true'] at hl
    exact ih (h.obey hnot hl.1) hrest hl.2

/-- Where a generation is captured, the server that captures last looks after what runs. -/
theorem exists_tends (hs : f.Sound) (ht : f.tended commands = true)
    (hc : f.captured commands ≠ []) : ∃ c ∈ commands, (f.obeyAll commands).Tends c.server := by
  induction commands generalizing f with
  | nil => exact absurd rfl hc
  | cons c commands ih =>
    by_cases hlast : f.captures c = true ∧ (f.obey c).captured commands = []
    · rw [tended, if_pos hlast, Bool.and_eq_true] at ht
      obtain ⟨hgen, hcaptured, hrunning⟩ := obey_captures hlast.1
      have hcurrent :
          (f.obey c).world.generations.isCurrent f.world.generations.capture.1 = true := by
        rw [hgen]
        exact f.world.generations.isCurrent_capture
      have htends : (f.obey c).Tends c.server :=
        ⟨hs.obey c, ht.1, ⟨_, hcaptured, hcurrent⟩, fun hstopped => absurd hstopped hrunning⟩
      exact ⟨c, List.mem_cons_self, htends.obeyAll hlast.2 ht.2⟩
    · rw [tended, if_neg hlast] at ht
      have hrest : (f.obey c).captured commands ≠ [] := fun hnil => by
        cases hcaptures : f.captures c with
        | true => exact hlast ⟨hcaptures, hnil⟩
        | false => exact hc ((captured_cons_of_not hcaptures commands).trans hnil)
      obtain ⟨c', hmem, htends⟩ := ih (hs.obey c) ht hrest
      exact ⟨c', List.mem_cons_of_mem c hmem, htends⟩

/-- A server that was told to stop last is stopped. -/
theorem stopped_of_last (f : Fleet σ) (h : FleetCommand.last commands i = some .stop) :
    ((f.obeyAll commands).servers i).state = .stopped := by
  induction commands using List.reverseRecOn with
  | nil => exact nomatch h
  | append_singleton commands c ih =>
    rw [FleetCommand.last_append] at h
    rw [obeyAll_append]
    generalize f.obeyAll commands = g at ih ⊢
    rw [obeyAll_cons, obeyAll_nil]
    split at h
    · next hi =>
      subst hi
      exact g.obey_stops (Option.some.inj h)
    · next hi =>
      rw [servers_obey_of_ne g (Ne.symm hi)]
      exact ih h

/-- In a fresh process, whatever its servers were told and whatever was answered from outside: once
every server that was told anything was told to stop in the end, no engine and no collector runs and
both slots are empty, if the process was tended. -/
theorem nothing_left (outside : σ) (supply : SeedSupply) (patience : Nanoseconds)
    (settings : Nat → Settings) (commands : List FleetCommand)
    (htended : (new outside supply patience settings).tended commands = true)
    (hlast : ∀ c ∈ commands, FleetCommand.last commands c.server = some .stop) :
    ((new outside supply patience settings).obeyAll commands).world.Quiet := by
  have hfresh := fresh_new outside supply patience settings
  generalize new outside supply patience settings = f at htended hfresh ⊢
  by_cases hnil : f.captured commands = []
  · refine quiet_of_captured_nil hfresh.sound hfresh.quiet (fun i => ?_) hnil
    obtain ⟨settings, hserver⟩ := hfresh.servers i
    rw [hserver]
    rfl
  · obtain ⟨c, hmem, htends⟩ := exists_tends hfresh.sound htended hnil
    exact htends.quiet (f.stopped_of_last (hlast c hmem))

/-- The second server has the engine replaced and shuts it down, after the first one was stopped. -/
theorem nothing_left_takeover :
    let script : Script := Script.new true
    let supply : SeedSupply := ⟨fun n => List.replicate 32 (UInt8.ofNat n), 0⟩
    let settings (i : Nat) : Settings :=
      { Settings.empty with port := some (if i = 0 then 4500 else 4600) }
    let commands : List FleetCommand :=
      [⟨0, .provision⟩, ⟨0, .start⟩, ⟨1, .provision⟩, ⟨1, .start⟩, ⟨0, .stop⟩, ⟨1, .stop⟩]
    let f := new script supply World.defaultPatience settings
    (f.obeyAll (commands.take 5)).world.engineSlot.holder = some 1 ∧
      (f.obeyAll (commands.take 5)).world.engineRuns 1 = true ∧
      (f.obeyAll commands).world.Quiet := by
  intro script supply settings commands f
  refine ⟨by decide +kernel, by decide +kernel, ?_⟩
  exact nothing_left script supply World.defaultPatience settings commands (by decide +kernel)
    (by decide +kernel)

/-- Two runs in which every server is told to stop in the end and an engine keeps running: one where
a server starts after one that was provisioned later was stopped, and one where the settings of the
server that captures last are no good. -/
theorem left_running :
    let script : Script := Script.new true
    let supply : SeedSupply := ⟨fun n => List.replicate 32 (UInt8.ofNat n), 0⟩
    let settings (i : Nat) : Settings :=
      if i = 2 then { Settings.empty with accounts := some [] }
      else { Settings.empty with port := some 4500 }
    let late : List FleetCommand :=
      [⟨0, .provision⟩, ⟨1, .provision⟩, ⟨1, .start⟩, ⟨1, .stop⟩, ⟨0, .start⟩, ⟨0, .stop⟩]
    let failed : List FleetCommand :=
      [⟨0, .provision⟩, ⟨0, .start⟩, ⟨2, .provision⟩, ⟨0, .stop⟩, ⟨2, .stop⟩]
    let f := new script supply World.defaultPatience settings
    (∀ c ∈ late, FleetCommand.last late c.server = some .stop) ∧
      (f.obeyAll late).world.engineSlot.holder = some 1 ∧
      (f.obeyAll late).world.engineRuns 1 = true ∧
      (∀ c ∈ failed, FleetCommand.last failed c.server = some .stop) ∧
      (f.obeyAll failed).world.engineSlot.holder = some 0 ∧
      (f.obeyAll failed).world.engineRuns 0 = true := by
  decide +kernel

end Fleet

end CalloutHost
