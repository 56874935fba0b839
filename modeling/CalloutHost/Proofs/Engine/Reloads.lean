import CalloutHost.Engine.ServerProcess

/-!
# Reloads of an engine in a process of its own

Some options an engine has for as long as it runs: its name, where it listens, how it stores streams
and whom it trusts. Options that agree in these (`EngineOptions.Agrees`) are those that nothing
stands against (`EngineOptions.blockers_eq_nil_iff`), and a refusal that names what stands against
the others is known by its words (`EngineFault.isUnsupported_reloadNotSupported`).

All that a reload does to an engine is one of three things (`ServerProcess.reloaded`): it is
refused, it comes to nothing and the old configuration is written back, or the new options are
taken. So from a first start on the file has the options, whatever comes of the calls
(`ServerProcess.filed_serve`, `ServerProcess.filed_serveAll`), and what lasts of the options an
engine keeps for its whole life (`ServerProcess.agrees_serveAll`). `ServerProcess.reloads_transact`
puts this together.
-/

namespace CalloutHost

/-! ## Options that last -/

namespace EngineOptions

/-- The options are the same in all that lasts. -/
structure Agrees (o other : EngineOptions) : Prop where
  serverName : o.serverName = other.serverName
  host : o.host = other.host
  port : o.port = other.port
  httpPort : o.httpPort = other.httpPort
  jetstream : o.jetstream = other.jetstream
  operators : o.operators = other.operators

variable {o other third : EngineOptions}

theorem Agrees.refl (o : EngineOptions) : o.Agrees o := ⟨rfl, rfl, rfl, rfl, rfl, rfl⟩

theorem Agrees.trans (h : o.Agrees other) (h' : other.Agrees third) : o.Agrees third where
  serverName := h.serverName.trans h'.serverName
  host := h.host.trans h'.host
  port := h.port.trans h'.port
  httpPort := h.httpPort.trans h'.httpPort
  jetstream := h.jetstream.trans h'.jetstream
  operators := h.operators.trans h'.operators

/-- Clients find the engine where they found it. -/
theorem Agrees.clientUrl (h : o.Agrees other) : other.clientUrl = o.clientUrl := by
  rw [EngineOptions.clientUrl, EngineOptions.clientUrl, h.host, h.port]

/-- Nothing stands against options that agree, and something against all others. -/
theorem blockers_eq_nil_iff : o.blockers other = [] ↔ o.Agrees other := by
  simp only [blockers, List.append_eq_nil_iff, ite_eq_right_iff, List.cons_ne_nil, imp_false,
    Decidable.not_not, ne_eq]
  constructor
  · rintro ⟨⟨⟨⟨⟨hname, hhost⟩, hport⟩, hhttp⟩, hstreams⟩, htrust⟩
    exact ⟨hname, hhost, hport, hhttp, hstreams, htrust⟩
  · exact fun h =>
      ⟨⟨⟨⟨⟨h.serverName, h.host⟩, h.port⟩, h.httpPort⟩, h.jetstream⟩, h.operators⟩

end EngineOptions

namespace EngineFault

/-- New options are refused with the words for what a running engine cannot change. -/
def IsUnsupported (fault : EngineFault) : Prop :=
  ∃ reason, fault = .reload reason ∧ notSupported.toList <:+: reason.toList

theorem needsRestart_iff {fault : EngineFault} :
    fault.needsRestart = true ↔ fault.IsUnsupported := by
  cases fault with
  | reload reason =>
    change Text.occurs _ _ = true ↔ _
    simp [IsUnsupported, Text.occurs_eq_true_iff]
  | create | start | noAccount | io => simp [needsRestart, IsUnsupported]

/-- A refusal that names options has the words for it, whichever options it names. -/
theorem isUnsupported_reloadNotSupported (options : List String) :
    (reloadNotSupported options).IsUnsupported := by
  refine ⟨_, rfl, ?_⟩
  rw [String.toList_append, String.toList_append, List.append_assoc]
  exact (List.prefix_append _ _).isInfix

end EngineFault

/-- The new configuration is written, the signal is sent, and the log says nothing against it. -/
structure ReloadCourse.Succeeds (course : ReloadCourse) : Prop where
  write : course.write = .done
  signal : course.signal = .ok ()
  /-- The first thing that the log says is not that it failed, or it is lost. -/
  verdicts : ServerProcess.verdictLimit < course.verdicts.length ∨
    ∀ reason, course.verdicts.head? ≠ some (.failed reason)

namespace ServerProcess

variable {p : ServerProcess} {o : EngineOptions} {course : ReloadCourse} {fault : EngineFault}

/-! ## One reload -/

/-- A reload is taken for a good one unless the first thing that the log says of it, and that is not
lost, is that it failed. -/
theorem confirm_eq_ok_iff {verdicts : List Verdict} :
    confirm verdicts = .ok () ↔
      verdictLimit < verdicts.length ∨ ∀ reason, verdicts.head? ≠ some (.failed reason) := by
  unfold confirm
  split
  · next h => simp [h]
  · next h =>
    rw [or_iff_right h]
    rcases verdicts with _ | ⟨_ | reason, _⟩ <;> simp

/-- What may come of giving other options to an engine: an answer, and the engine after it. -/
inductive Reloaded (p : ServerProcess) (o : EngineOptions) (course : ReloadCourse) :
    Except EngineFault Unit × ServerProcess → Prop
  /-- The options are refused: the engine does not run, or it cannot take them while it runs. -/
  | refused (fault : EngineFault) (h : ¬(p.running = true ∧ p.options.Agrees o)) :
      Reloaded p o course (.error fault, p)
  /-- The options come to nothing, whatever the file holds then, and the old ones are restored. -/
  | undone (fault : EngineFault) (file : Option Bytes) (h : ¬course.Succeeds) :
      Reloaded p o course (.error fault, ({ p with file }.write p.options course.restore).2)
  | taken (hrun : p.running = true) (hagrees : p.options.Agrees o) (hcourse : course.Succeeds) :
      Reloaded p o course (.ok (), { p with options := o, file := some o.configText })

/-- Other options are written and read, or they come to nothing. -/
theorem apply_cases (p : ServerProcess) (o : EngineOptions) (course : ReloadCourse) :
    (∃ fault file, p.apply o course = (.error fault, { p with file }) ∧ ¬course.Succeeds) ∨
      p.apply o course = (.ok (), { p with file := some o.configText }) ∧ course.Succeeds := by
  obtain ⟨written, signal, verdicts, restore⟩ := course
  cases written with
  | failed reason left => exact .inl ⟨_, left, rfl, fun h => nomatch h.write⟩
  | done =>
    rcases signal with fault | _
    · exact .inl ⟨fault, some o.configText, rfl, fun h => nomatch h.signal⟩
    rcases hverdict : confirm verdicts with fault | _
    · exact .inl ⟨fault, some o.configText, Prod.ext hverdict rfl,
        fun h => nomatch hverdict.symm.trans (confirm_eq_ok_iff.2 h.verdicts)⟩
    · exact .inr ⟨Prod.ext hverdict rfl, rfl, rfl, confirm_eq_ok_iff.1 hverdict⟩

/-- All that a reload does. -/
theorem reloaded (p : ServerProcess) (o : EngineOptions) (course : ReloadCourse) :
    Reloaded p o course (p.reload o course) := by
  unfold reload
  split
  · next hblocked =>
    refine .refused _ fun h => ?_
    rw [EngineOptions.blockers_eq_nil_iff.2 h.2] at hblocked
    cases hblocked
  next hfree =>
  split
  · next hidle => exact .refused _ fun h => by simp [h.1] at hidle
  next hrun =>
  rcases p.apply_cases o course with ⟨fault, file, happly, hcourse⟩ | ⟨happly, hcourse⟩
  · rw [happly]
    exact .undone fault file hcourse
  · rw [happly]
    exact .taken (by simpa using hrun) (EngineOptions.blockers_eq_nil_iff.1 hfree) hcourse

/-- Options are taken exactly if the engine runs and can take them, and all goes well. -/
theorem reload_eq_ok_iff :
    (p.reload o course).1 = .ok () ↔
      p.running = true ∧ p.options.Agrees o ∧ course.Succeeds := by
  have h := p.reloaded o course
  generalize p.reload o course = result at h ⊢
  cases h with
  | refused _ hnot => exact ⟨nofun, fun ⟨hrun, hagrees, _⟩ => absurd ⟨hrun, hagrees⟩ hnot⟩
  | undone _ _ hnot => exact ⟨nofun, fun ⟨_, _, hcourse⟩ => absurd hcourse hnot⟩
  | taken hrun hagrees hcourse => exact iff_of_true rfl ⟨hrun, hagrees, hcourse⟩

/-- Options that are taken are those that the engine and its file have from then on. -/
theorem reload_of_ok (hok : (p.reload o course).1 = .ok ()) :
    (p.reload o course).2 = { p with options := o, file := some o.configText } := by
  have h := p.reloaded o course
  generalize p.reload o course = result at h hok ⊢
  cases h with
  | refused | undone => cases hok
  | taken => rfl

/-! ## The file has the options -/

/-- The file has the text of the options. -/
def Filed (p : ServerProcess) : Prop := p.file = some p.options.configText

/-- Where the file has the options, options that are not taken leave nothing behind. -/
theorem reload_of_error (hp : p.Filed) (hrestore : course.restore = .done)
    (herror : (p.reload o course).1 = .error fault) : (p.reload o course).2 = p := by
  have h := p.reloaded o course
  generalize p.reload o course = result at h herror ⊢
  cases h with
  | refused => rfl
  | undone =>
    rw [hrestore]
    change { p with file := some p.options.configText } = p
    rw [← hp]
  | taken => cases herror

theorem filed_reload (hp : p.Filed) (hrestore : course.restore = .done) :
    (p.reload o course).2.Filed := by
  cases h : (p.reload o course).1 with
  | ok =>
    rw [reload_of_ok h]
    rfl
  | error fault => rwa [reload_of_error hp hrestore h]

/-- A start writes the options, whether or not a process begins. -/
theorem filed_start (p : ServerProcess) (spawned : Except String Unit) :
    (p.start .done spawned).2.Filed := by
  cases spawned <;> rfl

/-- An engine that was started has its options in its file. -/
theorem filed_start_of_ok {written : FileWrite} {spawned : Except String Unit}
    (h : (p.start written spawned).1 = .ok ()) : (p.start written spawned).2.Filed := by
  cases written with
  | done => exact p.filed_start spawned
  | failed => cases h

/-- Whatever comes of a call, the file has the options after it. -/
theorem filed_serve {c : ProcessCall} (hp : p.Filed) (hc : c.Restores) : (p.serve c).2.Filed := by
  cases c with
  | start written spawned =>
    obtain rfl : written = .done := hc
    exact p.filed_start spawned
  | reload o course => exact filed_reload hp hc
  | stop => exact hp

theorem filed_serveAll {calls : List ProcessCall} (hp : p.Filed)
    (hcalls : ∀ c ∈ calls, c.Restores) : (p.serveAll calls).Filed := by
  induction calls generalizing p with
  | nil => exact hp
  | cons c calls ih =>
    rw [List.forall_mem_cons] at hcalls
    exact ih (filed_serve hp hcalls.1) hcalls.2

/-! ## What lasts -/

theorem options_write (p : ServerProcess) (o : EngineOptions) (written : FileWrite) :
    (p.write o written).2.options = p.options := by
  cases written <;> rfl

theorem agrees_reload (p : ServerProcess) (o : EngineOptions) (course : ReloadCourse) :
    p.options.Agrees (p.reload o course).2.options := by
  have h := p.reloaded o course
  generalize p.reload o course = result at h ⊢
  cases h with
  | refused => exact .refl _
  | undone =>
    rw [options_write]
    exact .refl _
  | taken _ hagrees => exact hagrees

theorem options_start (p : ServerProcess) (written : FileWrite) (spawned : Except String Unit) :
    (p.start written spawned).2.options = p.options := by
  cases written <;> cases spawned <;> rfl

/-- No call changes what lasts, even if it leaves the file in disorder. -/
theorem agrees_serve (p : ServerProcess) (c : ProcessCall) :
    p.options.Agrees (p.serve c).2.options := by
  cases c with
  | start written spawned =>
    change p.options.Agrees (p.start written spawned).2.options
    rw [options_start]
    exact .refl _
  | reload o course => exact p.agrees_reload o course
  | stop => exact .refl _

theorem agrees_serveAll (p : ServerProcess) (calls : List ProcessCall) :
    p.options.Agrees (p.serveAll calls).options := by
  induction calls generalizing p with
  | nil => exact .refl _
  | cons c calls ih => exact (p.agrees_serve c).trans (ih (p.serve c).2)

/-! ## Reloads are transactions -/

/-- An engine that has its options in its file, and that takes other options in whole or not at
all. -/
structure Transacts (p : ServerProcess) : Prop where
  file : p.file = some p.options.configText
  /-- Options that are not taken leave the engine and its file as they were. -/
  failed : ∀ {o : EngineOptions} {course : ReloadCourse} {fault : EngineFault},
    course.restore = .done → (p.reload o course).1 = .error fault → (p.reload o course).2 = p
  taken : ∀ {o : EngineOptions} {course : ReloadCourse}, (p.reload o course).1 = .ok () →
    (p.reload o course).2 = { p with options := o, file := some o.configText }
  /-- Options are taken exactly if the engine runs and can take them, and all goes well. -/
  taken_iff : ∀ {o : EngineOptions} {course : ReloadCourse}, (p.reload o course).1 = .ok () ↔
    p.running = true ∧ p.options.Agrees o ∧ course.Succeeds

theorem Filed.transacts (hp : p.Filed) : p.Transacts where
  file := hp
  failed := reload_of_error hp
  taken := reload_of_ok
  taken_iff := reload_eq_ok_iff

/-- From a first successful start on, after any calls that write back what they have to, an engine
has its options in its file and takes other options in whole or not at all. What lasts of its
options, and where clients find it, stays the same from its creation on, whatever the calls come
to. -/
theorem reloads_transact {n : Nat} (hcreate : create n o = .ok p) (early : List ProcessCall)
    {written : FileWrite} {spawned : Except String Unit}
    (hstart : ((p.serveAll early).start written spawned).1 = .ok ()) {calls : List ProcessCall}
    (hcalls : ∀ c ∈ calls, c.Restores) :
    (((p.serveAll early).start written spawned).2.serveAll calls).Transacts ∧
      ∀ all : List ProcessCall, o.Agrees (p.serveAll all).options ∧
        (p.serveAll all).options.clientUrl = o.clientUrl := by
  refine ⟨(filed_serveAll (filed_start_of_ok hstart) hcalls).transacts, fun all => ?_⟩
  have hoptions : p.options = o := by
    unfold create at hcreate
    split at hcreate
    · cases hcreate
    · rw [← Except.ok.inj hcreate]
  have hagrees : o.Agrees (p.serveAll all).options := hoptions ▸ p.agrees_serveAll all
  exact ⟨hagrees, hagrees.clientUrl⟩

/-- An engine whose first start fails, that takes options after its second, and that then comes upon
a signal that is not sent. -/
theorem reloads_transact_signal_failed :
    let early := [ProcessCall.start .done (.error "no such file")]
    let debugging := { EngineOptions.default with debug := true }
    let lost := EngineFault.signalFailed "reload" "7" 1
    let calls := [ProcessCall.reload debugging ⟨.done, .ok (), [.applied], .done⟩,
      .reload .default ⟨.done, .error lost, [], .done⟩]
    let created : ServerProcess := ⟨1, .default, none, false⟩
    let started := ((created.serveAll early).start .done (.ok ())).2
    create 1 .default = .ok created ∧
      ((created.serveAll early).start .done (.ok ())).1 = .ok () ∧
      (∀ c ∈ calls, c.Restores) ∧
      (started.serveAll calls).options = debugging ∧
      (started.serveAll calls).Transacts ∧
      ∀ all : List ProcessCall, EngineOptions.default.Agrees (created.serveAll all).options ∧
        (created.serveAll all).options.clientUrl = EngineOptions.default.clientUrl := by
  intro early debugging lost calls created started
  have hcreate : create 1 .default = .ok created := rfl
  have hstart : ((created.serveAll early).start .done (.ok ())).1 = .ok () := rfl
  have hcalls : ∀ c ∈ calls, c.Restores :=
    List.forall_mem_cons.2 ⟨rfl, List.forall_mem_cons.2 ⟨rfl, List.forall_mem_nil _⟩⟩
  exact ⟨hcreate, hstart, hcalls, rfl, reloads_transact hcreate early hstart hcalls⟩

end ServerProcess

end CalloutHost
