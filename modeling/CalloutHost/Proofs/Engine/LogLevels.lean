import CalloutHost.Proofs.Engine.LogStreams

/-!
# How a line of the engine's log is read

A line is searched for the tag of one level after the other, so a tag in the message counts as much
as the one behind the header. A line is read as it was marked exactly if its message has no tag of a
level that is searched for earlier (`LogLine.ReadsAs`); otherwise what stands behind such a tag is
taken for the message, and it may be a verdict (`LogLine.ofText_marked`).
-/

namespace CalloutHost

namespace LogLevel

/-- The levels that a line is searched for before this one. -/
def earlier (level : LogLevel) : List LogLevel := all.takeWhile (· ≠ level)

variable {level l l' : LogLevel} {before after : List LogLevel}

theorem earlier_eq (h : all = before ++ level :: after) : level.earlier = before := by
  have hnodup : all.Nodup := by decide
  rw [h, List.nodup_append] at hnodup
  have hbefore : ∀ l ∈ before, decide (l ≠ level) = true := fun l hl =>
    decide_eq_true (hnodup.2.2 l hl level (List.mem_cons_self ..))
  rw [earlier, h, List.takeWhile_append_of_pos hbefore]
  simp

theorem all_eq (level : LogLevel) : ∃ later, all = level.earlier ++ level :: later := by
  cases level <;> exact ⟨_, rfl⟩

theorem not_mem_earlier (level : LogLevel) : level ∉ level.earlier := by
  cases level <;> decide

/-- What is searched for before an earlier level is found in front of it. -/
theorem earlier_eq_of_split (h : level.earlier = before ++ l :: after) : l.earlier = before := by
  obtain ⟨later, hall⟩ := level.all_eq
  have hsplit : all = before ++ l :: (after ++ level :: later) := by
    rw [hall, h, List.append_assoc, List.cons_append]
  exact earlier_eq hsplit

theorem earlier_trans (h : l' ∈ l.earlier) (hl : l ∈ level.earlier) : l' ∈ level.earlier := by
  obtain ⟨before, after, hsplit⟩ := List.append_of_mem hl
  rw [earlier_eq_of_split hsplit] at h
  exact hsplit ▸ List.mem_append_left _ h

/-- A tag begins with a character that stands nowhere else in it. -/
theorem tag_eq_cons (level : LogLevel) :
    ∃ body, level.tag.toList = '[' :: body ∧ '[' ∉ body := by
  cases level <;> exact ⟨_, rfl, by decide⟩

theorem length_tag (level : LogLevel) : level.tag.toList.length = 6 := by
  cases level <;> rfl

theorem tag_injective (h : l.tag = l'.tag) : l = l' := by
  have hfind (l : LogLevel) : all.find? (·.tag = l.tag) = some l := by
    cases l <;> decide
  exact Option.some.inj ((hfind l).symm.trans (by rw [h, hfind l']))

end LogLevel

namespace LogLine

variable {line front header message : String} {level l : LogLevel} {read : LogLine}

/-! ## Tags -/

/-- The tag of a level stands somewhere in a text. -/
def HasTag (text : String) (level : LogLevel) : Prop := level.tag.toList <:+: text.toList

instance (text : String) (level : LogLevel) : Decidable (HasTag text level) :=
  decidable_of_iff (Text.occurs level.tag.toList text.toList = true) Text.occurs_eq_true_iff

/-- The first tag of a level in a text has none of that level in front of it. -/
theorem tagged?_eq_some_iff :
    tagged? line level = some read ↔ read.level = level ∧
      ∃ front, line = front ++ level.tag ++ read.message ∧ ¬HasTag front level := by
  obtain ⟨body, htag, hbody⟩ := level.tag_eq_cons
  rw [tagged?, Option.map_eq_some_iff, htag]
  constructor
  · rintro ⟨rest, hrest, rfl⟩
    obtain ⟨front, hline, hfront⟩ := (Text.after?_eq_some_iff hbody).1 hrest
    refine ⟨rfl, String.ofList front, String.toList_inj.1 ?_, ?_⟩
    · simp [String.toList_append, htag, hline]
    · simpa [HasTag, htag] using hfront
  · rintro ⟨rfl, front, rfl, hfront⟩
    refine ⟨read.message.toList, (Text.after?_eq_some_iff hbody).2 ⟨front.toList, ?_, ?_⟩, ?_⟩
    · simp [String.toList_append, htag]
    · simpa [HasTag, htag] using hfront
    · rw [String.ofList_toList]

theorem tagged?_eq_none_iff : tagged? line level = none ↔ ¬HasTag line level := by
  rw [tagged?, Option.map_eq_none_iff, HasTag, ← Text.occurs_eq_true_iff, Text.occurs,
    Option.not_isSome_iff_eq_none]

/-- A line is read by the first tag in it of a level, if no level that is searched for earlier has a
tag in it. -/
theorem ofText_of_hasTag (hline : line = front ++ level.tag ++ message)
    (hfront : ¬HasTag front level) (hearlier : ∀ l ∈ level.earlier, ¬HasTag line l) :
    ofText line = ⟨level, message⟩ := by
  obtain ⟨later, hall⟩ := level.all_eq
  have hfirst : LogLevel.all.findSome? (tagged? line) = some ⟨level, message⟩ :=
    List.findSome?_eq_some_iff.2 ⟨level.earlier, level, later, hall,
      tagged?_eq_some_iff.2 ⟨rfl, front, hline, hfront⟩,
      fun l hl => tagged?_eq_none_iff.2 (hearlier l hl)⟩
  rw [ofText, hfirst]
  rfl

/-- Where a header and a message meet no tag comes about but the one that was put there. -/
theorem hasTag_or_of_hasTag (hheader : ¬HasTag header l)
    (h : HasTag (header ++ level.tag ++ message) l) : l = level ∨ HasTag message l := by
  obtain ⟨body, htag, hbody⟩ := l.tag_eq_cons
  obtain ⟨rest, hlevel, hrest⟩ := level.tag_eq_cons
  rw [HasTag, htag] at hheader
  rw [HasTag, String.toList_append, String.toList_append, List.append_assoc, htag, hlevel,
    List.cons_append, Text.infix_append_iff_of_not_infix hbody hheader, List.infix_cons_iff] at h
  rcases h with hhere | hlater
  · left
    rw [← htag, ← List.cons_append, ← hlevel] at hhere
    have hlength : l.tag.toList.length = level.tag.toList.length :=
      l.length_tag.trans level.length_tag.symm
    have hpre : l.tag.toList <+: level.tag.toList :=
      List.prefix_of_prefix_length_le hhere (List.prefix_append ..) (Nat.le_of_eq hlength)
    exact LogLevel.tag_injective (String.toList_inj.1 (hpre.eq_of_length hlength))
  · right
    rwa [Text.infix_append_iff_of_not_mem hrest, ← htag] at hlater

/-! ## Lines with a header -/

/-- How a line may be read that was written with a level and a message. -/
inductive ReadsAs (level : LogLevel) (message : String) : LogLine → Prop
  /-- At the level it was written with: no level searched for earlier has a tag in the message. -/
  | written (h : ∀ l ∈ level.earlier, ¬HasTag message l) : ReadsAs level message ⟨level, message⟩
  /-- By a tag of an earlier level in the message, with what stands behind it. -/
  | echoed {l : LogLevel} {front rest : String} (hl : l ∈ level.earlier)
      (hmessage : message = front ++ l.tag ++ rest) (hfront : ¬HasTag front l)
      (h : ∀ l' ∈ l.earlier, ¬HasTag message l') : ReadsAs level message ⟨l, rest⟩

theorem exists_readsAs (level : LogLevel) (message : String) :
    ∃ read, ReadsAs level message read := by
  cases h : level.earlier.findSome? (tagged? message) with
  | none =>
    exact ⟨_, .written fun l hl => tagged?_eq_none_iff.1 (List.findSome?_eq_none_iff.1 h l hl)⟩
  | some read =>
    obtain ⟨before, l, after, hsplit, hread, hnone⟩ := List.findSome?_eq_some_iff.1 h
    obtain ⟨rfl, front, hmessage, hfront⟩ := tagged?_eq_some_iff.1 hread
    refine ⟨_, .echoed (by rw [hsplit]; simp) hmessage hfront fun l' hl' => ?_⟩
    rw [LogLevel.earlier_eq_of_split hsplit] at hl'
    exact tagged?_eq_none_iff.1 (hnone l' hl')

theorem ofText_of_readsAs (hheader : ∀ l, ¬HasTag header l) (h : ReadsAs level message read) :
    ofText (header ++ level.tag ++ message) = read := by
  cases h with
  | written hnone =>
    refine ofText_of_hasTag rfl (hheader level) fun l hl htag => ?_
    rcases hasTag_or_of_hasTag (hheader l) htag with rfl | hmessage
    · exact l.not_mem_earlier hl
    · exact hnone l hl hmessage
  | @echoed l front rest hl hmessage hfront hnone =>
    have hne : ∀ l' ∈ level.earlier, l' ≠ level := fun l' hl' he =>
      level.not_mem_earlier (he ▸ hl')
    have hline : header ++ level.tag ++ message = header ++ level.tag ++ front ++ l.tag ++ rest := by
      rw [hmessage]
      simp only [String.append_assoc]
    refine ofText_of_hasTag hline (fun htag => ?_) fun l' hl' htag => ?_
    · rcases hasTag_or_of_hasTag (hheader l) htag with he | hback
      · exact hne l hl he
      · exact hfront hback
    · rcases hasTag_or_of_hasTag (hheader l') htag with he | hback
      · exact hne l' (LogLevel.earlier_trans hl' hl) he
      · exact hnone l' hl' hback

theorem ofText_eq_iff_readsAs (hheader : ∀ l, ¬HasTag header l) :
    ofText (header ++ level.tag ++ message) = read ↔ ReadsAs level message read := by
  refine ⟨?_, ofText_of_readsAs hheader⟩
  rintro rfl
  obtain ⟨read, hread⟩ := exists_readsAs level message
  rwa [ofText_of_readsAs hheader hread]

/-! ## Verdicts -/

/-- What the beginning of a message says of a reload. -/
def Says (message : String) : Verdict → Prop
  | .applied => appliedText.toList <+: message.toList
  | .failed reason => message = failedText ++ reason

theorem verdict?_eq_some_iff {verdict : Verdict} :
    read.verdict? = some verdict ↔ Says read.message verdict := by
  unfold verdict?
  simp only
  split
  · next h =>
    rw [List.isPrefixOf_iff_prefix] at h
    cases verdict with
    | applied => exact iff_of_true rfl h
    | failed reason =>
      refine iff_of_false nofun fun htold => ?_
      obtain ⟨rest, hrest⟩ := h
      rw [htold, String.toList_append] at hrest
      exact absurd (List.cons.inj hrest).1 (by decide)
  · next h =>
    rw [List.isPrefixOf_iff_prefix] at h
    cases verdict with
    | applied => exact iff_of_false (by simp) h
    | failed reason =>
      rw [Option.map_eq_some_iff, Says, ← String.toList_inj, String.toList_append]
      constructor
      · rintro ⟨rest, hrest, hreason⟩
        cases hreason
        rw [String.toList_ofList]
        exact Text.stripStart?_eq_some_iff.1 hrest
      · intro htold
        exact ⟨reason.toList, Text.stripStart?_eq_some_iff.2 htold, by rw [String.ofList_toList]⟩

/-- A readable line is learnt from by what it is read as. -/
theorem told?_ofText (line : String) :
    LogReader.told? (Bytes.ofText line) = (ofText line).verdict? := by
  rw [LogReader.told?, Bytes.toText?_ofText]
  rfl

/-- A line with a level and a message, behind a header without a tag, is read in one of two ways: as
it was written, exactly if no level that is searched for earlier has a tag in the message, or else
by the first tag of such a level. What is learnt from a stream with this line alone is what the
message says as it is read. -/
theorem ofText_marked (hheader : ∀ l, ¬HasTag header l) (level : LogLevel) (message : String) :
    (∀ read, ofText (header ++ level.tag ++ message) = read ↔ ReadsAs level message read) ∧
    (ofText (header ++ level.tag ++ message) = ⟨level, message⟩ ↔
      ∀ l ∈ level.earlier, ¬HasTag message l) ∧
    ∀ (pieces whole : List Bytes) (last : Bytes), LogReader.IsCut pieces.flatten whole last →
      LogReader.texts whole last = [Bytes.ofText (header ++ level.tag ++ message)] →
        ∀ verdict, verdict ∈ LogReader.verdictsOfPieces pieces ↔
          ∃ read, ReadsAs level message read ∧ Says read.message verdict := by
  refine ⟨fun read => ofText_eq_iff_readsAs hheader, ?_, ?_⟩
  · rw [ofText_eq_iff_readsAs hheader]
    constructor
    · intro h
      cases h with
      | written hnone => exact hnone
      | echoed hl => exact absurd hl level.not_mem_earlier
    · exact .written
  · intro pieces whole last hcut htexts verdict
    have hreadable : LogReader.readable (Bytes.ofText (header ++ level.tag ++ message)) = true := by
      rw [LogReader.readable, Bytes.toText?_ofText]
      rfl
    rw [LogReader.verdictsOfPieces_lines, LogReader.lines_of_isCut hcut, htexts,
      List.takeWhile_cons_of_pos hreadable, List.takeWhile_nil, List.mem_filterMap]
    simp only [List.mem_singleton, exists_eq_left, told?_ofText, verdict?_eq_some_iff]
    constructor
    · exact fun htold => ⟨_, (ofText_eq_iff_readsAs hheader).1 rfl, htold⟩
    · rintro ⟨read, hread, htold⟩
      rwa [ofText_of_readsAs hheader hread]

theorem not_hasTag_stamp (l : LogLevel) : ¬HasTag "[7] 2024/05/01 10:00:00.000000 " l := by
  cases l <;> decide +kernel

/-- A refused reload is learnt of, though the message has the tags of its own level and of a later
one in it. -/
theorem ofText_marked_later_tags :
    let header := "[7] 2024/05/01 10:00:00.000000 "
    let message := "Failed to reload server configuration: [INF] [ERR] bad value"
    let input := Bytes.ofText (header ++ LogLevel.error.tag ++ message ++ "\n")
    (∀ l, ¬HasTag header l) ∧
      ofText (header ++ LogLevel.error.tag ++ message) = ⟨.error, message⟩ ∧
        .failed "[INF] [ERR] bad value" ∈ LogReader.verdictsOfPieces [input] := by
  intro header message input
  have hnone : ∀ l ∈ LogLevel.error.earlier, ¬HasTag message l := by decide +kernel
  obtain ⟨-, hwritten, hlearnt⟩ := ofText_marked not_hasTag_stamp .error message
  have hcut : LogReader.IsCut [input].flatten
      [Bytes.ofText (header ++ LogLevel.error.tag ++ message)] [] :=
    ⟨by decide +kernel, by decide +kernel, by decide +kernel⟩
  exact ⟨not_hasTag_stamp, hwritten.2 hnone,
    (hlearnt _ _ _ hcut (by decide +kernel) _).2 ⟨_, .written hnone, rfl⟩⟩

/-- What a client got into the log is taken for the failure of a reload. -/
theorem verdict_forged :
    let header := "[7] 2024/05/01 10:00:00.000000 "
    let refusal := "Failed to reload server configuration: config reload not supported for cluster"
    let message := "client said [ERR] " ++ refusal
    (∀ l, ¬HasTag header l) ∧
      ofText (header ++ LogLevel.info.tag ++ message) = ⟨.error, refusal⟩ ∧
        (ofText (header ++ LogLevel.info.tag ++ message)).verdict? =
          some (.failed "config reload not supported for cluster") ∧
        (⟨.info, message⟩ : LogLine).verdict? = none := by
  intro header refusal message
  have hfront : ¬HasTag "client said " .error := by decide +kernel
  have hread : ReadsAs .info message ⟨.error, refusal⟩ :=
    .echoed (by decide) (by decide +kernel) hfront (by decide +kernel)
  have hline := ofText_of_readsAs not_hasTag_stamp hread
  refine ⟨not_hasTag_stamp, hline, ?_, by decide +kernel⟩
  rw [hline]
  exact verdict?_eq_some_iff.2 rfl

end LogLine

end CalloutHost
