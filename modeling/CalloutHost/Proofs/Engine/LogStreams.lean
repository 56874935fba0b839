import CalloutHost.Engine.Log

/-!
# What is learnt from the engine's log

The bytes of a stream fall in one way only into lines (`LogReader.lines_eq_iff`), and it does not
matter in which pieces they come in (`LogReader.verdictsOfPieces_eq`). The lines in front of the
first that is not UTF-8 are read, and none behind it: a verdict there is not learnt, even if its own
line is in order (`LogReader.verdicts_before_unreadable`).
-/

namespace CalloutHost

namespace LogReader

/-! ## Lines -/

/-- The stream has these lines, and this is the beginning of one that has no end. -/
structure IsCut (input : Bytes) (whole : List Bytes) (last : Bytes) : Prop where
  /-- The lines with an end after each, and the one without, are the stream. -/
  input_eq : input = whole.flatMap (· ++ [10]) ++ last
  whole : ∀ line ∈ whole, 10 ∉ line
  /-- The one without an end is a single line too. -/
  last : 10 ∉ last

theorem lines_of_not_mem {last : Bytes} (h : 10 ∉ last) : lines last = ([], last) := by
  induction last with
  | nil => rfl
  | cons b last ih =>
    rw [List.mem_cons, not_or] at h
    rw [lines, if_neg (Ne.symm h.1), ih h.2]

theorem lines_append_newline {line : Bytes} (h : 10 ∉ line) (rest : Bytes) :
    lines (line ++ 10 :: rest) = (line :: (lines rest).1, (lines rest).2) := by
  induction line with
  | nil => rw [List.nil_append, lines, if_pos rfl]
  | cons b line ih =>
    rw [List.mem_cons, not_or] at h
    rw [List.cons_append, lines, if_neg (Ne.symm h.1), ih h.2]

theorem lines_of_isCut {input last : Bytes} {whole : List Bytes} (h : IsCut input whole last) :
    lines input = (whole, last) := by
  obtain ⟨rfl, hwhole, hlast⟩ := h
  induction whole with
  | nil => exact lines_of_not_mem hlast
  | cons line whole ih =>
    rw [List.forall_mem_cons] at hwhole
    rw [List.flatMap_cons, List.append_assoc, List.append_assoc, List.singleton_append,
      lines_append_newline hwhole.1, ih hwhole.2]

/-- No end of a line is left in what is cut. -/
theorem not_mem_lines (input : Bytes) :
    (∀ line ∈ (lines input).1, 10 ∉ line) ∧ 10 ∉ (lines input).2 := by
  induction input with
  | nil => simp [lines]
  | cons b rest ih =>
    rw [lines]
    split
    · exact ⟨List.forall_mem_cons.2 ⟨by simp, ih.1⟩, ih.2⟩
    next hb =>
    split
    · next last hrest =>
      rw [hrest] at ih
      exact ⟨List.forall_mem_nil _, by simpa [Ne.symm hb] using ih.2⟩
    · next line more last hrest =>
      rw [hrest, List.forall_mem_cons] at ih
      exact ⟨List.forall_mem_cons.2 ⟨by simpa [Ne.symm hb] using ih.1.1, ih.1.2⟩, ih.2⟩

theorem isCut_lines (input : Bytes) : IsCut input (lines input).1 (lines input).2 :=
  ⟨(flatten_lines input).symm, (not_mem_lines input).1, (not_mem_lines input).2⟩

/-- A stream has its lines in one way only. -/
theorem lines_eq_iff {input last : Bytes} {whole : List Bytes} :
    lines input = (whole, last) ↔ IsCut input whole last := by
  refine ⟨fun h => ?_, lines_of_isCut⟩
  have hcut := isCut_lines input
  rwa [h] at hcut

/-- A line without an end is gone on with by what comes next. -/
theorem lines_append (a b : Bytes) :
    lines (a ++ b) =
      ((lines a).1 ++ (lines ((lines a).2 ++ b)).1, (lines ((lines a).2 ++ b)).2) := by
  obtain ⟨ha, hwhole, -⟩ := isCut_lines a
  obtain ⟨hb, hmore, hlast⟩ := isCut_lines ((lines a).2 ++ b)
  refine lines_of_isCut ⟨?_, ?_, hlast⟩
  · rw [List.flatMap_append, List.append_assoc, ← hb, ← List.append_assoc, ← ha]
  · exact fun line hline => (List.mem_append.1 hline).elim (hwhole line) (hmore line)

/-- The lines of a stream without their ends; the last counts unless it is empty. -/
def texts (whole : List Bytes) (last : Bytes) : List Bytes :=
  whole.map dropReturn ++ if last = [] then [] else [last]

theorem texts_append (front whole : List Bytes) (last : Bytes) :
    texts (front ++ whole) last = front.map dropReturn ++ texts whole last := by
  rw [texts, texts, List.map_append, List.append_assoc]

/-! ## Lines that can be read -/

/-- The line is UTF-8. -/
def readable (line : Bytes) : Bool := (Bytes.toText? line).isSome

/-- What a line says of a reload, if it can be read. -/
def told? (line : Bytes) : Option Verdict :=
  (Bytes.toText? line).bind fun text => (LogLine.ofText text).verdict?

theorem decode_append (a b : List Bytes) :
    decode (a ++ b) =
      if (decode a).2 then ((decode a).1 ++ (decode b).1, (decode b).2) else decode a := by
  induction a with
  | nil => simp [decode]
  | cons line a ih =>
    rw [List.cons_append, decode, decode]
    cases Bytes.toText? line with
    | none => rfl
    | some text =>
      simp only [ih]
      split <;> rfl

/-- What is learnt from lines is what those in front of the first unreadable one say. -/
theorem verdicts_decode (lines : List Bytes) :
    (decode lines).1.filterMap (·.verdict?) = (lines.takeWhile readable).filterMap told? := by
  induction lines with
  | nil => rfl
  | cons line lines ih =>
    rw [decode, List.takeWhile_cons, readable]
    cases htext : Bytes.toText? line with
    | none => rfl
    | some text =>
      have htold : told? line = (LogLine.ofText text).verdict? := by rw [told?, htext]; rfl
      simp [List.filterMap_cons, ih, htold]

/-! ## Pieces of a stream -/

theorem feedAll_of_closed (pending : Bytes) (pieces : List Bytes) :
    feedAll ⟨pending, false⟩ pieces = ([], ⟨pending, false⟩) := by
  induction pieces with
  | nil => rfl
  | cons piece pieces ih =>
    have hfeed : feed ⟨pending, false⟩ piece = ([], ⟨pending, false⟩) := rfl
    simp [feedAll, hfeed, ih]

/-- A reader that reads on makes of the pieces what it would make of the lines that they are
together. -/
theorem read_feedAll {pending : Bytes} (h : 10 ∉ pending) (pieces : List Bytes) :
    (feedAll ⟨pending, true⟩ pieces).1 ++ (feedAll ⟨pending, true⟩ pieces).2.finish =
      (decode (texts (lines (pending ++ pieces.flatten)).1
        (lines (pending ++ pieces.flatten)).2)).1 := by
  induction pieces generalizing pending with
  | nil =>
    rw [List.flatten_nil, List.append_nil, lines_of_not_mem h]
    by_cases hpending : pending = [] <;> simp [feedAll, finish, texts, hpending, decode]
  | cons piece pieces ih =>
    have hfeed : feed ⟨pending, true⟩ piece =
        ((decode ((lines (pending ++ piece)).1.map dropReturn)).1,
          ⟨(lines (pending ++ piece)).2,
            (decode ((lines (pending ++ piece)).1.map dropReturn)).2⟩) := rfl
    have hlast := (not_mem_lines (pending ++ piece)).2
    rw [List.flatten_cons, ← List.append_assoc, lines_append (pending ++ piece), feedAll, hfeed]
    simp only
    rw [texts_append, decode_append]
    -- Once a line could not be read, the reader is closed and the rest goes by.
    cases hopen : (decode ((lines (pending ++ piece)).1.map dropReturn)).2 with
    | false => simp [feedAll_of_closed, finish]
    | true => simp [List.append_assoc, ih hlast]

/-- What is learnt from a stream is what its lines say that stand in front of the first unreadable
one. -/
theorem verdictsOfPieces_lines (pieces : List Bytes) :
    verdictsOfPieces pieces =
      ((texts (lines pieces.flatten).1 (lines pieces.flatten).2).takeWhile readable).filterMap
        told? := by
  simp only [verdictsOfPieces, new]
  rw [read_feedAll List.not_mem_nil, List.nil_append, verdicts_decode]

/-- It does not matter in which pieces the stream comes in. -/
theorem verdictsOfPieces_eq (pieces : List Bytes) :
    verdictsOfPieces pieces = verdicts pieces.flatten := by
  have hone : verdicts pieces.flatten = verdictsOfPieces [pieces.flatten] := by
    simp [verdicts, readAll, verdictsOfPieces, feedAll]
  rw [hone, verdictsOfPieces_lines, verdictsOfPieces_lines, List.flatten_singleton]

/-- In whatever pieces a stream comes in, what is learnt from it is what its lines say, in their
order, that stand in front of the first unreadable one. So all is learnt exactly if no line from
that one on says anything. -/
theorem verdicts_before_unreadable {pieces whole : List Bytes} {last : Bytes}
    (h : IsCut pieces.flatten whole last) :
    verdictsOfPieces pieces = verdicts pieces.flatten ∧
    verdictsOfPieces pieces = ((texts whole last).takeWhile readable).filterMap told? ∧
    (verdictsOfPieces pieces = (texts whole last).filterMap told? ↔
      ((texts whole last).dropWhile readable).filterMap told? = []) := by
  have hread : verdictsOfPieces pieces =
      ((texts whole last).takeWhile readable).filterMap told? := by
    rw [verdictsOfPieces_lines, lines_of_isCut h]
  refine ⟨verdictsOfPieces_eq pieces, hread, ?_⟩
  have hall : (texts whole last).filterMap told? =
      ((texts whole last).takeWhile readable).filterMap told? ++
        ((texts whole last).dropWhile readable).filterMap told? := by
    rw [← List.filterMap_append, List.takeWhile_append_dropWhile]
  rw [hread, hall, List.self_eq_append_right]

/-- A stream whose second line is a byte that is not UTF-8, cut in the middle of its first line. -/
theorem verdicts_before_unreadable_cut :
    let applied := Bytes.ofText "Reloaded server configuration"
    let failed := Bytes.ofText "Failed to reload server configuration: bad value"
    let pieces := [applied.take 4, applied.drop 4 ++ [10, 255, 10] ++ failed ++ [10]]
    IsCut pieces.flatten [applied, [255], failed] [] ∧
      verdictsOfPieces pieces = [.applied] := by
  intro applied failed pieces
  have hcut : IsCut pieces.flatten [applied, [255], failed] [] :=
    ⟨by decide +kernel, by decide +kernel, by decide +kernel⟩
  exact ⟨hcut, (verdicts_before_unreadable hcut).2.1.trans (by decide +kernel)⟩

/-- A line that is not UTF-8 hides the failed reload of which the next line speaks. -/
theorem verdict_hidden :
    let failed := Bytes.ofText "Failed to reload server configuration: bad value"
    let input := [255, 10] ++ failed ++ [10]
    IsCut input [[255], failed] [] ∧
      (texts [[255], failed] []).filterMap told? = [.failed "bad value"] ∧
        verdictsOfPieces [input] = [] := by
  refine ⟨⟨?_, ?_, ?_⟩, ?_, ?_⟩ <;> decide +kernel

end LogReader

end CalloutHost
