import CalloutHost.Proofs.Encoding.ByteStrings
import CalloutHost.Proofs.Text.Pieces
import CalloutHost.Url.Parse
import Mathlib.Data.List.DropRight
import Mathlib.Data.List.Infix

/-!
# The paths of URLs

A path that was read is a way of segments, each behind its slash (`Url.exists_segments`), and none
of them is changed by reading it again: its characters stand for themselves and it is no segment of
dots (`Url.IsSegment`). So a way of such segments is read as it is (`Url.readPath_of_way`), and to
take the slashes at its end away is to take its empty last segments away (`Url.rdropWhile_way`).
-/

namespace CalloutHost.Url

open Bytes (ofText)

variable {keep : UInt8 → Bool} {others : String} {cs segment : List Char}
  {segments done : List (List Char)} {c : Char}

/-! ## Characters -/

/-- The characters that are written for a byte which does not stand for itself. -/
def escapeCharacters : List Char := "%0123456789ABCDEF".toList

theorem upperHex_mem {n : Nat} (h : n < 16) : upperHex n ∈ escapeCharacters := by
  have table : ∀ m : Fin 16, upperHex m ∈ escapeCharacters := by decide
  exact table ⟨n, h⟩

theorem isPlain_iff {b : UInt8} :
    isPlain others b = true ↔
      32 < b.toNat ∧ b.toNat < 127 ∧ Char.ofNat b.toNat ∉ others.toList := by
  simp [isPlain, UInt8.lt_iff_toNat_lt, and_assoc]

/-- The byte of a character below 128 is the byte of that character only. -/
theorem mem_of_mem_ofText {b : UInt8} (h : b ∈ ofText (String.ofList cs)) (hb : b.toNat < 128) :
    Char.ofNat b.toNat ∈ cs := by
  rw [Bytes.ofText_ofList, List.mem_flatMap] at h
  obtain ⟨c, hc, hmem⟩ := h
  have hlt : c.toNat < 128 := by
    by_contra hle
    exact absurd (Bytes.le_of_mem_utf8EncodeChar (Nat.le_of_not_lt hle) hmem) (Nat.not_le.2 hb)
  rw [Bytes.utf8EncodeChar_of_lt hlt, List.mem_singleton] at hmem
  rw [hmem, Bytes.toNat_ofNat_byte (Nat.lt_of_lt_of_le hlt (by decide)), Char.ofNat_toNat]
  exact hc

/-- What is written for some characters are those among them that stand for themselves, and what
stands in escapes. -/
theorem mem_percentEncode (h : c ∈ percentEncode (isPlain others) cs) :
    (c ∈ cs ∧ c.toNat < 128 ∧ isPlain others (UInt8.ofNat c.toNat) = true) ∨
      c ∈ escapeCharacters := by
  rw [percentEncode, List.mem_flatMap] at h
  obtain ⟨b, hb, hc⟩ := h
  split at hc
  · next hkeep =>
    have hlt : b.toNat < 128 := Nat.lt_succ_of_lt (isPlain_iff.1 hkeep).2.1
    rw [List.mem_singleton] at hc
    subst hc
    rw [Bytes.toNat_ofNat_of_lt hlt, UInt8.ofNat_toNat]
    exact .inl ⟨mem_of_mem_ofText hb hlt, hlt, hkeep⟩
  · have hhigh : b.toNat / 16 < 16 := Nat.div_lt_of_lt_mul b.toNat_lt
    have hlow : b.toNat % 16 < 16 := Nat.mod_lt _ (by decide)
    simp only [List.mem_cons, List.not_mem_nil, or_false] at hc
    rcases hc with rfl | rfl | rfl
    · exact .inr (by decide)
    · exact .inr (upperHex_mem hhigh)
    · exact .inr (upperHex_mem hlow)

/-- Characters that stand for themselves are written as they are. -/
theorem percentEncode_of_kept (h : ∀ c ∈ cs, c.toNat < 128 ∧ keep (UInt8.ofNat c.toNat) = true) :
    percentEncode keep cs = cs := by
  rw [percentEncode, Bytes.ofText_ofList]
  induction cs with
  | nil => rfl
  | cons c cs ih =>
    obtain ⟨hlt, hkeep⟩ := h c (List.mem_cons_self ..)
    have htail := ih fun d hd => h d (List.mem_cons_of_mem _ hd)
    rw [List.flatMap_cons, List.flatMap_append, htail, Bytes.utf8EncodeChar_of_lt hlt,
      List.flatMap_singleton, if_pos hkeep,
      Bytes.toNat_ofNat_byte (Nat.lt_of_lt_of_le hlt (by decide)), Char.ofNat_toNat]
    rfl

/-! ## Segments -/

/-- The character stands for itself in a path. -/
def StandsInPath (c : Char) : Prop := c.toNat < 128 ∧ keptInPath (UInt8.ofNat c.toNat) = true

theorem standsInPath_iff :
    StandsInPath c ↔ 32 < c.toNat ∧ c.toNat < 127 ∧ c ∉ "\"<>`#?\x7b\x7d".toList := by
  have hbyte (hlt : c.toNat < 128) : (UInt8.ofNat c.toNat).toNat = c.toNat :=
    Bytes.toNat_ofNat_byte (Nat.lt_of_lt_of_le hlt (by decide))
  constructor
  · rintro ⟨hlt, hkeep⟩
    rw [keptInPath, isPlain_iff, hbyte hlt, Char.ofNat_toNat] at hkeep
    exact hkeep
  · rintro ⟨hlow, hhigh, hmem⟩
    have hlt : c.toNat < 128 := Nat.lt_succ_of_lt hhigh
    refine ⟨hlt, ?_⟩
    rw [keptInPath, isPlain_iff, hbyte hlt, Char.ofNat_toNat]
    exact ⟨hlow, hhigh, hmem⟩

instance (c : Char) : Decidable (StandsInPath c) := decidable_of_iff _ standsInPath_iff.symm

/-- A segment that is not changed by reading it again. -/
structure IsSegment (segment : List Char) : Prop where
  stands : ∀ c ∈ segment, StandsInPath c
  slash : '/' ∉ segment
  backslash : '\\' ∉ segment
  singleDot : isSingleDot segment = false
  doubleDot : isDoubleDot segment = false

theorem isSegment_nil : IsSegment [] where
  stands := nofun
  slash := nofun
  backslash := nofun
  singleDot := by decide +kernel
  doubleDot := by decide +kernel

theorem standsInPath_of_mem_percentEncode (h : c ∈ percentEncode keptInPath cs) :
    StandsInPath c := by
  obtain ⟨-, hlt, hkeep⟩ | hescape := mem_percentEncode h
  · exact ⟨hlt, hkeep⟩
  · have table : escapeCharacters.all (fun c => decide (StandsInPath c)) = true := by decide
    exact of_decide_eq_true (List.all_eq_true.1 table c hescape)

/-- A slash is written only for a slash. -/
theorem not_mem_percentEncode (h : c ∉ cs) (hc : c ∉ escapeCharacters) :
    c ∉ percentEncode keptInPath cs := fun hmem =>
  (mem_percentEncode hmem).elim (fun hstands => h hstands.1) hc

/-- A segment is written so that it is not changed by reading it again, unless it is one of dots. -/
theorem isSegment_percentEncode (hslash : '/' ∉ cs) (hbackslash : '\\' ∉ cs)
    (hsingle : isSingleDot (percentEncode keptInPath cs) = false)
    (hdouble : isDoubleDot (percentEncode keptInPath cs) = false) :
    IsSegment (percentEncode keptInPath cs) where
  stands _ hc := standsInPath_of_mem_percentEncode hc
  slash := not_mem_percentEncode hslash (by decide)
  backslash := not_mem_percentEncode hbackslash (by decide)
  singleDot := hsingle
  doubleDot := hdouble

/-! ## Following segments -/

theorem mem_of_mem_parent (h : segment ∈ parent done) : segment ∈ done := by
  rw [parent] at h
  split at h
  · exact h
  · exact List.mem_of_mem_dropLast h

/-- What following leaves are segments from before, empty ones, and those that are not of dots. -/
theorem mem_follow (h : segment ∈ follow done segments) :
    segment ∈ done ∨ segment = [] ∨
      segment ∈ segments ∧ isSingleDot segment = false ∧ isDoubleDot segment = false := by
  fun_induction follow done segments with
  | case1 done => exact .inl h
  | case2 done last hdouble =>
    rcases List.mem_append.1 h with h | h
    · exact .inl (mem_of_mem_parent h)
    · exact .inr (.inl (List.mem_singleton.1 h))
  | case3 done last hdouble hsingle =>
    rcases List.mem_append.1 h with h | h
    · exact .inl h
    · exact .inr (.inl (List.mem_singleton.1 h))
  | case4 done last hdouble hsingle =>
    rcases List.mem_append.1 h with h | h
    · exact .inl h
    · rw [List.mem_singleton.1 h]
      exact .inr (.inr ⟨List.mem_singleton_self _, Bool.eq_false_iff.2 hsingle,
        Bool.eq_false_iff.2 hdouble⟩)
  | case5 done first rest hrest hdouble ih =>
    exact (ih h).imp mem_of_mem_parent (.imp_right (.imp_left (List.mem_cons_of_mem _)))
  | case6 done first rest hrest hdouble hsingle ih =>
    exact (ih h).imp_right (.imp_right (.imp_left (List.mem_cons_of_mem _)))
  | case7 done first rest hrest hdouble hsingle ih =>
    obtain hdone | hlater := ih h
    · rcases List.mem_append.1 hdone with h | h
      · exact .inl h
      · rw [List.mem_singleton.1 h]
        exact .inr (.inr ⟨List.mem_cons_self .., Bool.eq_false_iff.2 hsingle,
          Bool.eq_false_iff.2 hdouble⟩)
    · exact .inr (hlater.imp_right (.imp_left (List.mem_cons_of_mem _)))

theorem follow_ne_nil (h : segments ≠ []) : follow done segments ≠ [] := by
  fun_induction follow done segments with
  | case1 done => exact absurd rfl h
  | case2 done last hdouble => simp
  | case3 done last hdouble hsingle => simp
  | case4 done last hdouble hsingle => simp
  | case5 done first rest hrest hdouble ih => exact ih hrest
  | case6 done first rest hrest hdouble hsingle ih => exact ih hrest
  | case7 done first rest hrest hdouble hsingle ih => exact ih hrest

/-- Segments that are not of dots are followed as they are. -/
theorem follow_of_isSegment (h : ∀ s ∈ segments, IsSegment s) :
    follow done segments = done ++ segments := by
  fun_induction follow done segments with
  | case1 done => exact (List.append_nil done).symm
  | case2 done last hdouble =>
    exact absurd hdouble (Bool.eq_false_iff.1 (h last (List.mem_singleton_self _)).doubleDot)
  | case3 done last hdouble hsingle =>
    exact absurd hsingle (Bool.eq_false_iff.1 (h last (List.mem_singleton_self _)).singleDot)
  | case4 done last hdouble hsingle => rfl
  | case5 done first rest hrest hdouble ih =>
    exact absurd hdouble (Bool.eq_false_iff.1 (h first (List.mem_cons_self ..)).doubleDot)
  | case6 done first rest hrest hdouble hsingle ih =>
    exact absurd hsingle (Bool.eq_false_iff.1 (h first (List.mem_cons_self ..)).singleDot)
  | case7 done first rest hrest hdouble hsingle ih =>
    rw [ih fun s hs => h s (List.mem_cons_of_mem _ hs), List.append_assoc]
    rfl

/-! ## Ways -/

/-- The segments, each behind a slash. -/
def way (segments : List (List Char)) : List Char := segments.flatMap ('/' :: ·)

theorem way_append (front back : List (List Char)) : way (front ++ back) = way front ++ way back :=
  List.flatMap_append

theorem mem_way (h : c ∈ way segments) : c = '/' ∨ ∃ s ∈ segments, c ∈ s := by
  obtain ⟨s, hs, hc⟩ := List.mem_flatMap.1 h
  exact (List.mem_cons.1 hc).imp_right fun hmem => ⟨s, hs, hmem⟩

/-- Two slashes are in front of a way exactly if its first segment is empty and not its last. -/
theorem slashes_prefix_way_iff (h : ∀ s ∈ segments, '/' ∉ s) :
    ['/', '/'] <+: way segments ↔ ∃ name rest, segments = [] :: name :: rest := by
  cases segments with
  | nil => simp [way]
  | cons first rest =>
    cases first with
    | nil => cases rest <;> simp [way]
    | cons c first =>
      have hc : '/' ≠ c := fun he =>
        h (c :: first) (List.mem_cons_self ..) (he ▸ List.mem_cons_self ..)
      simp [way, hc]

theorem cons_join (h : segments ≠ []) : '/' :: Text.join '/' segments = way segments := by
  induction segments with
  | nil => exact absurd rfl h
  | cons segment segments ih =>
    rw [way, List.flatMap_cons, ← way]
    cases segments with
    | nil => exact congrArg ('/' :: ·) (List.append_nil segment).symm
    | cons next rest => rw [← ih (List.cons_ne_nil next rest)]; rfl

/-- A path that was read is the way of some segments, which reading it again does not change. -/
theorem exists_segments (cs : List Char) :
    ∃ segments, segments ≠ [] ∧ (∀ s ∈ segments, IsSegment s) ∧ readPath cs = way segments := by
  let slashes := cs.map fun c => if c = '\\' then '/' else c
  have hbackslash : '\\' ∉ slashes := fun hmem => by
    obtain ⟨c, -, hc⟩ := List.mem_map.1 hmem
    split at hc
    · cases hc
    · next hne => exact hne hc
  have hpieces : (Text.split '/' slashes).map (percentEncode keptInPath) ≠ [] :=
    mt List.map_eq_nil_iff.1 (Text.split_ne_nil '/' slashes)
  refine ⟨_, follow_ne_nil hpieces, fun s hs => ?_, cons_join (follow_ne_nil hpieces)⟩
  obtain hnone | rfl | ⟨hs, hsingle, hdouble⟩ := mem_follow hs
  · exact absurd hnone List.not_mem_nil
  · exact isSegment_nil
  · obtain ⟨piece, hpiece, rfl⟩ := List.mem_map.1 hs
    exact isSegment_percentEncode (Text.not_mem_of_mem_split hpiece)
      (fun hmem => hbackslash (Text.mem_of_mem_split hpiece hmem)) hsingle hdouble

/-- A way of such segments is read as it is. -/
theorem readPath_of_way (hne : segments ≠ []) (h : ∀ s ∈ segments, IsSegment s) :
    readPath ((way segments).drop 1) = way segments := by
  have hjoin : (way segments).drop 1 = Text.join '/' segments := by rw [← cons_join hne]; rfl
  have hslashes : (Text.join '/' segments).map (fun c => if c = '\\' then '/' else c) =
      Text.join '/' segments := by
    nth_rewrite 2 [← List.map_id (Text.join '/' segments)]
    refine List.map_congr_left fun c hc => if_neg fun hbackslash => ?_
    obtain rfl | ⟨s, hs, hmem⟩ := Text.mem_join hc
    · exact absurd hbackslash (by decide)
    · exact (h s hs).backslash (hbackslash ▸ hmem)
  have hencode : segments.map (percentEncode keptInPath) = segments := by
    nth_rewrite 2 [← List.map_id segments]
    exact List.map_congr_left fun s hs => percentEncode_of_kept (h s hs).stands
  rw [readPath, hjoin, hslashes, Text.split_join hne fun s hs => (h s hs).slash, hencode,
    follow_of_isSegment h, List.nil_append, cons_join hne]

/-- To take the slashes at the end of a way away is to take its empty last segments away. -/
theorem rdropWhile_way (h : ∀ s ∈ segments, '/' ∉ s) :
    (way segments).rdropWhile (· = '/') = way (segments.rdropWhile List.isEmpty) := by
  -- From the right: only an empty last segment lets the slash in front of it go.
  induction segments using List.reverseRecOn with
  | nil => rfl
  | append_singleton segments last ih =>
    obtain ⟨hsegments, hlast⟩ := List.forall_mem_append.1 h
    have hlast : '/' ∉ last := hlast last (List.mem_singleton_self last)
    have hway : way (segments ++ [last]) = way segments ++ '/' :: last := by
      rw [way_append, way, way, List.flatMap_singleton]
    rcases List.eq_nil_or_concat' last with rfl | ⟨front, c, rfl⟩
    · rw [hway, List.rdropWhile_concat_pos _ _ _ (by decide), List.rdropWhile_concat_pos _ _ _ rfl,
        ih hsegments]
    · have hc : c ≠ '/' := fun he => hlast (by simp [he])
      have hfilled : ¬(front ++ [c]).isEmpty = true := by simp
      rw [List.rdropWhile_concat_neg _ _ _ hfilled, hway, ← List.cons_append, ← List.append_assoc,
        List.rdropWhile_concat_neg _ _ _ (by simpa using hc)]

end CalloutHost.Url
