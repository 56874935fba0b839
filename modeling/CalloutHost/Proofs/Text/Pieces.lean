import CalloutHost.Text.Split

/-!
# Pieces of a text

Pieces that do not hold the separator are what a text is split into that was joined from them
(`split_join`). Blanks on either side of a text without blanks are trimmed (`trim_append`), and
every text is what is left of it with blanks on either side (`exists_blanks`).
-/

namespace CalloutHost.Text

theorem split_append {separator : Char} {piece : List Char} (h : separator ∉ piece)
    (rest : List Char) :
    split separator (piece ++ separator :: rest) = piece :: split separator rest := by
  induction piece with
  | nil => rw [List.nil_append, split, if_pos rfl]
  | cons c piece ih =>
    have hc : c ≠ separator := fun he => h (he ▸ List.mem_cons_self ..)
    have htail := ih fun hm => h (List.mem_cons_of_mem _ hm)
    rw [List.cons_append, split, if_neg hc, htail]

theorem split_of_not_mem {separator : Char} {piece : List Char} (h : separator ∉ piece) :
    split separator piece = [piece] := by
  induction piece with
  | nil => rfl
  | cons c piece ih =>
    have hc : c ≠ separator := fun he => h (he ▸ List.mem_cons_self ..)
    have htail := ih fun hm => h (List.mem_cons_of_mem _ hm)
    rw [split, if_neg hc, htail]

/-- Pieces that were joined are split again. -/
theorem split_join {separator : Char} {pieces : List (List Char)} (hne : pieces ≠ [])
    (h : ∀ piece ∈ pieces, separator ∉ piece) :
    split separator (join separator pieces) = pieces := by
  induction pieces with
  | nil => exact absurd rfl hne
  | cons piece pieces ih =>
    have hpiece := h piece (List.mem_cons_self ..)
    cases pieces with
    | nil => exact split_of_not_mem hpiece
    | cons next pieces =>
      have htail := ih (List.cons_ne_nil next pieces) fun q hq => h q (List.mem_cons_of_mem _ hq)
      rw [join, split_append hpiece, htail]
      exact List.cons_ne_nil next pieces

/-- Where the first character stops it, nothing is taken. -/
theorem takeWhile_of_head? {p : Char → Bool} {cs : List Char} (h : ∀ c ∈ cs.head?, p c = false) :
    cs.takeWhile p = [] := by
  cases cs with
  | nil => rfl
  | cons c cs => exact List.takeWhile_cons_of_neg (Bool.eq_false_iff.1 (h c rfl))

/-- Where the first character stops it, nothing is dropped. -/
theorem dropWhile_of_head? {p : Char → Bool} {cs : List Char} (h : ∀ c ∈ cs.head?, p c = false) :
    cs.dropWhile p = cs := by
  cases cs with
  | nil => rfl
  | cons c cs => exact List.dropWhile_cons_of_neg (Bool.eq_false_iff.1 (h c rfl))

theorem dropWhile_isBlank {cs : List Char} (h : ∀ c ∈ cs, isBlank c = false) :
    cs.dropWhile isBlank = cs :=
  dropWhile_of_head? fun c hc => h c (List.mem_of_mem_head? hc)

/-- Blanks on either side of a text without blanks are trimmed. -/
theorem trim_append {before cs after : List Char} (hbefore : ∀ c ∈ before, isBlank c = true)
    (hafter : ∀ c ∈ after, isBlank c = true) (h : ∀ c ∈ cs, isBlank c = false) :
    trim (before ++ cs ++ after) = cs := by
  have hback : ∀ c ∈ after.reverse, isBlank c = true := fun c hc => hafter c (List.mem_reverse.1 hc)
  have hreverse : ∀ c ∈ cs.reverse, isBlank c = false := fun c hc => h c (List.mem_reverse.1 hc)
  have hstart : trimStart (before ++ cs ++ after) = (cs ++ after).dropWhile isBlank := by
    rw [trimStart, List.append_assoc, List.dropWhile_append_of_pos hbefore]
  rw [trim, hstart]
  cases cs with
  | nil =>
    rw [List.nil_append, ← List.append_nil after, List.dropWhile_append_of_pos hafter]
    rfl
  | cons c cs =>
    rw [List.cons_append, List.dropWhile_cons_of_neg (by rw [h c (List.mem_cons_self ..)]; nofun),
      ← List.cons_append, trimEnd, List.reverse_append, List.dropWhile_append_of_pos hback,
      dropWhile_isBlank hreverse, List.reverse_reverse]

/-- Every text is what is left when it is trimmed, with blanks on either side. -/
theorem exists_blanks (cs : List Char) : ∃ before after,
    (∀ c ∈ before, isBlank c = true) ∧ (∀ c ∈ after, isBlank c = true) ∧
      cs = before ++ trim cs ++ after := by
  have hback (ds : List Char) : trimEnd ds ++ (ds.reverse.takeWhile isBlank).reverse = ds := by
    rw [trimEnd, ← List.reverse_append, List.takeWhile_append_dropWhile, List.reverse_reverse]
  refine ⟨cs.takeWhile isBlank, ((trimStart cs).reverse.takeWhile isBlank).reverse, ?_, ?_, ?_⟩
  · exact List.all_eq_true.1 List.all_takeWhile
  · exact fun c hc => List.all_eq_true.1 List.all_takeWhile c (List.mem_reverse.1 hc)
  · rw [trim, List.append_assoc, hback, trimStart, List.takeWhile_append_dropWhile]

theorem mem_join {separator c : Char} {pieces : List (List Char)} (h : c ∈ join separator pieces) :
    c = separator ∨ ∃ piece ∈ pieces, c ∈ piece := by
  induction pieces with
  | nil => exact absurd h List.not_mem_nil
  | cons piece pieces ih =>
    cases pieces with
    | nil => exact .inr ⟨piece, List.mem_cons_self .., h⟩
    | cons next pieces =>
      rw [join] at h
      · rcases List.mem_append.1 h with h | h
        · exact .inr ⟨piece, List.mem_cons_self .., h⟩
        · rcases List.mem_cons.1 h with h | h
          · exact .inl h
          · obtain h | ⟨q, hq, hc⟩ := ih h
            · exact .inl h
            · exact .inr ⟨q, List.mem_cons_of_mem _ hq, hc⟩
      · exact List.cons_ne_nil next pieces

theorem mem_join_of_mem {separator c : Char} {piece : List Char} {pieces : List (List Char)}
    (hpiece : piece ∈ pieces) (hc : c ∈ piece) : c ∈ join separator pieces := by
  induction pieces with
  | nil => exact absurd hpiece List.not_mem_nil
  | cons first pieces ih =>
    cases pieces with
    | nil => rwa [List.mem_singleton.1 hpiece] at hc
    | cons next pieces =>
      rw [join]
      · rcases List.mem_cons.1 hpiece with rfl | hlater
        · exact List.mem_append_left _ hc
        · exact List.mem_append_right _ (List.mem_cons_of_mem _ (ih hlater))
      · exact List.cons_ne_nil next pieces

/-- The pieces hold nothing but what the text holds. -/
theorem mem_of_mem_split {separator c : Char} {cs piece : List Char}
    (hpiece : piece ∈ split separator cs) (hc : c ∈ piece) : c ∈ cs := by
  rw [← join_split separator cs]
  exact mem_join_of_mem hpiece hc

/-- Where the first separator stands is told by the text. -/
theorem append_inj_of_separator {separator : Char} {a b r t : List Char} (ha : separator ∉ a)
    (hb : separator ∉ b) (hr : ∀ c ∈ r.head?, c = separator) (ht : ∀ c ∈ t.head?, c = separator)
    (h : a ++ r = b ++ t) : a = b ∧ r = t := by
  induction a generalizing b with
  | nil =>
    cases b with
    | nil => exact ⟨rfl, h⟩
    | cons d b => exact absurd (hr d (by rw [show r = _ from h]; rfl)) fun he => hb (by simp [he])
  | cons c a ih =>
    cases b with
    | nil => exact absurd (ht c (by rw [← show _ = t from h]; rfl)) fun he => ha (by simp [he])
    | cons d b =>
      obtain ⟨rfl, htail⟩ := List.cons.inj h
      obtain ⟨rfl, hrest⟩ := ih (fun hm => ha (List.mem_cons_of_mem _ hm))
        (fun hm => hb (List.mem_cons_of_mem _ hm)) htail
      exact ⟨rfl, hrest⟩

end CalloutHost.Text
