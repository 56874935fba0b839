/-!
# Searching a text

The first place where a text stands in another.
-/

namespace CalloutHost.Text

/-- What follows the first place where a text stands in another, `none` if there is no such
place. -/
def after? (part : List Char) : List Char → Option (List Char)
  | [] => if part.isEmpty then some [] else none
  | c :: rest =>
    if part.isPrefixOf (c :: rest) then some ((c :: rest).drop part.length) else after? part rest

/-- Whether a text stands somewhere in another. -/
def occurs (part text : List Char) : Bool := (after? part text).isSome

/-- What follows a text at the front of another. -/
def stripStart? (part text : List Char) : Option (List Char) :=
  if part.isPrefixOf text then some (text.drop part.length) else none

/-- A text is found exactly if it stands somewhere in the other. -/
theorem occurs_eq_true_iff {part text : List Char} : occurs part text = true ↔ part <:+: text := by
  unfold occurs
  induction text with
  | nil =>
    rw [after?, List.infix_nil]
    cases part <;> simp
  | cons c text ih =>
    rw [after?, List.infix_cons_iff]
    split
    · next h => simp [List.isPrefixOf_iff_prefix.1 h]
    · next h => rw [ih, ← List.isPrefixOf_iff_prefix, or_iff_right h]

/-- A text is found behind one in which it does not begin, if it begins with a character that stands
nowhere else in it. -/
theorem after?_append_of_not_infix {c : Char} {body front rest : List Char} (hbody : c ∉ body)
    (hfront : ¬(c :: body) <:+: front) :
    after? (c :: body) (front ++ c :: rest) = after? (c :: body) (c :: rest) := by
  induction front with
  | nil => rfl
  | cons a front ih =>
    rw [List.infix_cons_iff, not_or] at hfront
    have hnot : ¬(c :: body) <+: a :: (front ++ c :: rest) := fun hpre => by
      rw [← List.cons_append] at hpre
      rcases List.prefix_or_prefix_of_prefix hpre (List.prefix_append _ _) with h | ⟨more, hmore⟩
      · exact hfront.1 h
      -- What is left of the text would begin with its first character again.
      · rcases more with _ | ⟨d, more⟩
        · exact hfront.1 ⟨[], by simp [← hmore]⟩
        · rw [← hmore, List.prefix_append_right_inj, List.cons_prefix_cons] at hpre
          obtain ⟨rfl, hbody'⟩ := List.cons.inj hmore
          exact hbody (by rw [← hbody', hpre.1]; simp)
    rw [List.cons_append, after?, if_neg (mt List.isPrefixOf_iff_prefix.1 hnot), ih hfront.2]

/-- Where a text is not that begins with a character of its own, it comes about only behind it. -/
theorem infix_append_iff_of_not_infix {c : Char} {body front rest : List Char} (hbody : c ∉ body)
    (hfront : ¬(c :: body) <:+: front) :
    (c :: body) <:+: front ++ c :: rest ↔ (c :: body) <:+: c :: rest := by
  rw [← occurs_eq_true_iff, ← occurs_eq_true_iff, occurs, occurs,
    after?_append_of_not_infix hbody hfront]

theorem infix_append_iff_of_not_mem {c : Char} {body front rest : List Char} (h : c ∉ front) :
    (c :: body) <:+: front ++ rest ↔ (c :: body) <:+: rest := by
  induction front with
  | nil => rfl
  | cons a front ih =>
    rw [List.mem_cons, not_or] at h
    rw [List.cons_append, List.infix_cons_iff, ih h.2, or_iff_right]
    exact fun hpre => h.1 (List.cons_prefix_cons.1 hpre).1

/-- What follows the first place is all that stands behind it; the text stands nowhere in front. -/
theorem after?_eq_some_iff {c : Char} {body text rest : List Char} (hbody : c ∉ body) :
    after? (c :: body) text = some rest ↔
      ∃ front, text = front ++ (c :: body ++ rest) ∧ ¬(c :: body) <:+: front := by
  constructor
  · intro h
    induction text with
    | nil => simp [after?] at h
    | cons a text ih =>
      rw [after?] at h
      split at h
      · next hpre =>
        obtain ⟨behind, hbehind⟩ := List.isPrefixOf_iff_prefix.1 hpre
        rw [← hbehind, List.drop_left] at h
        exact ⟨[], by simp [← hbehind, Option.some.inj h], by simp⟩
      · next hpre =>
        obtain ⟨front, rfl, hfront⟩ := ih h
        refine ⟨a :: front, rfl, fun hinfix => ?_⟩
        rcases List.infix_cons_iff.1 hinfix with hfirst | hlater
        · exact hpre (List.isPrefixOf_iff_prefix.2 (hfirst.trans (List.prefix_append _ _)))
        · exact hfront hlater
  · rintro ⟨front, rfl, hfront⟩
    have hpre : (c :: body).isPrefixOf (c :: (body ++ rest)) = true :=
      List.isPrefixOf_iff_prefix.2 (List.prefix_append (c :: body) rest)
    rw [List.cons_append, after?_append_of_not_infix hbody hfront, after?, if_pos hpre,
      ← List.cons_append, List.drop_left]

/-- What follows is what stands behind the text at the front. -/
theorem stripStart?_eq_some_iff {part text rest : List Char} :
    stripStart? part text = some rest ↔ text = part ++ rest := by
  unfold stripStart?
  constructor
  · intro h
    split at h
    · next hpre =>
      obtain ⟨behind, rfl⟩ := List.isPrefixOf_iff_prefix.1 hpre
      simpa using h
    · simp at h
  · rintro rfl
    simp [List.isPrefixOf_iff_prefix]

end CalloutHost.Text
