import CalloutHost.Access.Placeholder
import Mathlib.Logic.ExistsUnique

/-!
# Expanding placeholders in one pass

From left to right, a text falls in one way only into literal texts, groups and a tail in which no
group is complete (`Placeholder.Dissection.existsUnique_leftmost`). Where the groups are is a matter
of the template alone: expanding it fills each of them and leaves the rest as it is, so a text that
ends outside of a group is expanded apart from what follows it
(`Placeholder.expanded_append`). What a request puts in is never looked at again
(`Placeholder.expand_in_one_pass`).
-/

namespace CalloutHost

namespace Placeholder

/-! ## Where the groups of a text are -/

/-- Somewhere a brace is opened and later closed. -/
def HasGroup (cs : List Char) : Prop :=
  ∃ before key after, cs = before ++ '\x7b' :: (key ++ '\x7d' :: after)

end Placeholder

namespace TemplatePiece

open Placeholder (HasGroup)

variable {cs before key rest : List Char}

theorem dropWhile_ne_append {c : Char} {front : List Char} (h : c ∉ front) (rest : List Char) :
    (front ++ rest).dropWhile (· ≠ c) = rest.dropWhile (· ≠ c) :=
  List.dropWhile_append_of_pos fun _ ha => decide_eq_true fun he => h (he ▸ ha)

theorem takeWhile_ne_append {c : Char} {front : List Char} (h : c ∉ front) (rest : List Char) :
    (front ++ rest).takeWhile (· ≠ c) = front ++ rest.takeWhile (· ≠ c) :=
  List.takeWhile_append_of_pos fun _ ha => decide_eq_true fun he => h (he ▸ ha)

/-- The next group begins with the first opening brace and ends with the first closing one behind
it. -/
theorem nextGroup?_eq_some_iff :
    nextGroup? cs = some (before, key, rest) ↔
      cs = before ++ '\x7b' :: (key ++ '\x7d' :: rest) ∧ '\x7b' ∉ before ∧ '\x7d' ∉ key := by
  have hout (c : Char) (l : List Char) : c ∉ l.takeWhile (· ≠ c) := fun h => by
    simpa using List.all_eq_true.1 List.all_takeWhile c h
  constructor
  · intro h
    refine ⟨eq_of_nextGroup? h, ?_⟩
    unfold nextGroup? at h
    split at h
    · cases h
    split at h
    · cases h
    · cases h
      exact ⟨hout _ _, hout _ _⟩
  · rintro ⟨rfl, hbefore, hkey⟩
    have hdrop (c : Char) (l : List Char) : (c :: l).dropWhile (· ≠ c) = c :: l := by simp
    have htake (c : Char) (l : List Char) : (c :: l).takeWhile (· ≠ c) = [] := by simp
    simp only [nextGroup?, dropWhile_ne_append hbefore, takeWhile_ne_append hbefore,
      dropWhile_ne_append hkey, takeWhile_ne_append hkey, hdrop, htake, List.append_nil]

/-- A text that has a group has a first one. -/
theorem nextGroup?_isSome_of_hasGroup (h : HasGroup cs) : (nextGroup? cs).isSome = true := by
  obtain ⟨before, key, after, rfl⟩ := h
  have hbefore : '\x7b' ∈ before ++ ['\x7b'] := by simp
  obtain ⟨front, inner, hfront, hopen⟩ := List.eq_append_cons_of_mem hbefore
  have hinner : '\x7d' ∈ inner ++ (key ++ '\x7d' :: after) := by simp
  obtain ⟨first, rest, hfirst, hclosed⟩ := List.eq_append_cons_of_mem hinner
  have hcs : before ++ '\x7b' :: (key ++ '\x7d' :: after) =
      front ++ '\x7b' :: (first ++ '\x7d' :: rest) := by
    calc before ++ '\x7b' :: (key ++ '\x7d' :: after)
        = before ++ ['\x7b'] ++ (key ++ '\x7d' :: after) := by simp
      _ = front ++ '\x7b' :: (inner ++ (key ++ '\x7d' :: after)) := by rw [hfront]; simp
      _ = front ++ '\x7b' :: (first ++ '\x7d' :: rest) := by rw [hfirst]
  rw [nextGroup?_eq_some_iff.2 ⟨hcs, hopen, hclosed⟩]
  rfl

theorem nextGroup?_eq_none_iff : nextGroup? cs = none ↔ ¬HasGroup cs := by
  constructor
  · intro h hgroup
    have hsome := nextGroup?_isSome_of_hasGroup hgroup
    rw [h] at hsome
    cases hsome
  · intro h
    cases hnext : nextGroup? cs with
    | none => rfl
    | some found => exact absurd ⟨_, _, _, eq_of_nextGroup? hnext⟩ h

/-- Literal text in front of a text only makes the front of its first group longer. -/
theorem nextGroup?_append {front : List Char} (h : '\x7b' ∉ front) (cs : List Char) :
    nextGroup? (front ++ cs) = (nextGroup? cs).map fun found => (front ++ found.1, found.2) := by
  unfold nextGroup?
  rw [dropWhile_ne_append h, takeWhile_ne_append h]
  split
  · rfl
  · split <;> rfl

theorem ofText_of_none (h : nextGroup? cs = none) : ofText cs = [.literal cs] := by
  rw [ofText]
  split
  · rfl
  · next hsome => cases h.symm.trans hsome

theorem ofText_of_some (h : nextGroup? cs = some (before, key, rest)) :
    ofText cs = .literal before :: .group key :: ofText rest := by
  rw [ofText]
  split
  · next hnone => cases h.symm.trans hnone
  · next hsome =>
    cases h.symm.trans hsome
    rfl

end TemplatePiece

namespace Placeholder

/-- A text that was cut at its groups. -/
structure Dissection where
  /-- What stands in front of each group, and the key between its braces. -/
  groups : List (List Char × List Char)
  tail : List Char

namespace Dissection

open TemplatePiece (nextGroup? nextGroup?_eq_some_iff nextGroup?_eq_none_iff)

/-- The text that groups were cut from. -/
def groupsText (groups : List (List Char × List Char)) : List Char :=
  groups.flatMap fun g => g.1 ++ '\x7b' :: (g.2 ++ ['\x7d'])

/-- The text that was cut. -/
def text (d : Dissection) : List Char := groupsText d.groups ++ d.tail

/-- Groups with what is put in their places. -/
def groupsFilled (request : AuthRequest) (dropUnknown : Bool)
    (groups : List (List Char × List Char)) : List Char :=
  groups.flatMap fun g => g.1 ++ fill request dropUnknown (.group g.2)

/-- The text with what is put in the places of its groups. -/
def filled (request : AuthRequest) (dropUnknown : Bool) (d : Dissection) : List Char :=
  groupsFilled request dropUnknown d.groups ++ d.tail

/-- The text was cut from left to right, wherever there was a group. -/
structure Leftmost (d : Dissection) : Prop where
  /-- A group begins with the first opening brace. -/
  opened : ∀ g ∈ d.groups, '\x7b' ∉ g.1
  /-- It ends with the next closing brace. -/
  closed : ∀ g ∈ d.groups, '\x7d' ∉ g.2
  tail : ¬HasGroup d.tail

theorem groupsText_cons (g : List Char × List Char) (groups : List (List Char × List Char))
    (rest : List Char) :
    groupsText (g :: groups) ++ rest =
      g.1 ++ '\x7b' :: (g.2 ++ '\x7d' :: (groupsText groups ++ rest)) := by
  simp [groupsText]

theorem nextGroup?_text_cons {g : List Char × List Char} {groups : List (List Char × List Char)}
    {tail : List Char} (h : Leftmost ⟨g :: groups, tail⟩) :
    nextGroup? (text ⟨g :: groups, tail⟩) = some (g.1, g.2, text ⟨groups, tail⟩) :=
  nextGroup?_eq_some_iff.2 ⟨groupsText_cons g groups tail, h.opened g (List.mem_cons_self ..),
    h.closed g (List.mem_cons_self ..)⟩

theorem Leftmost.of_cons {g : List Char × List Char} {groups : List (List Char × List Char)}
    {tail : List Char} (h : Leftmost ⟨g :: groups, tail⟩) : Leftmost ⟨groups, tail⟩ where
  opened g' hg := h.opened g' (List.mem_cons_of_mem _ hg)
  closed g' hg := h.closed g' (List.mem_cons_of_mem _ hg)
  tail := h.tail

/-- Every text can be cut from left to right. -/
theorem exists_leftmost (cs : List Char) : ∃ d : Dissection, d.Leftmost ∧ d.text = cs := by
  induction cs using TemplatePiece.ofText.induct with
  | case1 cs hnone =>
    exact ⟨⟨[], cs⟩, ⟨nofun, nofun, nextGroup?_eq_none_iff.1 hnone⟩, rfl⟩
  | case2 cs before key rest hsome _ ih =>
    obtain ⟨⟨groups, tail⟩, hleft, htext⟩ := ih
    obtain ⟨hcs, hopened, hclosed⟩ := nextGroup?_eq_some_iff.1 hsome
    refine ⟨⟨(before, key) :: groups, tail⟩, ⟨?_, ?_, hleft.tail⟩, ?_⟩
    · exact List.forall_mem_cons.2 ⟨hopened, hleft.opened⟩
    · exact List.forall_mem_cons.2 ⟨hclosed, hleft.closed⟩
    · rw [text, groupsText_cons, hcs, ← htext, text]

/-- There is no other way to cut it from left to right. -/
theorem eq_of_text_eq {groups groups' : List (List Char × List Char)} {tail tail' : List Char}
    (h : Leftmost ⟨groups, tail⟩) (h' : Leftmost ⟨groups', tail'⟩)
    (htext : text ⟨groups, tail⟩ = text ⟨groups', tail'⟩) :
    (⟨groups, tail⟩ : Dissection) = ⟨groups', tail'⟩ := by
  -- The first group of the common text is that of both, so they go on in step.
  induction groups generalizing groups' with
  | nil =>
    cases groups' with
    | nil => exact congrArg _ htext
    | cons g' groups' =>
      have hnone : nextGroup? (text ⟨[], tail⟩) = none := nextGroup?_eq_none_iff.2 h.tail
      rw [htext, nextGroup?_text_cons h'] at hnone
      cases hnone
  | cons g groups ih =>
    cases groups' with
    | nil =>
      have hnone : nextGroup? (text ⟨[], tail'⟩) = none := nextGroup?_eq_none_iff.2 h'.tail
      rw [← htext, nextGroup?_text_cons h] at hnone
      cases hnone
    | cons g' groups' =>
      have hnext := nextGroup?_text_cons h
      rw [htext, nextGroup?_text_cons h', Option.some.injEq, Prod.mk.injEq,
        Prod.mk.injEq] at hnext
      obtain ⟨hfront, hkey, hrest⟩ := hnext
      obtain ⟨rfl, rfl⟩ := Dissection.mk.inj (ih h.of_cons h'.of_cons hrest.symm)
      rw [Prod.ext hfront.symm hkey.symm]

theorem existsUnique_leftmost (cs : List Char) :
    ∃! d : Dissection, d.Leftmost ∧ d.text = cs := by
  obtain ⟨d, hleft, htext⟩ := exists_leftmost cs
  exact ⟨d, ⟨hleft, htext⟩, fun d' h' => eq_of_text_eq h'.1 hleft (h'.2.trans htext.symm)⟩

end Dissection

/-- When the text has been read from left to right, no brace is left open. -/
def Closed (cs : List Char) : Prop :=
  ∃ d : Dissection, d.Leftmost ∧ d.text = cs ∧ '\x7b' ∉ d.tail

/-! ## What is put in place of the groups -/

section Expanding

variable (request : AuthRequest) (dropUnknown : Bool)

/-- The characters of an expanded text. -/
def expanded (cs : List Char) : List Char :=
  (TemplatePiece.ofText cs).flatMap (fill request dropUnknown)

theorem expanded_of_not_hasGroup {cs : List Char} (h : ¬HasGroup cs) :
    expanded request dropUnknown cs = cs := by
  rw [expanded, TemplatePiece.ofText_of_none (TemplatePiece.nextGroup?_eq_none_iff.2 h)]
  simp [fill]

/-- A group is filled apart from what follows it. -/
theorem expanded_group {before key : List Char} (hbefore : '\x7b' ∉ before)
    (hkey : '\x7d' ∉ key) (rest : List Char) :
    expanded request dropUnknown (before ++ '\x7b' :: (key ++ '\x7d' :: rest)) =
      before ++ (fill request dropUnknown (.group key) ++ expanded request dropUnknown rest) := by
  rw [expanded, TemplatePiece.ofText_of_some
    (TemplatePiece.nextGroup?_eq_some_iff.2 ⟨rfl, hbefore, hkey⟩)]
  rfl

/-- Literal text in front stays in front. -/
theorem expanded_literal {front : List Char} (h : '\x7b' ∉ front) (cs : List Char) :
    expanded request dropUnknown (front ++ cs) = front ++ expanded request dropUnknown cs := by
  have hnext := TemplatePiece.nextGroup?_append h cs
  cases hcs : TemplatePiece.nextGroup? cs with
  | none =>
    rw [hcs] at hnext
    rw [expanded_of_not_hasGroup _ _ (TemplatePiece.nextGroup?_eq_none_iff.1 hnext),
      expanded_of_not_hasGroup _ _ (TemplatePiece.nextGroup?_eq_none_iff.1 hcs)]
  | some found =>
    rw [hcs] at hnext
    rw [expanded, expanded, TemplatePiece.ofText_of_some hnext, TemplatePiece.ofText_of_some hcs]
    simp [fill]

/-- Groups are filled apart from what follows them. -/
theorem expanded_groups {groups : List (List Char × List Char)}
    (hopened : ∀ g ∈ groups, '\x7b' ∉ g.1) (hclosed : ∀ g ∈ groups, '\x7d' ∉ g.2)
    (rest : List Char) :
    expanded request dropUnknown (Dissection.groupsText groups ++ rest) =
      Dissection.groupsFilled request dropUnknown groups ++
        expanded request dropUnknown rest := by
  induction groups with
  | nil => rfl
  | cons g groups ih =>
    rw [List.forall_mem_cons] at hopened hclosed
    rw [Dissection.groupsText_cons, expanded_group _ _ hopened.1 hclosed.1,
      ih hopened.2 hclosed.2]
    simp [Dissection.groupsFilled]

/-- The text is expanded by filling the groups at which it was cut. -/
theorem expanded_text {d : Dissection} (h : d.Leftmost) :
    expanded request dropUnknown d.text = d.filled request dropUnknown := by
  rw [Dissection.text, expanded_groups _ _ h.opened h.closed,
    expanded_of_not_hasGroup _ _ h.tail, Dissection.filled]

/-- A text that leaves no brace open is expanded apart from what follows it. -/
theorem expanded_append {cs : List Char} (h : Closed cs) (rest : List Char) :
    expanded request dropUnknown (cs ++ rest) =
      expanded request dropUnknown cs ++ expanded request dropUnknown rest := by
  obtain ⟨d, hleft, rfl, htail⟩ := h
  rw [expanded_text _ _ hleft, Dissection.text, Dissection.filled, List.append_assoc,
    expanded_groups _ _ hleft.opened hleft.closed, expanded_literal _ _ htail,
    List.append_assoc]

theorem expand_eq (text : String) :
    expand request dropUnknown text = String.ofList (expanded request dropUnknown text.toList) :=
  rfl

/-- Behind a text that leaves no brace open, what is put in place of a group stands as it is, and
the rest is expanded apart from it. -/
theorem expand_group {a key : String} (ha : Closed a.toList) (hkey : '\x7d' ∉ key.toList)
    (b : String) :
    expand request dropUnknown (a ++ "\x7b" ++ key ++ "\x7d" ++ b) =
      expand request dropUnknown a ++ String.ofList (fill request dropUnknown (.group key.toList)) ++
        expand request dropUnknown b := by
  have hgroup : expanded request dropUnknown ('\x7b' :: (key.toList ++ '\x7d' :: b.toList)) =
      fill request dropUnknown (.group key.toList) ++ expanded request dropUnknown b.toList :=
    expanded_group request dropUnknown List.not_mem_nil hkey b.toList
  have htext : (a ++ "\x7b" ++ key ++ "\x7d" ++ b).toList =
      a.toList ++ '\x7b' :: (key.toList ++ '\x7d' :: b.toList) := by
    simp [String.toList_append]
  rw [expand_eq, expand_eq, expand_eq, htext, expanded_append _ _ ha, hgroup]
  simp only [String.ofList_append, String.append_assoc]

end Expanding

/-! ## The known keys -/

/-- A key that is in a list once is found with its own value. -/
theorem find?_key {α : Type} {entries : List (String × α)} (hnodup : (entries.map (·.1)).Nodup)
    {entry : String × α} (h : entry ∈ entries) :
    entries.find? (·.1.toList = entry.1.toList) = some entry := by
  induction entries with
  | nil => cases h
  | cons first rest ih =>
    obtain ⟨hfirst, hrest⟩ := List.nodup_cons.1 hnodup
    rcases List.mem_cons.1 h with rfl | hmem
    · simp
    · have hne : first.1 ≠ entry.1 := fun he => hfirst (List.mem_map.2 ⟨entry, hmem, he.symm⟩)
      rw [List.find?_cons_of_neg (by simpa [String.toList_inj] using hne), ih hrest hmem]

theorem value?_of_mem {entry : String × (AuthRequest → String)} (h : entry ∈ known)
    (request : AuthRequest) : value? entry.1.toList request = some (entry.2 request) := by
  rw [value?, find?_key (by decide) h]
  rfl

theorem value?_of_not_mem {key : List Char} (h : ∀ entry ∈ known, entry.1.toList ≠ key)
    (request : AuthRequest) : value? key request = none := by
  rw [value?, List.find?_eq_none.2 fun entry hentry => by simpa using h entry hentry]
  rfl

/-- A known key stands for its value of the request. -/
theorem fill_of_mem {entry : String × (AuthRequest → String)} (h : entry ∈ known)
    (request : AuthRequest) (dropUnknown : Bool) :
    String.ofList (fill request dropUnknown (.group entry.1.toList)) = entry.2 request := by
  simp [fill, value?_of_mem h]

/-- A group with another key is dropped, or stays as it is. -/
theorem fill_of_not_mem {key : String} (h : ∀ entry ∈ known, entry.1 ≠ key)
    (request : AuthRequest) (dropUnknown : Bool) :
    String.ofList (fill request dropUnknown (.group key.toList)) =
      if dropUnknown then "" else "\x7b" ++ key ++ "\x7d" := by
  have hnone : value? key.toList request = none :=
    value?_of_not_mem (fun entry hentry he => h entry hentry (String.toList_inj.1 he)) request
  rw [fill, hnone]
  cases dropUnknown with
  | true => rfl
  | false => exact String.toList_inj.1 (by simp [String.toList_append])

/-- A group can hold each of the known keys. -/
theorem not_mem_of_mem_known {entry : String × (AuthRequest → String)} (h : entry ∈ known) :
    '\x7d' ∉ entry.1.toList := by
  have hkeys : ∀ key ∈ known.map (·.1), '\x7d' ∉ key.toList := by decide
  exact hkeys entry.1 (List.mem_map_of_mem h)

/-! ## One pass -/

/-- A template is expanded in one pass. From left to right, it can be cut in one way only into
literal texts, groups and a tail without a group, whatever the request is, and expanding it fills
the groups and leaves the rest. So a text that leaves no brace open is expanded apart from what
follows it, and one without a group stays as it is. What a request puts in the place of a known key
stands as it is, whatever is in it; a group with another key stays or is dropped. -/
theorem expand_in_one_pass (request : AuthRequest) (dropUnknown : Bool) :
    (∀ text : String, ∃! d : Dissection, d.Leftmost ∧ d.text = text.toList) ∧
    (∀ (text : String) (d : Dissection), d.Leftmost → d.text = text.toList →
      expand request dropUnknown text = String.ofList (d.filled request dropUnknown)) ∧
    (∀ a b : String, Closed a.toList → expand request dropUnknown (a ++ b) =
      expand request dropUnknown a ++ expand request dropUnknown b) ∧
    (∀ text : String, ¬HasGroup text.toList → expand request dropUnknown text = text) ∧
    (∀ a b : String, Closed a.toList → ∀ entry ∈ known,
      expand request dropUnknown (a ++ "\x7b" ++ entry.1 ++ "\x7d" ++ b) =
        expand request dropUnknown a ++ entry.2 request ++ expand request dropUnknown b) ∧
    (∀ a b key : String, Closed a.toList → '\x7d' ∉ key.toList →
      (∀ entry ∈ known, entry.1 ≠ key) →
        expand request dropUnknown (a ++ "\x7b" ++ key ++ "\x7d" ++ b) =
          expand request dropUnknown a ++ (if dropUnknown then "" else "\x7b" ++ key ++ "\x7d") ++
            expand request dropUnknown b) := by
  refine ⟨fun text => Dissection.existsUnique_leftmost _, ?_, ?_, ?_, ?_, ?_⟩
  · intro text d hleft htext
    rw [expand_eq, ← htext, expanded_text _ _ hleft]
  · intro a b ha
    rw [expand_eq, String.toList_append, expanded_append _ _ ha, String.ofList_append]
    rfl
  · intro text h
    rw [expand_eq, expanded_of_not_hasGroup _ _ h, String.ofList_toList]
  · intro a b ha entry hentry
    rw [expand_group _ _ ha (not_mem_of_mem_known hentry), fill_of_mem hentry]
  · intro a b key ha hkey hunknown
    rw [expand_group _ _ ha hkey, fill_of_not_mem hunknown]

/-- A user whose name is itself a placeholder, in a template that ends with an open brace. -/
theorem expand_in_one_pass_braces :
    let connect := { ConnectOptions.empty with username := "\x7bclient_info.name\x7d" }
    let request := { AuthRequest.blank with connect, client := { ClientInfo.empty with name := "x" } }
    Closed "users.".toList ∧
      expand request false ("users." ++ "\x7b" ++ "connect_opts.username" ++ "\x7d" ++ ".\x7b") =
        "users.\x7bclient_info.name\x7d.\x7b" := by
  intro connect request
  have hopen : ¬HasGroup ".\x7b".toList := TemplatePiece.nextGroup?_eq_none_iff.1 (by decide)
  have hplain : ¬HasGroup "users.".toList := TemplatePiece.nextGroup?_eq_none_iff.1 (by decide)
  have hclosed : Closed "users.".toList :=
    ⟨⟨[], "users.".toList⟩, ⟨nofun, nofun, hplain⟩, rfl, by decide⟩
  obtain ⟨-, -, -, hsame, hknown, -⟩ := expand_in_one_pass request false
  refine ⟨hclosed, ?_⟩
  rw [hknown _ _ hclosed ("connect_opts.username", (·.connect.username)) (by simp [known]),
    hsame _ hplain, hsame _ hopen]
  rfl

end Placeholder

end CalloutHost
