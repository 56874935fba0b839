import CalloutHost.Proofs.Outcomes
import CalloutHost.Proofs.Url.Paths
import CalloutHost.Url.Parse

/-!
# What a path leads to

A path that leads from a URL begins with one slash or with two. With one it is read as a path and
nothing else is changed; with two, what stands behind them up to the next slash names the server, as
it does in a URL of its own (`Url.join_way` and `Url.join_way_of_server`).
-/

namespace CalloutHost.Url

variable {name rest : List Char} {segments : List (List Char)} {scheme address : String} {u : Url}

/-! ## The part with the server -/

theorem IsSegment.endsAuthority (h : IsSegment name) :
    ∀ c ∈ name, Url.endsAuthority true c = false := by
  intro c hc
  have hstands := standsInPath_iff.1 (h.stands c hc)
  have hslash : c ≠ '/' := fun he => h.slash (he ▸ hc)
  have hbackslash : c ≠ '\\' := fun he => h.backslash (he ▸ hc)
  have hquestion : c ≠ '?' := fun he => hstands.2.2 (by rw [he]; decide)
  have hhash : c ≠ '#' := fun he => hstands.2.2 (by rw [he]; decide)
  simp [Url.endsAuthority, hslash, hbackslash, hquestion, hhash]

/-- What follows a name that does not end the part with the server is the rest. -/
theorem Authority.split_append (hname : ∀ c ∈ name, endsAuthority true c = false)
    (hrest : ∀ c ∈ rest.head?, endsAuthority true c = true) :
    Authority.split true (name ++ rest) = { Authority.split true name with rest := rest } := by
  have hgoes : ∀ c ∈ name, (!endsAuthority true c) = true := fun c hc => by rw [hname c hc]; rfl
  have hstops : ∀ c ∈ rest.head?, (!endsAuthority true c) = false := fun c hc => by
    rw [hrest c hc]; rfl
  have hpart : (name ++ rest).takeWhile (fun c => !endsAuthority true c) = name := by
    rw [List.takeWhile_append_of_pos hgoes, Text.takeWhile_of_head? hstops, List.append_nil]
  have hwhole : name.takeWhile (fun c => !endsAuthority true c) = name :=
    List.takeWhile_eq_self_iff.2 hgoes
  rw [Authority.split, Authority.split, hpart, hwhole, List.dropWhile_append_of_pos hgoes,
    Text.dropWhile_of_head? hstops]

/-- What stands behind the slashes names a server and then a path. -/
theorem afterSlashes_append {usual : Nat} (hname : ∀ c ∈ name, endsAuthority true c = false)
    (hrest : ∀ c ∈ rest.head?, endsAuthority true c = true)
    (hplain : ∀ c ∈ rest, c ≠ '?' ∧ c ≠ '#') :
    afterSlashes scheme usual (name ++ rest) = (afterSlashes scheme usual name).map fun u =>
      { u with path := String.ofList (readPath (rest.drop 1)) } := by
  have hpath : rest.takeWhile (fun c => c ≠ '?' && c ≠ '#') = rest :=
    List.takeWhile_eq_self_iff.2 fun c hc => by simp [hplain c hc]
  rw [afterSlashes, afterSlashes, Authority.split_append hname hrest]
  simp only [hpath]
  split
  · rfl
  · cases readHost (Authority.split true name).host with
    | error e => rfl
    | ok host => cases readPort ((Authority.split true name).port.getD []) <;> rfl

/-! ## Reading -/

/-- A text of visible characters counts as a whole. -/
theorem significant_of_visible {text : String} (h : ∀ c ∈ text.toList, 32 < c.toNat) :
    significant text = text.toList := by
  have hkeeps {cs : List Char} (hcs : ∀ c ∈ cs, 32 < c.toNat) :
      cs.dropWhile (fun c => decide (c.toNat ≤ 32)) = cs :=
    Text.dropWhile_of_head? fun c hc =>
      decide_eq_false (Nat.not_le.2 (hcs c (List.mem_of_mem_head? hc)))
  have hback : ∀ c ∈ text.toList.reverse, 32 < c.toNat := fun c hc => h c (List.mem_reverse.1 hc)
  rw [significant, hkeeps h, hkeeps hback, List.reverse_reverse, List.filter_eq_self]
  intro c hc
  have hvisible := h c hc
  have htab : c ≠ '\t' := fun he => absurd hvisible (by rw [he]; decide)
  have hfeed : c ≠ '\n' := fun he => absurd hvisible (by rw [he]; decide)
  have hreturn : c ≠ '\r' := fun he => absurd hvisible (by rw [he]; decide)
  simp [htab, hfeed, hreturn]

/-- A URL with a server and nothing behind it. -/
theorem parse_server (hscheme : scheme = "http" ∨ scheme = "https") (hname : IsSegment name) :
    parse (scheme ++ "://" ++ String.ofList name) =
      (afterSlashes scheme (usualPort scheme) name).map .common := by
  have hchars : (scheme ++ "://" ++ String.ofList name).toList =
      scheme.toList ++ ':' :: '/' :: '/' :: name := by
    simp [String.toList_append]
  have hvisible : ∀ c ∈ (scheme ++ "://" ++ String.ofList name).toList, 32 < c.toNat := by
    rw [hchars]
    intro c hc
    rcases List.mem_append.1 hc with hc | hc
    · have hletters : scheme.toList.all (fun c => decide (32 < c.toNat)) = true := by
        rcases hscheme with rfl | rfl <;> decide
      exact of_decide_eq_true (List.all_eq_true.1 hletters c hc)
    · simp only [List.mem_cons] at hc
      rcases hc with rfl | rfl | rfl | hc
      · decide
      · decide
      · decide
      · exact (standsInPath_iff.1 (hname.stands c hc)).1
  have hslashes : ('/' :: '/' :: name).dropWhile isSlash = name := by
    rw [List.dropWhile_cons_of_pos (by decide), List.dropWhile_cons_of_pos (by decide)]
    refine Text.dropWhile_of_head? fun c hc => ?_
    have hmem := List.mem_of_mem_head? hc
    have hslash : c ≠ '/' := fun he => hname.slash (he ▸ hmem)
    have hbackslash : c ≠ '\\' := fun he => hname.backslash (he ▸ hmem)
    simp [isSlash, hslash, hbackslash]
  have hread : scheme? (scheme.toList ++ ':' :: '/' :: '/' :: name) =
      some (scheme, '/' :: '/' :: name) := by
    rcases hscheme with rfl | rfl <;> rfl
  have husual : usualPorts.find? (·.1 = scheme) = some (scheme, usualPort scheme) := by
    rcases hscheme with rfl | rfl <;> rfl
  rw [parse, significant_of_visible hvisible, hchars, hread]
  simp only [husual, hslashes]
  cases afterSlashes scheme (usualPort scheme) name <;> rfl

/-- The path of a URL that was read is a path that was read. -/
theorem exists_path_of_afterSlashes {usual : Nat} {cs : List Char}
    (h : afterSlashes scheme usual cs = .ok u) : ∃ cs, u.path = String.ofList (readPath cs) := by
  rw [afterSlashes] at h
  simp only at h
  split at h
  · cases h
  · obtain ⟨host, -, h⟩ := bind_eq_ok_iff.1 h
    obtain ⟨port, -, h⟩ := bind_eq_ok_iff.1 h
    cases h
    exact ⟨_, rfl⟩

theorem exists_path_of_parse (h : parse address = .ok (.common u)) :
    ∃ cs, u.path = String.ofList (readPath cs) := by
  rw [parse] at h
  split at h
  · cases h
  · split at h
    · obtain ⟨v, hv, h⟩ := bind_eq_ok_iff.1 h
      cases h
      exact exists_path_of_afterSlashes hv
    · simp only at h
      split at h
      · obtain ⟨-, -, h⟩ := bind_eq_ok_iff.1 h
        cases h
      · split at h
        · obtain ⟨-, -, h⟩ := bind_eq_ok_iff.1 h
          cases h
        · cases h

/-! ## Leading on -/

theorem join_of_one_slash {path : String} (hpath : path.toList = '/' :: rest)
    (hrest : rest.head? ≠ some '/') :
    u.join path = .ok { u with path := String.ofList (readPath rest) } := by
  rw [join, hpath]
  split
  · next heq => exact absurd (by rw [(List.cons.inj heq).2]; rfl) hrest
  · next heq => rw [(List.cons.inj heq).2]
  · next heq => cases heq

theorem join_of_two_slashes {path : String} (hpath : path.toList = '/' :: '/' :: rest) :
    u.join path = afterSlashes u.scheme (usualPort u.scheme) rest := by
  rw [join, hpath]
  rfl

/-- A way with one slash in front leads to another path of the same server. -/
theorem join_way (hne : segments ≠ []) (h : ∀ s ∈ segments, IsSegment s)
    (hone : ¬['/', '/'] <+: way segments) :
    u.join (String.ofList (way segments)) =
      .ok { u with path := String.ofList (way segments) } := by
  have hread := readPath_of_way hne h
  obtain ⟨tail, htail⟩ : ∃ tail, way segments = '/' :: tail := ⟨_, (cons_join hne).symm⟩
  rw [htail, List.cons_prefix_cons] at hone
  have hhead : tail.head? ≠ some '/' := fun hslash => by
    obtain ⟨rest, rfl⟩ := List.head?_eq_some_iff.1 hslash
    exact hone ⟨rfl, List.cons_prefix_cons.2 ⟨rfl, List.nil_prefix⟩⟩
  rw [htail, List.drop_one, List.tail_cons] at hread
  rw [join_of_one_slash (by rw [String.toList_ofList, htail]) hhead, hread, htail]

/-- A way with two slashes in front leads to the server that stands behind them. -/
theorem join_way_of_server (hname : IsSegment name) (h : ∀ s ∈ segments, IsSegment s)
    (hne : segments ≠ []) :
    u.join (String.ofList (way ([] :: name :: segments))) =
      (afterSlashes u.scheme (usualPort u.scheme) name).map fun v =>
        { v with path := String.ofList (way segments) } := by
  have hchars : (String.ofList (way ([] :: name :: segments))).toList =
      '/' :: '/' :: (name ++ way segments) := String.toList_ofList
  have hstart : ∀ c ∈ (way segments).head?, endsAuthority true c = true := by
    rw [← cons_join hne]
    rintro c ⟨⟩
    rfl
  have hplain : ∀ c ∈ way segments, c ≠ '?' ∧ c ≠ '#' := fun c hc => by
    obtain rfl | ⟨s, hs, hmem⟩ := mem_way hc
    · decide
    · have hstands := standsInPath_iff.1 ((h s hs).stands c hmem)
      exact ⟨fun he => hstands.2.2 (by rw [he]; decide), fun he => hstands.2.2 (by rw [he]; decide)⟩
  rw [join_of_two_slashes hchars, afterSlashes_append hname.endsAuthority hstart hplain,
    readPath_of_way hne h]

end CalloutHost.Url
