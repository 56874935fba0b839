import CalloutHost.Metrics.Collector
import CalloutHost.Proofs.Url.References
import Mathlib

/-!
# On which server metrics are looked for

The metrics of a server are found under its path, less the slashes at its end, but the path leads
to another server if two slashes are still in front of it: then what stands behind them is taken for
a server (`ScrapesAt`). Where an address is accepted, its own server is asked for its own path
exactly if they are not (`metricsEndpoint_onServer_iff`).
-/

namespace CalloutHost

variable {u e : Url} {address : String}

/-! ## Where a path leads -/

/-- A path without the slashes at its end. -/
def stem (path : String) : String := String.ofList (path.toList.rdropWhile (· = '/'))

/-- Two slashes are in front of a path, and it does not end with them. -/
def NamesServer (path : String) : Prop := ['/', '/'] <+: (stem path).toList

instance (path : String) : Decidable (NamesServer path) :=
  inferInstanceAs (Decidable (['/', '/'] <+: (stem path).toList))

/-- Metrics are looked for on the server of a URL, under its path. -/
structure OnServer (u e : Url) : Prop where
  scheme : e.scheme = u.scheme
  host : e.host = u.host
  port : e.port = u.port
  path : e.path = stem u.path ++ "/varz"

/-- Where the metrics of the server at a URL are looked for. -/
inductive ScrapesAt (u : Url) : Url → Prop
  /-- On that server, whose user is kept, unless the path names another. -/
  | here (h : ¬NamesServer u.path) : ScrapesAt u { u with path := stem u.path ++ "/varz" }
  /-- On the server that the path names, under what follows the name. -/
  | named {name rest : String} {v : Url} (hpath : stem u.path = "//" ++ name ++ rest)
      (hname : '/' ∉ name.toList) (hrest : ∀ c ∈ rest.toList.head?, c = '/')
      (hserver : Url.parse (u.scheme ++ "://" ++ name) = .ok (.common v)) :
      ScrapesAt u { v with path := rest ++ "/varz" }

theorem namesServer_of_stem_eq {path name rest : String} (h : stem path = "//" ++ name ++ rest) :
    NamesServer path := by
  rw [NamesServer, h, String.toList_append, String.toList_append, List.append_assoc]
  exact List.prefix_append _ _

theorem metricsPath_eq (path : String) : metricsPath path = stem path ++ "/varz" := rfl

/-- The server of the URL is asked for its own path exactly if the path names no other: what another
is asked for is too short. -/
theorem ScrapesAt.onServer_iff (h : ScrapesAt u e) : OnServer u e ↔ ¬NamesServer u.path := by
  cases h with
  | here hnames => exact ⟨fun _ => hnames, fun _ => ⟨rfl, rfl, rfl, rfl⟩⟩
  | @named name rest v hpath hname hrest hserver =>
    refine ⟨fun hon => ?_, fun hnot => absurd (namesServer_of_stem_eq hpath) hnot⟩
    have hlength := congrArg (fun path : String => path.toList.length) hon.path
    simp only [hpath, String.toList_append, List.length_append] at hlength
    have hslashes : "//".toList.length = 2 := rfl
    omega

/-! ## Ways to the metrics -/

section Ways

open Url

variable {segments : List (List Char)}

theorem isSegment_varz : IsSegment "varz".toList where
  stands c hc := by
    have hletters : "varz".toList.all (fun c => decide (StandsInPath c)) = true := by decide
    exact of_decide_eq_true (List.all_eq_true.1 hletters c hc)
  slash := by decide
  backslash := by decide
  singleDot := by cbv
  doubleDot := by cbv

theorem stem_way (h : ∀ s ∈ segments, IsSegment s) :
    stem (String.ofList (way segments)) =
      String.ofList (way (segments.rdropWhile List.isEmpty)) := by
  rw [stem, String.toList_ofList, rdropWhile_way fun s hs => (h s hs).slash]

theorem rdropWhile_isEmpty_ne (segments : List (List Char)) :
    segments.rdropWhile List.isEmpty ≠ [[]] := fun h => by
  have hagain := List.rdropWhile_idempotent List.isEmpty segments
  rw [h] at hagain
  exact absurd hagain (by decide)

/-- One segment more does not put two slashes in front of a way. -/
theorem slashes_prefix_way_concat_iff {last : List Char} (h : ∀ s ∈ segments, IsSegment s)
    (hlast : IsSegment last) (hends : segments ≠ [[]]) :
    ['/', '/'] <+: way (segments ++ [last]) ↔ ['/', '/'] <+: way segments := by
  have hboth : ∀ s ∈ segments ++ [last], '/' ∉ s := fun s hs =>
    (List.mem_append.1 hs).elim (fun hs => (h s hs).slash) fun hs =>
      List.mem_singleton.1 hs ▸ hlast.slash
  rw [slashes_prefix_way_iff hboth, slashes_prefix_way_iff fun s hs => (h s hs).slash]
  rcases segments with _ | ⟨first, _ | ⟨second, rest⟩⟩
  · simp
  · have hfirst : first ≠ [] := fun he => hends (by rw [he])
    simp [hfirst]
  · simp

theorem ofList_way_concat_varz (segments : List (List Char)) :
    String.ofList (way (segments ++ ["varz".toList])) =
      String.ofList (way segments) ++ "/varz" := by
  rw [way_append, String.ofList_append]
  rfl

theorem scrapesAt_here_iff (h : ¬NamesServer u.path) :
    ScrapesAt u e ↔ { u with path := stem u.path ++ "/varz" } = e := by
  constructor
  · intro hscrapes
    cases hscrapes with
    | here hnames => rfl
    | named hpath hname hrest hserver => exact absurd (namesServer_of_stem_eq hpath) h
  · rintro rfl
    exact .here h

theorem scrapesAt_named_iff {name : List Char} (hname : IsSegment name)
    (hscheme : u.scheme = "http" ∨ u.scheme = "https")
    (hstem : stem u.path = String.ofList (way ([] :: name :: segments))) :
    ScrapesAt u e ↔
      ∃ v, afterSlashes u.scheme (usualPort u.scheme) name = .ok v ∧
        { v with path := String.ofList (way segments) ++ "/varz" } = e := by
  have hchars : (stem u.path).toList = '/' :: '/' :: (name ++ way segments) := by
    rw [hstem, String.toList_ofList]
    rfl
  have hstart : ∀ c ∈ (way segments).head?, c = '/' := by
    cases segments <;> simp [way]
  constructor
  · intro hscrapes
    cases hscrapes with
    | here hnames => exact absurd ⟨_, hchars.symm⟩ hnames
    | @named name' rest v hpath hname' hrest hserver =>
      have hsame : name'.toList ++ rest.toList = name ++ way segments := by
        rw [hpath, String.toList_append, String.toList_append] at hchars
        exact (List.cons.inj (List.cons.inj hchars).2).2
      obtain ⟨rfl, hbehind⟩ :=
        Text.append_inj_of_separator hname' hname.slash hrest hstart hsame
      rw [← @String.ofList_toList name', parse_server hscheme hname] at hserver
      obtain ⟨w, hw, heq⟩ := map_eq_ok_iff.1 hserver
      cases heq
      exact ⟨v, hw, by rw [← hbehind, String.ofList_toList]⟩
  · rintro ⟨v, hserver, rfl⟩
    have hcut : stem u.path = "//" ++ String.ofList name ++ String.ofList (way segments) := by
      rw [← String.toList_inj, hchars]
      simp [String.toList_append]
    refine .named hcut (by rw [String.toList_ofList]; exact hname.slash)
      (by rw [String.toList_ofList]; exact hstart) ?_
    rw [parse_server hscheme hname, hserver]
    rfl

/-- Where the path of the metrics leads. -/
theorem join_metricsPath_eq_ok_iff (h : ∀ s ∈ segments, IsSegment s)
    (hscheme : u.scheme = "http" ∨ u.scheme = "https")
    (hpath : u.path = String.ofList (way segments)) :
    u.join (metricsPath u.path) = .ok e ↔ ScrapesAt u e := by
  let kept := segments.rdropWhile List.isEmpty
  have hkept : ∀ s ∈ kept, IsSegment s := fun s hs =>
    h s ((List.rdropWhile_prefix List.isEmpty segments).subset hs)
  have hstem : stem u.path = String.ofList (way kept) := by rw [hpath, stem_way h]
  have hmetrics : metricsPath u.path = String.ofList (way (kept ++ ["varz".toList])) := by
    rw [metricsPath_eq, hstem, ofList_way_concat_varz]
  have hall : ∀ s ∈ kept ++ ["varz".toList], IsSegment s := fun s hs =>
    (List.mem_append.1 hs).elim (hkept s) fun hs => List.mem_singleton.1 hs ▸ isSegment_varz
  -- With two slashes in front the second segment names the server, with one it is in the path.
  by_cases hslashes : ['/', '/'] <+: way kept
  · obtain ⟨name, rest, hcut⟩ := (slashes_prefix_way_iff fun s hs => (hkept s hs).slash).1 hslashes
    have hname : IsSegment name := hkept name (by simp [hcut])
    rw [hcut] at hall hmetrics hstem
    have hbehind : ∀ s ∈ rest ++ ["varz".toList], IsSegment s := fun s hs =>
      hall s (List.mem_cons_of_mem _ (List.mem_cons_of_mem _ hs))
    rw [scrapesAt_named_iff hname hscheme hstem, hmetrics, List.cons_append, List.cons_append,
      join_way_of_server hname hbehind (by simp), map_eq_ok_iff, ofList_way_concat_varz]
  · have hnames : ¬NamesServer u.path := by
      rw [NamesServer, hstem, String.toList_ofList]
      exact hslashes
    have hone : ¬['/', '/'] <+: way (kept ++ ["varz".toList]) := by
      rw [slashes_prefix_way_concat_iff hkept isSegment_varz (rdropWhile_isEmpty_ne segments)]
      exact hslashes
    rw [scrapesAt_here_iff hnames, hmetrics, join_way (by simp) hall hone, ofList_way_concat_varz,
      hstem, Except.ok.injEq]

end Ways

/-! ## Endpoints -/

/-- Which addresses are accepted, and for which endpoints. -/
theorem metricsEndpoint_eq_ok_iff :
    metricsEndpoint address = .ok e ↔
      ∃ u, Url.parse address = .ok (.common u) ∧ (u.scheme = "http" ∨ u.scheme = "https") ∧
        ScrapesAt u e := by
  have hpath {u : Url} (hu : Url.parse address = .ok (.common u)) :
      ∃ segments, (∀ s ∈ segments, Url.IsSegment s) ∧
        u.path = String.ofList (Url.way segments) := by
    obtain ⟨cs, hcs⟩ := Url.exists_path_of_parse hu
    obtain ⟨segments, -, hsegments, hway⟩ := Url.exists_segments cs
    exact ⟨segments, hsegments, by rw [hcs, hway]⟩
  rw [metricsEndpoint]
  constructor
  · intro h
    simp only at h
    split at h
    · cases h
    · cases h
    · next u hu =>
      split at h
      · next hscheme =>
        obtain ⟨segments, hsegments, hway⟩ := hpath hu
        exact ⟨u, hu, hscheme,
          (join_metricsPath_eq_ok_iff hsegments hscheme hway).1 (mapError_eq_ok_iff.1 h)⟩
      · cases h
  · rintro ⟨u, hu, hscheme, hscrapes⟩
    obtain ⟨segments, hsegments, hway⟩ := hpath hu
    simp only [hu, if_pos hscheme]
    exact mapError_eq_ok_iff.2 ((join_metricsPath_eq_ok_iff hsegments hscheme hway).2 hscrapes)

/-- An address is accepted if it is a URL of the web and its path, less the slashes at its end, does
not name a server that cannot be read. The endpoint has the scheme, the host and the port of the
address, and its path less the slashes at its end in front of that of the metrics, exactly if no two
slashes are left in front of the path. -/
theorem metricsEndpoint_onServer_iff (address : String) (e : Url) :
    (metricsEndpoint address = .ok e ↔
      ∃ u, Url.parse address = .ok (.common u) ∧ (u.scheme = "http" ∨ u.scheme = "https") ∧
        ScrapesAt u e) ∧
    ∀ u, Url.parse address = .ok (.common u) → metricsEndpoint address = .ok e →
      (OnServer u e ↔ ¬NamesServer u.path) := by
  refine ⟨metricsEndpoint_eq_ok_iff, fun u hu he => ?_⟩
  obtain ⟨v, hv, -, hscrapes⟩ := metricsEndpoint_eq_ok_iff.1 he
  obtain rfl : u = v := by
    rw [hu] at hv
    cases hv
    rfl
  exact hscrapes.onServer_iff

/-- Slashes at the end of a path and within it, a level that is left again, a blank and a question
do not lead away from the server. -/
theorem metricsEndpoint_onServer_iff_nested :
    let address := "http://ops:pw@[::1]:8222/a//b/../c d//?x=1"
    let u : Url := ⟨"http", "ops:pw@", "[::1]", some 8222, "/a//c%20d//"⟩
    let e : Url := ⟨"http", "ops:pw@", "[::1]", some 8222, "/a//c%20d/varz"⟩
    Url.parse address = .ok (.common u) ∧ metricsEndpoint address = .ok e ∧ OnServer u e := by
  intro address u e
  have hu : Url.parse address = .ok (.common u) := by cbv
  have he : metricsEndpoint address = .ok e := by cbv
  have hnames : ¬NamesServer u.path := by decide +kernel
  exact ⟨hu, he, ((metricsEndpoint_onServer_iff address e).2 u hu he).2 hnames⟩

/-- Two slashes in front of a path lead to another server. -/
theorem metricsEndpoint_off_server :
    let address := "http://[::1]:8222//[::2]/x/"
    let u : Url := ⟨"http", "", "[::1]", some 8222, "//[::2]/x/"⟩
    let e : Url := ⟨"http", "", "[::2]", none, "/x/varz"⟩
    Url.parse address = .ok (.common u) ∧ metricsEndpoint address = .ok e ∧ ¬OnServer u e := by
  intro address u e
  have hu : Url.parse address = .ok (.common u) := by cbv
  have he : metricsEndpoint address = .ok e := by cbv
  exact ⟨hu, he, fun hon => absurd hon.host (by decide)⟩

end CalloutHost
