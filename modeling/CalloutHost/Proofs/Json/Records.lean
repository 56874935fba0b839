import CalloutHost.Proofs.Json.Fields

/-!
# Records that read what they write

Where the fields of a record have names of their own and carry every record over from the initial
one, the record is lawful (`Record.lawful_codec`). So is a flat record (`FlatRecord.lawful_codec`),
whose own fields are read before those of its parts: its members come apart by their names.
-/

namespace CalloutHost.Json

variable {ρ : Type} {depth : Nat} {fields : List (Field ρ)} {r a b : ρ}

/-- What has a name of its own is found by this name. -/
theorem find_of_nodup {γ : Type} {name : γ → String} {l : List γ} (hnames : (l.map name).Nodup)
    {a : γ} (ha : a ∈ l) : l.find? (name · = name a) = some a := by
  induction l with
  | nil => exact nomatch ha
  | cons first l ih =>
    rw [List.map_cons, List.nodup_cons] at hnames
    rcases List.mem_cons.1 ha with rfl | ha
    · rw [List.find?_cons_of_pos (by simp)]
    · have hne : name first ≠ name a := fun heq =>
        hnames.1 (heq ▸ List.mem_map.2 ⟨a, ha, rfl⟩)
      rw [List.find?_cons_of_neg (by simpa using hne)]
      exact ih hnames.2 ha

/-! ## Members -/

namespace Record

theorem members_cons_some {field : Field ρ} {v : Value} (h : field.write r = some v)
    (fields : List (Field ρ)) :
    members (field :: fields) r = (field.name, v) :: members fields r := by
  rw [members, List.filterMap_cons, h]
  rfl

theorem members_cons_none {field : Field ρ} (h : field.write r = none) (fields : List (Field ρ)) :
    members (field :: fields) r = members fields r := by
  rw [members, List.filterMap_cons, h]
  rfl

theorem mem_members {member : String × Value} (h : member ∈ members fields r) :
    ∃ field ∈ fields, field.name = member.1 := by
  obtain ⟨field, hf, hwrite⟩ := List.mem_filterMap.1 h
  obtain ⟨v, -, rfl⟩ := Option.map_eq_some_iff.1 hwrite
  exact ⟨field, hf, rfl⟩

/-- The names of the fields that are not left out. -/
def written (fields : List (Field ρ)) (r : ρ) : List String := (members fields r).map (·.1)

theorem mem_written {field : Field ρ} (hf : field ∈ fields) {v : Value}
    (hv : field.write r = some v) : field.name ∈ written fields r := by
  rw [written, members]
  refine List.mem_map.2 ⟨(field.name, v), List.mem_filterMap.2 ⟨field, hf, ?_⟩, rfl⟩
  rw [hv]
  rfl

/-- Every field that has to be there is written. -/
theorem complete_written (h : CarryAll depth fields r a b) {seen : List String}
    (hseen : ∀ name ∈ written fields r, name ∈ seen) (x : ρ) : complete fields seen x = .ok x := by
  have hmissing : missing? fields seen = none := by
    rw [missing?, Option.map_eq_none_iff, List.find?_eq_none]
    intro field hf hfield
    obtain ⟨hmandatory, hunseen⟩ := Bool.and_eq_true_iff.1 hfield
    obtain ⟨_, _, hcarries⟩ := h.of_mem hf
    cases hv : field.write r with
    | none => exact absurd (hcarries.left hv).1 (by rw [hmandatory]; decide)
    | some v =>
      have hmem := hseen _ (mem_written hf hv)
      simp [hmem] at hunseen
  rw [complete, hmissing]

theorem membersAreWhole_written {room : Nat} (hroom : depth ≤ room)
    (h : AllWhole depth fields r) :
    Doc.membersAreWhole room (Value.docMembers (members fields r)) = true := by
  induction fields with
  | nil => cases room <;> rfl
  | cons field fields ih =>
    cases hv : field.write r with
    | none =>
      rw [members_cons_none hv]
      exact ih h.tail
    | some v =>
      rw [members_cons_some hv, Value.docMembers, Doc.membersAreWhole,
        h field (List.mem_cons_self ..) v room hv hroom, ih h.tail]
      rfl

/-- An object of what the fields write may be set aside. -/
theorem isWhole_written {room : Nat} (hroom : depth + 1 ≤ room) (h : AllWhole depth fields r) :
    (Value.object (members fields r)).doc.isWhole room = true := by
  obtain ⟨room, rfl⟩ : ∃ n, room = n + 1 := ⟨room - 1, by omega⟩
  exact membersAreWhole_written (Nat.le_of_succ_le_succ hroom) h

end Record

namespace FlatRecord

open Record (members written)

/-- The field is one of these, by its name. -/
def isAmong (own : List (Field ρ)) (field : Field ρ) : Bool :=
  (own.find? (·.name = field.name)).isSome

/-- The documents of the members that the fields write. -/
def docs (fields : List (Field ρ)) (r : ρ) : List (String × Doc) :=
  (members fields r).map fun (name, v) => (name, v.doc)

theorem isAmong_cases {own : List (Field ρ)} {field : Field ρ}
    (h : own.find? (·.name = field.name) = some field ∨ own.find? (·.name = field.name) = none) :
    (own.find? (·.name = field.name) = some field ∧ isAmong own field = true) ∨
      (own.find? (·.name = field.name) = none ∧ isAmong own field = false) := by
  rcases h with h | h
  · exact .inl ⟨h, by rw [isAmong, h]; rfl⟩
  · exact .inr ⟨h, by rw [isAmong, h]; rfl⟩

/-- Of the members of some fields, those of the record's own are read and the others set aside. The
induction is on the fields that are still to be read, whose names are new. -/
theorem readMembers_written (own : List (Field ρ)) {todo : List (Field ρ)} (inside : Source)
    (hroom : inside.HasRoom depth)
    (hfind : ∀ f ∈ todo, own.find? (·.name = f.name) = some f ∨ own.find? (·.name = f.name) = none)
    (hnames : (todo.map (·.name)).Nodup)
    (hwhole : AllWhole depth todo r)
    (seen : List String) (hseen : ∀ f ∈ todo, f.name ∉ seen) (aside : List (String × Doc))
    (h : CarryAll depth (todo.filter (isAmong own)) r a b) :
    readMembers own inside (Value.docMembers (members todo r)) seen aside a =
      .ok ((written (todo.filter (isAmong own)) r).reverse ++ seen,
        (docs (todo.filter (!isAmong own ·)) r).reverse ++ aside, b) := by
  induction todo generalizing seen aside a with
  | nil =>
    obtain rfl : b = a := h
    rfl
  | cons field todo ih =>
    rw [List.map_cons, List.nodup_cons] at hnames
    have hfind' := fun f hf => hfind f (List.mem_cons_of_mem _ hf)
    have hwhole' := hwhole.tail
    have hseen' := fun f hf => hseen f (List.mem_cons_of_mem _ hf)
    have hfresh : ∀ f ∈ todo, f.name ≠ field.name := fun f hf heq =>
      hnames.1 (heq ▸ List.mem_map.2 ⟨f, hf, rfl⟩)
    rcases isAmong_cases (hfind field (List.mem_cons_self ..)) with ⟨hown, ham⟩ | ⟨hown, ham⟩
    · rw [List.filter_cons_of_pos ham] at h ⊢
      rw [List.filter_cons_of_neg (by rw [ham]; decide)]
      obtain ⟨m, hm, hrest⟩ := h
      cases hv : field.write r with
      | none =>
        obtain ⟨-, rfl⟩ := hm.left hv
        rw [Record.members_cons_none hv, written, Record.members_cons_none hv]
        exact ih hfind' hnames.2 hwhole' seen hseen' aside hrest
      | some v =>
        have hnew : seen.contains field.name = false := by
          simpa using hseen field (List.mem_cons_self ..)
        have hread := hm.read v inside hv hroom
        have htail := ih hfind' hnames.2 hwhole' (field.name :: seen)
          (fun f hf hmem => (List.mem_cons.1 hmem).elim (hfresh f hf) (hseen' f hf)) aside hrest
        rw [Record.members_cons_some hv, Value.docMembers, readMembers, hown]
        simp only [hnew, Bool.false_eq_true, if_false, hread]
        change readMembers own inside _ _ _ m = _
        rw [htail, written, written, Record.members_cons_some hv, List.map_cons, List.reverse_cons,
          List.append_assoc]
        rfl
    · rw [List.filter_cons_of_neg (by rw [ham]; decide)] at h ⊢
      rw [List.filter_cons_of_pos (by rw [ham]; rfl)]
      cases hv : field.write r with
      | none =>
        rw [Record.members_cons_none hv, docs, Record.members_cons_none hv]
        exact ih hfind' hnames.2 hwhole' seen hseen' aside h
      | some v =>
        have hhold := hroom.hold fun room hle => hwhole field (List.mem_cons_self ..) v room hv hle
        have htail := ih hfind' hnames.2 hwhole' seen hseen' ((field.name, v.doc) :: aside) h
        rw [Record.members_cons_some hv, Value.docMembers, readMembers, hown]
        simp only [hhold]
        change readMembers own inside _ _ _ a = _
        rw [htail, docs, docs, Record.members_cons_some hv, List.map_cons, List.reverse_cons,
          List.append_assoc]
        rfl

/-- Reading a part from what was set aside is reading the members of a held object. -/
theorem foldlM_readPart (aside : List (String × Doc)) (fields : List (Field ρ))
    (seen : List String) (kept : List (String × Doc)) (a : ρ) :
    aside.foldlM (fun (seen, r) (name, doc) =>
        match fields.find? (·.name = name) with
        | none => return (seen, r)
        | some field =>
          if seen.contains name then throw (.mismatch (.duplicate name))
          else return (name :: seen, ← field.read .held doc r)) (seen, a) =
      (readMembers fields .held (aside.map fun (name, doc) => (some name, doc)) seen kept a).map
        fun (seen, _, r) => (seen, r) := by
  induction aside generalizing seen kept a with
  | nil => rfl
  | cons member aside ih =>
    obtain ⟨name, doc⟩ := member
    rw [List.foldlM_cons, List.map_cons, readMembers]
    cases hfind : fields.find? (·.name = name) with
    | none =>
      simp only [hfind]
      exact ih seen ((name, doc) :: kept) a
    | some field =>
      simp only [hfind]
      cases hseen : seen.contains name with
      | true => rfl
      | false =>
        simp only [Bool.false_eq_true, if_false]
        cases hread : field.read .held doc a with
        | error e => rfl
        | ok m => exact ih (name :: seen) kept m

/-- A part reads what its fields wrote among what was set aside. -/
theorem readPart_docs {others fields : List (Field ρ)}
    (hfind : ∀ f ∈ others,
      fields.find? (·.name = f.name) = some f ∨ fields.find? (·.name = f.name) = none)
    (hnames : (others.map (·.name)).Nodup)
    (hwhole : AllWhole depth others r)
    (hfilter : others.filter (isAmong fields) = fields) (h : CarryAll depth fields r a b) :
    readPart (docs others r) fields a = .ok b := by
  have hread := readMembers_written fields .held trivial hfind hnames hwhole []
    (fun _ _ => List.not_mem_nil) [] (hfilter.symm ▸ h)
  have hdocs : (docs others r).map (fun (name, doc) => (some name, doc)) =
      Value.docMembers (members others r) := by
    rw [docs, List.map_map, Value.docMembers_eq_map]
    rfl
  rw [hfilter, List.append_nil] at hread
  have hfold := foldlM_readPart (docs others r) fields [] [] a
  rw [hdocs, hread] at hfold
  refine (congrArg (Except.bind · fun (seen, r) => Record.complete fields seen r) hfold).trans ?_
  exact Record.complete_written h (fun _ hname => List.mem_reverse.2 hname) b

/-! ## Fields by their names -/

/-- A field is found among fields that it is one of, and not among fields of other names. -/
theorem isAmong_of_mem {fields : List (Field ρ)} {field : Field ρ} (hf : field ∈ fields) :
    isAmong fields field = true := by
  rw [isAmong, List.find?_isSome]
  exact ⟨field, hf, by simp⟩

theorem find_of_disjoint {fields : List (Field ρ)} {field : Field ρ}
    (h : ∀ f ∈ fields, f.name ≠ field.name) : fields.find? (·.name = field.name) = none := by
  rw [List.find?_eq_none]
  intro f hf
  simpa using h f hf

theorem filter_isAmong_self (fields : List (Field ρ)) :
    fields.filter (isAmong fields) = fields :=
  List.filter_eq_self.2 fun _ hf => isAmong_of_mem hf

theorem filter_isAmong_disjoint {fields others : List (Field ρ)}
    (h : ∀ f ∈ fields, ∀ g ∈ others, f.name ≠ g.name) : others.filter (isAmong fields) = [] := by
  refine List.filter_eq_nil_iff.2 fun g hg => ?_
  rw [isAmong, find_of_disjoint fun f hf => h f hf g hg]
  exact Bool.false_ne_true

/-- Among fields with names of their own, those of one of the parts are told by their names. -/
theorem filter_isAmong_part {front back : List (List (Field ρ))} {fields : List (Field ρ)}
    (hnames : (((front ++ fields :: back).flatten).map (·.name)).Nodup) :
    (front ++ fields :: back).flatten.filter (isAmong fields) = fields := by
  rw [List.flatten_append, List.flatten_cons, List.map_append, List.map_append,
    List.nodup_append] at hnames
  obtain ⟨-, hrest, hfront⟩ := hnames
  obtain ⟨-, -, hback⟩ := List.nodup_append.1 hrest
  have hempty : front.flatten.filter (isAmong fields) = [] :=
    filter_isAmong_disjoint fun f hf g hg heq =>
      hfront g.name (List.mem_map.2 ⟨g, hg, rfl⟩) f.name
        (List.mem_append_left _ (List.mem_map.2 ⟨f, hf, rfl⟩)) heq.symm
  have hempty' : back.flatten.filter (isAmong fields) = [] :=
    filter_isAmong_disjoint fun f hf g hg heq =>
      hback f.name (List.mem_map.2 ⟨f, hf, rfl⟩) g.name (List.mem_map.2 ⟨g, hg, rfl⟩) heq
  rw [List.flatten_append, List.flatten_cons, List.filter_append, List.filter_append, hempty,
    hempty', filter_isAmong_self]
  simp

theorem find_cases {all fields : List (Field ρ)} (hnames : (all.map (·.name)).Nodup)
    (hsub : ∀ f ∈ fields, f ∈ all) (hfields : (fields.map (·.name)).Nodup) {field : Field ρ}
    (hf : field ∈ all) :
    fields.find? (·.name = field.name) = some field ∨
      fields.find? (·.name = field.name) = none := by
  by_cases hmem : ∃ f ∈ fields, f.name = field.name
  · obtain ⟨f, hfmem, hname⟩ := hmem
    have hsame : some f = some field := by
      rw [← find_of_nodup hnames hf, ← find_of_nodup hnames (hsub f hfmem), hname]
    obtain rfl := Option.some.inj hsame
    exact .inl (find_of_nodup hfields hfmem)
  · exact .inr (find_of_disjoint fun f hf heq => hmem ⟨f, hf, heq⟩)

/-! ## Flat records -/

theorem nodup_of_mem_flatten {parts : List (List (Field ρ))}
    (hnames : (parts.flatten.map (·.name)).Nodup) {fields : List (Field ρ)} (hf : fields ∈ parts) :
    (fields.map (·.name)).Nodup := by
  have hsub := List.sublist_flatten_of_mem hf
  exact hnames.sublist (hsub.map _)

/-- The parts read what their fields wrote, one after the other. -/
theorem foldlM_readPart_docs {others : List (Field ρ)} (front : List (List (Field ρ)))
    {parts : List (List (Field ρ))} (hothers : (front ++ parts).flatten = others)
    (hnames : (others.map (·.name)).Nodup) (hwhole : AllWhole depth others r)
    (h : CarryAll depth parts.flatten r a b) :
    parts.foldlM (fun r' fields => readPart (docs others r) fields r') a = .ok b := by
  induction parts generalizing front a with
  | nil =>
    obtain rfl : b = a := h
    rfl
  | cons fields parts ih =>
    obtain ⟨m, hm, hrest⟩ := CarryAll.of_append h
    have hmem : fields ∈ front ++ fields :: parts :=
      List.mem_append_right _ (List.mem_cons_self ..)
    have hsub : ∀ f ∈ fields, f ∈ others := fun f hf =>
      hothers ▸ List.mem_flatten.2 ⟨fields, hmem, hf⟩
    have hfilter := filter_isAmong_part (hothers.symm ▸ hnames)
    rw [hothers] at hfilter
    have hpart := readPart_docs
      (fun f hf => find_cases hnames hsub (nodup_of_mem_flatten (hothers.symm ▸ hnames) hmem) hf)
      hnames hwhole hfilter hm
    have hnext : ((front ++ [fields]) ++ parts).flatten = others := by
      rw [← hothers, List.append_assoc, List.singleton_append]
    rw [List.foldlM_cons, hpart]
    exact ih (front ++ [fields]) hnext hrest

theorem mem_allFields {parts : List (Part ρ)} {field : Field ρ} :
    field ∈ allFields parts ↔ field ∈ ownFields parts ∨ field ∈ (spreadFields parts).flatten := by
  induction parts with
  | nil => simp [allFields, ownFields, spreadFields]
  | cons part parts ih =>
    simp only [allFields, ownFields, spreadFields] at ih ⊢
    cases part with
    | own own => simp [ih, or_assoc]
    | spread fields => simp [ih, or_left_comm]

/-- The record's own fields and those of its parts are told by their names. -/
theorem filter_allFields (parts all : List (Part ρ))
    (hown : ∀ f ∈ ownFields parts, isAmong (ownFields all) f = true)
    (hspread : ∀ f ∈ (spreadFields parts).flatten, isAmong (ownFields all) f = false) :
    (allFields parts).filter (isAmong (ownFields all)) = ownFields parts ∧
      (allFields parts).filter (!isAmong (ownFields all) ·) = (spreadFields parts).flatten := by
  induction parts with
  | nil => exact ⟨rfl, rfl⟩
  | cons part parts ih =>
    cases part with
    | own own =>
      have hhead := hown own (List.mem_cons_self ..)
      obtain ⟨h, h'⟩ := ih (fun f hf => hown f (List.mem_cons_of_mem _ hf)) hspread
      refine ⟨?_, ?_⟩
      · exact (List.filter_cons_of_pos hhead).trans (congrArg (own :: ·) h)
      · exact (List.filter_cons_of_neg (by rw [hhead]; decide)).trans h'
    | spread fields =>
      have hhead : ∀ f ∈ fields, isAmong (ownFields all) f = false := fun f hf =>
        hspread f (List.mem_flatten.2 ⟨fields, List.mem_cons_self .., hf⟩)
      obtain ⟨h, h'⟩ := ih hown fun f hf => by
        obtain ⟨l, hl, hfl⟩ := List.mem_flatten.1 hf
        exact hspread f (List.mem_flatten.2 ⟨l, List.mem_cons_of_mem _ hl, hfl⟩)
      refine ⟨?_, ?_⟩
      · change (fields ++ allFields parts).filter _ = _
        rw [List.filter_append, h, List.filter_eq_nil_iff.2 fun f hf => by rw [hhead f hf]; decide]
        rfl
      · change (fields ++ allFields parts).filter _ = _
        rw [List.filter_append, h', List.filter_eq_self.2 fun f hf => by rw [hhead f hf]; rfl]
        rfl

/-- In whatever order, these are all fields. -/
theorem perm_allFields (parts : List (Part ρ)) :
    (ownFields parts ++ (spreadFields parts).flatten).Perm (allFields parts) := by
  induction parts with
  | nil => exact .refl _
  | cons part parts ih =>
    cases part with
    | own own => exact ih.cons own
    | spread fields =>
      change (ownFields parts ++ (fields ++ (spreadFields parts).flatten)).Perm
        (fields ++ allFields parts)
      exact (List.perm_append_comm_assoc ..).trans (ih.append_left fields)

/-- A flat record whose fields have names of their own and carry every value is lawful. -/
theorem lawful_codec (x : FlatRecord ρ) (hnames : ((allFields x.parts).map (·.name)).Nodup)
    (h : ∀ r, CarryAll depth (ownFields x.parts ++ (spreadFields x.parts).flatten) r x.initial r) :
    x.codec.Lawful (depth + 1) where
  read_write source r hroom := by
    have hsplit := ((perm_allFields x.parts).map (·.name)).nodup_iff.2 hnames
    rw [List.map_append, List.nodup_append] at hsplit
    obtain ⟨hown, hspread, hdisjoint⟩ := hsplit
    have hwhole : AllWhole depth (allFields x.parts) r := fun f hf =>
      (h r).allWhole f ((perm_allFields x.parts).mem_iff.2 hf)
    obtain ⟨hfilter, hfilter'⟩ := filter_allFields x.parts x.parts
      (fun f hf => isAmong_of_mem hf) (fun f hf => by
        rw [isAmong, find_of_disjoint fun g hg heq =>
          hdisjoint g.name (List.mem_map.2 ⟨g, hg, rfl⟩) f.name (List.mem_map.2 ⟨f, hf, rfl⟩) heq]
        rfl)
    obtain ⟨inside, henter, hinside⟩ := hroom.enter
    obtain ⟨m, hm, hrest⟩ := (h r).of_append
    have hread := readMembers_written (ownFields x.parts) inside hinside
      (fun f hf => find_cases hnames (fun f hf => mem_allFields.2 (.inl hf)) hown hf) hnames hwhole
      [] (fun _ _ => List.not_mem_nil) [] (hfilter.symm ▸ hm)
    rw [hfilter, hfilter', List.append_nil, List.append_nil] at hread
    have hcomplete : Record.complete (ownFields x.parts) (written (ownFields x.parts) r).reverse m =
        .ok m := Record.complete_written hm (fun _ hname => List.mem_reverse.2 hname) m
    have hparts := foldlM_readPart_docs [] rfl hspread
      (fun f hf => hwhole f (mem_allFields.2 (.inr hf))) hrest
    change (source.enter.bind fun inside => _) = _
    rw [henter]
    change (Except.bind (readMembers (ownFields x.parts) inside
      (Value.docMembers (members (allFields x.parts) r)) [] [] x.initial) _) = _
    rw [hread]
    change (Except.bind (source.close true) _) = _
    rw [source.close_true]
    change (Except.bind (Record.complete _ _ m) _) = _
    rw [hcomplete]
    change (spreadFields x.parts).foldlM _ m = _
    rw [List.reverse_reverse]
    exact hparts
  whole r room hroom := by
    refine Record.isWhole_written hroom fun f hf => ?_
    exact (h r).allWhole f ((perm_allFields x.parts).mem_iff.2 hf)

end FlatRecord

namespace Record

/-- Where every member is a field, reading a record is reading its own fields. -/
theorem readMembers_known (x : Record ρ) (inside : Source) (kept : List (String × Doc))
    {members : List (String × Value)}
    (h : ∀ member ∈ members, (x.fields.find? (·.name = member.1)).isSome = true)
    (seen : List String) (a : ρ) :
    x.readMembers inside (Value.docMembers members) seen a =
      (FlatRecord.readMembers x.fields inside (Value.docMembers members) seen kept a).map
        fun (seen, _, r) => (seen, r) := by
  induction members generalizing seen a with
  | nil => rfl
  | cons member members ih =>
    obtain ⟨name, v⟩ := member
    have htail := ih fun m hm => h m (List.mem_cons_of_mem _ hm)
    obtain ⟨field, hfind⟩ := Option.isSome_iff_exists.1 (h (name, v) (List.mem_cons_self ..))
    rw [Value.docMembers, readMembers, FlatRecord.readMembers]
    simp only [hfind]
    cases hseen : seen.contains name with
    | true => rfl
    | false =>
      simp only [Bool.false_eq_true, if_false]
      cases hread : field.read inside v.doc a with
      | error e => rfl
      | ok m => exact htail (name :: seen) m

/-- A record whose fields have names of their own and carry every value is lawful. -/
theorem lawful_codec (x : Record ρ) (hnames : (x.fields.map (·.name)).Nodup)
    (h : ∀ r, CarryAll depth x.fields r x.initial r) : x.codec.Lawful (depth + 1) where
  read_write source r hroom := by
    obtain ⟨inside, henter, hinside⟩ := hroom.enter
    have hfilter := FlatRecord.filter_isAmong_self x.fields
    have hknown : ∀ member ∈ members x.fields r,
        (x.fields.find? (·.name = member.1)).isSome = true := by
      intro member hmember
      obtain ⟨field, hf, hname⟩ := mem_members hmember
      exact hname ▸ FlatRecord.isAmong_of_mem hf
    have hread := FlatRecord.readMembers_written x.fields inside hinside
      (fun f hf => .inl (find_of_nodup hnames hf)) hnames (h r).allWhole []
      (fun _ _ => List.not_mem_nil) [] (hfilter.symm ▸ h r)
    rw [hfilter, List.append_nil] at hread
    have hrecord := readMembers_known x inside [] hknown [] x.initial
    rw [hread] at hrecord
    have hcomplete := complete_written (h r) (fun _ hname => List.mem_reverse.2 hname) r
    change (source.enter.bind fun inside => _) = _
    rw [henter]
    change (Except.bind (x.readMembers inside (Value.docMembers (members x.fields r)) [] x.initial)
      _) = _
    rw [hrecord]
    change (Except.bind (source.close true) _) = _
    rw [source.close_true]
    exact hcomplete
  whole r room hroom := isWhole_written hroom (h r).allWhole

end Record

end CalloutHost.Json
