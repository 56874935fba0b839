import CalloutHost.Proofs.Json.Records

/-!
# Unions that read what they write

A form carries its values if it reads the members that it writes, none of which is the tag
(`Form.Carries`); the fields of a lawful record do (`Form.carries_ofRecord`). A union whose forms
carry their values and have tags of their own is lawful if every value has a form
(`Union.lawful_codec`): the tag is written first, and whatever follows it is set aside and read by
the form that the tag names.
-/

namespace CalloutHost.Json

variable {α φ : Type} {depth : Nat}

/-! ## Forms -/

/-- What a form writes of a value is read as the value; none of it is the tag. -/
structure Form.Carries (form : Form α) (tagName : String) (depth : Nat) : Prop where
  read : ∀ {a : α} {members : List (String × Value)}, form.members? a = some members →
    form.read (.object (Value.docMembers members) true) = .ok a
  /-- The tag has a name of its own. -/
  named : ∀ {a : α} {members : List (String × Value)}, form.members? a = some members →
    ∀ member ∈ members, member.1 ≠ tagName
  whole : ∀ {a : α} {members : List (String × Value)} {room : Nat},
    form.members? a = some members → depth ≤ room →
      Doc.membersAreWhole room (Value.docMembers members) = true

/-- A form whose members are the fields of a lawful record carries the values that it is made
for. -/
theorem Form.carries_ofRecord {tag tagName : String} {x : Record φ} {make : φ → α}
    {fields? : α → Option φ} (h : x.codec.Lawful (depth + 1))
    (hnames : ∀ field ∈ x.fields, field.name ≠ tagName)
    (hmake : ∀ a f, fields? a = some f → make f = a) :
    (Form.ofRecord tag x make fields?).Carries tagName depth where
  read hmembers := by
    obtain ⟨f, hf, rfl⟩ := Option.map_eq_some_iff.1 hmembers
    have hread := h.read_write .held f trivial
    change (x.codec.read .held (x.codec.write f).doc).map make = _
    rw [hread]
    exact congrArg Except.ok (hmake _ f hf)
  named hmembers member hmember := by
    obtain ⟨f, -, rfl⟩ := Option.map_eq_some_iff.1 hmembers
    obtain ⟨field, hfield, hname⟩ := Record.mem_members hmember
    exact hname ▸ hnames field hfield
  whole hmembers hroom := by
    obtain ⟨f, -, rfl⟩ := Option.map_eq_some_iff.1 hmembers
    exact h.whole f (_ + 1) (Nat.succ_le_succ hroom)

/-! ## Unions -/

namespace Union

variable {x : Union α}

/-- Members that are not the tag are set aside. -/
theorem readMembers_aside {inside : Source} (hroom : inside.HasRoom depth)
    {members : List (String × Value)} (hnames : ∀ member ∈ members, member.1 ≠ x.tagName)
    (hwhole : ∀ room, depth ≤ room →
      Doc.membersAreWhole room (Value.docMembers members) = true)
    (form : Option (Form α)) (aside : List (Option String × Doc)) :
    x.readMembers inside (Value.docMembers members) form aside =
      .ok (form, (Value.docMembers members).reverse ++ aside) := by
  induction members generalizing aside with
  | nil => rfl
  | cons member members ih =>
    obtain ⟨name, v⟩ := member
    have hparts (room : Nat) (hle : depth ≤ room) : v.doc.isWhole room = true ∧
        Doc.membersAreWhole room (Value.docMembers members) = true := by
      have hall := hwhole room hle
      rw [Value.docMembers, Doc.membersAreWhole, Bool.and_eq_true, Bool.and_eq_true] at hall
      exact ⟨hall.1.2, hall.2⟩
    have hhold := hroom.hold fun room hle => (hparts room hle).1
    have htail := ih (fun m hm => hnames m (List.mem_cons_of_mem _ hm))
      (fun room hle => (hparts room hle).2) ((some name, v.doc) :: aside)
    rw [Value.docMembers, readMembers, if_neg (hnames (name, v) (List.mem_cons_self ..)), hhold]
    change x.readMembers inside (Value.docMembers members) form _ = _
    rw [htail, List.reverse_cons, List.append_assoc]
    rfl

/-- A tag is read as the form that has it. -/
theorem readTag_of_mem (htags : (x.forms.map (·.tag)).Nodup) {form : Form α}
    (hform : form ∈ x.forms) : x.readTag (.string (some form.tag)) = .ok form := by
  rw [readTag, find_of_nodup htags hform]

/-- A value is written as the tag of one of its forms and the members of this form. -/
theorem write_eq {a : α} (h : ∃ form ∈ x.forms, (form.members? a).isSome = true) :
    ∃ form ∈ x.forms, ∃ members, form.members? a = some members ∧
      x.codec.write a = .object ((x.tagName, .string form.tag) :: members) := by
  cases hfound : x.forms.findSome? fun form =>
      (form.members? a).map fun members => (x.tagName, Value.string form.tag) :: members with
  | none =>
    obtain ⟨form, hform, hsome⟩ := h
    have hnone := List.findSome?_eq_none_iff.1 hfound form hform
    rw [Option.map_eq_none_iff.1 hnone] at hsome
    cases hsome
  | some all =>
    obtain ⟨form, hform, hall⟩ := List.exists_of_findSome?_eq_some hfound
    obtain ⟨members, hmembers, rfl⟩ := Option.map_eq_some_iff.1 hall
    refine ⟨form, hform, members, hmembers, ?_⟩
    change Value.object ((x.forms.findSome? fun form =>
      (form.members? a).map fun members => (x.tagName, .string form.tag) :: members).getD []) = _
    rw [hfound, Option.getD_some]

/-- A union whose forms have tags of their own and carry their values is lawful if every value has
a form. -/
theorem lawful_codec (htags : (x.forms.map (·.tag)).Nodup)
    (hforms : ∀ form ∈ x.forms, form.Carries x.tagName depth)
    (hall : ∀ a, ∃ form ∈ x.forms, (form.members? a).isSome = true) :
    x.codec.Lawful (depth + 1) where
  read_write source a hroom := by
    obtain ⟨form, hform, members, hmembers, hwrite⟩ := write_eq (hall a)
    obtain ⟨inside, henter, hinside⟩ := hroom.enter
    have hcarries := hforms form hform
    have haside := readMembers_aside hinside (hcarries.named hmembers)
      (fun _ hle => hcarries.whole hmembers hle) (some form) []
    rw [hwrite, Value.doc, Value.docMembers, Value.doc]
    change (source.enter.bind fun inside => _) = _
    rw [henter]
    change (Except.bind (x.readMembers inside _ none []) _) = _
    rw [readMembers, if_pos rfl, readTag_of_mem htags hform]
    change (Except.bind (x.readMembers inside (Value.docMembers members) (some form) []) _) = _
    rw [haside]
    change (Except.bind (source.close true) _) = _
    rw [source.close_true, List.append_nil]
    change form.read (.object (Value.docMembers members).reverse.reverse true) = _
    rw [List.reverse_reverse, hcarries.read hmembers]
  whole a room hroom := by
    obtain ⟨form, hform, members, hmembers, hwrite⟩ := write_eq (hall a)
    obtain ⟨room, rfl⟩ : ∃ n, room = n + 1 := ⟨room - 1, by omega⟩
    have hwhole := (hforms form hform).whole hmembers (Nat.le_of_succ_le_succ hroom)
    rw [hwrite, Value.doc, Value.docMembers, Value.doc, Doc.isWhole, Doc.membersAreWhole, hwhole]
    cases room <;> rfl

end Union

end CalloutHost.Json
