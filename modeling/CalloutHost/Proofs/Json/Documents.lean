import CalloutHost.Json.Doc
import CalloutHost.Json.Value
import CalloutHost.Proofs.Json.Numbers
import CalloutHost.Proofs.Json.Strings

/-!
# Values of JSON read back

A text of a value may have blanks between its tokens; where they stand is its layout
(`Value.Layout`), and a text without blanks and one with a line for each item or member have two of
them (`Value.compact_eq_laid`, `Value.prettyAt_eq_laid`). In any layout the text shows the document
of the value (`Value.doc`) and nothing else (`Doc.ofBytes_laid`). The fuel of the reader is enough
because every byte of the text is worth two steps: the induction is on the fuel, and the bound on
the length of the text is what carries it.
-/

namespace CalloutHost.Json

namespace Value

mutual

/-- The document that the text of a value shows. -/
def doc : Value → Doc
  | .null => .null
  | .boolean b => .boolean b
  | .integer n => .number (Numeral.ofWhole n).value
  | .string s => .string (some s)
  | .array items => .array (docItems items) true
  | .object members => .object (docMembers members) true

/-- The documents of items. -/
def docItems : List Value → List Doc
  | [] => []
  | item :: items => doc item :: docItems items

/-- The documents of members. -/
def docMembers : List (String × Value) → List (Option String × Doc)
  | [] => []
  | (name, value) :: members => (some name, doc value) :: docMembers members

end

theorem docMembers_eq_map (members : List (String × Value)) :
    docMembers members = members.map fun (name, value) => (some name, doc value) := by
  induction members with
  | nil => rfl
  | cons member members ih => rw [docMembers, ih, List.map_cons]

/-! ## Layouts -/

/-- Where a text of a value has blanks. -/
structure Layout where
  /-- In front of an item or a member at a level, and of the bracket behind those of the next. -/
  line : Nat → Bytes
  /-- Behind a colon. -/
  gap : Bytes
  line_blank : ∀ level, ∀ b ∈ line level, Doc.isSpace b = true
  gap_blank : ∀ b ∈ gap, Doc.isSpace b = true

namespace Layout

/-- No blanks. -/
def none : Layout := ⟨fun _ => [], [], nofun, nofun⟩

/-- A line for each item or member. -/
def lines : Layout where
  line := newLine
  gap := [32]
  line_blank level b hb := by
    rcases List.mem_cons.1 hb with rfl | hb
    · rfl
    · rw [List.eq_of_mem_replicate hb]
      rfl
  gap_blank b hb := by
    rw [List.mem_singleton.1 hb]
    rfl

@[simp] theorem none_line (level : Nat) : none.line level = [] := rfl

@[simp] theorem none_gap : none.gap = [] := rfl

@[simp] theorem lines_line (level : Nat) : lines.line level = newLine level := rfl

@[simp] theorem lines_gap : lines.gap = [32] := rfl

end Layout

mutual

/-- The text of a value at a level in a layout. -/
def laid (x : Layout) : Nat → Value → Bytes
  | _, .null => nullWord
  | _, .boolean b => word b
  | _, .integer n => Numeral.ofInt n
  | _, .string s => writeText s
  | _, .array [] => [91, 93]
  | level, .array items => 91 :: laidItems x (level + 1) items
  | _, .object [] => [123, 125]
  | level, .object members => 123 :: laidMembers x (level + 1) members

/-- The items and the closing bracket. -/
def laidItems (x : Layout) : Nat → List Value → Bytes
  | level, [] => x.line (level - 1) ++ [93]
  | level, [item] => x.line level ++ laid x level item ++ x.line (level - 1) ++ [93]
  | level, item :: items => x.line level ++ laid x level item ++ 44 :: laidItems x level items

/-- The members and the closing brace. -/
def laidMembers (x : Layout) : Nat → List (String × Value) → Bytes
  | level, [] => x.line (level - 1) ++ [125]
  | level, [(name, value)] =>
    x.line level ++ writeText name ++ (58 :: x.gap) ++ laid x level value ++ x.line (level - 1) ++
      [125]
  | level, (name, value) :: members =>
    x.line level ++ writeText name ++ (58 :: x.gap) ++ laid x level value ++
      44 :: laidMembers x level members

end

mutual

theorem compact_eq_laid (level : Nat) : ∀ v : Value, v.compact = v.laid .none level
  | .null | .boolean _ | .integer _ | .string _ | .array [] | .object [] => rfl
  | .array (item :: items) => congrArg (91 :: ·) (compactItems_eq_laid (level + 1) (item :: items))
  | .object (member :: members) =>
    congrArg (123 :: ·) (compactMembers_eq_laid (level + 1) (member :: members))

theorem compactItems_eq_laid (level : Nat) : ∀ items : List Value,
    compactItems items = laidItems .none level items
  | [] => rfl
  | [item] => by simp [compactItems, laidItems, compact_eq_laid level item]
  | item :: next :: items => by
    simp [compactItems, laidItems, compact_eq_laid level item,
      compactItems_eq_laid level (next :: items)]

theorem compactMembers_eq_laid (level : Nat) : ∀ members : List (String × Value),
    compactMembers members = laidMembers .none level members
  | [] => rfl
  | [(name, value)] => by simp [compactMembers, laidMembers, compact_eq_laid level value]
  | (name, value) :: next :: members => by
    simp [compactMembers, laidMembers, compact_eq_laid level value,
      compactMembers_eq_laid level (next :: members)]

end

mutual

theorem prettyAt_eq_laid (level : Nat) : ∀ v : Value, prettyAt level v = v.laid .lines level
  | .null | .boolean _ | .integer _ | .string _ | .array [] | .object [] => rfl
  | .array (item :: items) => congrArg (91 :: ·) (prettyItems_eq_laid (level + 1) (item :: items))
  | .object (member :: members) =>
    congrArg (123 :: ·) (prettyMembers_eq_laid (level + 1) (member :: members))

theorem prettyItems_eq_laid (level : Nat) : ∀ items : List Value,
    prettyItems level items = laidItems .lines level items
  | [] => rfl
  | [item] => by simp [prettyItems, laidItems, prettyAt_eq_laid level item]
  | item :: next :: items => by
    simp [prettyItems, laidItems, prettyAt_eq_laid level item,
      prettyItems_eq_laid level (next :: items)]

theorem prettyMembers_eq_laid (level : Nat) : ∀ members : List (String × Value),
    prettyMembers level members = laidMembers .lines level members
  | [] => rfl
  | [(name, value)] => by simp [prettyMembers, laidMembers, prettyAt_eq_laid level value]
  | (name, value) :: next :: members => by
    simp [prettyMembers, laidMembers, prettyAt_eq_laid level value,
      prettyMembers_eq_laid level (next :: members)]

end

/-! ## First bytes -/

/-- The text of a whole number begins with a sign or a digit. -/
theorem head_ofInt (n : Int) :
    ∃ b tail, Numeral.ofInt n = b :: tail ∧ (b = 45 ∨ (48 ≤ b ∧ b ≤ 57)) := by
  by_cases hn : n < 0
  · have hsign : Numeral.ofInt n = 45 :: (Numeral.digits n.natAbs).map Numeral.digitByte := by
      rw [Numeral.ofInt, if_pos hn]
      rfl
    exact ⟨45, _, hsign, .inl rfl⟩
  · cases hdigits : Numeral.digits n.natAbs with
    | nil => exact absurd hdigits (Numeral.digits_ne_nil _)
    | cons d ds =>
      have hd : d < 10 := Numeral.lt_of_mem_digits (hdigits ▸ List.mem_cons_self ..)
      have hbyte := Numeral.digitByte_toNat hd
      refine ⟨Numeral.digitByte d, ds.map Numeral.digitByte, ?_, .inr ⟨?_, ?_⟩⟩
      · rw [Numeral.ofInt, if_neg hn, hdigits]
        rfl
      · rw [UInt8.le_iff_toNat_le, hbyte]
        exact Nat.le_add_right ..
      · rw [UInt8.le_iff_toNat_le, hbyte]
        change 48 + d ≤ 57
        omega

/-- The text of a value begins with a byte that is no blank and no closing bracket. -/
theorem head_laid (x : Layout) (level : Nat) (v : Value) :
    ∃ b tail, v.laid x level = b :: tail ∧ Doc.isSpace b = false ∧ b ≠ 93 := by
  cases v with
  | null => exact ⟨_, _, rfl, rfl, by decide⟩
  | boolean b => cases b <;> exact ⟨_, _, rfl, rfl, by decide⟩
  | integer n =>
    obtain ⟨b, tail, htext, hb⟩ := head_ofInt n
    refine ⟨b, tail, by rw [laid, htext], ?_, ?_⟩
    · rcases hb with rfl | ⟨hlow, -⟩
      · rfl
      · simp only [Doc.isSpace, Bool.or_eq_false_iff, decide_eq_false_iff_not]
        refine ⟨⟨⟨?_, ?_⟩, ?_⟩, ?_⟩ <;> (rintro rfl; exact absurd hlow (by decide))
    · rcases hb with rfl | ⟨-, hhigh⟩
      · decide
      · rintro rfl
        exact absurd hhigh (by decide)
  | string s => exact ⟨_, _, rfl, rfl, by decide⟩
  | array items => cases items <;> exact ⟨_, _, rfl, rfl, by decide⟩
  | object members => cases members <;> exact ⟨_, _, rfl, rfl, by decide⟩

end Value

namespace Doc

/-! ## Blanks -/

theorem skipSpace_cons {b : UInt8} (h : isSpace b = false) (rest : Bytes) :
    skipSpace (b :: rest) = b :: rest := by
  rw [skipSpace, List.dropWhile_cons, if_neg (by rw [h]; decide)]

theorem skipSpace_append {blanks : Bytes} (h : ∀ b ∈ blanks, isSpace b = true) (rest : Bytes) :
    skipSpace (blanks ++ rest) = skipSpace rest := by
  rw [skipSpace, List.dropWhile_append_of_pos h]
  rfl

/-- Blanks in front of a value are passed. -/
theorem take_append {blanks : Bytes} (h : ∀ b ∈ blanks, isSpace b = true) (fuel : Nat)
    (rest : Bytes) : take fuel (blanks ++ rest) = take fuel rest := by
  cases fuel with
  | zero => rfl
  | succ fuel => rw [take, take, skipSpace_append h]

theorem skipSpace_skipSpace (input : Bytes) : skipSpace (skipSpace input) = skipSpace input := by
  induction input with
  | nil => rfl
  | cons b rest ih =>
    cases hb : isSpace b with
    | true =>
      have hskip : skipSpace (b :: rest) = skipSpace rest := List.dropWhile_cons_of_pos hb
      rw [hskip, ih]
    | false => rw [skipSpace_cons hb, skipSpace_cons hb]

theorem take_skipSpace (fuel : Nat) (input : Bytes) :
    take fuel (skipSpace input) = take fuel input := by
  cases fuel with
  | zero => rfl
  | succ fuel => rw [take, take, skipSpace_skipSpace]

theorem takeItems_skipSpace (fuel : Nat) (input : Bytes) :
    takeItems fuel (skipSpace input) = takeItems fuel input := by
  cases fuel with
  | zero => rfl
  | succ fuel => rw [takeItems, takeItems, take_skipSpace]

theorem takeMembers_skipSpace (fuel : Nat) (input : Bytes) :
    takeMembers fuel (skipSpace input) = takeMembers fuel input := by
  cases fuel with
  | zero => rfl
  | succ fuel => rw [takeMembers, takeMembers, skipSpace_skipSpace]

theorem ends_cons {b : UInt8} (h : b = 44 ∨ b = 93 ∨ b = 125) (rest : Bytes) :
    Ends (b :: rest) := by
  intro x hx
  rw [List.head?_cons, Option.some.injEq] at hx
  exact .inr (hx ▸ h)

theorem ends_append {blanks rest : Bytes} (hblanks : ∀ b ∈ blanks, isSpace b = true)
    (h : Ends rest) : Ends (blanks ++ rest) := by
  cases blanks with
  | nil => exact h
  | cons b blanks =>
    intro x hx
    rw [List.cons_append, List.head?_cons, Option.some.injEq] at hx
    exact .inl (hx ▸ hblanks b (List.mem_cons_self ..))

/-! ## Tokens -/

theorem takeWord_append (word : Bytes) (doc : Doc) (rest : Bytes) :
    takeWord word doc (word ++ rest) = (doc, some rest) := by
  rw [takeWord, afterWord?, if_pos List.take_left, List.drop_left]

/-- A byte that begins a number begins nothing else. -/
theorem take_number {b : UInt8} (hb : b = 45 ∨ (48 ≤ b ∧ b ≤ 57)) (fuel : Nat) {rest after : Bytes}
    {numeral : Numeral} (h : Numeral.take? (b :: rest) = some (numeral, after)) :
    take (fuel + 1) (b :: rest) = (.number numeral.value, some after) := by
  have hne : ∀ x : UInt8, x ≠ 45 → ¬(48 ≤ x ∧ x ≤ 57) → b ≠ x := by
    rintro x hx hrange rfl
    rcases hb with hb | hb
    · exact hx hb
    · exact hrange hb
  have hspace : isSpace b = false := by
    simp [isSpace, hne 32 (by decide) (by decide), hne 10 (by decide) (by decide),
      hne 13 (by decide) (by decide), hne 9 (by decide) (by decide)]
  rw [take, skipSpace_cons hspace]
  simp only [if_neg (hne 34 (by decide) (by decide)), if_neg (hne 91 (by decide) (by decide)),
    if_neg (hne 123 (by decide) (by decide)), if_neg (hne 110 (by decide) (by decide)),
    if_neg (hne 116 (by decide) (by decide)), if_neg (hne 102 (by decide) (by decide)), h]

theorem take_writeText (fuel : Nat) (s : String) (rest : Bytes) :
    take (fuel + 1) (writeText s ++ rest) = (.string (some s), some rest) := by
  have htext : writeText s ++ rest =
      34 :: ((Bytes.ofText s).flatMap escapeByte ++ 34 :: rest) := by simp [writeText]
  rw [htext, take, skipSpace_cons rfl]
  simp only [if_true, takePieces_flatMap, piecesText_map]

theorem take_array {fuel : Nat} {input : Bytes} (hb : ∀ rest, skipSpace input ≠ 93 :: rest) :
    take (fuel + 1) (91 :: input) =
      (.array (takeItems fuel input).1 (takeItems fuel input).2.isSome,
        (takeItems fuel input).2) := by
  rw [take, skipSpace_cons rfl]
  simp only [show (91 : UInt8) ≠ 34 by decide, if_false, if_true, takeItems_skipSpace]

theorem take_object {fuel : Nat} {input : Bytes} (hb : ∀ rest, skipSpace input ≠ 125 :: rest) :
    take (fuel + 1) (123 :: input) =
      (.object (takeMembers fuel input).1 (takeMembers fuel input).2.isSome,
        (takeMembers fuel input).2) := by
  rw [take, skipSpace_cons rfl]
  simp only [show (123 : UInt8) ≠ 34 by decide, show (123 : UInt8) ≠ 91 by decide, if_false,
    if_true, takeMembers_skipSpace]

/-- An item of an array with a comma behind it. -/
theorem takeItems_comma {fuel : Nat} {input rest after : Bytes} {item : Doc}
    (h : take fuel input = (item, some rest)) (hrest : skipSpace rest = 44 :: after) :
    takeItems (fuel + 1) input = (item :: (takeItems fuel after).1, (takeItems fuel after).2) := by
  simp only [takeItems, h, hrest]

/-- The last item of an array. -/
theorem takeItems_last {fuel : Nat} {input rest after : Bytes} {item : Doc}
    (h : take fuel input = (item, some rest)) (hrest : skipSpace rest = 93 :: after) :
    takeItems (fuel + 1) input = ([item], some after) := by
  simp only [takeItems, h, hrest]

section Member

variable {fuel : Nat} {name : String} {blanks input rest after : Bytes} {value : Doc}

theorem writeText_append (name : String) (input : Bytes) :
    writeText name ++ 58 :: input =
      34 :: ((Bytes.ofText name).flatMap escapeByte ++ 34 :: 58 :: input) := by
  simp [writeText]

/-- A member of an object with a comma behind it. -/
theorem takeMembers_comma (hblanks : ∀ b ∈ blanks, isSpace b = true)
    (h : take fuel input = (value, some rest)) (hrest : skipSpace rest = 44 :: after) :
    takeMembers (fuel + 1) (blanks ++ (writeText name ++ 58 :: input)) =
      ((some name, value) :: (takeMembers fuel after).1, (takeMembers fuel after).2) := by
  rw [writeText_append, takeMembers, skipSpace_append hblanks, skipSpace_cons rfl]
  simp only [takePieces_flatMap, piecesText_map, skipSpace_cons (b := 58) rfl, h, hrest]

/-- The last member of an object. -/
theorem takeMembers_last (hblanks : ∀ b ∈ blanks, isSpace b = true)
    (h : take fuel input = (value, some rest)) (hrest : skipSpace rest = 125 :: after) :
    takeMembers (fuel + 1) (blanks ++ (writeText name ++ 58 :: input)) =
      ([(some name, value)], some after) := by
  rw [writeText_append, takeMembers, skipSpace_append hblanks, skipSpace_cons rfl]
  simp only [takePieces_flatMap, piecesText_map, skipSpace_cons (b := 58) rfl, h, hrest]

end Member

/-! ## Values -/

variable (x : Value.Layout)

/-- The text of a value has a byte at least. -/
theorem length_laid_pos (level : Nat) (v : Value) : 0 < (v.laid x level).length := by
  obtain ⟨b, tail, htext, -, -⟩ := v.head_laid x level
  rw [htext]
  exact Nat.succ_pos _

/-- Behind the opening bracket of an array with items there is no closing one. -/
theorem skipSpace_laidItems_ne (level : Nat) (item : Value) (items : List Value)
    (rest tail : Bytes) :
    skipSpace (Value.laidItems x level (item :: items) ++ rest) ≠ 93 :: tail := by
  obtain ⟨b, front, htext, hspace, hb⟩ := item.head_laid x level
  have hitems : ∃ tail, Value.laidItems x level (item :: items) ++ rest =
      x.line level ++ b :: tail := by
    cases items <;> simp [Value.laidItems, htext]
  obtain ⟨tail', hitems⟩ := hitems
  rw [hitems, skipSpace_append (x.line_blank level), skipSpace_cons hspace]
  exact fun heq => hb (List.cons.inj heq).1

/-- Behind the opening brace of an object with members there is no closing one. -/
theorem skipSpace_laidMembers_ne (level : Nat) (member : String × Value)
    (members : List (String × Value)) (rest tail : Bytes) :
    skipSpace (Value.laidMembers x level (member :: members) ++ rest) ≠ 125 :: tail := by
  obtain ⟨name, value⟩ := member
  have hmembers : ∃ tail, Value.laidMembers x level ((name, value) :: members) ++ rest =
      x.line level ++ 34 :: tail := by
    cases members <;> simp [Value.laidMembers, writeText]
  obtain ⟨tail', hmembers⟩ := hmembers
  rw [hmembers, skipSpace_append (x.line_blank level), skipSpace_cons rfl]
  exact fun heq => absurd (List.cons.inj heq).1 (by decide)

mutual

/-- The text of a value is taken as the value's document. -/
theorem take_laid (fuel level : Nat) (v : Value) {rest : Bytes} (h : Ends rest)
    (hf : 2 * (v.laid x level).length ≤ fuel) :
    take fuel (v.laid x level ++ rest) = (v.doc, some rest) := by
  have hpos := length_laid_pos x level v
  match fuel with
  | 0 => omega
  | fuel + 1 =>
  cases v with
  | null => exact takeWord_append [117, 108, 108] .null rest
  | boolean b =>
    cases b with
    | true => exact takeWord_append [114, 117, 101] (.boolean true) rest
    | false => exact takeWord_append [97, 108, 115, 101] (.boolean false) rest
  | integer n =>
    obtain ⟨b, tail, htext, hb⟩ := Value.head_ofInt n
    have hnumeral := Numeral.take_ofInt n h
    rw [htext, List.cons_append] at hnumeral
    rw [Value.laid, htext, List.cons_append, take_number hb fuel hnumeral, Value.doc]
  | string s =>
    rw [Value.laid, take_writeText, Value.doc]
  | array items =>
    cases items with
    | nil => rfl
    | cons item items =>
      have htext : (Value.array (item :: items)).laid x level =
        91 :: Value.laidItems x (level + 1) (item :: items) := rfl
      rw [htext, List.length_cons] at hf
      rw [htext, List.cons_append, Value.doc,
        take_array (skipSpace_laidItems_ne x (level + 1) item items rest),
        takeItems_laid fuel (level + 1) item items rest (by omega)]
      rfl
  | object members =>
    cases members with
    | nil => rfl
    | cons member members =>
      have htext : (Value.object (member :: members)).laid x level =
        123 :: Value.laidMembers x (level + 1) (member :: members) := rfl
      rw [htext, List.length_cons] at hf
      rw [htext, List.cons_append, Value.doc,
        take_object (skipSpace_laidMembers_ne x (level + 1) member members rest),
        takeMembers_laid fuel (level + 1) member members rest (by omega)]
      rfl

/-- The text of items is taken as their documents. -/
theorem takeItems_laid (fuel level : Nat) (item : Value) (items : List Value) (rest : Bytes)
    (hf : 2 * (Value.laidItems x level (item :: items)).length ≤ fuel + 1) :
    takeItems fuel (Value.laidItems x level (item :: items) ++ rest) =
      (Value.docItems (item :: items), some rest) := by
  have hpos := length_laid_pos x level item
  match fuel with
  | 0 =>
    have hone : 1 ≤ (Value.laidItems x level (item :: items)).length := by
      cases items <;> simp only [Value.laidItems, List.length_append, List.length_cons] <;> omega
    omega
  | fuel + 1 =>
  cases items with
  | nil =>
    have hends : Ends (x.line (level - 1) ++ 93 :: rest) :=
      ends_append (x.line_blank _) (ends_cons (.inr (.inl rfl)) rest)
    simp only [Value.laidItems, List.length_append, List.length_singleton] at hf
    have hitem := take_laid fuel level item hends (by omega)
    rw [← take_append (x.line_blank level)] at hitem
    simp only [Value.laidItems, List.append_assoc, List.singleton_append]
    have hlast : skipSpace (x.line (level - 1) ++ 93 :: rest) = 93 :: rest := by
      rw [skipSpace_append (x.line_blank _), skipSpace_cons rfl]
    exact takeItems_last hitem hlast
  | cons next items =>
    have hends : Ends (44 :: (Value.laidItems x level (next :: items) ++ rest)) :=
      ends_cons (.inl rfl) _
    simp only [Value.laidItems, List.length_append, List.length_cons] at hf
    have hitem := take_laid fuel level item hends (by omega)
    have hitems := takeItems_laid fuel level next items rest (by omega)
    rw [← take_append (x.line_blank level)] at hitem
    simp only [Value.laidItems, List.append_assoc, List.cons_append]
    rw [takeItems_comma hitem (skipSpace_cons rfl _), hitems]
    rfl

/-- The text of members is taken as their names and documents. -/
theorem takeMembers_laid (fuel level : Nat) (member : String × Value)
    (members : List (String × Value)) (rest : Bytes)
    (hf : 2 * (Value.laidMembers x level (member :: members)).length ≤ fuel + 1) :
    takeMembers fuel (Value.laidMembers x level (member :: members) ++ rest) =
      (Value.docMembers (member :: members), some rest) := by
  obtain ⟨name, value⟩ := member
  have hpos := length_laid_pos x level value
  match fuel with
  | 0 =>
    have hone : 1 ≤ (Value.laidMembers x level ((name, value) :: members)).length := by
      cases members <;>
        simp only [Value.laidMembers, List.length_append, List.length_cons] <;> omega
    omega
  | fuel + 1 =>
  cases members with
  | nil =>
    have hends : Ends (x.line (level - 1) ++ 125 :: rest) :=
      ends_append (x.line_blank _) (ends_cons (.inr (.inr rfl)) rest)
    simp only [Value.laidMembers, List.length_append, List.length_cons] at hf
    have hvalue := take_laid fuel level value hends (by omega)
    rw [← take_append x.gap_blank] at hvalue
    simp only [Value.laidMembers, List.append_assoc, List.cons_append, List.nil_append]
    have hlast : skipSpace (x.line (level - 1) ++ 125 :: rest) = 125 :: rest := by
      rw [skipSpace_append (x.line_blank _), skipSpace_cons rfl]
    exact takeMembers_last (x.line_blank level) hvalue hlast
  | cons next members =>
    have hends : Ends (44 :: (Value.laidMembers x level (next :: members) ++ rest)) :=
      ends_cons (.inl rfl) _
    simp only [Value.laidMembers, List.length_append, List.length_cons] at hf
    have hvalue := take_laid fuel level value hends (by omega)
    have hmembers := takeMembers_laid fuel level next members rest (by omega)
    rw [← take_append x.gap_blank] at hvalue
    simp only [Value.laidMembers, List.append_assoc, List.cons_append]
    rw [takeMembers_comma (x.line_blank level) hvalue (skipSpace_cons rfl _), hmembers]
    rfl

end

/-- The text of a value shows the value's document, and nothing follows it. -/
theorem ofBytes_laid (level : Nat) (v : Value) :
    ofBytes (v.laid x level) = (v.doc, some []) := by
  have hends : Ends [] := fun _ hb => nomatch hb
  have htake := take_laid x (2 * (v.laid x level).length + 2) level v hends (by omega)
  rw [List.append_nil] at htake
  exact htake

end Doc

end CalloutHost.Json
