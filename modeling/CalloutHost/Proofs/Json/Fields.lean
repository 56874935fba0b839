import CalloutHost.Json.Record
import CalloutHost.Proofs.Json.Codecs

/-!
# Fields that read what they write

A field carries its value from one record to another if it reads what it writes, and if it leaves
out only what it need not read (`Field.Carries`). A field with a lawful codec does, as long as what
it leaves out is what the record has already (`Field.carries_optional`). Of several fields, each
carries its own value (`CarryAll`).
-/

namespace CalloutHost.Json

variable {ρ : Type}

/-! ## Fields -/

/-- Reading what the field writes of `r` makes `b` of `a`, and so does not reading it where nothing
is written. -/
structure Field.Carries (field : Field ρ) (depth : Nat) (r a b : ρ) : Prop where
  read : ∀ (v : Value) (source : Source), field.write r = some v → source.HasRoom depth →
    field.read source v.doc a = .ok b
  whole : ∀ (v : Value) (room : Nat), field.write r = some v → depth ≤ room →
    v.doc.isWhole room = true
  /-- What is left out need not be there and would change nothing. -/
  left : field.write r = none → field.mandatory = false ∧ b = a

namespace Field

variable {α : Type} {c : Codec α} {own depth : Nat} {name : String} {get : ρ → α} {set : α → ρ → ρ}

theorem carries_required (h : c.Lawful own) (hle : own ≤ depth) (r a : ρ) :
    (required name c get set).Carries depth r a (set (get r) a) where
  read v source hv hroom := by
    obtain rfl := Option.some.inj hv
    have hread := (h.mono hle).read_write source (get r) hroom
    change (c.read source (c.write (get r)).doc).map _ = _
    rw [hread]
    rfl
  whole v room hv hroom := by
    obtain rfl := Option.some.inj hv
    exact (h.mono hle).whole (get r) room hroom
  left hv := nomatch hv

/-- A field that is left out only when its value is what the record has already. -/
theorem carries_optional {skip : α → Bool} (h : c.Lawful own) (hle : own ≤ depth) {r a : ρ}
    (hskip : ∀ x, skip x = true → set x a = a) :
    (optional name c skip get set).Carries depth r a (set (get r) a) where
  read v source hv hroom := by
    simp only [optional] at hv
    split at hv
    · exact nomatch hv
    · obtain rfl := Option.some.inj hv
      have hread := (h.mono hle).read_write source (get r) hroom
      change (c.read source (c.write (get r)).doc).map _ = _
      rw [hread]
      rfl
  whole v room hv hroom := by
    simp only [optional] at hv
    split at hv
    · exact nomatch hv
    · obtain rfl := Option.some.inj hv
      exact (h.mono hle).whole (get r) room hroom
  left hv := by
    simp only [optional] at hv
    split at hv
    · next hs => exact ⟨rfl, hskip _ hs⟩
    · exact nomatch hv

theorem carries_defaulted (h : c.Lawful own) (hle : own ≤ depth) (r a : ρ) :
    (defaulted name c get set).Carries depth r a (set (get r) a) :=
  carries_optional h hle fun _ hx => nomatch hx

section LeftOut

variable {r a : ρ}

theorem carries_text {get : ρ → String} {set : String → ρ → ρ} (h : set "" a = a) :
    (optional name .text (·.isEmpty) get set).Carries depth r a (set (get r) a) :=
  carries_optional Codec.lawful_text (Nat.zero_le _) <| by
    intro x hx
    rw [String.isEmpty_iff.1 hx]
    exact h

theorem carries_int64 {get : ρ → Int64} {set : Int64 → ρ → ρ} (h : set 0 a = a) :
    (optional name .int64 (· = 0) get set).Carries depth r a (set (get r) a) :=
  carries_optional Codec.lawful_int64 (Nat.zero_le _) <| by
    intro x hx
    rw [of_decide_eq_true hx]
    exact h

theorem carries_list {c : Codec α} (hc : c.Lawful own) (hle : own + 1 ≤ depth)
    {get : ρ → List α} {set : List α → ρ → ρ} (h : set [] a = a) :
    (optional name c.list (·.isEmpty) get set).Carries depth r a (set (get r) a) :=
  carries_optional (Codec.lawful_list hc) hle <| by
    intro x hx
    rw [List.isEmpty_iff.1 hx]
    exact h

theorem carries_texts (hle : 1 ≤ depth) {get : ρ → List String} {set : List String → ρ → ρ}
    (h : set [] a = a) :
    (optional name (.list .text) (·.isEmpty) get set).Carries depth r a (set (get r) a) :=
  carries_list Codec.lawful_text hle h

theorem carries_option {c : Codec α} (hc : c.Lawful own) (hnull : ∀ x, c.write x ≠ .null)
    (hle : own ≤ depth) {get : ρ → Option α} {set : Option α → ρ → ρ} (h : set none a = a) :
    (optional name c.option (·.isNone) get set).Carries depth r a (set (get r) a) :=
  carries_optional (Codec.lawful_option hc hnull) hle <| by
    intro x hx
    rw [Option.isNone_iff_eq_none.1 hx]
    exact h

end LeftOut

/-- A field of a part carries the part as it does by itself. -/
theorem Carries.within {σ : Type} {field : Field σ} {get : ρ → σ} {set : σ → ρ → ρ} {r a : ρ}
    {y : σ} (h : field.Carries depth (get r) (get a) y) (hself : set (get a) a = a) :
    (field.within get set).Carries depth r a (set y a) where
  read v source hv hroom := by
    change (field.read source v.doc (get a)).map _ = _
    rw [h.read v source hv hroom]
    rfl
  whole := h.whole
  left hv := by
    obtain ⟨hmandatory, rfl⟩ := h.left hv
    exact ⟨hmandatory, hself⟩

end Field

/-! ## Lists of fields -/

/-- Reading what the fields write of `r`, one after the other, makes `b` of `a`. -/
def CarryAll (depth : Nat) : List (Field ρ) → ρ → ρ → ρ → Prop
  | [], _, a, b => b = a
  | field :: fields, r, a, b => ∃ m, field.Carries depth r a m ∧ CarryAll depth fields r m b

variable {depth : Nat} {fields : List (Field ρ)} {r a b : ρ}

theorem CarryAll.append {more : List (Field ρ)} {c : ρ} (h : CarryAll depth fields r a b)
    (h' : CarryAll depth more r b c) : CarryAll depth (fields ++ more) r a c := by
  induction fields generalizing a with
  | nil => exact (show b = a from h) ▸ h'
  | cons field fields ih =>
    obtain ⟨m, hm, hrest⟩ := h
    exact ⟨m, hm, ih hrest⟩

/-- Getting and putting a part of a record. -/
structure IsPart {σ : Type} (get : ρ → σ) (set : σ → ρ → ρ) : Prop where
  get_set : ∀ y a, get (set y a) = y
  set_set : ∀ z y a, set z (set y a) = set z a
  set_get : ∀ a, set (get a) a = a

/-- The fields of a part carry the part as they do by themselves. -/
theorem CarryAll.within {σ : Type} {fields : List (Field σ)} {get : ρ → σ} {set : σ → ρ → ρ}
    (hpart : IsPart get set) {y : σ} (h : CarryAll depth fields (get r) (get a) y) :
    CarryAll depth (fields.map (.within get set)) r a (set y a) := by
  induction fields generalizing a with
  | nil =>
    obtain rfl : y = get a := h
    exact hpart.set_get a
  | cons field fields ih =>
    obtain ⟨m, hm, hrest⟩ := h
    have hnext : CarryAll depth fields (get r) (get (set m a)) y := by
      rw [hpart.get_set]
      exact hrest
    have htail := ih hnext
    rw [hpart.set_set] at htail
    exact ⟨set m a, hm.within (hpart.set_get a), htail⟩

theorem CarryAll.of_append {more : List (Field ρ)} {c : ρ}
    (h : CarryAll depth (fields ++ more) r a c) :
    ∃ b, CarryAll depth fields r a b ∧ CarryAll depth more r b c := by
  induction fields generalizing a with
  | nil => exact ⟨a, rfl, h⟩
  | cons field fields ih =>
    obtain ⟨m, hm, hrest⟩ := h
    obtain ⟨b, hb, hc⟩ := ih hrest
    exact ⟨b, ⟨m, hm, hb⟩, hc⟩

theorem CarryAll.of_mem (h : CarryAll depth fields r a b) {field : Field ρ}
    (hf : field ∈ fields) : ∃ x y, field.Carries depth r x y := by
  induction fields generalizing a with
  | nil => exact nomatch hf
  | cons first fields ih =>
    obtain ⟨m, hm, hrest⟩ := h
    rcases List.mem_cons.1 hf with rfl | hf
    · exact ⟨a, m, hm⟩
    · exact ih hrest hf

/-- What the fields write of a record may be set aside. -/
def AllWhole (depth : Nat) (fields : List (Field ρ)) (r : ρ) : Prop :=
  ∀ f ∈ fields, ∀ (v : Value) (room : Nat), f.write r = some v → depth ≤ room →
    v.doc.isWhole room = true

theorem CarryAll.allWhole (h : CarryAll depth fields r a b) : AllWhole depth fields r := by
  intro f hf
  obtain ⟨_, _, hcarries⟩ := h.of_mem hf
  exact hcarries.whole

theorem AllWhole.tail {field : Field ρ} (h : AllWhole depth (field :: fields) r) :
    AllWhole depth fields r := fun f hf => h f (List.mem_cons_of_mem _ hf)

end CalloutHost.Json
