import CalloutHost.Json.Codec
import CalloutHost.Proofs.Dictionaries
import CalloutHost.Proofs.Json.Documents
import Mathlib.Algebra.Group.Int.Defs

/-!
# Codecs that read what they write

A lawful codec reads the document of every value that it writes as that value, from the text and
from what was set aside (`Codec.Lawful`). So it reads every text that it writes, in any layout
(`Codec.Lawful.ofBytes_laid`), if its values are not nested too deep for a text.
-/

namespace CalloutHost.Json

namespace Source

/-- There is room for so many nested containers. -/
def HasRoom (depth : Nat) : Source → Prop
  | .stream room => depth ≤ room
  | .held => True

variable {source : Source} {depth : Nat}

theorem HasRoom.enter (h : source.HasRoom (depth + 1)) :
    ∃ inside, source.enter = .ok inside ∧ inside.HasRoom depth := by
  cases source with
  | stream room =>
    obtain ⟨room, rfl⟩ : ∃ n, room = n + 1 := by
      have hroom : depth + 1 ≤ room := h
      exact ⟨room - 1, by omega⟩
    exact ⟨.stream room, rfl, Nat.le_of_succ_le_succ h⟩
  | held => exact ⟨.held, rfl, trivial⟩

theorem close_true (source : Source) : source.close true = .ok () := by
  cases source <;> rfl

theorem HasRoom.hold (h : source.HasRoom depth) {doc : Doc}
    (hdoc : ∀ room, depth ≤ room → doc.isWhole room = true) : source.hold doc = .ok () := by
  cases source with
  | stream room => exact if_pos (hdoc room h)
  | held => rfl

end Source

namespace Codec

variable {α : Type}

/-- What the codec writes, it reads; its values nest so many containers. -/
structure Lawful (c : Codec α) (depth : Nat) : Prop where
  read_write : ∀ (source : Source) (a : α), source.HasRoom depth →
    c.read source (c.write a).doc = .ok a
  /-- The document of a value may be set aside. -/
  whole : ∀ (a : α) (room : Nat), depth ≤ room → (c.write a).doc.isWhole room = true

variable {c : Codec α} {depth : Nat}

theorem Lawful.mono (h : c.Lawful depth) {more : Nat} (hle : depth ≤ more) : c.Lawful more where
  read_write source a hroom := by
    refine h.read_write source a ?_
    cases source with
    | stream room => exact Nat.le_trans hle hroom
    | held => trivial
  whole a room hroom := h.whole a room (Nat.le_trans hle hroom)

/-- A text that a lawful codec writes is read as the value, in any layout. -/
theorem Lawful.ofBytes_laid (h : c.Lawful depth) (hdepth : depth ≤ depthLimit) (x : Value.Layout)
    (level : Nat) (a : α) : c.ofBytes ((c.write a).laid x level) = .ok a := by
  have hread := h.read_write (.stream depthLimit) a hdepth
  rw [ofBytes, Doc.ofBytes_laid]
  change (c.read (.stream depthLimit) (c.write a).doc).bind _ = _
  rw [hread]
  rfl

theorem Lawful.ofBytes_toBytes (h : c.Lawful depth) (hdepth : depth ≤ depthLimit) (a : α) :
    c.ofBytes (c.toBytes a) = .ok a := by
  rw [toBytes, (c.write a).compact_eq_laid 0, h.ofBytes_laid hdepth]

theorem Lawful.ofBytes_pretty (h : c.Lawful depth) (hdepth : depth ≤ depthLimit) (a : α) :
    c.ofBytes (c.write a).pretty = .ok a := by
  rw [Value.pretty, (c.write a).prettyAt_eq_laid 0, h.ofBytes_laid hdepth]

/-! ## Single values -/

theorem lawful_text : Codec.text.Lawful 0 where
  read_write _ _ _ := rfl
  whole _ room _ := by cases room <;> rfl

theorem lawful_boolean : Codec.boolean.Lawful 0 where
  read_write _ _ _ := rfl
  whole _ room _ := by cases room <;> rfl

/-- A whole number between bounds that fit into 64 bits is read as it was written. -/
theorem readInteger_doc {low high n : Int} (expected : String) (hlow : low ≤ n) (hhigh : n ≤ high)
    (hbound : -2 ^ 63 ≤ low ∧ high < 2 ^ 64) :
    readInteger low high expected (Value.integer n).doc = .ok n := by
  rw [Value.doc]
  by_cases hn : n < 0
  · have hrange : n.natAbs ≤ 2 ^ 63 := by omega
    have hint : (Int64.ofInt n).toInt = n := by
      refine Int64.toInt_ofInt_of_le ?_ ?_ <;> simp at hbound ⊢ <;> omega
    rw [Numeral.value_signed hn hrange]
    simp only [readInteger, hint, if_pos hlow]
  · have hrange : n.natAbs < 2 ^ 64 := by omega
    have hnat : ((UInt64.ofNat n.natAbs).toNat : Int) = n := by
      have hmod : (UInt64.ofNat n.natAbs).toNat = n.natAbs % 2 ^ 64 := UInt64.toNat_ofNat'
      omega
    rw [Numeral.value_unsigned (by omega) hrange]
    simp only [readInteger, hnat, if_pos hhigh]

/-- A whole number of 64 bits may be set aside. -/
theorem isWhole_integer {n : Int} (hlow : -2 ^ 63 ≤ n) (hhigh : n < 2 ^ 64)
    (room : Nat) : (Value.integer n).doc.isWhole room = true := by
  rw [Value.doc]
  have hsome : (Numeral.ofWhole n).value.isSome = true := by
    by_cases hn : n < 0
    · rw [Numeral.value_signed hn (by omega)]
      rfl
    · rw [Numeral.value_unsigned (by omega) (by omega)]
      rfl
  cases room <;> exact hsome

theorem lawful_int64 : Codec.int64.Lawful 0 where
  read_write _ n _ := by
    have hlow := Int64.le_toInt n
    have hhigh := Int64.toInt_lt n
    have hread := readInteger_doc "i64" (show -0x8000000000000000 ≤ n.toInt by omega)
      (show n.toInt ≤ 0x7fffffffffffffff by omega) (by omega)
    change (readInteger _ _ "i64" (Value.integer n.toInt).doc).map Int64.ofInt = .ok n
    rw [hread]
    exact congrArg Except.ok (Int64.ofInt_toInt n)
  whole n room _ := by
    have hlow := Int64.le_toInt n
    have hhigh := Int64.toInt_lt n
    exact isWhole_integer (by omega) (by omega) room

/-- Whole numbers from zero to a bound of at most 64 bits are lawful, however they are held. -/
theorem lawful_unsigned (toNat : α → Nat) (ofNat : Nat → α) (expected : String) {high : Int}
    (hhigh : high < 2 ^ 64) (hle : ∀ n, (toNat n : Int) ≤ high)
    (hself : ∀ n, ofNat (toNat n) = n) :
    Lawful ⟨fun _ doc => (readInteger 0 high expected doc).map fun n => ofNat n.toNat,
      fun n => .integer (toNat n)⟩ 0 where
  read_write _ n _ := by
    have hread := readInteger_doc expected (Int.natCast_nonneg (toNat n)) (hle n) ⟨by decide, hhigh⟩
    change (readInteger 0 high expected (Value.integer (toNat n)).doc).map _ = .ok n
    rw [hread]
    exact congrArg Except.ok (hself n)
  whole n room _ := by
    have hle := hle n
    exact isWhole_integer (by omega) (by omega) room

theorem lawful_uint64 : Codec.uint64.Lawful 0 :=
  lawful_unsigned UInt64.toNat UInt64.ofNat "u64" (by decide)
    (fun n => by have hlt := UInt64.toNat_lt n; omega) fun _ => UInt64.ofNat_toNat

theorem lawful_uint16 : Codec.uint16.Lawful 0 :=
  lawful_unsigned UInt16.toNat UInt16.ofNat "u16" (by decide)
    (fun n => by have hlt := UInt16.toNat_lt n; omega) fun _ => UInt16.ofNat_toNat

theorem lawful_uint8 : Codec.uint8.Lawful 0 :=
  lawful_unsigned UInt8.toNat UInt8.ofNat "u8" (by decide)
    (fun n => by have hlt := UInt8.toNat_lt n; omega) fun _ => UInt8.ofNat_toNat

/-! ## Values that may be missing, lists and maps -/

theorem Value.doc_ne_null {v : Value} (h : v ≠ .null) : v.doc ≠ .null := by
  cases v with
  | null => exact absurd rfl h
  | _ => simp [Value.doc]

theorem lawful_option (h : c.Lawful depth) (hnull : ∀ a, c.write a ≠ .null) :
    c.option.Lawful depth where
  read_write source a hroom := by
    cases a with
    | none => rfl
    | some a =>
      have hread := h.read_write source a hroom
      have hdoc := Value.doc_ne_null (hnull a)
      simp only [option, hread]
      rfl
  whole a room hroom := by
    cases a with
    | none => cases room <;> rfl
    | some a => exact h.whole a room hroom

theorem mapM_read (h : c.Lawful depth) {inside : Source} (hroom : inside.HasRoom depth)
    (values : List α) :
    (Value.docItems (values.map c.write)).mapM (c.read inside) = .ok values := by
  induction values with
  | nil => rfl
  | cons a values ih =>
    rw [List.map_cons, Value.docItems, List.mapM_cons, h.read_write inside a hroom, ih]
    rfl

theorem areWhole_docItems (h : c.Lawful depth) {room : Nat} (hroom : depth ≤ room)
    (values : List α) : Doc.areWhole room (Value.docItems (values.map c.write)) = true := by
  induction values with
  | nil => cases room <;> rfl
  | cons a values ih =>
    rw [List.map_cons, Value.docItems, Doc.areWhole, h.whole a room hroom, ih]
    rfl

theorem lawful_list (h : c.Lawful depth) : c.list.Lawful (depth + 1) where
  read_write source values hroom := by
    obtain ⟨inside, henter, hinside⟩ := hroom.enter
    change (source.enter.bind fun inside =>
      ((Value.docItems (values.map c.write)).mapM (c.read inside)).bind fun values =>
        (source.close true).bind fun _ => .ok values) = .ok values
    rw [henter]
    change ((Value.docItems (values.map c.write)).mapM (c.read inside)).bind _ = _
    rw [mapM_read h hinside, source.close_true]
    rfl
  whole values room hroom := by
    obtain ⟨room, rfl⟩ : ∃ n, room = n + 1 := ⟨room - 1, by omega⟩
    exact areWhole_docItems h (Nat.le_of_succ_le_succ hroom) values

/-- The members of a map are put into it one after the other. -/
theorem readEntries_docMembers (h : c.Lawful depth) {inside : Source}
    (hroom : inside.HasRoom depth) (entries : List (String × α)) (d : Dict α) :
    readEntries c inside
        (Value.docMembers (entries.map fun (name, value) => (name, c.write value))) d =
      .ok (entries.foldl (fun d (name, value) => d.insert name value) d) := by
  induction entries generalizing d with
  | nil => rfl
  | cons entry entries ih =>
    obtain ⟨name, value⟩ := entry
    rw [List.map_cons, Value.docMembers, readEntries, h.read_write inside value hroom]
    exact ih (d.insert name value)

theorem membersAreWhole_docMembers (h : c.Lawful depth) {room : Nat} (hroom : depth ≤ room)
    (entries : List (String × α)) :
    Doc.membersAreWhole room
      (Value.docMembers (entries.map fun (name, value) => (name, c.write value))) = true := by
  induction entries with
  | nil => cases room <;> rfl
  | cons entry entries ih =>
    obtain ⟨name, value⟩ := entry
    rw [List.map_cons, Value.docMembers, Doc.membersAreWhole, h.whole value room hroom, ih]
    rfl

theorem lawful_dict (h : c.Lawful depth) : c.dict.Lawful (depth + 1) where
  read_write source values hroom := by
    obtain ⟨inside, henter, hinside⟩ := hroom.enter
    change (source.enter.bind fun inside => (readEntries c inside (Value.docMembers
      (values.toList.map fun (name, value) => (name, c.write value))) .empty).bind fun values =>
        (source.close true).bind fun _ => .ok values) = .ok values
    rw [henter]
    change (readEntries c inside _ .empty).bind _ = _
    rw [readEntries_docMembers h hinside, source.close_true]
    exact congrArg Except.ok values.ofList_toList
  whole values room hroom := by
    obtain ⟨room, rfl⟩ : ∃ n, room = n + 1 := ⟨room - 1, by omega⟩
    exact membersAreWhole_docMembers h (Nat.le_of_succ_le_succ hroom) values.toList

end Codec

end CalloutHost.Json
