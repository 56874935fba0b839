import CalloutHost.Proofs.Json.Codecs

/-!
# What is written is a text

In every layout a value is written as the UTF-8 form of a text (`Value.isText_laid`): words,
numbers, brackets and blanks are below 128, and escaping replaces only bytes below 128, which are
characters of their own. So nothing is lost where the text of a value is taken as a text
(`Value.ofText_text`), and a lawful codec reads it as the value (`Codec.Lawful.ofText_toText`). Of
all texts that are read as one value, it is the one that is written again (`Codec.rewrite`).
-/

namespace CalloutHost

namespace Json

open Bytes (IsText Ascii)

/-! ## Strings -/

/-- A byte below 128 is written with such bytes. -/
theorem ascii_escapeByte {b : UInt8} (h : b.toNat < 128) : Ascii (escapeByte b) := by
  have table : ∀ n : Fin 128, Ascii (escapeByte (UInt8.ofNat n)) := by decide
  have hb := table ⟨b.toNat, h⟩
  rwa [UInt8.ofNat_toNat] at hb

theorem escapeByte_of_le {b : UInt8} (h : 128 ≤ b.toNat) : escapeByte b = [b] := by
  have hne {c : UInt8} (hc : c.toNat < 128) : b ≠ c := by
    rintro rfl
    omega
  have hlt : ¬ b < 32 := fun hb => by
    have hb : b.toNat < 32 := hb
    omega
  rw [escapeByte, if_neg (hne (by decide)), if_neg (hne (by decide)), if_neg (hne (by decide)),
    if_neg (hne (by decide)), if_neg (hne (by decide)), if_neg (hne (by decide)),
    if_neg (hne (by decide)), if_neg hlt]

/-- Escaping leaves a character a text. -/
theorem isText_escape (c : Char) : IsText ((String.utf8EncodeChar c).flatMap escapeByte) := by
  by_cases hc : c.toNat < 128
  · rw [Bytes.utf8EncodeChar_of_lt hc, List.flatMap_singleton]
    exact (ascii_escapeByte (by rw [Bytes.toNat_ofNat_byte (by omega)]; exact hc)).isText
  · have hbytes : (String.utf8EncodeChar c).flatMap escapeByte = String.utf8EncodeChar c := by
      have hsame : ∀ x ∈ String.utf8EncodeChar c, escapeByte x = [x] := fun x hx =>
        escapeByte_of_le (Bytes.le_of_mem_utf8EncodeChar (Nat.not_lt.1 hc) hx)
      rw [List.flatMap_def, List.map_congr_left hsame, ← List.flatMap_def, List.flatMap_singleton']
    rw [hbytes]
    exact Bytes.isText_char c

theorem isText_writeText (s : String) : IsText (writeText s) := by
  have hquote : IsText [34] := Ascii.isText (by decide)
  have hescaped : IsText ((Bytes.ofText s).flatMap escapeByte) := by
    rw [← String.ofList_toList (s := s), Bytes.ofText_ofList, List.flatMap_assoc]
    exact Bytes.isText_flatMap fun c _ => isText_escape c
  exact (hquote.append hescaped).append hquote

/-! ## Values -/

theorem isText_ofInt (n : Int) : IsText (Numeral.ofInt n) := by
  have hsign : IsText (if n < 0 then [45] else []) := by
    split <;> exact Ascii.isText (by decide)
  refine hsign.append (Ascii.isText fun x hx => ?_)
  obtain ⟨d, hd, rfl⟩ := List.mem_map.1 hx
  have hlt := Numeral.lt_of_mem_digits hd
  rw [Numeral.digitByte_toNat hlt]
  omega

theorem isText_blanks {b : Bytes} (h : ∀ x ∈ b, Doc.isSpace x = true) : IsText b := by
  refine Ascii.isText fun x hx => ?_
  have hspace := h x hx
  simp only [Doc.isSpace, Bool.or_eq_true, decide_eq_true_eq] at hspace
  rcases hspace with ((rfl | rfl) | rfl) | rfl <;> decide

namespace Value

theorem isText_word (b : Bool) : IsText (word b) := by
  cases b <;> exact Ascii.isText (by decide)

theorem isText_gap (x : Layout) : IsText (58 :: x.gap) :=
  .cons (by decide) (isText_blanks x.gap_blank)

mutual

theorem isText_laid (x : Layout) (level : Nat) : ∀ v : Value, IsText (v.laid x level)
  | .null => Ascii.isText (b := nullWord) (by decide)
  | .boolean b => isText_word b
  | .integer n => isText_ofInt n
  | .string s => isText_writeText s
  | .array [] => Ascii.isText (b := [91, 93]) (by decide)
  | .array (item :: items) => .cons (by decide) (isText_laidItems x (level + 1) (item :: items))
  | .object [] => Ascii.isText (b := [123, 125]) (by decide)
  | .object (member :: members) =>
    .cons (by decide) (isText_laidMembers x (level + 1) (member :: members))

theorem isText_laidItems (x : Layout) (level : Nat) :
    ∀ items : List Value, IsText (laidItems x level items)
  | [] => (isText_blanks (x.line_blank _)).append (Ascii.isText (by decide))
  | [item] =>
    (((isText_blanks (x.line_blank _)).append (isText_laid x level item)).append
      (isText_blanks (x.line_blank _))).append (Ascii.isText (by decide))
  | item :: next :: items =>
    ((isText_blanks (x.line_blank _)).append (isText_laid x level item)).append
      (.cons (by decide) (isText_laidItems x level (next :: items)))

theorem isText_laidMembers (x : Layout) (level : Nat) :
    ∀ members : List (String × Value), IsText (laidMembers x level members)
  | [] => (isText_blanks (x.line_blank _)).append (Ascii.isText (by decide))
  | [(name, value)] =>
    (((((isText_blanks (x.line_blank _)).append (isText_writeText name)).append
      (isText_gap x)).append (isText_laid x level value)).append
      (isText_blanks (x.line_blank _))).append (Ascii.isText (by decide))
  | (name, value) :: next :: members =>
    ((((isText_blanks (x.line_blank _)).append (isText_writeText name)).append
      (isText_gap x)).append (isText_laid x level value)).append
      (.cons (by decide) (isText_laidMembers x level (next :: members)))

end

/-- The text of a value is written as the value is. -/
theorem ofText_text (v : Value) : Bytes.ofText v.text = v.compact := by
  obtain ⟨s, hs⟩ := isText_laid .none 0 v
  rw [text, compact_eq_laid 0 v, ← hs, Bytes.toText?_ofText]
  rfl

end Value

/-! ## Writing what was read -/

namespace Codec

variable {α : Type} {c : Codec α} {depth : Nat}

/-- Reads a text and writes what it was read as. -/
def rewrite (c : Codec α) (input : Bytes) : Except Refusal String := (c.ofBytes input).map c.toText

theorem rewrite_of_ofBytes {input : Bytes} {a : α} (h : c.ofBytes input = .ok a) :
    c.rewrite input = .ok (c.toText a) := by
  rw [rewrite, h]
  rfl

theorem Lawful.ofText_toText (h : c.Lawful depth) (hdepth : depth ≤ depthLimit) (a : α) :
    c.ofText (c.toText a) = .ok a := by
  rw [ofText, toText, Value.ofText_text]
  exact h.ofBytes_toBytes hdepth a

theorem Lawful.toText_injective (h : c.Lawful depth) (hdepth : depth ≤ depthLimit) {a b : α}
    (heq : c.toText a = c.toText b) : a = b := by
  have hread := h.ofText_toText hdepth a
  rw [heq, h.ofText_toText hdepth b] at hread
  exact (Except.ok.inj hread).symm

/-- What is written of a value is written by those texts that are read as the value. -/
theorem Lawful.rewrite_eq_ok_iff (h : c.Lawful depth) (hdepth : depth ≤ depthLimit) {input : Bytes}
    {a : α} : c.rewrite input = .ok (c.toText a) ↔ c.ofBytes input = .ok a := by
  refine ⟨fun heq => ?_, rewrite_of_ofBytes⟩
  rw [rewrite] at heq
  cases hread : c.ofBytes input with
  | error e =>
    rw [hread] at heq
    exact nomatch heq
  | ok b =>
    rw [hread] at heq
    rw [h.toText_injective hdepth (Except.ok.inj heq)]

end Codec

end Json

end CalloutHost
