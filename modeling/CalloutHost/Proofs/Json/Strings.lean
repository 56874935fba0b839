import CalloutHost.Json.Text
import CalloutHost.Proofs.Encoding.ByteStrings

/-!
# Strings of JSON read back

A text that is written between quotes is read as itself, whatever follows it
(`takePieces_flatMap` and `piecesText_map`): every byte of it is written in a way that is taken as
one piece, and the pieces give the bytes back.
-/

namespace CalloutHost.Json

/-- The control characters that have no letter of their own. -/
def IsUnitByte (b : UInt8) : Prop := b < 32 ∧ b ≠ 8 ∧ b ≠ 9 ∧ b ≠ 10 ∧ b ≠ 12 ∧ b ≠ 13

instance : DecidablePred IsUnitByte := fun b => by unfold IsUnitByte; infer_instance

/-- The piece that a byte is taken as when it is written in a string. -/
def pieceOf (b : UInt8) : Piece := if IsUnitByte b then .unit b.toNat else .byte b

/-- The four digits that a control character is written by have its number. -/
theorem codeUnit_of_lt : ∀ n : Fin 32,
    codeUnit? 48 48 (Bytes.hexDigit (n / 16)) (Bytes.hexDigit (n % 16)) = some n.val := by
  decide

theorem takePieces_unit {b : UInt8} (h : b < 32) (rest : Bytes) :
    takePieces ([92, 117, 48, 48, Bytes.hexDigit (b.toNat / 16), Bytes.hexDigit (b.toNat % 16)] ++
      rest) = (takePieces rest).map fun (pieces, rest) => (.unit b.toNat :: pieces, rest) := by
  have hunit := codeUnit_of_lt ⟨b.toNat, h⟩
  simp only [List.cons_append, List.nil_append]
  rw [takePieces]
  simp only [hunit]
  cases takePieces rest <;> rfl

theorem takePieces_letter {letter b : UInt8} (h : unescape? letter = some b)
    (hne : letter ≠ 117) (rest : Bytes) :
    takePieces ([92, letter] ++ rest) = (takePieces rest).map fun (pieces, rest) =>
      (.byte b :: pieces, rest) := by
  simp only [List.cons_append, List.nil_append]
  rw [takePieces.eq_def]
  simp only [h, if_neg hne]
  cases takePieces rest <;> rfl

/-- However a byte is written in a string, it is taken as one piece. -/
theorem takePieces_escapeByte (b : UInt8) (rest : Bytes) :
    takePieces (escapeByte b ++ rest) = (takePieces rest).map fun (pieces, rest) =>
      (pieceOf b :: pieces, rest) := by
  unfold escapeByte
  split
  · next h => rw [takePieces_letter (b := 34) rfl (by decide), h]; rfl
  split
  · next h => rw [takePieces_letter (b := 92) rfl (by decide), h]; rfl
  split
  · next h => rw [takePieces_letter (b := 8) rfl (by decide), h]; rfl
  split
  · next h => rw [takePieces_letter (b := 9) rfl (by decide), h]; rfl
  split
  · next h => rw [takePieces_letter (b := 10) rfl (by decide), h]; rfl
  split
  · next h => rw [takePieces_letter (b := 12) rfl (by decide), h]; rfl
  split
  · next h => rw [takePieces_letter (b := 13) rfl (by decide), h]; rfl
  next hq hs h8 h9 h10 h12 h13 =>
  split
  · next h => rw [takePieces_unit h, pieceOf, if_pos ⟨h, h8, h9, h10, h12, h13⟩]
  · next h =>
    have hpiece : pieceOf b = .byte b := if_neg fun hu => h hu.1
    rw [hpiece, List.singleton_append]
    rw [takePieces.eq_def]
    simp only [if_neg hq, if_neg h, if_neg hs]
    cases takePieces rest <;> rfl

/-- What is written between quotes is taken up to the closing quote. -/
theorem takePieces_flatMap (b rest : Bytes) :
    takePieces (b.flatMap escapeByte ++ 34 :: rest) = some (b.map pieceOf, rest) := by
  induction b with
  | nil =>
    change takePieces (34 :: rest) = some ([], rest)
    rw [takePieces.eq_def]
    rfl
  | cons x b ih =>
    rw [List.flatMap_cons, List.append_assoc, takePieces_escapeByte, ih]
    rfl

/-! ## The bytes of the pieces -/

theorem scalarBytes_of_lt {n : Nat} (h : n < 128) : scalarBytes n = [UInt8.ofNat n] := by
  have hchar := Bytes.toNat_ofNat_of_lt h
  have htext : (Char.ofNat n).toString = String.ofList [Char.ofNat n] := rfl
  rw [scalarBytes, htext, Bytes.ofText_ofList, List.flatMap_singleton,
    Bytes.utf8EncodeChar_of_lt (by rw [hchar]; exact h), hchar]

theorem piecesBytes_map (b : Bytes) : piecesBytes? (b.map pieceOf) = some b := by
  induction b with
  | nil => rfl
  | cons x b ih =>
    rw [List.map_cons]
    by_cases hx : IsUnitByte x
    · have hlt : x.toNat < 32 := hx.1
      have hscalar : scalarBytes x.toNat = [x] := by
        rw [scalarBytes_of_lt (by omega), UInt8.ofNat_toNat]
      rw [pieceOf, if_pos hx]
      unfold piecesBytes?
      rw [if_neg (by omega), if_neg (by omega), ih, hscalar]
      rfl
    · rw [pieceOf, if_neg hx, piecesBytes?, ih]
      rfl

theorem piecesText_map (s : String) :
    piecesText? ((Bytes.ofText s).map pieceOf) = some s := by
  rw [piecesText?, piecesBytes_map]
  exact Bytes.toText?_ofText s

end CalloutHost.Json
