import CalloutHost.Claims.Token
import CalloutHost.Proofs.Encoding.Base64Url
import CalloutHost.Proofs.Keys.Pairs
import CalloutHost.Proofs.Text.Pieces
import Mathlib.Data.Int.ConditionallyCompleteOrder
import Mathlib.Order.Interval.Set.OrdConnected

/-!
# Which tokens are accepted

The characters of a segment are neither dots nor blank, so a text is split into three segments just
where it has these between dots, with blanks around it (`split_trim_eq_iff`). A segment gives back
the bytes that it was made of, and nothing else is a segment (`unsegment_eq_ok_iff`).

`Claims.Genuine token c` says, without a decoder of tokens, that a text is a token of the claims
`c`: which bytes stand in its three segments, what they are read as, and under which key the
signature verifies. It is what `Claims.authentic` finds out (`Claims.authentic_eq_ok_iff`). A token
is accepted at a time just where it is genuine and the time is within the bounds of its claims, and
only of genuine tokens it is said that they are over or early (`Claims.accepts_iff`).
-/

namespace CalloutHost

/-! ## Segments -/

theorem plain_of_mem_segment {raw : Bytes} {c : Char} (h : c ∈ segment raw) :
    c ≠ '.' ∧ Text.isBlank c = false := by
  obtain ⟨x, hx, rfl⟩ := List.mem_map.1 h
  exact (Base64Url.plain_encode raw x hx).2

/-- A segment gives back the bytes that it was made of. -/
theorem unsegment_segment (raw : Bytes) : unsegment (segment raw) = .ok raw := by
  rw [unsegment, segment, Bytes.ofText_toCharacters (Base64Url.ascii_encode raw),
    Base64Url.decode_encode]
  rfl

/-- A segment stands for bytes just where it is their segment. -/
theorem unsegment_eq_ok_iff {cs : List Char} {raw : Bytes} :
    unsegment cs = .ok raw ↔ cs = segment raw := by
  constructor
  · intro h
    have htext := Base64Url.decode_eq_ok_iff.1 (mapError_eq_ok_iff.1 h)
    exact String.ofList_inj.1 (Bytes.eq_of_ofText_eq (Base64Url.ascii_encode raw) htext)
  · rintro rfl
    exact unsegment_segment raw

theorem plain_join_segments {raws : List Bytes} {c : Char}
    (h : c ∈ Text.join '.' (raws.map segment)) : Text.isBlank c = false := by
  obtain rfl | ⟨piece, hpiece, hc⟩ := Text.mem_join h
  · decide
  · obtain ⟨raw, -, rfl⟩ := List.mem_map.1 hpiece
    exact (plain_of_mem_segment hc).2

/-- The text of segments between dots is split into these segments, also with blanks around it. -/
theorem split_trim_eq_iff {cs : List Char} {raws : List Bytes} (hne : raws ≠ []) :
    Text.split '.' (Text.trim cs) = raws.map segment ↔ ∃ before after,
      (∀ c ∈ before, Text.isBlank c = true) ∧ (∀ c ∈ after, Text.isBlank c = true) ∧
        cs = before ++ Text.join '.' (raws.map segment) ++ after := by
  have hdot : ∀ piece ∈ raws.map segment, '.' ∉ piece := by
    intro piece hpiece hc
    obtain ⟨raw, -, rfl⟩ := List.mem_map.1 hpiece
    exact (plain_of_mem_segment hc).1 rfl
  constructor
  · intro h
    rw [← h, Text.join_split]
    exact Text.exists_blanks cs
  · rintro ⟨before, after, hbefore, hafter, rfl⟩
    rw [Text.trim_append hbefore hafter fun c => plain_join_segments,
      Text.split_join (by simpa using hne) hdot]

/-- The text of segments between dots is split into these segments. -/
theorem split_trim_join {raws : List Bytes} (hne : raws ≠ []) :
    Text.split '.' (Text.trim (Text.join '.' (raws.map segment))) = raws.map segment := by
  refine (split_trim_eq_iff hne).2 ⟨[], [], nofun, nofun, ?_⟩
  rw [List.nil_append, List.append_nil]

namespace Claims

variable {β : Type} [ClaimBody β]

/-- A text is a token of these claims. -/
inductive Genuine (token : String) (c : Claims β) : Prop
  /-- Three segments stand between dots, with nothing around them but blanks. The first is a header
  that names the one algorithm, the second the claims, of their own type, and the third a signature
  on the text of the first two under the key that the claims name as their issuer. -/
  | intro {before after : List Char} {header payload signature point : Bytes} {found : TokenHeader}
      {kind : Nkey.Kind}
      (blank_before : ∀ x ∈ before, Text.isBlank x = true)
      (blank_after : ∀ x ∈ after, Text.isBlank x = true)
      (segments : token.toList = before ++
        Text.join '.' [segment header, segment payload, segment signature] ++ after)
      (header_read : TokenHeader.record.codec.ofBytes header = .ok found)
      (algorithm : found.algorithm = "ed25519-nkey")
      (payload_read : codec.ofBytes payload = .ok c)
      (typed : (ClaimBody.descriptor c.body).type = ClaimBody.typeName β)
      (issuer : c.registered.issuer = Nkey.armour (kind.byte :: point))
      (point_length : point.length = 32)
      (on_curve : (Ed25519.Point.ofBytes? point).isSome = true)
      (signature_length : signature.length = 64)
      (verified : Ed25519.verify point (signedText (segment header) (segment payload)) signature =
        true)

variable {token : String} {c d : Claims β} {now : Int}

/-! ## A token, whatever the time -/

theorem genuine_of_authentic (h : authentic token = .ok c) : Genuine token c := by
  rw [authentic] at h
  split at h
  · next header payload signature hsplit =>
    obtain ⟨headerRaw, hheader, h⟩ := bind_eq_ok_iff.1 h
    obtain ⟨found, hfound, h⟩ := bind_eq_ok_iff.1 h
    obtain ⟨halgorithm, h⟩ := check_eq_ok_iff.1 h
    obtain ⟨payloadRaw, hpayload, h⟩ := bind_eq_ok_iff.1 h
    obtain ⟨claims, hclaims, h⟩ := bind_eq_ok_iff.1 h
    obtain ⟨htype, h⟩ := check_eq_ok_iff.1 h
    obtain ⟨key, hkey, h⟩ := bind_eq_ok_iff.1 h
    obtain ⟨raw, hraw, h⟩ := bind_eq_ok_iff.1 h
    obtain ⟨_, hverify, h⟩ := bind_eq_ok_iff.1 h
    obtain rfl := Except.ok.inj h
    rw [mapError_eq_ok_iff] at hfound hclaims hkey hverify
    obtain ⟨kind, point, hlen, hcurve, hissuer, rfl⟩ := Nkey.KeyPair.ofPublicText_eq_ok_iff.1 hkey
    obtain ⟨hsize, hverify⟩ := Nkey.KeyPair.verify_eq_ok_iff.1 hverify
    rw [unsegment_eq_ok_iff] at hheader hpayload hraw
    subst hheader hpayload hraw
    have hne : [headerRaw, payloadRaw, raw] ≠ [] := List.cons_ne_nil _ _
    obtain ⟨before, after, hbefore, hafter, htext⟩ := (split_trim_eq_iff hne).1 hsplit
    exact ⟨hbefore, hafter, htext, hfound, Decidable.not_not.1 halgorithm, hclaims,
      Decidable.not_not.1 htype, hissuer, hlen, hcurve, hsize, hverify⟩
  · cases h

theorem authentic_of_genuine (h : Genuine token c) : authentic token = .ok c := by
  obtain @⟨before, after, header, payload, signature, point, found, kind, hbefore, hafter, htext,
    hheader, halgorithm, hpayload, htype, hissuer, hlen, hcurve, hsize, hverify⟩ := h
  have hne : [header, payload, signature] ≠ [] := List.cons_ne_nil _ _
  have hsplit : Text.split '.' (Text.trim token.toList) =
      [segment header, segment payload, segment signature] :=
    (split_trim_eq_iff hne).2 ⟨before, after, hbefore, hafter, htext⟩
  have hkey := Nkey.KeyPair.ofPublicText_eq_ok_iff.2 ⟨kind, point, hlen, hcurve, hissuer, rfl⟩
  have hverify : (Nkey.KeyPair.ofPoint kind point).verify
      (signedText (segment header) (segment payload)) signature = .ok () :=
    Nkey.KeyPair.verify_eq_ok_iff.2 ⟨hsize, hverify⟩
  rw [authentic, hsplit]
  refine bind_eq_ok_iff.2 ⟨header, unsegment_segment header, ?_⟩
  refine bind_eq_ok_iff.2 ⟨found, mapError_eq_ok_iff.2 hheader, ?_⟩
  refine check_eq_ok_iff.2 ⟨Decidable.not_not.2 halgorithm, ?_⟩
  refine bind_eq_ok_iff.2 ⟨payload, unsegment_segment payload, ?_⟩
  refine bind_eq_ok_iff.2 ⟨c, mapError_eq_ok_iff.2 hpayload, ?_⟩
  refine check_eq_ok_iff.2 ⟨Decidable.not_not.2 htype, ?_⟩
  refine bind_eq_ok_iff.2 ⟨_, mapError_eq_ok_iff.2 hkey, ?_⟩
  refine bind_eq_ok_iff.2 ⟨signature, unsegment_segment signature, ?_⟩
  exact bind_eq_ok_iff.2 ⟨(), mapError_eq_ok_iff.2 hverify, rfl⟩

/-- Genuine tokens are those that are authentic. -/
theorem authentic_eq_ok_iff : authentic token = .ok c ↔ Genuine token c :=
  ⟨genuine_of_authentic, authentic_of_genuine⟩

/-- A token is of one claims only. -/
theorem Genuine.unique (hc : Genuine token c) (hd : Genuine token d) : c = d :=
  Except.ok.inj ((authentic_of_genuine hc).symm.trans (authentic_of_genuine hd))

/-- The error is one of time. -/
def IsOfTime (e : TokenError) : Prop := e = .expired ∨ e = .notYetValid

/-- Whether a token is authentic has nothing to do with time. -/
theorem not_isOfTime_of_authentic : ∀ e,
    (authentic token : Except TokenError (Claims β)) = .error e → ¬IsOfTime e := by
  have hencoding (cs : List Char) : ∀ e, unsegment cs = .error e → ¬IsOfTime e :=
    errors_of_mapError fun _ => by simp [IsOfTime]
  have hjson {α : Type} (x : Except Json.Refusal α) :
      ∀ e, x.mapError TokenError.json = .error e → ¬IsOfTime e :=
    errors_of_mapError fun _ => by simp [IsOfTime]
  have hsignature {α : Type} (x : Except Nkey.Error α) :
      ∀ e, x.mapError TokenError.signature = .error e → ¬IsOfTime e :=
    errors_of_mapError fun _ => by simp [IsOfTime]
  rw [authentic]
  split
  · refine errors_of_bind (hencoding _) fun _ => errors_of_bind (hjson _) fun found => ?_
    refine errors_of_check (by simp [IsOfTime]) ?_
    refine errors_of_bind (hencoding _) fun _ => errors_of_bind (hjson _) fun claims => ?_
    refine errors_of_check (by simp [IsOfTime]) ?_
    refine errors_of_bind (hsignature _) fun _ => errors_of_bind (hencoding _) fun _ => ?_
    exact errors_of_bind (hsignature _) fun _ _ => nofun
  · rintro _ ⟨⟩
    simp [IsOfTime]

/-! ## The time -/

/-- The last second of validity is over. -/
def IsOver (c : Claims β) (now : Int) : Prop :=
  0 < c.registered.expires ∧ c.registered.expires < clockSeconds now

/-- The first second of validity is still to come. -/
def IsEarly (c : Claims β) (now : Int) : Prop :=
  0 < c.registered.notBefore ∧ clockSeconds now < c.registered.notBefore

instance (c : Claims β) (now : Int) : Decidable (c.IsOver now) :=
  inferInstanceAs (Decidable (_ ∧ _))

instance (c : Claims β) (now : Int) : Decidable (c.IsEarly now) :=
  inferInstanceAs (Decidable (_ ∧ _))

omit [ClaimBody β] in
theorem checkTime_eq (c : Claims β) (now : Int) :
    c.checkTime now =
      if c.IsOver now then .error .expired else if c.IsEarly now then .error .notYetValid
      else .ok () :=
  rfl

/-- What is said of a genuine token at a time. -/
theorem decode_of_genuine (h : Genuine token c) (now : Int) :
    decode token now =
      if c.IsOver now then .error .expired else if c.IsEarly now then .error .notYetValid
      else .ok c := by
  rw [decode, authentic_of_genuine h]
  change (c.checkTime now >>= fun _ => pure c) = _
  rw [checkTime_eq]
  split
  · rfl
  · split <;> rfl

theorem decode_eq_ok_iff :
    decode token now = .ok c ↔ Genuine token c ∧ ¬c.IsOver now ∧ ¬c.IsEarly now := by
  constructor
  · intro h
    obtain ⟨d, hd, -⟩ := bind_eq_ok_iff.1 h
    have hgenuine := genuine_of_authentic hd
    rw [decode_of_genuine hgenuine] at h
    split at h
    · cases h
    · next hover =>
      split at h
      · cases h
      · next hearly =>
        obtain rfl := Except.ok.inj h
        exact ⟨hgenuine, hover, hearly⟩
  · rintro ⟨hgenuine, hover, hearly⟩
    rw [decode_of_genuine hgenuine, if_neg hover, if_neg hearly]

/-- An error of time is told of a genuine token. -/
theorem genuine_of_decode_eq_error {e : TokenError} (he : IsOfTime e)
    (h : (decode token now : Except TokenError (Claims β)) = .error e) :
    ∃ c : Claims β, Genuine token c := by
  rcases bind_eq_error h with h | ⟨c, hc, -⟩
  · exact absurd he (not_isOfTime_of_authentic e h)
  · exact ⟨c, genuine_of_authentic hc⟩

theorem decode_eq_expired_iff :
    (decode token now : Except TokenError (Claims β)) = .error .expired ↔
      ∃ c : Claims β, Genuine token c ∧ c.IsOver now := by
  constructor
  · intro h
    obtain ⟨c, hc⟩ := genuine_of_decode_eq_error (.inl rfl) h
    rw [decode_of_genuine hc] at h
    split at h
    · next hover => exact ⟨c, hc, hover⟩
    · split at h <;> cases h
  · rintro ⟨c, hc, hover⟩
    rw [decode_of_genuine hc, if_pos hover]

theorem decode_eq_notYetValid_iff :
    (decode token now : Except TokenError (Claims β)) = .error .notYetValid ↔
      ∃ c : Claims β, Genuine token c ∧ ¬c.IsOver now ∧ c.IsEarly now := by
  constructor
  · intro h
    obtain ⟨c, hc⟩ := genuine_of_decode_eq_error (.inr rfl) h
    rw [decode_of_genuine hc] at h
    split at h
    · cases h
    · next hover =>
      split at h
      · next hearly => exact ⟨c, hc, hover, hearly⟩
      · cases h
  · rintro ⟨c, hc, hover, hearly⟩
    rw [decode_of_genuine hc, if_neg hover, if_pos hearly]

/-- Later clocks show more seconds, as long as 63 bits are enough for them. -/
theorem clockSeconds_le {first last : Int} (hle : first ≤ last) (hlast : last < 2 ^ 63) :
    clockSeconds first ≤ clockSeconds last := by
  have hseconds {now : Int} (h : now < 2 ^ 63) : (clockSeconds now).toInt = max 0 now := by
    rw [clockSeconds]
    exact Int64.toInt_ofInt_of_le (by omega) (by omega)
  rw [Int64.le_iff_toInt_le, hseconds hlast, hseconds (lt_of_le_of_lt hle hlast)]
  exact max_le_max_left 0 hle

theorem ordConnected_accepted (token : String) :
    {now : Int | now < 2 ^ 63 ∧ ∃ c : Claims β, decode token now = .ok c}.OrdConnected := by
  refine ⟨fun first hfirst last hlast now hnow => ?_⟩
  obtain ⟨-, c, hc⟩ := hfirst
  obtain ⟨hbound, d, hd⟩ := hlast
  rw [decode_eq_ok_iff] at hc hd
  obtain ⟨hgenuine, -, hearly⟩ := hc
  obtain ⟨hgenuine', hover, -⟩ := hd
  obtain rfl := hgenuine.unique hgenuine'
  have hnow' := lt_of_le_of_lt hnow.2 hbound
  refine ⟨hnow', c, decode_eq_ok_iff.2 ⟨hgenuine, fun h => hover ⟨h.1, ?_⟩,
    fun h => hearly ⟨h.1, ?_⟩⟩⟩
  · exact Int64.lt_of_lt_of_le h.2 (clockSeconds_le hnow.2 hbound)
  · exact Int64.lt_of_le_of_lt (clockSeconds_le hnow.1 hnow') h.2

/-- A token is accepted with these claims just where it is a token of them and the time is within
their bounds. So the times at which a token is accepted form an interval, as far as 64 bits hold the
seconds. Only of a genuine token it is said that it is over, and only of one that is not over that
it is early. -/
theorem accepts_iff (β : Type) [ClaimBody β] (token : String) :
    (∀ (now : Int) (c : Claims β),
      decode token now = .ok c ↔ Genuine token c ∧ ¬c.IsOver now ∧ ¬c.IsEarly now) ∧
    {now : Int | now < 2 ^ 63 ∧ ∃ c : Claims β, decode token now = .ok c}.OrdConnected ∧
    (∀ now : Int, (decode token now : Except TokenError (Claims β)) = .error .expired ↔
      ∃ c : Claims β, Genuine token c ∧ c.IsOver now) ∧
    ∀ now : Int, (decode token now : Except TokenError (Claims β)) = .error .notYetValid ↔
      ∃ c : Claims β, Genuine token c ∧ ¬c.IsOver now ∧ c.IsEarly now :=
  ⟨fun _ _ => decode_eq_ok_iff, ordConnected_accepted token, fun _ => decode_eq_expired_iff,
    fun _ => decode_eq_notYetValid_iff⟩

end Claims

end CalloutHost
