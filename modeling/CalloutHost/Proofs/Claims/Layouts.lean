import CalloutHost.Claims.Authorization
import CalloutHost.Claims.Token
import CalloutHost.Claims.User
import CalloutHost.Proofs.Json.Records

/-!
# The layouts of claims are lawful

Every field of claims either is written whatever its value is, or is left out with the very value
that it has when it is not read. So claims with a body of any of the three kinds are read as they
were written (`Claims.lawful`).
-/

namespace CalloutHost

open Json (CarryAll Codec)
open Json.Field (carries_text carries_texts carries_int64 carries_list carries_option
  carries_defaulted carries_required carries_optional)

/-! ## Headers and registered claims -/

theorem TokenHeader.lawful : TokenHeader.record.codec.Lawful 1 :=
  Json.Record.lawful_codec _ (by decide) fun h =>
    ⟨_, carries_required Codec.lawful_text (Nat.zero_le _) h _,
      _, carries_required Codec.lawful_text (Nat.zero_le _) h _, rfl⟩

theorem Registered.carryAll (depth : Nat) (r : Registered) :
    CarryAll depth Registered.fields r .empty r :=
  ⟨_, carries_text rfl, _, carries_int64 rfl, _, carries_text rfl, _, carries_text rfl,
    _, carries_text rfl, _, carries_text rfl, _, carries_int64 rfl, _, carries_int64 rfl, rfl⟩

theorem Descriptor.carryAll {depth : Nat} (h : 1 ≤ depth) (d : Descriptor) :
    CarryAll depth Descriptor.fields d .empty d :=
  ⟨_, carries_texts h rfl, _, carries_defaulted Codec.lawful_text (Nat.zero_le _) d _,
    _, carries_defaulted Codec.lawful_uint8 (Nat.zero_le _) d _, rfl⟩

/-! ## User claims -/

theorem SubjectRule.lawful : SubjectRule.record.codec.Lawful 2 :=
  Json.Record.lawful_codec _ (by decide) fun _ =>
    ⟨_, carries_texts (Nat.le_refl _) rfl, _, carries_texts (Nat.le_refl _) rfl, rfl⟩

theorem SubjectRule.eq_empty {rule : SubjectRule} (h : rule.isEmpty = true) :
    rule = .empty := by
  obtain ⟨allow, deny⟩ := rule
  obtain ⟨hallow, hdeny⟩ := Bool.and_eq_true_iff.1 h
  obtain rfl := List.isEmpty_iff.1 hallow
  obtain rfl := List.isEmpty_iff.1 hdeny
  rfl

theorem ReplyRule.lawful : ReplyRule.record.codec.Lawful 1 :=
  Json.Record.lawful_codec _ (by decide) fun r =>
    ⟨_, carries_defaulted Codec.lawful_int64 (Nat.zero_le _) r _,
      _, carries_defaulted Codec.lawful_int64 (Nat.zero_le _) r _, rfl⟩

theorem Permissions.carryAll (p : Permissions) : CarryAll 2 Permissions.fields p .empty p := by
  refine ⟨_, carries_optional SubjectRule.lawful (Nat.le_refl _) fun rule hrule => ?_,
    _, carries_optional SubjectRule.lawful (Nat.le_refl _) fun rule hrule => ?_,
    _, carries_option ReplyRule.lawful nofun (Nat.le_succ _) rfl, rfl⟩
  · rw [SubjectRule.eq_empty hrule]
    rfl
  · rw [SubjectRule.eq_empty hrule]
    rfl

theorem TimeRange.lawful : TimeRange.record.codec.Lawful 1 :=
  Json.Record.lawful_codec _ (by decide) fun t =>
    ⟨_, carries_required Codec.lawful_text (Nat.zero_le _) t _,
      _, carries_required Codec.lawful_text (Nat.zero_le _) t _, rfl⟩

theorem Limits.carryAll (l : Limits) : CarryAll 2 Limits.fields l .none l :=
  ⟨_, carries_texts (by omega) rfl, _, carries_list TimeRange.lawful (Nat.le_refl _) rfl,
    _, carries_text rfl, _, carries_defaulted Codec.lawful_int64 (Nat.zero_le _) l _,
    _, carries_defaulted Codec.lawful_int64 (Nat.zero_le _) l _,
    _, carries_defaulted Codec.lawful_int64 (Nat.zero_le _) l _, rfl⟩

theorem User.lawful : User.layout.codec.Lawful 3 := by
  refine Json.FlatRecord.lawful_codec _ (by decide) fun u => ?_
  have hown : CarryAll 2 (Json.FlatRecord.ownFields layout.parts) u blank _ :=
    ⟨_, carries_optional Codec.lawful_boolean (Nat.zero_le _) fun b hb => by
        rw [(Bool.not_eq_true' b).mp hb]
        rfl,
      _, carries_texts (by omega) rfl, _, carries_text rfl, rfl⟩
  have hpermissions : Json.IsPart (fun u : User => u.permissions)
    fun x u => { u with permissions := x } := ⟨fun _ _ => rfl, fun _ _ _ => rfl, fun _ => rfl⟩
  have hlimits : Json.IsPart (fun u : User => u.limits) fun x u => { u with limits := x } :=
    ⟨fun _ _ => rfl, fun _ _ _ => rfl, fun _ => rfl⟩
  have hdescriptor : Json.IsPart (fun u : User => u.descriptor)
    fun x u => { u with descriptor := x } := ⟨fun _ _ => rfl, fun _ _ _ => rfl, fun _ => rfl⟩
  refine hown.append ?_
  refine .append (.within hpermissions (Permissions.carryAll u.permissions)) ?_
  refine .append (.within hlimits (Limits.carryAll u.limits)) ?_
  exact .append (.within hdescriptor (Descriptor.carryAll (by omega) u.descriptor)) rfl

/-! ## Authorization requests -/

theorem ServerId.lawful : ServerId.record.codec.Lawful 2 :=
  Json.Record.lawful_codec _ (by decide) fun s =>
    ⟨_, carries_defaulted Codec.lawful_text (Nat.zero_le _) s _,
      _, carries_defaulted Codec.lawful_text (Nat.zero_le _) s _,
      _, carries_defaulted Codec.lawful_text (Nat.zero_le _) s _, _, carries_text rfl,
      _, carries_text rfl, _, carries_texts (Nat.le_refl _) rfl, _, carries_text rfl, rfl⟩

theorem ClientInfo.lawful : ClientInfo.record.codec.Lawful 2 :=
  Json.Record.lawful_codec _ (by decide) fun _ =>
    ⟨_, carries_text rfl,
      _, carries_optional Codec.lawful_uint64 (Nat.zero_le _) fun n hn => by
        rw [of_decide_eq_true hn]
        rfl,
      _, carries_text rfl, _, carries_text rfl, _, carries_texts (Nat.le_refl _) rfl,
      _, carries_text rfl, _, carries_text rfl, _, carries_text rfl, _, carries_text rfl,
      _, carries_text rfl, rfl⟩

theorem ConnectOptions.lawful : ConnectOptions.record.codec.Lawful 1 :=
  Json.Record.lawful_codec _ (by decide) fun o =>
    ⟨_, carries_text rfl, _, carries_text rfl, _, carries_text rfl, _, carries_text rfl,
      _, carries_text rfl, _, carries_text rfl, _, carries_text rfl, _, carries_text rfl,
      _, carries_text rfl, _, carries_defaulted Codec.lawful_int64 (Nat.zero_le _) o _, rfl⟩

theorem AuthRequest.lawful : AuthRequest.layout.codec.Lawful 3 := by
  refine Json.FlatRecord.lawful_codec _ (by decide) fun r => ?_
  have hown : CarryAll 2 (Json.FlatRecord.ownFields layout.parts) r blank _ :=
    ⟨_, carries_defaulted ServerId.lawful (Nat.le_refl _) r _,
      _, carries_defaulted Codec.lawful_text (Nat.zero_le _) r _,
      _, carries_defaulted ClientInfo.lawful (Nat.le_refl _) r _,
      _, carries_defaulted ConnectOptions.lawful (by omega) r _, _, carries_text rfl, rfl⟩
  have hdescriptor : Json.IsPart (fun r : AuthRequest => r.descriptor)
    fun x r => { r with descriptor := x } := ⟨fun _ _ => rfl, fun _ _ _ => rfl, fun _ => rfl⟩
  refine hown.append ?_
  exact .append (.within hdescriptor (Descriptor.carryAll (by omega) r.descriptor)) rfl

/-! ## Authorization responses -/

theorem AuthResponse.lawful : AuthResponse.layout.codec.Lawful 2 := by
  refine Json.FlatRecord.lawful_codec _ (by decide) fun r => ?_
  have hown : CarryAll 1 (Json.FlatRecord.ownFields layout.parts) r blank _ :=
    ⟨_, carries_text rfl, _, carries_text rfl, _, carries_text rfl, rfl⟩
  have hdescriptor : Json.IsPart (fun r : AuthResponse => r.descriptor)
    fun x r => { r with descriptor := x } := ⟨fun _ _ => rfl, fun _ _ _ => rfl, fun _ => rfl⟩
  refine hown.append ?_
  exact .append (.within hdescriptor (Descriptor.carryAll (Nat.le_refl _) r.descriptor)) rfl

/-! ## Claims -/

/-- Claims are lawful if their bodies are. -/
theorem Claims.lawful {β : Type} [ClaimBody β] {depth : Nat}
    (h : (ClaimBody.codec : Codec β).Lawful depth) :
    (Claims.codec : Codec (Claims β)).Lawful (depth + 1) := by
  have hnames : ["jti", "iat", "iss", "sub", "aud", "name", "exp", "nbf", "nats"].Nodup := by decide
  refine Json.FlatRecord.lawful_codec _ hnames fun c => ?_
  have hown : CarryAll depth
      (Json.FlatRecord.ownFields (layout : Json.FlatRecord (Claims β)).parts) c
        ⟨.empty, ClaimBody.blank⟩ _ :=
    ⟨_, carries_required h (Nat.le_refl _) c _, rfl⟩
  have hregistered : Json.IsPart (fun c : Claims β => c.registered)
    fun x c => { c with registered := x } := ⟨fun _ _ => rfl, fun _ _ _ => rfl, fun _ => rfl⟩
  refine hown.append ?_
  exact .append (.within hregistered (Registered.carryAll depth c.registered)) rfl

end CalloutHost
