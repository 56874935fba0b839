import CalloutHost.Access.Policy
import CalloutHost.Proofs.Claims.Tokens
import CalloutHost.Proofs.Json.Unions
import CalloutHost.Proofs.Json.Written

/-!
# What is written is a normal form

A text that is read as claims or as a configured policy may be written again
(`Json.Codec.rewrite`). Reading admits much that writing never makes: members in any order and
unknown ones, arrays in place of objects, fields that are left out or written with the value that
they have anyway, escapes and blanks. But the layouts of claims and of policies are lawful, so what
is written is read as it was, and all texts that are read alike are written as one text, which is
one of them (`DocumentKind.written_normal`).
-/

namespace CalloutHost

open Json (Codec)
open Json.Field (carries_option carries_defaulted carries_required)

/-! ## The layouts of configured policies are lawful -/

theorem UserTemplate.lawful : UserTemplate.record.codec.Lawful 3 :=
  Json.Record.lawful_codec _ (by decide) fun t =>
    ⟨_, carries_option SubjectRule.lawful nofun (Nat.le_refl _) rfl,
      _, carries_option SubjectRule.lawful nofun (Nat.le_refl _) rfl,
      _, carries_option ReplyRule.lawful nofun (by omega) rfl,
      _, carries_option Codec.lawful_int64 nofun (Nat.zero_le _) rfl,
      _, carries_option Codec.lawful_int64 nofun (Nat.zero_le _) rfl,
      _, carries_option Codec.lawful_int64 nofun (Nat.zero_le _) rfl,
      _, carries_option (Codec.lawful_list Codec.lawful_text) nofun (by omega) rfl,
      _, carries_option Codec.lawful_text nofun (Nat.zero_le _) rfl,
      _, carries_option (Codec.lawful_list Codec.lawful_text) nofun (by omega) rfl,
      _, carries_defaulted Codec.lawful_boolean (Nat.zero_le _) t _, rfl⟩

namespace PolicySetting

theorem lawful_allowFields : allowFields.codec.Lawful 4 :=
  Json.Record.lawful_codec _ (by decide) fun t =>
    ⟨_, carries_defaulted (Codec.lawful_option UserTemplate.lawful nofun) (Nat.le_refl _) t _, rfl⟩

theorem lawful_denyFields : denyFields.codec.Lawful 1 :=
  Json.Record.lawful_codec _ (by decide) fun message =>
    ⟨_, carries_defaulted (Codec.lawful_option Codec.lawful_text nofun) (Nat.zero_le _) message _,
      rfl⟩

/-- A configured policy has one of two forms. -/
theorem lawful_union : union.codec.Lawful 4 := by
  refine Json.Union.lawful_codec (by decide) (fun form hform => ?_) fun setting => ?_
  · rcases List.mem_cons.1 hform with rfl | hform
    · refine Json.Form.carries_ofRecord lawful_allowFields (by decide) fun setting template h => ?_
      cases setting with
      | allow _ => rw [Option.some.inj h]
      | deny _ => exact nomatch h
    · rw [List.mem_singleton.1 hform]
      refine Json.Form.carries_ofRecord (lawful_denyFields.mono (by omega)) (by decide)
        fun setting message h => ?_
      cases setting with
      | allow _ => exact nomatch h
      | deny _ => rw [Option.some.inj h]
  · cases setting with
    | allow template => exact ⟨_, List.mem_cons_self .., rfl⟩
    | deny message => exact ⟨_, List.mem_cons_of_mem _ (List.mem_cons_self ..), rfl⟩

theorem lawful : record.codec.Lawful 5 :=
  Json.Record.lawful_codec _ (by decide) fun setting =>
    ⟨_, carries_required lawful_union (Nat.le_refl _) setting _, rfl⟩

end PolicySetting

/-! ## Normal forms -/

/-- The kinds of documents that are read and written. -/
inductive DocumentKind
  | claims (kind : ClaimKind)
  | policy
  deriving DecidableEq, Repr

namespace DocumentKind

/-- What a document of a kind says. -/
def Content : DocumentKind → Type
  | .claims kind => Claims kind.Body
  | .policy => PolicySetting

/-- How documents of a kind are read and written. -/
def codec : (kind : DocumentKind) → Codec kind.Content
  | .claims _ => Claims.codec
  | .policy => PolicySetting.record.codec

theorem lawful : ∀ kind : DocumentKind, kind.codec.Lawful 5
  | .claims _ => (Claims.lawful LawfulBody.codec_lawful).mono (by omega)
  | .policy => PolicySetting.lawful

/-- What a text says is written as a text that says it again, and writing this text again changes
nothing; another text is written so exactly if it is read alike. -/
theorem written_normal (kind : DocumentKind) (input : Bytes) (v : kind.Content)
    (h : kind.codec.ofBytes input = .ok v) :
    kind.codec.ofText (kind.codec.toText v) = .ok v ∧
    kind.codec.rewrite input = .ok (kind.codec.toText v) ∧
    kind.codec.rewrite (Bytes.ofText (kind.codec.toText v)) = .ok (kind.codec.toText v) ∧
    ∀ other, kind.codec.rewrite other = kind.codec.rewrite input ↔
      kind.codec.ofBytes other = .ok v := by
  have hdepth : 5 ≤ Codec.depthLimit := by decide
  have hagain := kind.lawful.ofText_toText hdepth v
  have hwritten := Codec.rewrite_of_ofBytes h
  refine ⟨hagain, hwritten, Codec.rewrite_of_ofBytes hagain, fun other => ?_⟩
  rw [hwritten]
  exact kind.lawful.rewrite_eq_ok_iff hdepth

/-- A policy that allows, as arrays and as objects with an unknown member and the members in another
order: both are written again as one text. -/
theorem written_normal_arrays :
    let input := Bytes.ofText "[[\"\\u0061llow\"]]"
    let other := Bytes.ofText
      "\x7b\"x\": [1e9], \"callout\": \x7b\"template\": null, \"module\": \"allow\"\x7d\x7d"
    let written := "\x7b\"callout\":\x7b\"module\":\"allow\",\"template\":null\x7d\x7d"
    policy.codec.ofBytes input = .ok (PolicySetting.allow none) ∧
      policy.codec.rewrite input = .ok written ∧ policy.codec.rewrite other = .ok written := by
  intro input other written
  have hread : policy.codec.ofBytes input = .ok (PolicySetting.allow none) := by rfl
  have hother : policy.codec.ofBytes other = .ok (PolicySetting.allow none) := by rfl
  have hwritten : policy.codec.toText (PolicySetting.allow none) = written := by rfl
  obtain ⟨-, hagain, -, halike⟩ := written_normal .policy input (PolicySetting.allow none) hread
  rw [hwritten] at hagain
  exact ⟨hread, hagain, ((halike other).2 hother).trans hagain⟩

end DocumentKind

end CalloutHost
