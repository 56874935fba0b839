import CalloutHost.Engine.Options
import CalloutHost.Proofs.Json.Records

/-!
# The configuration tells all

The engine's configuration leaves out what says nothing, and it is written by hand, member by
member. Still nothing is lost: the configuration is what a record of the options is written as
(`EngineOptions.config_eq_write`), and the record is lawful (`EngineOptions.lawful_configRecord`),
so the options can be read from the text of their configuration (`EngineOptions.configText_tells`).
-/

namespace CalloutHost

open Json (Codec Field Record)
open Json.Field (carries_text carries_list carries_option carries_optional carries_defaulted
  carries_required)

/-! ## Records member by member -/

namespace Json

variable {ρ α : Type} {name : String} {c : Codec α}

/-- A flag that is written as a word. -/
def Codec.switch : Codec Bool where
  read
    | _, .string (some "enabled") => .ok true
    | _, .string (some "disabled") => .ok false
    | _, doc => doc.refuse "a switch"
  write b := .string (if b then "enabled" else "disabled")

theorem Codec.lawful_switch : Codec.switch.Lawful 0 where
  read_write _ b _ := by cases b <;> rfl
  whole b room _ := by cases b <;> cases room <;> rfl

/-- The member that a field of a record is written as, if it is not left out. -/
def Field.member (field : Field ρ) (r : ρ) : List (String × Value) :=
  ((field.write r).map fun v => (field.name, v)).toList

/-- A record is written as the members of its fields, one after the other. -/
theorem Record.codec_write (x : Record ρ) (r : ρ) :
    x.codec.write r = .object (x.fields.flatMap (·.member r)) := by
  have hmembers (fields : List (Field ρ)) : members fields r = fields.flatMap (·.member r) := by
    induction fields with
    | nil => rfl
    | cons field fields ih =>
      rw [List.flatMap_cons, ← ih, Field.member]
      cases hv : field.write r with
      | none => exact members_cons_none hv fields
      | some v => exact members_cons_some hv fields
  exact congrArg Value.object (hmembers x.fields)

namespace Field

theorem member_required {get : ρ → α} {set : α → ρ → ρ} (r : ρ) :
    (required name c get set).member r = [(name, c.write (get r))] := rfl

theorem member_optional {skip : α → Bool} {get : ρ → α} {set : α → ρ → ρ} (r : ρ) :
    (optional name c skip get set).member r =
      if skip (get r) then [] else [(name, c.write (get r))] := by
  change (Option.map _ (if skip (get r) then none else some (c.write (get r)))).toList = _
  split <;> rfl

theorem member_option {get : ρ → Option α} {set : Option α → ρ → ρ} (r : ρ) :
    (optional name c.option (·.isNone) get set).member r = memberIf name c.write (get r) := by
  rw [member_optional]
  cases get r <;> rfl

theorem member_list {get : ρ → List α} {set : List α → ρ → ρ} (r : ρ) :
    (optional name c.list (·.isEmpty) get set).member r = memberList name c.write (get r) := by
  rw [member_optional]
  cases get r <;> rfl

theorem member_text {get : ρ → String} {set : String → ρ → ρ} (r : ρ) :
    (optional name .text (·.isEmpty) get set).member r =
      if get r = "" then [] else [(name, .string (get r))] := by
  rw [member_optional]
  simp only [String.isEmpty_iff]
  rfl

theorem member_dict {get : ρ → Dict α} {set : Dict α → ρ → ρ} (r : ρ) :
    (optional name c.dict (·.isEmpty) get set).member r =
      if (get r).isEmpty then [] else
        [(name, .object ((get r).toList.map fun (name, a) => (name, c.write a)))] :=
  member_optional r

theorem member_switch {get : ρ → Bool} {set : Bool → ρ → ρ} (r : ρ) :
    (optional name .switch (!·) get set).member r =
      if get r then [(name, .string "enabled")] else [] := by
  rw [member_optional]
  cases get r <;> rfl

end Field

end Json

theorem EngineUser.lawful : EngineUser.record.codec.Lawful 1 :=
  Record.lawful_codec _ (by decide) fun u =>
    ⟨_, carries_required Codec.lawful_text (Nat.zero_le _) u _,
      _, carries_required Codec.lawful_text (Nat.zero_le _) u _, rfl⟩

namespace EngineAccount

/-- How an account is read from the configuration. -/
def configRecord : Record EngineAccount where
  title := "AccountOptions"
  fields :=
    [.optional "users" (.list EngineUser.record.codec) (·.isEmpty) (·.users)
       (fun x a => { a with users := x }),
     .optional "jetstream" .switch (!·) (·.jetstream) (fun x a => { a with jetstream := x })]
  initial := .empty
  strict := false

theorem lawful_configRecord : configRecord.codec.Lawful 3 :=
  Record.lawful_codec _ (by decide) fun _ =>
    ⟨_, carries_list EngineUser.lawful (Nat.le_refl _) rfl,
      _, carries_optional Codec.lawful_switch (Nat.zero_le _) fun x hx => by
        rw [(Bool.not_eq_true' x).mp hx]
        rfl, rfl⟩

theorem config_eq_write (a : EngineAccount) : a.config = configRecord.codec.write a := by
  rw [Record.codec_write, config]
  simp only [configRecord, List.flatMap_cons, List.flatMap_nil, List.append_nil, Field.member_list,
    Field.member_switch]

end EngineAccount

namespace AuthCallout

/-- How the callout is read from the configuration. -/
def configRecord : Record AuthCallout where
  title := "AuthCalloutOptions"
  fields :=
    [.required "issuer" .text (·.issuer) (fun x c => { c with issuer := x }),
     .required "auth_users" (.list .text) (·.users) (fun x c => { c with users := x }),
     .required "account" .text (·.account) (fun x c => { c with account := x }),
     .optional "xkey" (.option .text) (·.isNone) (·.curveKey)
       (fun x c => { c with curveKey := x })]
  initial := ⟨"", [], "", none⟩
  strict := false

theorem lawful_configRecord : configRecord.codec.Lawful 2 :=
  Record.lawful_codec _ (by decide) fun c =>
    ⟨_, carries_required Codec.lawful_text (Nat.zero_le _) c _,
      _, carries_required (Codec.lawful_list Codec.lawful_text) (Nat.le_refl _) c _,
      _, carries_required Codec.lawful_text (Nat.zero_le _) c _,
      _, carries_option Codec.lawful_text nofun (Nat.zero_le _) rfl, rfl⟩

theorem config_eq_write (c : AuthCallout) : c.config = configRecord.codec.write c := by
  rw [Record.codec_write, config]
  simp only [configRecord, List.flatMap_cons, List.flatMap_nil, List.append_nil,
    Field.member_required, Field.member_option]
  rfl

end AuthCallout

namespace EngineAuthorization

/-- How the authorization is read from the configuration. -/
def configRecord : Record EngineAuthorization where
  title := "AuthorizationOptions"
  fields :=
    [.optional "token" (.option .text) (·.isNone) (·.token) (fun x a => { a with token := x }),
     .optional "user" (.option .text) (·.isNone) (·.user) (fun x a => { a with user := x }),
     .optional "password" (.option .text) (·.isNone) (·.password)
       (fun x a => { a with password := x }),
     .optional "users" (.list EngineUser.record.codec) (·.isEmpty) (·.users)
       (fun x a => { a with users := x }),
     .optional "auth_callout" (.option AuthCallout.configRecord.codec) (·.isNone) (·.callout)
       (fun x a => { a with callout := x })]
  initial := .empty
  strict := false

theorem lawful_configRecord : configRecord.codec.Lawful 3 :=
  Record.lawful_codec _ (by decide) fun _ =>
    ⟨_, carries_option Codec.lawful_text nofun (Nat.zero_le _) rfl,
      _, carries_option Codec.lawful_text nofun (Nat.zero_le _) rfl,
      _, carries_option Codec.lawful_text nofun (Nat.zero_le _) rfl,
      _, carries_list EngineUser.lawful (Nat.le_refl _) rfl,
      _, carries_option AuthCallout.lawful_configRecord nofun (Nat.le_refl _) rfl, rfl⟩

theorem config_eq_write (a : EngineAuthorization) : a.config = configRecord.codec.write a := by
  rw [Record.codec_write, config, funext AuthCallout.config_eq_write]
  simp only [configRecord, List.flatMap_cons, List.flatMap_nil, List.append_nil, List.append_assoc,
    Field.member_option, Field.member_list]
  rfl

end EngineAuthorization

namespace StreamStorage

/-- How the storage of streams is read from the configuration. -/
def configRecord : Record StreamStorage where
  title := "JetStreamOptions"
  fields :=
    [.optional "store_dir" (.option .text) (·.isNone) (·.directory)
       (fun x s => { s with directory := x })]
  initial := ⟨none⟩
  strict := false

theorem lawful_configRecord : configRecord.codec.Lawful 1 :=
  Record.lawful_codec _ (by decide) fun _ =>
    ⟨_, carries_option Codec.lawful_text nofun (Nat.zero_le _) rfl, rfl⟩

theorem config_eq_write (s : StreamStorage) : s.config = configRecord.codec.write s := by
  rw [Record.codec_write, config]
  simp only [configRecord, List.flatMap_cons, List.flatMap_nil, List.append_nil,
    Field.member_option]
  rfl

end StreamStorage

namespace EngineOptions

/-- How the options are read from the configuration. -/
def configRecord : Record EngineOptions where
  title := "EngineOptions"
  fields :=
    [.optional "server_name" .text (·.isEmpty) (·.serverName)
       (fun x o => { o with serverName := x }),
     .required "host" .text (·.host) (fun x o => { o with host := x }),
     .required "port" .uint16 (·.port) (fun x o => { o with port := x }),
     .optional "http_port" (.option .uint16) (·.isNone) (·.httpPort)
       (fun x o => { o with httpPort := x }),
     .required "debug" .boolean (·.debug) (fun x o => { o with debug := x }),
     .required "trace" .boolean (·.trace) (fun x o => { o with trace := x }),
     .optional "accounts" (.dict EngineAccount.configRecord.codec) (·.isEmpty) (·.accounts)
       (fun x o => { o with accounts := x }),
     .optional "authorization" (.option EngineAuthorization.configRecord.codec) (·.isNone)
       (·.authorization) (fun x o => { o with authorization := x }),
     .optional "no_auth_user" (.option .text) (·.isNone) (·.noAuthUser)
       (fun x o => { o with noAuthUser := x }),
     .optional "system_account" (.option .text) (·.isNone) (·.systemAccount)
       (fun x o => { o with systemAccount := x }),
     .optional "operator" (.list .text) (·.isEmpty) (·.operators)
       (fun x o => { o with operators := x }),
     .optional "jetstream" (.option StreamStorage.configRecord.codec) (·.isNone) (·.jetstream)
       (fun x o => { o with jetstream := x })]
  initial := .default
  strict := false

theorem lawful_configRecord : configRecord.codec.Lawful 5 := by
  have haccounts : (Codec.dict EngineAccount.configRecord.codec).Lawful 4 :=
    Codec.lawful_dict EngineAccount.lawful_configRecord
  exact Record.lawful_codec _ (by decide) fun o =>
    ⟨_, carries_text rfl, _, carries_required Codec.lawful_text (Nat.zero_le _) _ _,
      _, carries_required Codec.lawful_uint16 (Nat.zero_le _) _ _,
      _, carries_option Codec.lawful_uint16 nofun (Nat.zero_le _) rfl,
      _, carries_required Codec.lawful_boolean (Nat.zero_le _) _ _,
      _, carries_required Codec.lawful_boolean (Nat.zero_le _) _ _,
      _, carries_optional haccounts (Nat.le_refl _) fun d hd => by
        rw [Dict.ext (List.isEmpty_iff.1 hd) (e := .empty)]
        rfl,
      _, carries_option EngineAuthorization.lawful_configRecord nofun (by omega) rfl,
      _, carries_option Codec.lawful_text nofun (Nat.zero_le _) rfl,
      _, carries_option Codec.lawful_text nofun (Nat.zero_le _) rfl,
      _, carries_list Codec.lawful_text (by omega) rfl,
      _, carries_option StreamStorage.lawful_configRecord nofun (by omega) rfl, rfl⟩

theorem config_eq_write (o : EngineOptions) : o.config = configRecord.codec.write o := by
  rw [Record.codec_write, config, funext EngineAccount.config_eq_write,
    funext EngineAuthorization.config_eq_write, funext StreamStorage.config_eq_write]
  simp only [configRecord, List.flatMap_cons, List.flatMap_nil, List.append_nil, List.append_assoc,
    Field.member_required, Field.member_option, Field.member_list, Field.member_text,
    Field.member_dict]
  rfl

/-- The options are read from the text of their configuration, so no two different options have the
same. -/
theorem configText_tells (o p : EngineOptions) :
    configRecord.codec.ofBytes o.configText = .ok o ∧ (o.configText = p.configText ↔ o = p) := by
  have hread (o : EngineOptions) : configRecord.codec.ofBytes o.configText = .ok o := by
    rw [configText, config_eq_write]
    exact lawful_configRecord.ofBytes_pretty (by decide) o
  refine ⟨hread o, fun heq => ?_, fun heq => by rw [heq]⟩
  have hsame := hread o
  rw [heq, hread p] at hsame
  exact (Except.ok.inj hsame).symm

end EngineOptions

end CalloutHost
