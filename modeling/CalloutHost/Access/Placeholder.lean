import CalloutHost.Claims.Authorization

/-!
# Placeholders

A template text holds groups in braces, and a group whose key is known stands for a value of the
authorization request. A text is split from left to right: a group goes from an opening brace to
the next closing one, whatever stands between them. What is put in place of a group is not looked
at again.
-/

namespace CalloutHost

/-- A part of a template text. -/
inductive TemplatePiece
  | literal (cs : List Char)
  /-- What stands between two braces. -/
  | group (key : List Char)
  deriving DecidableEq, Repr

namespace TemplatePiece

/-- What stands in front of the first group, its key, and what follows it. -/
def nextGroup? (cs : List Char) : Option (List Char × List Char × List Char) :=
  match cs.dropWhile (· ≠ '\x7b') with
  | [] => none
  | _ :: inner =>
    match inner.dropWhile (· ≠ '\x7d') with
    | [] => none
    | _ :: rest =>
      some (cs.takeWhile (· ≠ '\x7b'), inner.takeWhile (· ≠ '\x7d'), rest)

/-- What does not satisfy a test begins, if it is there at all, with a member that fails it. -/
theorem not_of_dropWhile_eq_cons {α : Type} {p : α → Bool} {a : α} {rest : List α} :
    ∀ {l : List α}, l.dropWhile p = a :: rest → p a = false
  | b :: l, h => by
    rw [List.dropWhile_cons] at h
    split at h
    · exact not_of_dropWhile_eq_cons h
    · next hb =>
      injection h with hba _
      subst hba
      simpa using hb

/-- The first group with what is around it makes up the text. -/
theorem eq_of_nextGroup? {cs before key rest : List Char}
    (h : nextGroup? cs = some (before, key, rest)) :
    cs = before ++ '\x7b' :: (key ++ '\x7d' :: rest) := by
  unfold nextGroup? at h
  split at h
  · simp at h
  · next a inner hin =>
    split at h
    · simp at h
    · next b rest' hrest =>
      simp only [Option.some.injEq, Prod.mk.injEq] at h
      obtain ⟨rfl, rfl, rfl⟩ := h
      have ha : a = '\x7b' := by simpa using not_of_dropWhile_eq_cons hin
      have hb : b = '\x7d' := by simpa using not_of_dropWhile_eq_cons hrest
      subst ha hb
      rw [← hrest, List.takeWhile_append_dropWhile, ← hin, List.takeWhile_append_dropWhile]

/-- What follows a group is shorter than the text. -/
theorem length_lt_of_nextGroup? {cs before key rest : List Char}
    (h : nextGroup? cs = some (before, key, rest)) : rest.length < cs.length := by
  rw [eq_of_nextGroup? h]
  simp only [List.length_append, List.length_cons]
  omega

/-- The pieces of a text. -/
def ofText (cs : List Char) : List TemplatePiece :=
  match h : nextGroup? cs with
  | none => [.literal cs]
  | some (before, key, rest) =>
    have := length_lt_of_nextGroup? h
    .literal before :: .group key :: ofText rest
termination_by cs.length

end TemplatePiece

namespace Placeholder

/-- The keys that stand for a value, and the value of a request. -/
def known : List (String × (AuthRequest → String)) :=
  [("user_nkey", (·.userKey)),
   ("connect_opts.username", (·.connect.username)),
   ("connect_opts.password", (·.connect.password)),
   ("connect_opts.lang", (·.connect.lang)),
   ("connect_opts.version", (·.connect.version)),
   ("connect_opts.protocol", fun r => toString r.connect.protocol.toInt),
   ("client_info.id", fun r => toString r.client.id.toNat),
   ("client_info.name", (·.client.name)),
   ("client_info.host", (·.client.host)),
   ("client_info.user", (·.client.user)),
   ("client_info.kind", (·.client.kind)),
   ("client_info.type", (·.client.type)),
   ("client_info.mqtt", (·.client.mqtt))]

/-- The value of a key, if it is known. -/
def value? (key : List Char) (request : AuthRequest) : Option String :=
  (known.find? (·.1.toList = key)).map fun entry => entry.2 request

/-- What is put in place of a piece: a group with an unknown key stays, or is dropped. -/
def fill (request : AuthRequest) (dropUnknown : Bool) : TemplatePiece → List Char
  | .literal cs => cs
  | .group key =>
    match value? key request with
    | some value => value.toList
    | none => if dropUnknown then [] else '\x7b' :: (key ++ ['\x7d'])

/-- The text with every group filled. -/
def expand (request : AuthRequest) (dropUnknown : Bool) (text : String) : String :=
  String.ofList ((TemplatePiece.ofText text.toList).flatMap (fill request dropUnknown))

end Placeholder

end CalloutHost
