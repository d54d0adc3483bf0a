import Mathlib.Logic.Function.Iterate
import PubSub.Rpc.Identity

/-!
# Identification

What attaching an identity does to the metadata of a request.

Two names are those of the identity; what stands under all others is kept.  The identity therefore
stands behind what was kept, once and for all: attaching it again finds its own two values, takes
them away, and puts them back.

* `Metadata.kept`: the entries under other names.
* `Identity.attach_eq`: what was kept, and the identity behind it.
* `Identity.iterate_attach`: attaching an identity again changes nothing.
* `identity_attached`: the values under every name, for any headers before.
-/

namespace PubSub

namespace Metadata

/-- Whether a name in small letters is one of an identity. -/
def isIdentifying (name : String) : Bool := name == "authorization" || name == "agent"

/-- The entries that do not identify anyone. -/
def kept (m : Metadata) : List (String × Bytes) := m.entries.filter fun e => !isIdentifying e.1

/-- Headers are kept in their order, under names in small letters. -/
theorem entries_ofList (headers : List (String × Bytes)) :
    (ofList headers).entries = headers.map fun h => (Text.lowerAscii h.1, h.2) := by
  have hfold (m : Metadata) :
      (headers.foldl (fun m h => m.append h.1 h.2) m).entries =
        m.entries ++ headers.map fun h => (Text.lowerAscii h.1, h.2) := by
    induction headers generalizing m with
    | nil => exact (List.append_nil _).symm
    | cons h headers ih =>
      rw [List.foldl_cons, ih, append, List.map_cons, List.append_assoc]
      rfl
  exact (hfold {}).trans (List.nil_append _)

theorem values_ofList (headers : List (String × Bytes)) (name : String) :
    (ofList headers).values name =
      (headers.filter fun h => Text.eqIgnoringAsciiCase h.1 name).map (·.2) := by
  rw [values, entries_ofList, List.filter_map, List.map_map]
  rfl

end Metadata

namespace Identity

/-- The entries of an identity. -/
def entries (i : Identity) : List (String × Bytes) :=
  [("authorization", i.authorization), ("agent", i.agent)]

/-- Attaching an identity keeps what does not identify anyone and puts the identity behind it. -/
theorem attach_eq (i : Identity) (m : Metadata) : i.attach m = ⟨m.kept ++ i.entries⟩ := by
  have hauthorization : Text.lowerAscii "authorization" = "authorization" := by decide
  have hagent : Text.lowerAscii "agent" = "agent" := by decide
  have hkept : (m.entries.filter fun e => e.1 != "authorization").filter (fun e => e.1 != "agent") =
      m.kept := by
    rw [List.filter_filter, Metadata.kept]
    apply List.filter_congr
    intro e _
    rw [Metadata.isIdentifying, Bool.not_or, Bool.and_comm]
    rfl
  rw [attach, Metadata.insert, Metadata.insert, hauthorization, hagent, List.filter_append, hkept,
    List.append_assoc]
  rfl

/-- The identity itself is not kept. -/
theorem kept_attach (i : Identity) (m : Metadata) : (i.attach m).kept = m.kept := by
  have hentries : i.entries.filter (fun e => !Metadata.isIdentifying e.1) = [] := rfl
  rw [attach_eq, Metadata.kept, List.filter_append, hentries, List.append_nil, Metadata.kept,
    List.filter_filter]
  simp only [Bool.and_self]

theorem attach_congr (i : Identity) {m n : Metadata} (h : m.kept = n.kept) :
    i.attach m = i.attach n := by
  rw [attach_eq, attach_eq, h]

/-- Attaching an identity again changes nothing. -/
theorem iterate_attach (i : Identity) (m : Metadata) (again : Nat) :
    i.attach^[again + 1] m = i.attach m := by
  induction again with
  | zero => rfl
  | succ again ih =>
    rw [Function.iterate_succ_apply', ih]
    exact i.attach_congr (i.kept_attach m)

/-- An identity holds the token and the label as they are. -/
theorem of_eq_ok {token client : String} {i : Identity} (h : of token client = .ok i) :
    i = ⟨utf8Bytes token, utf8Bytes (agentLabel client)⟩ := by
  unfold of at h
  split at h
  · cases h
  · split at h
    · cases h
    · exact (Except.ok.inj h).symm

theorem values_attach (i : Identity) (m : Metadata) (name : String) :
    (i.attach m).values name =
      if Text.lowerAscii name = "authorization" then [i.authorization]
      else if Text.lowerAscii name = "agent" then [i.agent]
      else m.values name := by
  have hauthorization : Text.lowerAscii "authorization" = "authorization" := by decide
  have hagent : Text.lowerAscii "agent" = "agent" := by decide
  rw [attach, Metadata.values_insert, Metadata.values_insert, hauthorization, hagent]
  by_cases hfirst : "authorization" = Text.lowerAscii name
  · rw [← hfirst]
    rfl
  · by_cases hsecond : "agent" = Text.lowerAscii name
    · rw [← hsecond]
      rfl
    · rw [if_neg hsecond, if_neg hfirst, if_neg (Ne.symm hfirst), if_neg (Ne.symm hsecond)]

end Identity

/-- An identity that could be made, and any headers of a request, whatever the case of their names
and however many stand under one of them.  However often the identity is attached: the token is the
only value for the authorization, as it is, and the label is the only one for the agent; under every
other name there are the values that were there before, in their order.  The request is the same as
if the identity had been attached once, and the same for all headers that differ from these in what
stands under the two names. -/
theorem identity_attached {token client : String} {i : Identity}
    (hmade : Identity.of token client = .ok i) (headers : List (String × Bytes)) (again : Nat) :
    let request := Metadata.ofList headers
    let sent := i.attach^[again + 1] request
    (∀ name, sent.values name =
      if Text.eqIgnoringAsciiCase name "authorization" then [utf8Bytes token]
      else if Text.eqIgnoringAsciiCase name "agent" then [utf8Bytes (agentLabel client)]
      else (headers.filter fun h => Text.eqIgnoringAsciiCase h.1 name).map (·.2)) ∧
    sent = i.attach request ∧
    ∀ (others : List (String × Bytes)) (further : Nat),
      (Metadata.ofList others).kept = request.kept →
      i.attach^[further + 1] (Metadata.ofList others) = sent := by
  intro request sent
  have hi := Identity.of_eq_ok hmade
  have hsent : sent = i.attach request := i.iterate_attach request again
  refine ⟨?_, hsent, ?_⟩
  · intro name
    rw [hsent, Identity.values_attach, Metadata.values_ofList, hi]
    simp only [Text.eqIgnoringAsciiCase, beq_iff_eq]
    rfl
  · intro others further hkept
    rw [Identity.iterate_attach, hsent]
    exact i.attach_congr hkept

/-- Headers with values of an earlier identity among them. -/
def staleHeaders : List (String × Bytes) :=
  [("Authorization", [1]), ("x-trace", [2]), ("AGENT", [3]), ("X-Trace", [4]),
   ("authorization", [5]), ("te", [6])]

/-- The same headers but for the identity. -/
def freshHeaders : List (String × Bytes) :=
  [("X-TRACE", [2]), ("x-trace", [4]), ("agent", [7]), ("te", [6])]

theorem identity_attached_stale :
    let i : Identity := ⟨utf8Bytes "a token", utf8Bytes "rust:topic:0.1.0"⟩
    let sent := i.attach^[3] (.ofList staleHeaders)
    Identity.of "a token" "topic" = .ok i ∧
    sent.values "Authorization" = [utf8Bytes "a token"] ∧
    sent.values "agent" = [utf8Bytes "rust:topic:0.1.0"] ∧
    sent.values "x-Trace" = [[2], [4]] ∧
    (Metadata.ofList freshHeaders).kept = (Metadata.ofList staleHeaders).kept ∧
    i.attach (.ofList freshHeaders) = sent := by
  intro i sent
  have hmade : Identity.of "a token" "topic" = .ok i := by
    have htoken : (utf8Bytes "a token").all isValueByte = true := by decide
    have hlabel : (utf8Bytes (agentLabel "topic")).all isValueByte = true := by decide
    rw [Identity.of, htoken, hlabel]
    rfl
  have hkept : (Metadata.ofList freshHeaders).kept = (Metadata.ofList staleHeaders).kept := by
    decide
  rcases identity_attached hmade staleHeaders 2 with ⟨hvalues, -, hsame⟩
  exact ⟨hmade, hvalues "Authorization", hvalues "agent", hvalues "x-Trace", hkept,
    hsame freshHeaders 0 hkept⟩

end PubSub
