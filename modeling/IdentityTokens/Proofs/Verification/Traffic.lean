import IdentityTokens.Proofs.Verification.Rotation

/-!
# What verification sends

Whoever hands a token to a client can make it send at most one request, for the certificates, and
has no choice in the matter but that between a text that can be taken apart as a token and one that
cannot. What the header names, what the payload claims and whether the signature is right decide
on the answer only: the requests and the client afterwards are those of any other token.

## Main definitions

* `WellFormed`: a text can be taken apart as a token.
* `SessionEvent.SameForm`: two events differ at most in tokens of the same form.

## Main statements

* `Client.receives_iff`: which tokens a client takes up.
* `Client.verify_sends_alike`: one verification, of any two tokens.
* `Session.run_sends_alike`: sessions in which tokens of the same form stand for each other.
-/

namespace IdentityTokens

/-! ## The form of a token -/

/-- A text can be taken apart as a token: it has three segments, from which a header, a payload and
the octets of a signature can be read. -/
def WellFormed (token : String) : Prop :=
  ∃ s header payload signature, Segments.split token = .ok s ∧
    Header.decode s.header = .ok header ∧ IdToken.decode s.payload = .ok payload ∧
    Segment.decode s.signature = .ok signature

theorem wellFormed_iff {token : String} :
    WellFormed token ↔ ∃ t, ReceivedToken.parse token = .ok t := by
  constructor
  · rintro ⟨s, header, payload, signature, hsplit, hheader, hpayload, hsignature⟩
    obtain ⟨rfl, hdots⟩ := Segments.split_eq_ok_iff.mp hsplit
    exact ⟨⟨header, payload, signature, s.signingInput⟩,
      ReceivedToken.parse_eq_ok_iff.mpr ⟨s, rfl, hdots, hheader, hpayload, hsignature, rfl⟩⟩
  · rintro ⟨t, ht⟩
    obtain ⟨s, rfl, hdots, hheader, hpayload, hsignature, -⟩ :=
      ReceivedToken.parse_eq_ok_iff.mp ht
    exact ⟨s, t.header, t.payload, t.signature, Segments.split_text hdots, hheader, hpayload,
      hsignature⟩

theorem WellFormed.ne_empty {token : String} (h : WellFormed token) : token ≠ "" := by
  obtain ⟨s, header, payload, signature, hsplit, -⟩ := h
  rintro rfl
  cases hsplit

namespace Client

variable {c : Client} {token : String} {now : Instant}

/-- The client has a project whose tokens it could accept. -/
def HasProject (c : Client) : Prop := ∃ project, c.projectId = some project ∧ project ≠ ""

/-- A token is taken up exactly when there is a project and the token is well formed. -/
theorem receives_iff :
    (∃ taken, c.receive token = .ok taken) ↔ c.HasProject ∧ WellFormed token := by
  rw [wellFormed_iff]
  constructor
  · rintro ⟨⟨project, received⟩, h⟩
    obtain ⟨hproject, hne, -, hparse⟩ := receive_eq_ok_iff.mp h
    exact ⟨⟨project, hproject, hne⟩, received, hparse⟩
  · rintro ⟨⟨project, hproject, hne⟩, received, hparse⟩
    have htoken := (wellFormed_iff.mpr ⟨received, hparse⟩).ne_empty
    exact ⟨(project, received), receive_eq_ok_iff.mpr ⟨hproject, hne, htoken, hparse⟩⟩

/-! ## One verification -/

/-- A token that is taken up leaves the client as a call for its keys does. -/
theorem snd_verify_of_wellFormed (hproject : c.HasProject) (h : WellFormed token) :
    (c.verify token now).2 = (c.keySet now).2 := by
  obtain ⟨taken, hreceive⟩ := receives_iff.mpr ⟨hproject, h⟩
  rw [snd_verify, hreceive]

/-- A token that is not taken up leaves the client as it was. -/
theorem snd_verify_of_not (h : ¬(c.HasProject ∧ WellFormed token)) :
    (c.verify token now).2 = c := by
  rw [snd_verify]
  cases hreceive : c.receive token with
  | error e => rfl
  | ok taken => exact absurd (receives_iff.mp ⟨taken, hreceive⟩) h

/-- **Verification sends alike for all tokens**, in every state of a client. There is one client
after the call, and at most one request, for the certificates of the cache, that all well-formed
tokens lead to, whatever they name, claim and are signed with. For any other text, and for any text
at all if there is no project, nothing is sent and the client stays as it was. -/
theorem verify_sends_alike (c : Client) (now : Instant) :
    (∃ sent after, sent.length ≤ 1 ∧ after.network.log = c.network.log ++ sent ∧
      (∀ x ∈ sent, ∃ cache, c.keySource = .certificates cache ∧ x.request = .get cache.url) ∧
      ∀ token, WellFormed token → (c.verify token now).2 = after) ∧
    ∀ token, ¬WellFormed token ∨ ¬c.HasProject → (c.verify token now).2 = c := by
  constructor
  · by_cases hproject : c.HasProject
    · obtain ⟨sent, hlog, hone, hcache⟩ := sends_keySet c now
      exact ⟨sent, (c.keySet now).2, hone, hlog, hcache, fun token h =>
        snd_verify_of_wellFormed hproject h⟩
    · exact ⟨[], c, by simp, (List.append_nil _).symm, by simp, fun token _ =>
        snd_verify_of_not fun h => hproject h.1⟩
  · intro token h
    refine snd_verify_of_not ?_
    rintro ⟨hproject, hform⟩
    exact h.elim (fun hnot => hnot hform) fun hnot => hnot hproject

end Client

namespace Sample

/-- The token without its signature. -/
def unsigned : Segments := { segments with signature := "" }

theorem wellFormed_segments : WellFormed segments.text :=
  ⟨segments, _, _, _, Segments.split_text undotted_segments, decode_header, decode_payload,
    Segment.decode_encode _⟩

theorem wellFormed_unsigned : WellFormed unsigned.text :=
  ⟨unsigned, _, _, [], Segments.split_text undotted_segments.unsigned, decode_header,
    decode_payload, rfl⟩

end Sample

/-- A token leaves the client that accepts it as the same token without its signature does. -/
theorem Client.verify_sends_alike_unsigned :
    WellFormed Sample.segments.text ∧ WellFormed Sample.unsigned.text ∧
      (Sample.client.verify Sample.segments.text Sample.epoch).1 = .ok Sample.payload ∧
      (Sample.client.verify Sample.unsigned.text Sample.epoch).2 =
        (Sample.client.verify Sample.segments.text Sample.epoch).2 := by
  obtain ⟨⟨sent, after, -, -, -, halike⟩, -⟩ := verify_sends_alike Sample.client Sample.epoch
  exact ⟨Sample.wellFormed_segments, Sample.wellFormed_unsigned, Sample.verify_token,
    (halike _ Sample.wellFormed_unsigned).trans (halike _ Sample.wellFormed_segments).symm⟩

/-! ## Whole sessions -/

/-- Two events differ at most in tokens of the same form. -/
inductive SessionEvent.SameForm : SessionEvent → SessionEvent → Prop where
  | verify {token other : String} (form : WellFormed token ↔ WellFormed other) :
      SameForm (.verify token) (.verify other)
  | setClock (now : Instant) : SameForm (.setClock now) (.setClock now)

namespace Session

/-- One event shows the same exchanges as another of the same form, and leaves the same session. -/
theorem step_sends_alike (s : Session) {e other : SessionEvent} (h : e.SameForm other) :
    (s.step e).2 = (s.step other).2 ∧
      (s.step e).1.map (·.exchanges) = (s.step other).1.map (·.exchanges) := by
  cases h with
  | setClock now => exact ⟨rfl, rfl⟩
  | @verify token other form =>
    have hsame : (s.client.verify token s.now).2 = (s.client.verify other s.now).2 := by
      by_cases htaken : s.client.HasProject ∧ WellFormed token
      · rw [Client.snd_verify_of_wellFormed htaken.1 htaken.2,
          Client.snd_verify_of_wellFormed htaken.1 (form.mp htaken.2)]
      · rw [Client.snd_verify_of_not htaken,
          Client.snd_verify_of_not fun h => htaken ⟨h.1, form.mpr h.2⟩]
    simp only [step_verify, verified, afterVerify, hsame, Option.map_some, and_self]

/-- Sessions with tokens of the same form in the same places show the same exchanges, call by call,
and end in the same state: what a client sends over time tells nothing of the tokens but their
form. -/
theorem run_sends_alike (s : Session) {events others : List SessionEvent}
    (h : List.Forall₂ SessionEvent.SameForm events others) :
    (run step s events).2 = (run step s others).2 ∧
      (run step s events).1.map (·.exchanges) = (run step s others).1.map (·.exchanges) := by
  induction h generalizing s with
  | nil => exact ⟨rfl, rfl⟩
  | @cons e other events others hfirst _ ih =>
    obtain ⟨hstate, hshown⟩ := s.step_sends_alike hfirst
    obtain ⟨hlast, hrest⟩ := ih (s.step e).2
    simp only [run, List.map_append, ← Option.toList_map]
    rw [hshown, hrest, hlast, hstate]
    exact ⟨rfl, rfl⟩

end Session

end IdentityTokens
