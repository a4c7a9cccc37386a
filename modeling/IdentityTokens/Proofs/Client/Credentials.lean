import IdentityTokens.Credentials
import IdentityTokens.Proofs.Json.Verbatim

/-!
# What a key document says

The account in a key document, said of the document with all its members as they stand. Of an object
the members of three names count, each of which may be there once; one that is missing leaves the
account without this part, and an empty text is none the better for being there. Since records may
have the form of arrays, the three parts may as well be the first items of an array.

## Main definitions

* `ServiceAccount.Stands`: an account stands in a value.

## Main statements

* `ServiceAccount.ofJson_eq_ok_iff`: what is taken from a document.
* `ServiceAccount.ofJson_eq_error_iff`: which documents are refused.
-/

namespace IdentityTokens.ServiceAccount

open Json (Role Holds optional)

variable {v : Json} {a : ServiceAccount} {pairs : List (String × Json)} {octets : List UInt8}

/-- An account stands in a value: in the members of an object, of which the project may be `null`,
or in the items of an array, the last of which may be missing. -/
inductive Stands : Json → ServiceAccount → Prop where
  | members {pairs : List (String × Json)} {a : ServiceAccount}
      (privateKey : Holds pairs "private_key" (.string a.privateKey) (.string ""))
      (clientEmail : Holds pairs "client_email" (.string a.clientEmail) (.string ""))
      (projectId : Holds pairs "project_id" (optional a.projectId) .null) :
      Stands (.object pairs) a
  | nothing : Stands (.array []) ⟨"", "", none⟩
  | key (privateKey : String) : Stands (.array [.string privateKey]) ⟨privateKey, "", none⟩
  | keyAndEmail (privateKey clientEmail : String) :
      Stands (.array [.string privateKey, .string clientEmail]) ⟨privateKey, clientEmail, none⟩
  | all (privateKey clientEmail : String) (projectId : Option String) :
      Stands (.array [.string privateKey, .string clientEmail, optional projectId])
        ⟨privateKey, clientEmail, projectId⟩

/-- What the values of a document do to an account. -/
def roles : List (Role ServiceAccount) :=
  [.of "private_key" Json.asText (fun a privateKey => { a with privateKey }) fun a =>
     .string a.privateKey,
   .of "client_email" Json.asText (fun a clientEmail => { a with clientEmail }) fun a =>
     .string a.clientEmail,
   .of "project_id" Json.asOptionalText (fun a projectId => { a with projectId }) fun a =>
     optional a.projectId]

theorem acts_roles : List.Forall₂ Json.Field.Acts fields roles :=
  .cons (Json.Field.acts_of Json.tells_textValue ..) <|
  .cons (Json.Field.acts_of Json.tells_textValue ..) <|
  .cons (Json.Field.acts_of Json.tells_optionalText ..) .nil

theorem apart_roles : Role.Apart roles where
  nodup := by decide
  shows := by
    intro role hrole v change htake state
    simp only [roles, List.mem_cons, List.not_mem_nil, or_false] at hrole
    rcases hrole with rfl | rfl | rfl
    · obtain ⟨text, hview, rfl⟩ := Option.map_eq_some_iff.mp htake
      exact (Json.asText_eq_some_iff.mp hview).symm
    · obtain ⟨text, hview, rfl⟩ := Option.map_eq_some_iff.mp htake
      exact (Json.asText_eq_some_iff.mp hview).symm
    · obtain ⟨text, hview, rfl⟩ := Option.map_eq_some_iff.mp htake
      exact (Json.asOptionalText_eq_some_iff.mp hview).symm
  keeps := by
    intro role hrole other hother hne v change htake state
    simp only [roles, List.mem_cons, List.not_mem_nil, or_false] at hrole hother
    rcases hother with rfl | rfl | rfl
    all_goals
      obtain ⟨text, -, rfl⟩ := Option.map_eq_some_iff.mp htake
      rcases hrole with rfl | rfl | rfl
      all_goals first | rfl | exact (hne rfl).elim

theorem isSome_take_shown : ∀ role ∈ roles, ∀ a, (role.take (role.shown a)).isSome := by
  intro role hrole a
  simp only [roles, List.mem_cons, List.not_mem_nil, or_false] at hrole
  rcases hrole with rfl | rfl | rfl
  · rfl
  · rfl
  · simp [Role.of, Json.asOptionalText_eq_some_iff.mpr rfl]

theorem asRecord_object_iff : Json.asRecord roles blank (.object pairs) = some a ↔
    Stands (.object pairs) a := by
  have hshown : ∀ a b : ServiceAccount, (∀ role ∈ roles, role.shown a = role.shown b) → a = b := by
    rintro ⟨privateKey, clientEmail, projectId⟩ ⟨privateKey', clientEmail', projectId'⟩ h
    simpa [roles, Role.of, Json.optional_inj] using h
  rw [Json.asRecord_object_iff apart_roles hshown]
  constructor
  · intro h
    simp only [roles, List.forall_mem_cons] at h
    obtain ⟨hkey, hemail, hproject, -⟩ := h
    exact .members hkey.holds hemail.holds hproject.holds
  · rintro ⟨hkey, hemail, hproject⟩ role hrole
    rw [Role.filled_iff_holds (isSome_take_shown role hrole)]
    simp only [roles, List.mem_cons, List.not_mem_nil, or_false] at hrole
    rcases hrole with rfl | rfl | rfl
    · exact hkey
    · exact hemail
    · exact hproject

theorem asRecord_array_iff {items : List Json} :
    Json.asRecord roles blank (.array items) = some a ↔ Stands (.array items) a := by
  rw [Json.asRecord]
  constructor
  · intro h
    rcases items with _ | ⟨first, items⟩
    · cases h
      exact .nothing
    obtain ⟨privateKey, hkey, hmore⟩ := Json.takeItems_of_iff.mp h
    cases Json.asText_eq_some_iff.mp hkey
    rcases items with _ | ⟨second, items⟩
    · cases hmore
      exact .key privateKey
    obtain ⟨clientEmail, hemail, hlast⟩ := Json.takeItems_of_iff.mp hmore
    cases Json.asText_eq_some_iff.mp hemail
    rcases items with _ | ⟨third, items⟩
    · cases hlast
      exact .keyAndEmail privateKey clientEmail
    obtain ⟨projectId, hproject, hend⟩ := Json.takeItems_of_iff.mp hlast
    cases Json.asOptionalText_eq_some_iff.mp hproject
    rcases items with _ | ⟨fourth, items⟩
    · cases hend
      exact .all privateKey clientEmail projectId
    · cases hend
  · intro h
    cases h with
    | nothing => rfl
    | key privateKey => rfl
    | keyAndEmail privateKey clientEmail => rfl
    | all privateKey clientEmail projectId => cases projectId <;> rfl

/-- The account that is read from a value is the one that stands there. -/
theorem asRecord_eq_some_iff : Json.asRecord roles blank v = some a ↔ Stands v a := by
  cases v with
  | object pairs => exact asRecord_object_iff
  | array items => exact asRecord_array_iff
  | _ => exact iff_of_false (by rintro ⟨⟩) (by rintro ⟨⟩)

/-! ## Documents -/

/-- The account that is taken from a document is the one that stands there. -/
theorem ofJson_eq_ok_iff (hv : Json.verbatim octets = .ok v) :
    ofJson octets = .ok a ↔ Stands v a := by
  rw [← asRecord_eq_some_iff,
    ← Json.document_iff_of_tells (Json.tells_record acts_roles blank) hv, ofJson]
  cases Json.document (Json.record fields blank) octets <;> simp

/-- A document is refused for one reason only. -/
theorem eq_badDocument_of_ofJson {e : Error} (h : ofJson octets = .error e) :
    e = .credentials .badDocument := by
  rw [ofJson] at h
  split at h <;> cases h
  rfl

/-- A document is refused if no account stands there. -/
theorem ofJson_eq_error_iff (hv : Json.verbatim octets = .ok v) {e : Error} :
    ofJson octets = .error e ↔ e = .credentials .badDocument ∧ ∀ a, ¬Stands v a := by
  simp only [← ofJson_eq_ok_iff hv]
  cases h : ofJson octets with
  | ok a => simp
  | error problem => simp [eq_badDocument_of_ofJson h, eq_comm]

theorem ofFile_eq_ok_iff {content : Option (List UInt8)} :
    ofFile content = .ok a ↔ ∃ octets, content = some octets ∧ ofJson octets = .ok a := by
  cases content <;> simp [ofFile]

end IdentityTokens.ServiceAccount
