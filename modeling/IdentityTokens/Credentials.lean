import IdentityTokens.Crypto.RsaKeyFile
import IdentityTokens.Error
import IdentityTokens.Json.Record

/-!
# Service accounts

The key document of a service account: who it is, the project it belongs to, and its private key.

## Main definitions

* `ServiceAccount`: the parts of the document that are of use.
* `ServiceAccount.ofJson`: the parts of a document.
* `ServiceAccount.canSign`: whether they suffice to sign.
-/

namespace IdentityTokens

/-- The parts of the key document of a service account. -/
structure ServiceAccount where
  privateKey : String
  clientEmail : String
  projectId : Option String
deriving DecidableEq, Repr

namespace ServiceAccount

/-- The account of which nothing is known. -/
def blank : ServiceAccount := ⟨"", "", none⟩

/-- The fields of the document. Any of them may be missing. -/
def fields : List (Json.Field ServiceAccount) :=
  [.of "private_key" Json.textValue fun a privateKey => { a with privateKey },
   .of "client_email" Json.textValue fun a clientEmail => { a with clientEmail },
   .of "project_id" Json.optionalText fun a projectId => { a with projectId }]

/-- The parts of a key document. -/
def ofJson (octets : List UInt8) : Except Error ServiceAccount :=
  match Json.document (Json.record fields blank) octets with
  | .error _ => .error (.credentials .badDocument)
  | .ok account => .ok account

/-- The parts of the key document in a file, of which the content is missing if it cannot be
read. -/
def ofFile (content : Option (List UInt8)) : Except Error ServiceAccount :=
  match content with
  | none => .error (.credentials .unreadableFile)
  | some octets => ofJson octets

/-- Whether there is a key to sign with and a name to sign as. -/
def canSign (a : ServiceAccount) : Bool := a.privateKey ≠ "" && a.clientEmail ≠ ""

/-- The form in which records show an account. It does not show the key. -/
def summary (a : ServiceAccount) : String :=
  "ServiceAccountKey \x7b client_email: " ++ Quoted.quote a.clientEmail ++ ", project_id: " ++
    Quoted.quoteOption a.projectId ++ ", .. \x7d"

end ServiceAccount

end IdentityTokens
