import IdentityTokens.Error
import IdentityTokens.Instant
import IdentityTokens.Json.Record

/-!
# User records

What is kept of a user: the instant before which the tokens of the user count as revoked. Records
are kept by a service or in memory. These are the keepers that the library has itself; a client may
also be given one of some other kind, and such keepers are left out.

## Main definitions

* `UserRecord`, `UserUpdate`: a record and a change of one.
* `UserService`: the service.
* `UserStore`: records in memory, with the calls that were made.
* `Users`: either of them.
* `Users.getUser`, `Users.updateUser`: reading and changing a record.
-/

namespace IdentityTokens

/-! ## Records -/

/-- The record of a user. Tokens issued before the instant, in milliseconds, are revoked. -/
structure UserRecord where
  uid : String
  validAfterMillis : Int
deriving DecidableEq, Repr

/-- The form in which records show a record. -/
def UserRecord.summary (r : UserRecord) : String :=
  "UserRecord \x7b uid: " ++ Quoted.quote r.uid ++ ", tokens_valid_after_millis: " ++
    Numeral.render r.validAfterMillis ++ " \x7d"

/-- A change of a record: the new instant in seconds, if it changes. -/
structure UserUpdate where
  validSince : Option Int
deriving DecidableEq, Repr

namespace UserUpdate

/-- The change that changes nothing. -/
def blank : UserUpdate := ⟨none⟩

/-- The change that revokes all tokens issued before the second of an instant. -/
def revokeAt (now : Instant) : UserUpdate := ⟨some now.seconds⟩

/-- The form in which records show a change. -/
def summary (u : UserUpdate) : String :=
  let seconds := match u.validSince with
    | none => "None"
    | some n => "Some(" ++ Numeral.render n ++ ")"
  "UserUpdate \x7b valid_since_seconds: " ++ seconds ++ " \x7d"

end UserUpdate

/-! ## The service -/

/-- An account as the service reports it. The time is a numeral of seconds. -/
structure Account where
  localId : String
  validSince : Option String
deriving DecidableEq, Repr

namespace Account

/-- The fields of an account, of which the first may not be missing. -/
def fields : List (Json.Field (Option String × Option String)) :=
  [.of "localId" Json.textValue fun a localId => (some localId, a.2),
   .of "validSince" Json.optionalText fun a validSince => (a.1, validSince)]

/-- An account in a document. It must have an identifier. -/
def reader : Json.Reader Account :=
  Json.checked (Json.record fields (none, none)) fun (localId, validSince) =>
    localId.map (⟨·, validSince⟩)

/-- The accounts in a response, none if there is no list of them. -/
def listReader : Json.Reader (List Account) :=
  Json.record [.of "users" (Json.listOf reader) fun _ accounts => accounts] []

/-- The instant of an account in milliseconds. None or an empty one is the start of time. -/
def validAfterMillis (a : Account) : Except Error Int :=
  match a.validSince with
  | none | some "" => .ok 0
  | some seconds =>
    match Numeral.int64 seconds with
    | .error e => .error (.unclassified (.numeral e))
    | .ok n =>
      if Numeral.fitsInt64 (n * 1000) then .ok (n * 1000)
      else .error (.unclassified (.outOfRange seconds))

/-- The record of an account. -/
def record (a : Account) : Except Error UserRecord := a.validAfterMillis.map (⟨a.localId, ·⟩)

end Account

/-- The service that keeps user records, by its address. -/
structure UserService where
  url : String
deriving DecidableEq, Repr

namespace UserService

/-- The request for the account of a user. -/
def lookupRequest (s : UserService) (uid : String) : Http.Request :=
  .post (s.url ++ "/getAccountInfo") (.object [("localId", .array [.string uid])])

/-- The request for a change of an account. -/
def updateRequest (s : UserService) (uid : String) (update : UserUpdate) : Http.Request :=
  let change := match update.validSince with
    | none => []
    | some n => [("validSince", Json.string (Numeral.render n))]
  .post (s.url ++ "/setAccountInfo") (.object (("localId", .string uid) :: change))

/-- The record that a request has led to: that of the first account. -/
def recordOf (uid : String) (outcome : Except Http.Failure Http.Response) :
    Except Error UserRecord :=
  match outcome with
  | .error failure => .error (.network (.http failure))
  | .ok response =>
    match response.read Account.listReader with
    | .error failure => .error (.network (.http failure))
    | .ok [] => .error (.userNotFound uid)
    | .ok (account :: _) => account.record

/-- The record of a user. -/
def getUser (s : UserService) (uid : String) (network : Http.Network) :
    Except Error UserRecord × Http.Network :=
  let (outcome, network) := network.send (s.lookupRequest uid)
  (recordOf uid outcome, network)

/-- Change the record of a user. -/
def updateUser (s : UserService) (uid : String) (update : UserUpdate) (network : Http.Network) :
    Except Error Unit × Http.Network :=
  let (outcome, network) := network.send (s.updateRequest uid update)
  match outcome with
  | .error failure => (.error (.network (.http failure)), network)
  | .ok _ => (.ok (), network)

end UserService

/-! ## Records in memory -/

/-- A call of the records in memory. -/
inductive UserCall where
  | getUser (uid : String)
  | updateUser (uid : String) (validSince : Option Int)
deriving DecidableEq, Repr

/-- Records in memory: the instants in milliseconds by user, zero where there is none, the users
that do not exist, and the calls so far. -/
structure UserStore where
  cutoffs : NameMap Int
  missing : List String
  calls : List UserCall
deriving DecidableEq, Repr

namespace UserStore

/-- The store with the instant of a user set. -/
def setCutoff (s : UserStore) (uid : String) (millis : Int) : UserStore :=
  { s with cutoffs := s.cutoffs.insert uid millis }

/-- The record of a user. -/
def getUser (s : UserStore) (uid : String) : Except Error UserRecord × UserStore :=
  let result :=
    if s.missing.contains uid then .error (.userNotFound uid)
    else .ok ⟨uid, (s.cutoffs.find? uid).getD 0⟩
  (result, { s with calls := s.calls ++ [.getUser uid] })

/-- Change the record of a user. -/
def updateUser (s : UserStore) (uid : String) (update : UserUpdate) :
    Except Error Unit × UserStore :=
  let changed := match update.validSince with
    | none => s
    | some n => s.setCutoff uid (n * 1000)
  (.ok (), { changed with calls := s.calls ++ [.updateUser uid update.validSince] })

end UserStore

/-! ## Either -/

/-- Who keeps the records, as far as the keepers of the library itself go. -/
inductive Users where
  | service (s : UserService)
  | store (s : UserStore)
deriving DecidableEq, Repr

namespace Users

/-- The record of a user. -/
def getUser (u : Users) (uid : String) (network : Http.Network) :
    Except Error UserRecord × Users × Http.Network :=
  match u with
  | .service s =>
    let (record, network) := s.getUser uid network
    (record, u, network)
  | .store s =>
    let (record, s) := s.getUser uid
    (record, .store s, network)

/-- Change the record of a user. -/
def updateUser (u : Users) (uid : String) (update : UserUpdate) (network : Http.Network) :
    Except Error Unit × Users × Http.Network :=
  match u with
  | .service s =>
    let (done, network) := s.updateUser uid update network
    (done, u, network)
  | .store s =>
    let (done, s) := s.updateUser uid update
    (done, .store s, network)

end Users

end IdentityTokens
