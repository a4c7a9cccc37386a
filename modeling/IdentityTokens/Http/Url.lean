import IdentityTokens.Http.Host
import IdentityTokens.Http.Path
import IdentityTokens.Text.Split

/-!
# Addresses

Absolute addresses and their one written form: scheme and host in lower case, no port that the
scheme implies, a path without dots, and escapes for the characters that may not stand for
themselves. The syntax of a few schemes is known, those of web servers among them; of the others
only as much is read as all have in common.

## Main definitions

* `Url.Scheme`, `Url.User`, `Url`: an address and its parts.
* `Url.parse?`: the address of a text.
* `Url.render`: the written form.
* `Url.withoutUser`, `Url.isSendable`: what becomes of an address when a request is made.
-/

namespace IdentityTokens

namespace Url

/-- How a resource is got at. -/
inductive Scheme where
  | http
  | https
  | ws
  | wss
  | ftp
  | file
  | other (name : String)
deriving DecidableEq, Repr

namespace Scheme

/-- The scheme of a name in lower case. -/
def ofName : String → Scheme
  | "http" => .http
  | "https" => .https
  | "ws" => .ws
  | "wss" => .wss
  | "ftp" => .ftp
  | "file" => .file
  | name => .other name

/-- The name of a scheme. -/
def name : Scheme → String
  | .http => "http"
  | .https => "https"
  | .ws => "ws"
  | .wss => "wss"
  | .ftp => "ftp"
  | .file => "file"
  | .other name => name

/-- Whether the syntax of a scheme is known. -/
def isSpecial : Scheme → Bool
  | .other _ => false
  | _ => true

/-- The port that a scheme implies. -/
def usualPort? : Scheme → Option Nat
  | .http | .ws => some 80
  | .https | .wss => some 443
  | .ftp => some 21
  | .file | .other _ => none

/-- Whether a character is a slash. Where the syntax is known, a backslash is one too. -/
def isSlash (scheme : Scheme) (c : Char) : Bool := c = '/' || (scheme.isSpecial && c = '\\')

end Scheme

/-- The user that an address names, with escapes. -/
structure User where
  name : String
  password : String
deriving DecidableEq, Repr

namespace User

/-- No user. -/
def nobody : User := ⟨"", ""⟩

/-- The written form of a user, up to the host. -/
def render (u : User) : String :=
  if u = nobody then ""
  else u.name ++ (if u.password.isEmpty then "" else ":" ++ u.password) ++ "@"

/-- The user that a text names, up to the first colon, with a password after it. -/
def ofText (cs : List Char) : User :=
  let escape := Percent.escape Percent.userEscapes
  match splitOnce ':' cs with
  | none => ⟨escape cs, ""⟩
  | some (name, password) => ⟨escape name, escape password⟩

/-- Whether a request can be made in the name of a user. The name must be a text, and one of the two
must say something. -/
def isUsable (u : User) : Bool :=
  let isText (s : String) : Bool := (Percent.decodeText? s.toList).isSome
  isText u.name && (!u.name.isEmpty || (!u.password.isEmpty && isText u.password))

end User

end Url

/-- The address of a resource. A host that is empty still has the two slashes before it. -/
structure Url where
  scheme : Url.Scheme
  user : Url.User
  host : Option String
  port : Option Nat
  path : String
  query : Option String
  fragment : Option String
deriving DecidableEq, Repr

namespace Url

/-! ## The parts of an address -/

/-- Characters without control characters and spaces at the ends, and without tabs and line ends
anywhere. -/
def tidy (cs : List Char) : List Char :=
  let blank (c : Char) : Bool := c.toNat ≤ 0x20
  (((cs.dropWhile blank).reverse.dropWhile blank).reverse).filter fun c =>
    c ≠ '\t' && c ≠ '\n' && c ≠ '\r'

/-- Whether a character may stand in the name of a scheme. -/
def isSchemeChar (c : Char) : Bool := c.isAlphanum || c = '+' || c = '-' || c = '.'

/-- The scheme at the front, and what follows its colon. -/
def scheme? (cs : List Char) : Option (Scheme × List Char) :=
  match splitOnce ':' cs with
  | none => none
  | some (name, rest) =>
    if name.head?.any Char.isAlpha ∧ name.all isSchemeChar then
      some (Scheme.ofName (String.ofList (name.map Char.toLower)), rest)
    else none

/-- The query and the fragment of an address, as they are written. -/
structure Ending where
  query : Option String
  fragment : Option String

/-- What stands before the query and the fragment, and these. -/
def splitEnding (scheme : Scheme) (cs : List Char) : List Char × Ending :=
  let queryEscapes :=
    if scheme.isSpecial then Percent.specialQueryEscapes else Percent.queryEscapes
  let (cs, fragment) :=
    match splitOnce '#' cs with
    | none => (cs, none)
    | some (cs, fragment) => (cs, some (Percent.escape Percent.fragmentEscapes fragment))
  match splitOnce '?' cs with
  | none => (cs, ⟨none, fragment⟩)
  | some (cs, query) => (cs, ⟨some (Percent.escape queryEscapes query), fragment⟩)

/-- Whether nothing follows the path. -/
def Ending.isEmpty (e : Ending) : Bool := e.query.isNone && e.fragment.isNone

/-- The user named before the last `@`, if there is one, and what follows. -/
def splitUser (cs : List Char) : Option (List Char) × List Char :=
  let after := (cs.reverse.takeWhile (· ≠ '@')).reverse
  if after.length = cs.length then (none, cs)
  else (some (cs.take (cs.length - after.length - 1)), after)

/-- The host, and what follows the colon after it, if there is one. A colon in brackets belongs to
the host. -/
def splitPort : Bool → List Char → List Char × Option (List Char)
  | _, [] => ([], none)
  | bracketed, c :: rest =>
    if c = ':' ∧ !bracketed then ([], some rest)
    else
      let inside := if c = '[' then true else if c = ']' then false else bracketed
      let (host, port) := splitPort inside rest
      (c :: host, port)

/-- The port of digits, if it is not the usual one, and what follows them, which may only be a
backslash. No digits mean the usual port. -/
def port? (scheme : Scheme) (cs : List Char) : Option (Option Nat × List Char) :=
  let digits := cs.takeWhile Char.isDigit
  let rest := cs.dropWhile Char.isDigit
  match Digits.value? 10 digits with
  | none => none
  | some n =>
    if 65535 < n ∨ !rest.head?.all (· = '\\') then none
    else some (if digits = [] ∨ scheme.usualPort? = some n then none else some n, rest)

/-! ## Addresses of each kind -/

/-- The written form of a host, by what its scheme knows of hosts. -/
def host? (scheme : Scheme) (cs : List Char) : Option String :=
  if scheme.isSpecial then Host.read? cs else Host.readAny? cs

/-- The path after a host. It may be empty only where the syntax is not known. -/
def pathAfterHost (scheme : Scheme) (cs : List Char) : String :=
  if !scheme.isSpecial && cs.isEmpty then "" else Path.ofText scheme.isSlash cs

/-- An address with a server, from what follows the slashes before it. Its host may be empty only
where the syntax is not known, and then no user and no port may be named. -/
def ofServer? (scheme : Scheme) (cs : List Char) (ending : Ending) : Option Url :=
  let authority := cs.takeWhile fun c => !scheme.isSlash c
  let rest := cs.dropWhile fun c => !scheme.isSlash c
  let (userText, authority) := splitUser authority
  let user := (userText.map User.ofText).getD User.nobody
  let (hostText, portText) := splitPort false authority
  match host? scheme hostText, port? scheme (portText.getD []) with
  | some host, some (port, more) =>
    let strayUser := userText = some [] && authority.isEmpty && !(rest.isEmpty && ending.isEmpty)
    if strayUser || (host.isEmpty && (scheme.isSpecial || portText.isSome || user ≠ User.nobody))
    then none
    else
      some ⟨scheme, user, some host, port, pathAfterHost scheme (more ++ rest), ending.query,
        ending.fragment⟩
  | _, _ => none

/-- Whether characters name a drive. -/
def isDriveText : List Char → Bool
  | [letter, mark] => Path.isDrive letter mark
  | _ => false

/-- The host of a file, and the path after it. This machine has no name, and neither has one where a
drive stands in place of the host. -/
def fileHost? (cs : List Char) : Option (String × List Char) :=
  let isSlash := Scheme.isSlash .file
  match cs with
  | a :: b :: rest =>
    if isSlash a && isSlash b then
      let hostText := rest.takeWhile fun c => !isSlash c
      if hostText = [] ∨ isDriveText hostText then some ("", rest)
      else
        (Host.read? hostText).map fun host =>
          (if host = "localhost" then "" else host, rest.dropWhile fun c => !isSlash c)
    else some ("", cs)
  | _ => some ("", cs)

/-- The address of a file. A path that starts with a drive has no host. -/
def ofFile? (cs : List Char) (ending : Ending) : Option Url :=
  (fileHost? cs).map fun (host, rest) =>
    let (path, named) := Path.ofFileText (Scheme.isSlash .file) rest
    ⟨.file, User.nobody, some (if named then "" else host), none, path, ending.query,
      ending.fragment⟩

/-- An address without a server. What follows the scheme is a path if it starts with a slash, and
else a text of its own. A path that would look like a server gets a dot before it. -/
def withoutServer (scheme : Scheme) (cs : List Char) (ending : Ending) : Url :=
  let path :=
    if cs.head? = some '/' then
      let path := Path.ofText scheme.isSlash cs
      if path.startsWith "//" then "/." ++ path else path
    else Percent.escape [] cs
  ⟨scheme, User.nobody, none, none, path, ending.query, ending.fragment⟩

/-! ## Reading and writing -/

/-- The address of a text. -/
def parse? (s : String) : Option Url :=
  match scheme? (tidy s.toList) with
  | none => none
  | some (scheme, rest) =>
    let (before, ending) := splitEnding scheme rest
    match scheme with
    | .file => ofFile? before ending
    | .other _ =>
      match before with
      | '/' :: '/' :: server => ofServer? scheme server ending
      | _ => some (withoutServer scheme before ending)
    | _ => ofServer? scheme (before.dropWhile scheme.isSlash) ending

/-- The written form of an address. -/
def render (u : Url) : String :=
  u.scheme.name ++ ":" ++
    (match u.host with
      | none => ""
      | some host => "//" ++ u.user.render ++ host) ++
    (match u.port with
      | none => ""
      | some n => ":" ++ toString n) ++
    u.path ++
    (match u.query with
      | none => ""
      | some q => "?" ++ q) ++
    (match u.fragment with
      | none => ""
      | some f => "#" ++ f)

/-! ## Requests -/

/-- The address that a request is sent to: its user, if one can be made use of, is told to the
server in another way. -/
def withoutUser (u : Url) : Url := if u.user.isUsable then { u with user := User.nobody } else u

/-- Characters that a host may have and a request may not. -/
def unsendableChars : List Char := ['"', '\x60', '\x7b', '\x7d']

/-- How many octets the address of a request may have. -/
def maxOctets : Nat := 65534

/-- Whether a request can be sent to an address: that of a web server, which is not too long and of
which the host has no odd characters. -/
def isSendable (u : Url) : Bool :=
  (u.scheme = .http || u.scheme = .https) &&
    !(u.host.getD "").toList.any unsendableChars.contains &&
    u.render.utf8ByteSize ≤ maxOctets

end Url

end IdentityTokens
