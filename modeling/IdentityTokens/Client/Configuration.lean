import IdentityTokens.Client.Session

/-!
# Setting up clients

A configuration collects settings, each of which counts for itself; of several for one thing the
last counts. What is not set is taken from the environment, if it is asked, and else from what is
usual.

## Main definitions

* `Environment`: the variables and files that a client may look at.
* `Setting`: one setting.
* `Configuration`: the settings so far.
* `Configuration.apply`, `Configuration.ofSettings`: collecting them.
* `Configuration.build`: the client.
* `Configuration.start`: the client with its clock.
-/

namespace IdentityTokens

/-- The variables that are set and the files that can be read. -/
structure Environment where
  setting : String → Option String
  content : String → Option (List UInt8)

namespace Environment

/-- The variable that names the file with the key of a service account. -/
def credentialsVariable : String := "GOOGLE_APPLICATION_CREDENTIALS"

/-- The variables that name the project, in the order in which they are looked at. -/
def projectVariables : List String := ["GOOGLE_CLOUD_PROJECT", "GCLOUD_PROJECT"]

/-- The value of a variable that is set to something. -/
def nonempty? (e : Environment) (name : String) : Option String :=
  (e.setting name).filter (· ≠ "")

/-- The project that the variables name. -/
def project? (e : Environment) : Option String := projectVariables.findSome? e.nonempty?

/-- The service account in the file that the variable names, if it names one. -/
def account (e : Environment) : Except Error (Option ServiceAccount) :=
  match e.nonempty? credentialsVariable with
  | none => .ok none
  | some path => (ServiceAccount.ofFile (e.content path)).map some

end Environment

/-- What can be set. -/
inductive Setting where
  | projectId (id : String)
  | accountDocument (octets : List UInt8)
  | account (a : ServiceAccount)
  | signer (s : Signer)
  | network (n : Http.Network)
  | clock (shows : Instant)
  | keySource (s : KeySource)
  | certificatesUrl (url : String)
  | keyLifetime (lifetime : Duration)
  | users (u : Users)
  | userServiceUrl (url : String)
  | environment (e : Environment)

/-- The settings so far. -/
structure Configuration where
  projectId : Option String
  account : Option ServiceAccount
  signer : Option Signer
  network : Option Http.Network
  clock : Option Instant
  keySource : Option KeySource
  certificatesUrl : String
  keyLifetime : Duration
  users : Option Users
  userServiceUrl : String

namespace Configuration

/-- What is usual. -/
def usual : Configuration where
  projectId := none
  account := none
  signer := none
  network := none
  clock := none
  keySource := none
  certificatesUrl := idTokenCertificatesUrl
  keyLifetime := CertificateCache.usualLifetime
  users := none
  userServiceUrl := IdentityTokens.userServiceUrl

/-- Take the service account and the project from the environment where they are not set. -/
def infer (c : Configuration) (e : Environment) : Except Error Configuration :=
  match c.account.elim e.account fun a => .ok (some a) with
  | .error problem => .error problem
  | .ok account => .ok { c with account, projectId := c.projectId.or e.project? }

/-- One more setting. -/
def apply (c : Configuration) : Setting → Except Error Configuration
  | .projectId id => .ok { c with projectId := some id }
  | .accountDocument octets =>
    (ServiceAccount.ofJson octets).map fun a => { c with account := some a }
  | .account a => .ok { c with account := some a }
  | .signer s => .ok { c with signer := some s }
  | .network n => .ok { c with network := some n }
  | .clock shows => .ok { c with clock := some shows }
  | .keySource s => .ok { c with keySource := some s }
  | .certificatesUrl url => .ok { c with certificatesUrl := url }
  | .keyLifetime lifetime => .ok { c with keyLifetime := lifetime }
  | .users u => .ok { c with users := some u }
  | .userServiceUrl url => .ok { c with userServiceUrl := url }
  | .environment e => c.infer e

/-- Settings one after the other, up to the first that fails. -/
def applyAll (c : Configuration) : List Setting → Except Error Configuration
  | [] => .ok c
  | setting :: rest =>
    match c.apply setting with
    | .error e => .error e
    | .ok c => c.applyAll rest

/-- The configuration of settings. -/
def ofSettings (settings : List Setting) : Except Error Configuration := usual.applyAll settings

/-- The project: the one set, or that of the service account. -/
def effectiveProject (c : Configuration) : Option String :=
  c.projectId.or (c.account.bind (·.projectId))

/-- The signer: the one set, or the service account if it can sign, or the signing service. -/
def effectiveSigner (c : Configuration) : Except Error Signer :=
  match c.signer, c.account with
  | some s, _ => .ok s
  | none, some a =>
    if a.canSign then Signer.ofServiceAccount a else .ok (.service SigningService.usual)
  | none, none => .ok (.service SigningService.usual)

/-- The source of keys: the one set, or the server at the address set. -/
def effectiveKeySource (c : Configuration) : KeySource :=
  c.keySource.getD (.certificates (.ofUrl c.certificatesUrl c.keyLifetime))

/-- The keeper of user records: the one set, or the service at the address set. -/
def effectiveUsers (c : Configuration) : Users := c.users.getD (.service ⟨c.userServiceUrl⟩)

/-- The client of a configuration, on the network set or else on the usual one. Nothing is sent. -/
def build (c : Configuration) (network : Http.Network) : Except Error Client :=
  c.effectiveSigner.map fun signer =>
    ⟨c.effectiveProject, signer, c.effectiveKeySource, c.effectiveUsers, c.network.getD network⟩

/-- The client with the clock set, or else with one that shows the present. -/
def start (c : Configuration) (network : Http.Network) (present : Instant) :
    Except Error Session :=
  (c.build network).map fun client => ⟨client, c.clock.getD present⟩

end Configuration

end IdentityTokens
