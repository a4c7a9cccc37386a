import IdentityTokens.Http.Url
import IdentityTokens.Json.Printer
import IdentityTokens.Json.Reader

/-!
# Exchanges with web servers

Requests, responses and the ways to fail of getting one. What lies outside is a network: which
addresses can be reached, the answers that are still to come, and a log of all exchanges so far.
A server that has no answer left says that nothing was found.

An exchange is one request that is sent and the reply that it ends with. Redirects on the way to
this reply are not part of what is described here. Nor does every exchange get as far as a server:
the log also holds the attempts that failed before, because of their address or of the network.

## Main definitions

* `Http.Request`, `Http.Response`, `Http.Failure`: the two sides of an exchange.
* `Http.Network`: what lies outside.
* `Http.Network.send`: one exchange, which is logged whatever its outcome.
* `Http.Response.read`: the document in a response.
-/

namespace IdentityTokens.Http

/-- What is asked of a server. -/
inductive Method where
  | get
  | post
deriving DecidableEq, Repr

/-- The name of a method. -/
def Method.name : Method → String
  | .get => "GET"
  | .post => "POST"

/-- A request. The address is a text that may turn out to be none. The flavour is what metadata
servers want to see in a header of its own. -/
structure Request where
  method : Method
  url : String
  flavour : Option String
  body : String
deriving DecidableEq, Repr

namespace Request

/-- A request without a body. -/
def get (url : String) : Request := ⟨.get, url, none, ""⟩

/-- A request with a document. -/
def post (url : String) (document : Json) : Request := ⟨.post, url, none, document.render⟩

end Request

/-- A response. -/
structure Response where
  status : Nat
  fields : List (String × String)
  body : List UInt8
deriving DecidableEq, Repr

/-- Why a request gave nothing of use: its address is none, or not one to send requests to, the
server cannot be reached, hung up or reported an error, or the body of the response is not the
document wanted. -/
inductive Failure where
  | badUrl
  | unsendable (url : String)
  | unreachable (url : String)
  | dropped (url : String)
  | status (code : Nat) (url : String)
  | badBody
deriving DecidableEq, Repr

/-- The wording that stands for all failures; their parts are told apart by type. -/
def Failure.message (_ : Failure) : String := "<http>"

namespace Response

/-- What a server says that has nothing to say. -/
def notFound : Response := ⟨404, [], []⟩

/-- Whether the status reports an error of the client or of the server. -/
def isError (r : Response) : Bool := 400 ≤ r.status && r.status ≤ 599

/-- The value of the first header of a name, which is in lower case. -/
def field? (r : Response) (name : String) : Option String :=
  (r.fields.find? fun f => String.ofList (f.1.toList.map Char.toLower) == name).map (·.2)

variable {α : Type}

/-- What a reader takes from the document in the body. -/
def read (r : Response) (reader : Json.Reader α) : Except Failure α :=
  match Json.document reader r.body with
  | .error _ => .error .badBody
  | .ok a => .ok a

/-- The text of the body. -/
def text (r : Response) : String := Utf8.decodeLossy r.body

end Response

/-! ## Networks -/

/-- What a server does with a request in the end: whatever redirects there were, they have been
followed. -/
inductive Answer where
  | response (r : Response)
  | dropped
deriving DecidableEq, Repr

/-- A request and what came of it, also if it never came as far as a server. -/
structure Exchange where
  request : Request
  outcome : Except Failure Response

/-- Whether the request came as far as a server. -/
def Exchange.arrived (e : Exchange) : Bool :=
  match e.outcome with
  | .error .badUrl | .error (.unsendable _) | .error (.unreachable _) => false
  | _ => true

/-- What lies outside. -/
structure Network where
  reaches : Url → Bool
  answers : List Answer
  log : List Exchange

namespace Network

/-- A network with the answers of its servers. -/
def ofAnswers (reaches : Url → Bool) (answers : List Answer) : Network := ⟨reaches, answers, []⟩

/-- What comes of a request, and the answers left after it. Only a request that arrives uses up
an answer. -/
def outcome (n : Network) (r : Request) : Except Failure Response × List Answer :=
  match Url.parse? r.url with
  | none => (.error .badUrl, n.answers)
  | some url =>
    let url := url.withoutUser
    if !url.isSendable then (.error (.unsendable url.render), n.answers)
    else if n.reaches url then
      match n.answers with
      | [] => (.error (.status Response.notFound.status url.render), [])
      | .dropped :: rest => (.error (.dropped url.render), rest)
      | .response response :: rest =>
        if response.isError then (.error (.status response.status url.render), rest)
        else (.ok response, rest)
    else (.error (.unreachable url.render), n.answers)

/-- One exchange. -/
def send (n : Network) (r : Request) : Except Failure Response × Network :=
  let (outcome, answers) := n.outcome r
  (outcome, { n with answers, log := n.log ++ [⟨r, outcome⟩] })

/-- Every exchange is logged, and nothing else is. -/
@[simp] theorem log_send (n : Network) (r : Request) :
    (n.send r).2.log = n.log ++ [⟨r, (n.send r).1⟩] := rfl

@[simp] theorem reaches_send (n : Network) (r : Request) :
    (n.send r).2.reaches = n.reaches := rfl

end Network

end IdentityTokens.Http
