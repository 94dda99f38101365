import SignedToken.Authentication.Context
import SignedToken.Http.MediaType
import SignedToken.Identifier
import SignedToken.Service.IssueRequest

/-!
# The token service

Three routes: `/healthz` says that the service is there, `/tokens` issues a token, `/me` shows what
the token of a request says. The only state is the place in the source of randomness.
-/

namespace SignedToken

structure Service where
  config : Config
  entropy : Entropy

namespace Service

/-! ## Plain responses -/

def textType : String := "text/plain; charset=utf-8"

def plain (status : Nat) (body : String) (openEnded : Bool) : Response where
  status
  headers := [("content-type", textType)]
  body
  openEnded

def empty (status : Nat) (headers : List (String × String)) : Response where
  status
  headers
  body := ""

def health : Response := plain 200 "ok" false

/-! ## Issuing -/

def bodyLimit : Nat := 2097152

def unsupportedType : Response :=
  plain 415 "Expected request with `Content-Type: application/json`" false

def tooLarge : Response :=
  plain 413 "Failed to buffer the request body: length limit exceeded" false

def unreadable : IssueRequest.ReadError → Response
  | .grammar => plain 400 "Failed to parse the request body as JSON" true
  | .shape => plain 422 "Failed to deserialize the JSON body into the target type" true

def invalidTtl : Response :=
  .failure 400 "INVALID_TTL" "ttl_seconds must be a positive number of seconds" false

def hasJsonBody (r : Request) : Bool :=
  ((Http.header? r.headers "content-type").bind Http.visibleText?).any Http.isJson

def readRequest (r : Request) : Except Response IssueRequest :=
  if !hasJsonBody r then .error unsupportedType
  else if bodyLimit < r.body.length then .error tooLarge
  else (IssueRequest.read r.body).mapError unreadable

/-- The lifetime asked for, if any: positive, and no longer than a duration can be. -/
def lifetimeSettings? {σ : Type} : Option Int64 → Option (List (Setting σ))
  | none => some []
  | some n =>
    if 0 < n then (Duration.ofSeconds? n.toInt).map fun d => [.lifetime d] else none

structure Grant where
  token : Token
  signed : String

/-- The answer that carries a new token. A token without an expiry, or with one outside the
calendar, is said to expire now. -/
def issued (now : Instant) (g : Grant) : Response :=
  let expiry := g.token.claims.standard.expiryInstant?.getD now
  .json 200 (.obj [("token", .str g.signed), ("token_type", .str "Bearer"),
    ("expires_at", .str expiry.text),
    ("expires_in", Json.ofInt64 (.ofInt (expiry.secondsSince now)))]) false

/-- Makes and signs a token as asked for. An id is drawn once the key is there. -/
def grant (s : Service) (now : Instant) (place : Nat) (r : IssueRequest) :
    Except Response Grant × Nat :=
  match lifetimeSettings? r.ttlSeconds with
  | none => (.error invalidTtl, place)
  | some settings =>
    let draft := Draft.ofConfig now (Identifier.random s.entropy) s.config
    match (draft.setAll now (.body r.body :: settings)).build now place with
    | .error e => (.error (AuthRejection.token e).response, place)
    | .ok (token, place) =>
      match token.create with
      | .error e => (.error (AuthRejection.token e).response, place)
      | .ok signed => (.ok { token, signed }, place)

def issue (s : Service) (now : Instant) (place : Nat) (r : IssueRequest) : Response × Nat :=
  match s.grant now place r with
  | (.ok g, place) => (issued now g, place)
  | (.error response, place) => (response, place)

/-! ## Showing -/

def shown (c : Claims) : Response :=
  let expiry : Json :=
    match c.standard.expiryInstant? with
    | some t => .str t.text
    | none => .null
  .json 200 (.obj [("body", c.body.toJson), ("subject", .str c.standard.subject),
    ("id", .str c.standard.id), ("expires_at", expiry)]) false

def whoAmI (s : Service) (now : Instant) (place : Nat) (r : Request) : Response × Nat :=
  match TokenContext.ofHeaders s.config (Identifier.random s.entropy) now place r.headers with
  | (.ok context, place) => (shown context.claims, place)
  | (.error rejection, place) => (rejection.response, place)

/-! ## Routes -/

inductive Route where
  | health
  | tokens
  | me
deriving DecidableEq, Repr

def Route.ofPath? (path : String) : Option Route :=
  if path = "/healthz" then some .health
  else if path = "/tokens" then some .tokens
  else if path = "/me" then some .me
  else none

def Route.methods : Route → List String
  | .health | .me => ["GET", "HEAD"]
  | .tokens => ["POST"]

def Route.allow (route : Route) : String × String := ("allow", ",".intercalate route.methods)

def respond (s : Service) (now : Instant) (place : Nat) (r : Request) : Route → Response × Nat
  | .health => (health, place)
  | .tokens =>
    match readRequest r with
    | .error response => (response, place)
    | .ok request => s.issue now place request
  | .me => s.whoAmI now place r

/-! ## Around the routes -/

/-- What is told to every caller: any origin may read the answer. -/
def sharedHeaders : List (String × String) :=
  [("access-control-allow-origin", "*"),
    ("vary", "origin, access-control-request-method, access-control-request-headers")]

def preflightHeaders : List (String × String) :=
  [("access-control-allow-headers", "accept,content-type,authorization"),
    ("access-control-allow-methods", "GET,POST,OPTIONS")]

/-- The length of the body in bytes, unless the body is open-ended. -/
def lengthHeader (r : Response) : List (String × String) :=
  if r.openEnded then [] else [("content-length", toString r.body.utf8ByteSize)]

/-- A finished response; without its body if only the headers were asked for. -/
def finish (headersOnly : Bool) (r : Response) : Response :=
  { r with
    headers := r.headers ++ lengthHeader r ++ sharedHeaders
    body := if headersOnly then "" else r.body }

/-- The answer to a request at `now`, and the place in the source of randomness behind it. Asking
for the options is answered on every path. -/
def handle (s : Service) (now : Instant) (place : Nat) (r : Request) : Response × Nat :=
  let route := Route.ofPath? (Http.path r.target)
  if r.method = "OPTIONS" then
    (finish false (empty 200 (preflightHeaders ++ (route.map Route.allow).toList)), place)
  else
    match route with
    | none => (finish false (empty 404 []), place)
    | some route =>
      if r.method ∈ route.methods then
        let (response, place) := s.respond now place r route
        (finish (r.method = "HEAD") response, place)
      else (finish false (empty 405 [route.allow]), place)

end Service

end SignedToken
