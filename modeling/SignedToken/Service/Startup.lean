import SignedToken.Address.Socket
import SignedToken.Config

/-!
# Starting the service

What happens from the environment to the point where the service listens: what is logged, and what
stops it.
-/

namespace SignedToken.Startup

/-- A start as far as it went: the lines logged, and the address to listen on or the complaint that
ends the program. -/
structure Attempt where
  log : List String
  result : Except String SocketAddress

def configLine (c : Config) : String :=
  "INFO token_service: token configuration loaded algorithm=" ++ c.algorithm.name
    ++ " issuer=" ++ c.issuer ++ " audience=" ++ c.audience
    ++ " ttl_seconds=" ++ toString c.lifetime.wholeSeconds

def addressLine (a : SocketAddress) : String :=
  "INFO token_service: starting token-service addr=" ++ a.text

/-- The port that a variable names; what is no port counts for nothing. -/
def port (value : Option String) : Nat :=
  (value.bind fun v => Text.natural? 65535 v.toList).getD 8090

/-- A complaint with its cause below it, each line of the cause indented. -/
def complaintFrom (what cause : String) : String :=
  what ++ "\n\nCaused by:\n    " ++ "\n    ".intercalate (cause.splitOn "\n")

def attempt (lookup : String → Option String) : Attempt :=
  match Config.ofVariables lookup with
  | .error e =>
    { log := [], result := .error (complaintFrom "failed to load token configuration" e.message) }
  | .ok c =>
    match IpAddress.ofText? ((lookup "HOST").getD "0.0.0.0") with
    | none => { log := [configLine c], result := .error "invalid IP address syntax" }
    | some ip =>
      let address : SocketAddress := ⟨ip, port (lookup "PORT")⟩
      { log := [configLine c, addressLine address], result := .ok address }

def attemptOn (m : Machine) (lookup : String → Option String) : Attempt :=
  let a := attempt lookup
  { a with
    result := a.result.bind fun address =>
      match m.listen address with
      | .ok () => .ok address
      | .error e => .error e.message }

def complaint (message : String) : String := "Error: " ++ message ++ "\n"

end SignedToken.Startup
