import SignedToken.Service.Startup

/-!
# The command

Starts the service from the environment. The outcome is that of `Startup.attemptOn`; a start that
succeeds ends with its last line in the log.
-/

namespace SignedToken

def Startup.variableNames : List String :=
  ["TOKEN_SECRET", "TOKEN_ALGORITHM", "TOKEN_ISSUER", "TOKEN_AUDIENCE", "TOKEN_TTL_SECONDS",
    "TOKEN_LEEWAY_SECONDS", "TOKEN_ENFORCE_AUDIENCE", "TOKEN_ENFORCE_ISSUER", "HOST", "PORT"]

def Startup.environment : IO (List (String × String)) :=
  variableNames.filterMapM fun name => do
    return (← IO.getEnv name).map (name, ·)

end SignedToken

open SignedToken

def main : IO UInt32 := do
  let environment ← Startup.environment
  let attempt := Startup.attemptOn .ordinary fun name => environment.lookup name
  for line in attempt.log do
    IO.println line
  match attempt.result with
  | .ok _ => return 0
  | .error message =>
    IO.eprint (Startup.complaint message)
    return 1
