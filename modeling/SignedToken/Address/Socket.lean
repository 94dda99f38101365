import SignedToken.Address.Ipv6

/-!
# Socket addresses

An address of either version with a port, and what becomes of an attempt to listen there.
-/

namespace SignedToken

inductive IpAddress where
  | v4 (ip : Ipv4)
  | v6 (ip : Ipv6)
deriving DecidableEq, Repr

def IpAddress.ofText? (s : String) : Option IpAddress :=
  let cs := s.toList
  match Ipv4.scan? cs with
  | some (ip, []) => some (.v4 ip)
  | _ =>
    match Ipv6.scan? cs with
    | some (ip, []) => some (.v6 ip)
    | _ => none

structure SocketAddress where
  ip : IpAddress
  port : Nat
deriving DecidableEq, Repr

/-- The longer addresses stand in brackets. -/
def SocketAddress.text (a : SocketAddress) : String :=
  match a.ip with
  | .v4 ip => ip.text ++ ":" ++ toString a.port
  | .v6 ip => "[" ++ ip.text ++ "]:" ++ toString a.port

/-! ## Kinds of addresses -/

namespace Ipv4

def isLoopback (ip : Ipv4) : Bool := ip.a = 127

def isMulticast (ip : Ipv4) : Bool := 224 ≤ ip.a ∧ ip.a < 240

end Ipv4

namespace Ipv6

def isMulticast (ip : Ipv6) : Bool := 0xFF00 ≤ ip.groups.headD 0

def isLinkLocal (ip : Ipv6) : Bool := 0xFE80 ≤ ip.groups.headD 0 ∧ ip.groups.headD 0 < 0xFEC0

end Ipv6

/-! ## Listening -/

inductive ListenError where
  | permissionDenied
  | invalidArgument
  | addressNotAvailable
deriving DecidableEq, Repr

def ListenError.message : ListenError → String
  | .permissionDenied => "Permission denied (os error 13)"
  | .invalidArgument => "Invalid argument (os error 22)"
  | .addressNotAvailable => "Cannot assign requested address (os error 99)"

/-- What a machine lets a program listen on. -/
structure Machine where
  /-- The least port that needs no privilege; port 0 asks for any free one. -/
  firstFreePort : Nat
  addresses : List IpAddress

namespace Machine

def ordinary : Machine where
  firstFreePort := 1024
  addresses := [.v4 ⟨192, 0, 2, 1⟩]

def allowsPort (m : Machine) (port : Nat) : Bool := port = 0 ∨ m.firstFreePort ≤ port

/-- Besides its own addresses a machine takes those that name every machine, itself or a group. -/
def takesIpv4 (m : Machine) (ip : Ipv4) : Bool :=
  ip = ⟨0, 0, 0, 0⟩ ∨ ip = ⟨255, 255, 255, 255⟩ ∨ ip.isLoopback ∨ ip.isMulticast
    ∨ .v4 ip ∈ m.addresses

def takesIpv6 (m : Machine) (ip : Ipv6) : Bool :=
  ip = ⟨[0, 0, 0, 0, 0, 0, 0, 0]⟩ ∨ ip = ⟨[0, 0, 0, 0, 0, 0, 0, 1]⟩ ∨ .v6 ip ∈ m.addresses

/-- The longer addresses are looked at after the port, unless they name a group. -/
def listenOnIpv6 (m : Machine) (ip : Ipv6) (port : Nat) : Except ListenError Unit :=
  if ip.isMulticast then .error .invalidArgument
  else if !m.allowsPort port then .error .permissionDenied
  else
    match ip.mapped? with
    | some ip => if m.takesIpv4 ip then .ok () else .error .addressNotAvailable
    | none =>
      if ip.isLinkLocal then .error .invalidArgument
      else if m.takesIpv6 ip then .ok ()
      else .error .addressNotAvailable

def listen (m : Machine) (a : SocketAddress) : Except ListenError Unit :=
  match a.ip with
  | .v4 ip =>
    if !m.takesIpv4 ip then .error .addressNotAvailable
    else if !m.allowsPort a.port then .error .permissionDenied
    else .ok ()
  | .v6 ip => m.listenOnIpv6 ip a.port

end Machine

end SignedToken
