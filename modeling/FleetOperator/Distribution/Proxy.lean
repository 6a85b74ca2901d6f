import FleetOperator.Distribution.Url

/-!
# Proxies

A proxy of the web passes requests on that name the whole address. A proxy of sockets opens a
tunnel in a protocol of its own. Nothing is sent to a proxy of any other kind, nor to one whose
address no request could name: requests go past it.
-/

namespace FleetOperator

/-- The way that requests go. -/
inductive Passage where
  /-- To the host itself. -/
  | direct
  /-- To a proxy that passes them on. -/
  | relayed
  /-- Through a tunnel, which a proxy has to open first. -/
  | tunnelled
deriving DecidableEq, Repr, Inhabited

namespace Proxy

/-- The address of a proxy, which may leave out its scheme. -/
def ofText? (text : String) : Option Url :=
  match Url.parse text with
  | .ok url => some url
  | .error .malformed => none
  | .error _ => (Url.parse ("http://" ++ text)).toOption

/-- The way that requests go with a proxy at an address. -/
def passage (url : Url) : Passage :=
  if !url.canBeSent then .direct
  else if url.isHypertext then .relayed
  else if ["socks4", "socks4a", "socks5", "socks5h"].contains url.scheme then .tunnelled
  else .direct

end Proxy

end FleetOperator
