import EchoProxy.IpAddr

/-! The destination filter of `server/src/lib.rs`. -/

namespace EchoProxy

def isPublicIp : IpAddr → Bool
  | .v4 v4 => !v4.isLoopback && !v4.isPrivate && !v4.isLinkLocal && !v4.isUnspecified
  | .v6 v6 => !v6.isLoopback && !v6.isUnspecified && !v6.isMulticast

/-- The text `is_dest_allowed` tries to parse as an address. -/
def destHost (dest : String) : List Char :=
  match Text.rsplitOnce ':' dest.toList with
  | some (host, _) => Text.trimMatches (fun c => c == '[' || c == ']') host
  | none => dest.toList

def isDestAllowed (dest : String) : Bool :=
  match parseIpAddr (destHost dest) with
  | some ip => isPublicIp ip
  | none => true

end EchoProxy
