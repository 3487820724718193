import EchoProxy.Routing
import EchoProxy.Lib.Dialogue

/-! The SOCKS5 front end of `client/src/lib.rs` up to its routing decision. The
requests are read from the socket itself, without a buffer. -/

namespace EchoProxy
open Dialogue

def socks5Version : UInt8 := 0x05
def socks5AuthNoAuth : UInt8 := 0x00
def socks5AuthNoAcceptable : UInt8 := 0xff
def socks5CmdConnect : UInt8 := 0x01
def socks5AtypIpv4 : UInt8 := 0x01
def socks5AtypDomain : UInt8 := 0x03
def socks5AtypIpv6 : UInt8 := 0x04
def socks5RepCmdNotSupported : UInt8 := 0x07
def socks5RepAtypNotSupported : UInt8 := 0x08

/-- The greeting: a client that does not offer NO_AUTH is turned away. -/
def readGreeting : Program UInt8 Unit := do
  let hdr ← readExact 2
  if hdr[0]? = some socks5Version then do
    let methods ← readExact (hdr[1]?.getD 0).toNat
    if socks5AuthNoAuth ∈ methods then writeAll [socks5Version, socks5AuthNoAuth]
    else refuse [socks5Version, socks5AuthNoAcceptable]
  else giveUp

/-- The host of a request, an IPv6 address in brackets. -/
def readHost (atyp : UInt8) : Program UInt8 (List Char) :=
  if atyp = socks5AtypIpv4 then do
    let addr ← readExact 4
    match Ipv4Addr.ofOctets addr with
    | some ip => pure ip.text
    | none => giveUp
  else if atyp = socks5AtypIpv6 then do
    let addr ← readExact 16
    match Ipv6Addr.ofOctets addr with
    | some ip => pure ('[' :: ip.text ++ [']'])
    | none => giveUp
  else if atyp = socks5AtypDomain then do
    let len ← readExact 1
    let domain ← readExact (len[0]?.getD 0).toNat
    match fromUtf8 domain with
    | some name => pure name.toList
    | none => giveUp
  else refuse (socks5Reply socks5RepAtypNotSupported)

/-- `u16::from_be_bytes`. -/
def u16FromBeBytes : Bytes → UInt16
  | [hi, lo] => UInt16.ofNat (hi.toNat * 256 + lo.toNat)
  | _ => 0

def parseSocks5Request : Program UInt8 (List Char) := do
  readGreeting
  let req ← readExact 4
  if req[0]? = some socks5Version then
    if req[1]? = some socks5CmdConnect then do
      let host ← readHost (req[3]?.getD 0)
      let portBytes ← readExact 2
      pure (host ++ ':' :: Nat.toDigits 10 (u16FromBeBytes portBytes).toNat)
    else refuse (socks5Reply socks5RepCmdNotSupported)
  else giveUp

/-- `handle_socks_connection_resilient` up to the branch: the address, and whether it is dialed
directly. -/
def handleSocksConnection (config : RoutingConfig) (lower : Lowercase) : Program UInt8 (List Char × Bool) := do
  let host ← parseSocks5Request
  let target := splitHostPort host
  pure (host, config.shouldBypass lower target.1 target.2)

end EchoProxy
