import EchoProxy.Lib.Text
import Mathlib.Data.UInt

/-! IP addresses as the Rust standard library has them: the address types and
their predicates, the literal parser of `core::net::parser` behind
`IpAddr::from_str` and `SocketAddr::from_str`, and the `Display` forms. -/

namespace EchoProxy

structure Ipv4Addr where
  a : UInt8
  b : UInt8
  c : UInt8
  d : UInt8
  deriving DecidableEq, Repr

/-- Eight 16-bit segments. -/
structure Ipv6Addr where
  segments : List UInt16
  eight : segments.length = 8
  deriving DecidableEq, Repr

inductive IpAddr where
  | v4 (addr : Ipv4Addr)
  | v6 (addr : Ipv6Addr)
  deriving DecidableEq, Repr

inductive SocketAddr where
  | v4 (ip : Ipv4Addr) (port : UInt16)
  | v6 (ip : Ipv6Addr) (port : UInt16) (scopeId : UInt32)
  deriving DecidableEq, Repr

def SocketAddr.ip : SocketAddr → IpAddr
  | .v4 ip _ => .v4 ip
  | .v6 ip _ _ => .v6 ip

namespace Ipv4Addr

def isLoopback (ip : Ipv4Addr) : Bool := ip.a == 127
def isPrivate (ip : Ipv4Addr) : Bool :=
  ip.a == 10 || (ip.a == 172 && 16 ≤ ip.b && ip.b ≤ 31) || (ip.a == 192 && ip.b == 168)
def isLinkLocal (ip : Ipv4Addr) : Bool := ip.a == 169 && ip.b == 254
def isUnspecified (ip : Ipv4Addr) : Bool := ip.a == 0 && ip.b == 0 && ip.c == 0 && ip.d == 0

/-- The two segments an embedded IPv4 address takes. -/
def groups (ip : Ipv4Addr) : List UInt16 :=
  [UInt16.ofNat (ip.a.toNat * 256 + ip.b.toNat), UInt16.ofNat (ip.c.toNat * 256 + ip.d.toNat)]

/-- `Ipv4Addr::from` four octets. -/
def ofOctets : List UInt8 → Option Ipv4Addr
  | [a, b, c, d] => some ⟨a, b, c, d⟩
  | _ => none

/-- `to_ipv6_mapped`: `::ffff:a.b.c.d`. -/
def toIpv6Mapped (ip : Ipv4Addr) : Ipv6Addr := ⟨List.replicate 5 0 ++ 0xffff :: ip.groups, rfl⟩

end Ipv4Addr

namespace Ipv6Addr

def isLoopback (ip : Ipv6Addr) : Bool := ip.segments == [0, 0, 0, 0, 0, 0, 0, 1]
def isUnspecified (ip : Ipv6Addr) : Bool := ip.segments == [0, 0, 0, 0, 0, 0, 0, 0]
def isMulticast (ip : Ipv6Addr) : Bool := (ip.segments.headD 0).toNat / 256 == 0xff

def toIpv4Mapped (ip : Ipv6Addr) : Option Ipv4Addr :=
  match ip.segments with
  | [0, 0, 0, 0, 0, 0xffff, hi, lo] =>
    some ⟨UInt8.ofNat (hi.toNat / 256), UInt8.ofNat hi.toNat, UInt8.ofNat (lo.toNat / 256), UInt8.ofNat lo.toNat⟩
  | _ => none

/-- The big-endian 16-bit numbers in a byte string. -/
def bePairs : List UInt8 → List UInt16
  | hi :: lo :: rest => UInt16.ofNat (hi.toNat * 256 + lo.toNat) :: bePairs rest
  | _ => []

theorem bePairs_length : ∀ octets : List UInt8, (bePairs octets).length = octets.length / 2
  | [] => by simp [bePairs]
  | [_] => by simp [bePairs]
  | _ :: _ :: rest => by
    have later := bePairs_length rest
    simp only [bePairs, List.length_cons]
    omega

/-- `Ipv6Addr::from` sixteen octets. -/
def ofOctets (octets : List UInt8) : Option Ipv6Addr :=
  if sixteen : octets.length = 16 then some ⟨bePairs octets, by rw [bePairs_length, sixteen]⟩ else none

end Ipv6Addr

/-! ### The parser -/

/-- `char::to_digit`. -/
def toDigit (radix : Nat) (c : Char) : Option Nat :=
  let value :=
    if '0' ≤ c ∧ c ≤ '9' then c.toNat - '0'.toNat
    else if 'a' ≤ c ∧ c ≤ 'f' then c.toNat - 'a'.toNat + 10
    else if 'A' ≤ c ∧ c ≤ 'F' then c.toNat - 'A'.toNat + 10
    else radix
  if value < radix then some value else none

/-- The digits at the front of the input and what follows them. -/
def spanDigits (radix : Nat) : List Char → List Nat × List Char
  | [] => ([], [])
  | c :: rest =>
    match toDigit radix c with
    | some digit => (digit :: (spanDigits radix rest).1, (spanDigits radix rest).2)
    | none => ([], c :: rest)

/-- `read_number`; the accumulator never decreases, so its overflow checks
come to one comparison with the largest value of the target type. -/
def readNumber (radix : Nat) (maxDigits : Option Nat) (allowZeroPrefix : Bool) (bound : Nat)
    (input : List Char) : Option (Nat × List Char) :=
  let (digits, rest) := spanDigits radix input
  let value := digits.foldl (fun result digit => result * radix + digit) 0
  if maxDigits.any (· < digits.length) then none
  else if digits = [] then none
  else if !allowZeroPrefix && digits.head? == some 0 && digits.length > 1 then none
  else if value ≤ bound then some (value, rest)
  else none

def readGivenChar (given : Char) : List Char → Option (List Char)
  | c :: rest => if c = given then some rest else none
  | [] => none

/-- `read_separator`: the separator stands before every element but the first. -/
def readSeparator (sep : Char) (first : Bool) (inner : List Char → Option (β × List Char)) (input : List Char) :
    Option (β × List Char) :=
  if first then inner input else (readGivenChar sep input).bind inner

def readOctet (input : List Char) : Option (UInt8 × List Char) :=
  (readNumber 10 (some 3) false 255 input).map fun (value, rest) => (UInt8.ofNat value, rest)

def readIpv4Addr (input : List Char) : Option (Ipv4Addr × List Char) :=
  (readOctet input).bind fun a =>
    (readSeparator '.' false readOctet a.2).bind fun b =>
      (readSeparator '.' false readOctet b.2).bind fun c =>
        (readSeparator '.' false readOctet c.2).map fun d => (⟨a.1, b.1, c.1, d.1⟩, d.2)

def readGroup (input : List Char) : Option (UInt16 × List Char) :=
  (readNumber 16 (some 4) true 65535 input).map fun (value, rest) => (UInt16.ofNat value, rest)

/-- `read_groups` with `left` slots still free: the groups read, whether the
last two are an embedded IPv4 address, and the rest of the input. -/
def readGroups : Nat → Bool → List Char → List UInt16 × Bool × List Char
  | 0, _, input => ([], false, input)
  | left + 1, first, input =>
    match if 1 ≤ left then readSeparator ':' first readIpv4Addr input else none with
    | some (v4, rest) => (v4.groups, true, rest)
    | none =>
      match readSeparator ':' first readGroup input with
      | some (group, rest) =>
        (group :: (readGroups left false rest).1, (readGroups left false rest).2)
      | none => ([], false, input)

theorem readGroups_length (left : Nat) (first : Bool) (input : List Char) :
    (readGroups left first input).1.length ≤ left := by
  induction left generalizing first input with
  | zero => simp [readGroups]
  | succ left ih =>
    rw [readGroups]
    split
    next v4 rest embedded =>
      split at embedded
      · simp only [Ipv4Addr.groups, List.length_cons, List.length_nil]; omega
      · cases embedded
    next =>
      split
      next group rest _ =>
        have shorter := ih false rest
        simp only [List.length_cons]
        omega
      next => simp

/-- The groups before `::`, as many zeros as are missing, the groups after it. -/
def Ipv6Addr.ofGroups (head tail : List UInt16) (fits : head.length + tail.length ≤ 8) : Ipv6Addr :=
  ⟨head ++ List.replicate (8 - head.length - tail.length) 0 ++ tail, by simp; omega⟩

def readIpv6Addr (input : List Char) : Option (Ipv6Addr × List Char) :=
  let front := readGroups 8 true input
  if complete : front.1.length = 8 then some (⟨front.1, complete⟩, front.2.2)
  -- an embedded IPv4 address may not stand before `::`
  else if front.2.1 then none
  else
    match (readGivenChar ':' front.2.2).bind (readGivenChar ':') with
    | none => none
    | some rest =>
      let back := readGroups (8 - (front.1.length + 1)) true rest
      some (Ipv6Addr.ofGroups front.1 back.1 (by
        have first : front.1.length ≤ 8 := readGroups_length 8 true input
        have second : back.1.length ≤ 8 - (front.1.length + 1) := readGroups_length _ true rest
        omega), back.2.2)

def readIpAddr (input : List Char) : Option (IpAddr × List Char) :=
  match readIpv4Addr input with
  | some (v4, rest) => some (.v4 v4, rest)
  | none => (readIpv6Addr input).map fun (v6, rest) => (.v6 v6, rest)

def readPort (input : List Char) : Option (UInt16 × List Char) :=
  ((readGivenChar ':' input).bind (readNumber 10 none true 65535)).map fun (value, rest) => (UInt16.ofNat value, rest)

def readScopeId (input : List Char) : Option (UInt32 × List Char) :=
  ((readGivenChar '%' input).bind (readNumber 10 none true 4294967295)).map
    fun (value, rest) => (UInt32.ofNat value, rest)

def readSocketAddrV4 (input : List Char) : Option (SocketAddr × List Char) :=
  (readIpv4Addr input).bind fun ip => (readPort ip.2).map fun port => (.v4 ip.1 port.1, port.2)

def readSocketAddrV6 (input : List Char) : Option (SocketAddr × List Char) :=
  (readGivenChar '[' input).bind fun input =>
    (readIpv6Addr input).bind fun ip =>
      let scopeId := (readScopeId ip.2).getD (0, ip.2)
      (readGivenChar ']' scopeId.2).bind fun input =>
        (readPort input).map fun port => (.v6 ip.1 port.1 scopeId.1, port.2)

def readSocketAddr (input : List Char) : Option (SocketAddr × List Char) :=
  (readSocketAddrV4 input).or (readSocketAddrV6 input)

/-- `parse_with`: the reader has to consume the whole input. -/
def parseWith (inner : List Char → Option (β × List Char)) (input : List Char) : Option β :=
  match inner input with
  | some (value, []) => some value
  | _ => none

/-- `str::parse::<IpAddr>`. -/
def parseIpAddr (input : List Char) : Option IpAddr := parseWith readIpAddr input

/-- `str::parse::<SocketAddr>`. -/
def parseSocketAddr (input : List Char) : Option SocketAddr := parseWith readSocketAddr input

/-! ### Display -/

def Ipv4Addr.text (ip : Ipv4Addr) : List Char :=
  Nat.toDigits 10 ip.a.toNat ++ '.' :: Nat.toDigits 10 ip.b.toNat ++
    '.' :: Nat.toDigits 10 ip.c.toNat ++ '.' :: Nat.toDigits 10 ip.d.toNat

/-- A run of zero segments: where it starts and how long it is. -/
structure Span where
  start : Nat := 0
  len : Nat := 0
  deriving DecidableEq, Repr

/-- The scan for the longest run of zeros; the first of several equal ones wins. -/
def zeroSpan : Nat → Span → Span → List UInt16 → Span
  | _, longest, _, [] => longest
  | i, longest, current, segment :: rest =>
    if segment = 0 then
      let current : Span := ⟨if current.len = 0 then i else current.start, current.len + 1⟩
      zeroSpan (i + 1) (if current.len > longest.len then current else longest) current rest
    else zeroSpan (i + 1) longest {} rest

/-- `fmt_subslice`: hexadecimal groups with colons between them. -/
def groupsText : Bool → List UInt16 → List Char
  | _, [] => []
  | true, group :: rest => Nat.toDigits 16 group.toNat ++ groupsText false rest
  | false, group :: rest => ':' :: Nat.toDigits 16 group.toNat ++ groupsText false rest

def Ipv6Addr.text (ip : Ipv6Addr) : List Char :=
  match ip.toIpv4Mapped with
  | some v4 => ':' :: ':' :: 'f' :: 'f' :: 'f' :: 'f' :: ':' :: v4.text
  | none =>
    let zeroes := zeroSpan 0 {} {} ip.segments
    if zeroes.len > 1 then
      groupsText true (ip.segments.take zeroes.start) ++
        ':' :: ':' :: groupsText true (ip.segments.drop (zeroes.start + zeroes.len))
    else groupsText true ip.segments

def IpAddr.text : IpAddr → List Char
  | .v4 ip => ip.text
  | .v6 ip => ip.text

/-- The `Display` form of a `SocketAddr` without scope id. -/
def IpAddr.socketText (ip : IpAddr) (port : UInt16) : List Char :=
  match ip with
  | .v4 ip => ip.text ++ ':' :: Nat.toDigits 10 port.toNat
  | .v6 ip => '[' :: ip.text ++ ']' :: ':' :: Nat.toDigits 10 port.toNat

end EchoProxy
