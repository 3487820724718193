import EchoProxy.Proofs.HostPatterns
import EchoProxy.Proofs.Socks

/-! Patterns that are IP addresses: what `HostPattern::parse` makes of the text of an
address, and whether it meets the host that the SOCKS5 front end looks up. -/

namespace EchoProxy.Proofs.IpPatterns
open EchoProxy Dialogue IpParser IpText Ssrf Routing Socks HostPatterns

/-! ### The pattern -/

/-- The address as it stands before a port. -/
def hostText : IpAddr → List Char
  | .v4 ip => ip.text
  | .v6 ip => bracketed ip

/-- The pattern for the address on every port or on one. -/
def literalPattern (a : IpAddr) : Option PortText → List Char
  | none => a.text
  | some p => hostText a ++ ':' :: p.digits

/-- What stands after the last colon of the address reads as a port. -/
def EndsInPort (ip : Ipv6Addr) : Prop := ∃ front, ∃ p : PortText, ip.text = front ++ ':' :: p.digits

/-- The literals that `HostPattern::parse` keeps apart from their port. -/
def Separable : IpAddr → Option PortText → Prop
  | .v4 _, _ => True
  | .v6 ip, none => ¬ EndsInPort ip
  | .v6 _, some _ => False

/-- The port a pattern asks for. -/
def Wanted (port : Option PortText) (q : UInt16) : Prop := ∀ p, port = some p → p.port = q

/-! ### What it is parsed to -/

theorem text_low (a : IpAddr) : ∀ c ∈ a.text, Low c := by
  cases a with
  | v4 ip => exact ipv4_low ip
  | v6 ip => exact ipv6_low ip

private theorem text_chars (a : IpAddr) : ∀ c ∈ a.text, IsIpChar c := parseIpAddr_chars (parseIpAddr_text a)

private theorem not_wildcard {text : List Char} (chars : ∀ c ∈ text, IsIpChar c) : ¬ ['*', '.'] <+: text := by
  intro ⟨rest, whole⟩
  have star := chars '*' (by simp [← whole])
  revert star
  simp [IsIpChar, toDigit]

/-- A number among the characters of an address has no sign. -/
private theorem parsePort_digits {text : List Char} {port : UInt16} (chars : ∀ c ∈ text, IsIpChar c)
    (parsed : parsePort text = some port) : ∃ p : PortText, p.digits = text := by
  have unsigned : text.head? ≠ some '+' := by
    intro plus
    have sign := chars '+' (List.mem_of_head? plus)
    revert sign
    simp [IsIpChar, toDigit]
  obtain ⟨value, number, -⟩ := Option.map_eq_some_iff.mp parsed
  rw [Text.parseUnsigned, if_neg unsigned] at number
  simp only [Option.ite_none_right_eq_some] at number
  obtain ⟨⟨present, decimal⟩, fits, -⟩ := number
  exact ⟨⟨text, present, List.all_eq_true.mp decimal, fits⟩, rfl⟩

private theorem parse_v4 (lower : Lowercase) (ip : Ipv4Addr) (port : Option PortText) :
    HostPattern.parse lower (literalPattern (.v4 ip) port) = ⟨ip.text, port.map PortText.port⟩ := by
  have ascii : ∀ c ∈ ip.text, c.toNat < 128 := fun c member => (ipv4_low ip c member).1
  have parsed := parse_patternText lower ascii (ipv4_colonFree ip) port
  rw [lower_low lower (ipv4_low ip)] at parsed
  have same : literalPattern (.v4 ip) port = patternText ip.text port := by
    cases port with
    | none => exact (List.append_nil _).symm
    | some p => rfl
  rw [same, parsed]

private theorem parse_v6_port (lower : Lowercase) (ip : Ipv6Addr) (p : PortText) :
    HostPattern.parse lower (literalPattern (.v6 ip) (some p)) = ⟨bracketed ip, some p.port⟩ := by
  have low : ∀ c ∈ bracketed ip ++ ':' :: p.digits, Low c := by
    intro c member
    rcases List.mem_append.mp member with inHost | inPort
    · exact bracketed_low ip c inHost
    · rcases List.mem_cons.mp inPort with rfl | digit
      · unfold Low; decide
      · exact digit_low (p.decimal c digit)
  rw [HostPattern.parse, literalPattern, hostText, lower_low lower low, Text.rsplitOnce_append _ _ p.colonFree]
  simp [p.parsed]

/-- Without a port an IPv6 address is kept, or its last group is taken for a port. -/
private theorem parse_v6 (lower : Lowercase) (ip : Ipv6Addr) :
    (¬ EndsInPort ip ∧ HostPattern.parse lower (literalPattern (.v6 ip) none) = ⟨ip.text, none⟩) ∨
    ∃ front, ∃ p : PortText, ip.text = front ++ ':' :: p.digits ∧
      HostPattern.parse lower (literalPattern (.v6 ip) none) = ⟨front, some p.port⟩ := by
  rw [HostPattern.parse, literalPattern, IpAddr.text, lower_low lower (ipv6_low ip)]
  by_cases ends : EndsInPort ip
  · obtain ⟨front, p, whole⟩ := ends
    refine .inr ⟨front, p, whole, ?_⟩
    rw [whole, Text.rsplitOnce_append _ _ p.colonFree]
    simp [p.parsed]
  · refine .inl ⟨ends, ?_⟩
    cases split : Text.rsplitOnce ':' ip.text with
    | none => rfl
    | some halves =>
      obtain ⟨front, last⟩ := halves
      obtain ⟨whole, -⟩ := Text.rsplitOnce_some split
      cases parsed : parsePort last with
      | none => simp [parsed]
      | some port =>
        obtain ⟨p, rfl⟩ := parsePort_digits (fun c member => text_chars (.v6 ip) c (by simp [IpAddr.text, whole, member])) parsed
        exact absurd ⟨front, p, whole⟩ ends

/-- The pattern meets the text of the address exactly when it can be told from its port. -/
theorem literal_matches (lower : Lowercase) (a : IpAddr) (port : Option PortText) (q : UInt16) :
    (HostPattern.parse lower (literalPattern a port)).matches a.text q = true ↔ Separable a port ∧ Wanted port q := by
  rw [matches_iff]
  cases a with
  | v4 ip =>
    have kept : Covers ip.text ip.text := .inr ⟨not_wildcard (text_chars (.v4 ip)), rfl⟩
    simp [parse_v4, Separable, Wanted, IpAddr.text, kept]
  | v6 ip =>
    have plain := not_wildcard (text_chars (.v6 ip))
    cases port with
    | some p =>
      have apart : ¬ Covers (bracketed ip) ip.text := by
        intro covers
        rcases covers with ⟨suffix, _, split, _⟩ | ⟨_, same⟩
        · cases split
        · have shorter := congrArg List.length same
          simp only [bracketed, List.cons_append, List.length_cons, List.length_append] at shorter
          omega
      simp [parse_v6_port, Separable, IpAddr.text, apart]
    | none =>
      rcases parse_v6 lower ip with ⟨ends, parsed⟩ | ⟨front, p, whole, parsed⟩
      · have kept : Covers ip.text ip.text := .inr ⟨plain, rfl⟩
        simp [parsed, Separable, Wanted, IpAddr.text, kept, ends]
      · have apart : ¬ Covers front ip.text := by
          intro covers
          rcases covers with ⟨suffix, _, split, _⟩ | ⟨_, same⟩
          · exact plain ⟨suffix ++ ':' :: p.digits, by rw [IpAddr.text, whole, split]; rfl⟩
          · have longer := congrArg List.length (whole.symm.trans same)
            simp at longer
        have ends : EndsInPort ip := ⟨front, p, whole⟩
        simp [parsed, Separable, IpAddr.text, apart, ends]

/-! ### SOCKS5 -/

def ipAddress : IpAddr → Address
  | .v4 ip => .ipv4 ip
  | .v6 ip => .ipv6 ip

/-- Every client that asks for the address and port gets this answer of the rules. -/
def Routes (config : RoutingConfig) (lower : Lowercase) (a : IpAddr) (q : UInt16) (direct : Bool) : Prop :=
  ∀ (peer : Peer UInt8) (request : Request), peer.writable = true → request.address = ipAddress a → request.port = q →
    request.bytes <+: peer.source.rest → (handleSocksConnection config lower peer).1.map Prod.snd = some direct

private theorem socks_host {request : Request} {a : IpAddr} (asks : request.address = ipAddress a) :
    splitHostPort request.text = (a.text, request.port) := by
  have splits := request_splits request
  cases a with
  | v4 ip => exact Prod.ext (splits.ipv4 ip asks).1 splits.port
  | v6 ip => exact Prod.ext (splits.ipv6 ip asks).1 splits.port

/-- The rules are asked about the text of the address. -/
theorem routes_iff (config : RoutingConfig) (lower : Lowercase) (a : IpAddr) (q : UInt16) (direct : Bool) :
    Routes config lower a q direct ↔ config.shouldBypass lower a.text q = direct := by
  have answered {peer : Peer UInt8} {request : Request} (writable : peer.writable = true) (asks : request.address = ipAddress a)
      (port : request.port = q) (front : request.bytes <+: peer.source.rest) :
      (handleSocksConnection config lower peer).1.map Prod.snd = some (config.shouldBypass lower a.text q) := by
    have read := (parse_reads peer writable request.text _).mpr ⟨request.bytes, front, ⟨request, rfl, rfl⟩, rfl⟩
    simp only [handleSocksConnection, bind, read, socks_host asks, port]
    rfl
  constructor
  · intro routes
    let request : Request := ⟨[0], by decide, by decide, 0, ipAddress a, q⟩
    let peer : Peer UInt8 := ⟨⟨request.bytes, 0, fun _ => 0, false⟩, [], true⟩
    have front : request.bytes <+: peer.source.rest := List.prefix_refl _
    have routed := routes peer request rfl rfl rfl front
    rw [answered rfl rfl rfl front] at routed
    exact Option.some.inj routed
  · intro decided peer request writable asks port front
    rw [answered writable asks port front, decided]

/-! ### Rules for one address -/

/-- The address is dialed directly on the ports its bypass pattern is for, and tunnelled on
the ports its proxy pattern is for, whatever the other rules are. -/
structure Honoured (lower : Lowercase) (a : IpAddr) (port : Option PortText) : Prop where
  bypass : ∀ q, (Routes ⟨[], [HostPattern.parse lower (literalPattern a port)], none, []⟩ lower a q true ↔ Wanted port q) ∧
    (Routes ⟨[], [HostPattern.parse lower (literalPattern a port)], none, []⟩ lower a q false ↔ ¬ Wanted port q)
  proxy : ∀ q, (∀ config : RoutingConfig, HostPattern.parse lower (literalPattern a port) ∈ config.proxy →
    Routes config lower a q false) ↔ Wanted port q

private theorem bypass_routes {lower : Lowercase} {a : IpAddr} {pattern : HostPattern} {q : UInt16} :
    (⟨[], [pattern], none, []⟩ : RoutingConfig).shouldBypass lower a.text q = pattern.matches a.text q := by
  rw [Bool.eq_iff_iff, shouldBypass_iff, lower_low lower (text_low a)]
  simp [Proxied, Bypassed, Listed, InCidrs]

/-- A rule that does not match can be overruled. -/
private theorem proxy_routes {lower : Lowercase} {a : IpAddr} {pattern : HostPattern} {q : UInt16} :
    (∀ config : RoutingConfig, pattern ∈ config.proxy → config.shouldBypass lower a.text q = false) ↔
      pattern.matches a.text q = true := by
  constructor
  · intro tunnelled
    have other : (⟨a.text, none⟩ : HostPattern).matches a.text q = true :=
      (matches_iff _ _ _).mpr ⟨by simp, .inr ⟨not_wildcard (text_chars a), rfl⟩⟩
    by_contra unmatched
    have tunnel := tunnelled ⟨[pattern], [⟨a.text, none⟩], none, []⟩ (by simp)
    rw [Bool.eq_false_iff, ne_eq, shouldBypass_iff, lower_low lower (text_low a)] at tunnel
    apply tunnel
    refine ⟨?_, .inl ⟨_, by simp, other⟩⟩
    intro ⟨r, member, matched⟩
    cases List.mem_singleton.mp member
    exact unmatched matched
  · intro matched config member
    rw [Bool.eq_false_iff, ne_eq, shouldBypass_iff, lower_low lower (text_low a)]
    intro ⟨unproxied, _⟩
    exact unproxied ⟨pattern, member, matched⟩

/-- Patterns that are addresses are honoured exactly if they can be told from their port:
always for IPv4, never for an IPv6 address with a port. -/
theorem ip_patterns_honoured (lower : Lowercase) (a : IpAddr) (port : Option PortText) :
    Honoured lower a port ↔ Separable a port := by
  have bypass (q : UInt16) (direct : Bool) :
      Routes ⟨[], [HostPattern.parse lower (literalPattern a port)], none, []⟩ lower a q direct ↔
        (HostPattern.parse lower (literalPattern a port)).matches a.text q = direct := by
    rw [routes_iff, bypass_routes]
  constructor
  · intro honoured
    obtain ⟨q, wanted⟩ : ∃ q, Wanted port q := by
      cases port with
      | none => exact ⟨0, by simp [Wanted]⟩
      | some p => exact ⟨p.port, by simp [Wanted]⟩
    have direct := (honoured.bypass q).1.mpr wanted
    rw [bypass, literal_matches] at direct
    exact direct.1
  · intro separable
    have meets (q : UInt16) := literal_matches lower a port q
    simp only [separable, true_and] at meets
    constructor
    · intro q
      rw [bypass, bypass, Bool.eq_false_iff, ne_eq, meets]
      exact ⟨Iff.rfl, Iff.rfl⟩
    · intro q
      simp only [routes_iff]
      rw [proxy_routes, meets]

/-- The last group of `::1` is taken for a port. -/
theorem loopback_pattern_missed : ¬ ∀ (lower : Lowercase) (a : IpAddr) (port : Option PortText), Honoured lower a port := by
  intro honoured
  have direct := ((honoured asciiLowercase (.v6 ⟨[0, 0, 0, 0, 0, 0, 0, 1], rfl⟩) none).bypass 443).1.mpr (by simp [Wanted])
  rw [routes_iff] at direct
  revert direct
  decide +kernel

end EchoProxy.Proofs.IpPatterns
