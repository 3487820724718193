import EchoProxy.Socks
import EchoProxy.Proofs.GeoIp
import EchoProxy.Proofs.Routing
import EchoProxy.Proofs.WireFormat

/-! The SOCKS5 requests `parse_socks5_request` accepts, and what is left of their
address after printing it and splitting it again. -/

namespace EchoProxy.Proofs.Socks
open EchoProxy Dialogue Routing WireFormat IpText IpParser Ssrf

/-! ### Octets -/

/-- The sixteen octets of the address. -/
def ipv6Octets (ip : Ipv6Addr) : Bytes :=
  ip.segments.flatMap fun segment => [UInt8.ofNat (segment.toNat / 256), UInt8.ofNat segment.toNat]

def ipv4Octets (ip : Ipv4Addr) : Bytes := [ip.a, ip.b, ip.c, ip.d]

private theorem pair_segment (segment : UInt16) :
    UInt16.ofNat ((UInt8.ofNat (segment.toNat / 256)).toNat * 256 + (UInt8.ofNat segment.toNat).toNat) = segment := by
  have bound := segment.toNat_lt
  have fits : segment.toNat / 256 < 256 := by omega
  have high : (UInt8.ofNat (segment.toNat / 256)).toNat = segment.toNat / 256 := UInt8.toNat_ofNat_of_lt' fits
  have low : (UInt8.ofNat segment.toNat).toNat = segment.toNat % 256 := UInt8.toNat_ofNat'
  rw [high, low, Nat.mul_comm, Nat.div_add_mod]
  exact UInt16.ofNat_toNat

private theorem segment_pair (hi lo : UInt8) :
    [UInt8.ofNat ((UInt16.ofNat (hi.toNat * 256 + lo.toNat)).toNat / 256), UInt8.ofNat (UInt16.ofNat (hi.toNat * 256 + lo.toNat)).toNat] =
      [hi, lo] := by
  have first := hi.toNat_lt
  have second := lo.toNat_lt
  have fits : hi.toNat * 256 + lo.toNat < 65536 := by omega
  have value : (UInt16.ofNat (hi.toNat * 256 + lo.toNat)).toNat = hi.toNat * 256 + lo.toNat := UInt16.toNat_ofNat_of_lt' fits
  have high : (hi.toNat * 256 + lo.toNat) / 256 = hi.toNat := by omega
  have low : UInt8.ofNat (hi.toNat * 256 + lo.toNat) = lo := by
    apply UInt8.toNat_inj.mp
    rw [UInt8.toNat_ofNat']
    omega
  rw [value, high, low, UInt8.ofNat_toNat]

private theorem bePairs_split (segments : List UInt16) :
    Ipv6Addr.bePairs (segments.flatMap fun segment => [UInt8.ofNat (segment.toNat / 256), UInt8.ofNat segment.toNat]) = segments := by
  induction segments with
  | nil => rfl
  | cons segment rest ih =>
    rw [List.flatMap_cons, List.cons_append, List.cons_append, List.nil_append, Ipv6Addr.bePairs, ih, pair_segment]

private theorem split_bePairs : ∀ octets : Bytes, octets.length % 2 = 0 →
    ((Ipv6Addr.bePairs octets).flatMap fun segment => [UInt8.ofNat (segment.toNat / 256), UInt8.ofNat segment.toNat]) = octets
  | [], _ => rfl
  | [_], even => by simp at even
  | hi :: lo :: rest, even => by
    have shorter : rest.length % 2 = 0 := by
      simp only [List.length_cons] at even
      omega
    rw [Ipv6Addr.bePairs, List.flatMap_cons, segment_pair, split_bePairs rest shorter]
    rfl

theorem ipv6_ofOctets {octets : Bytes} {ip : Ipv6Addr} : Ipv6Addr.ofOctets octets = some ip ↔ octets = ipv6Octets ip := by
  constructor
  · intro made
    unfold Ipv6Addr.ofOctets at made
    split at made
    · next sixteen =>
      cases made
      exact (split_bePairs octets (by rw [sixteen])).symm
    · cases made
  · intro same
    have sixteen : octets.length = 16 := by
      rw [same, ipv6Octets, List.length_flatMap]
      simp [ip.eight]
    rw [Ipv6Addr.ofOctets, dif_pos sixteen]
    subst same
    simp only [ipv6Octets, bePairs_split]

theorem ipv4_ofOctets {octets : Bytes} {ip : Ipv4Addr} : Ipv4Addr.ofOctets octets = some ip ↔ octets = ipv4Octets ip := by
  constructor
  · intro made
    unfold Ipv4Addr.ofOctets at made
    split at made
    · cases made
      rfl
    · cases made
  · intro same
    subst same
    rfl

/-! ### The grammar -/

inductive Address where
  | ipv4 (ip : Ipv4Addr)
  | ipv6 (ip : Ipv6Addr)
  | domain (name : String) (short : (asBytes name).length < 256)

namespace Address

def atyp : Address → UInt8
  | ipv4 _ => 1
  | ipv6 _ => 4
  | domain _ _ => 3

/-- Any four octets, any sixteen octets, or a length and a name in UTF-8. -/
def bytes : Address → Bytes
  | ipv4 ip => ipv4Octets ip
  | ipv6 ip => ipv6Octets ip
  | domain name _ => UInt8.ofNat (asBytes name).length :: asBytes name

def text : Address → List Char
  | ipv4 ip => ip.text
  | ipv6 ip => bracketed ip
  | domain name _ => name.toList

end Address

/-- A greeting that offers NO_AUTH and a CONNECT request. -/
structure Request where
  methods : Bytes
  few : methods.length < 256
  offered : 0 ∈ methods
  rsv : UInt8
  address : Address
  port : UInt16

def greetingBytes (methods : Bytes) : Bytes := 5 :: UInt8.ofNat methods.length :: methods

def portBytes (port : UInt16) : Bytes := [UInt8.ofNat (port.toNat / 256), UInt8.ofNat port.toNat]

def Request.bytes (request : Request) : Bytes :=
  greetingBytes request.methods ++ (5 :: 1 :: request.rsv :: request.address.atyp :: request.address.bytes) ++ portBytes request.port

def Request.text (request : Request) : List Char := request.address.text ++ ':' :: Nat.toDigits 10 request.port.toNat

/-! ### The parser -/

theorem readGreeting_reads : Reads readGreeting
    (fun word _ => ∃ methods : Bytes, methods.length < 256 ∧ 0 ∈ methods ∧ word = greetingBytes methods) [5, 0] := by
  unfold readGreeting
  apply Reads.congr
  · apply Reads.bind (Reads.readExact 2)
    intro hdr found ⟨length, same⟩
    apply Reads.guarded
    · intro version
      apply Reads.bind (Reads.readExact _)
      intro word methods _
      apply Reads.guarded
      · intro offered
        exact Reads.writeAll _
      · exact fun _ => rfl
    · exact fun _ => rfl
  · intro word value
    constructor
    · intro ⟨_, hdr, back, split, ⟨two, same⟩, version, _, methods, _, rest, ⟨count, also⟩, offered, ended⟩
      subst same also ended rest split
      obtain ⟨first, second, rfl⟩ := List.length_eq_two.mp two
      cases Option.some.inj version
      have few : methods.length = second.toNat := count
      refine ⟨methods, few ▸ second.toNat_lt, offered, ?_⟩
      rw [greetingBytes, few, UInt8.ofNat_toNat]
      simp [socks5Version]
    · intro ⟨methods, few, offered, same⟩
      refine ⟨[5, UInt8.ofNat methods.length], _, methods, same, ⟨rfl, rfl⟩, rfl, methods, methods, [], by simp, ⟨?_, rfl⟩, offered, rfl⟩
      exact (UInt8.toNat_ofNat_of_lt' few).symm

private theorem domain_length {name : String} (short : (asBytes name).length < 256) :
    (asBytes name).length = (UInt8.ofNat (asBytes name).length).toNat := (UInt8.toNat_ofNat_of_lt' short).symm

/-- What a program makes of an option it cannot do without. -/
private theorem reads_option {β γ : Type} (found : Option β) (f : β → γ) {program : Program UInt8 γ}
    (present : ∀ value, found = some value → program = pure (f value)) (missing : found = none → program = giveUp) :
    Reads program (fun word result => word = [] ∧ ∃ value, found = some value ∧ result = f value) [] := by
  cases known : found with
  | none =>
    rw [missing known]
    exact Reads.giveUp.congr fun word result => by simp
  | some value =>
    rw [present value known]
    exact (Reads.pure (f value)).congr fun word result => by simp

private theorem readHost_ipv4 : Reads (readHost socks5AtypIpv4)
    (fun word host => ∃ ip : Ipv4Addr, word = ipv4Octets ip ∧ host = ip.text) [] := by
  unfold readHost
  rw [if_pos rfl]
  apply Reads.congr
  · apply Reads.bind (Reads.readExact 4)
    intro word addr _
    apply reads_option (Ipv4Addr.ofOctets addr) Ipv4Addr.text
    · intro ip made
      simp only [made]
    · intro unmade
      simp only [unmade]
  · intro word host
    constructor
    · intro ⟨_, addr, _, split, ⟨_, same⟩, ended, ip, made, text⟩
      subst same ended split
      exact ⟨ip, (List.append_nil addr).trans (ipv4_ofOctets.mp made), text⟩
    · intro ⟨ip, same, text⟩
      subst same
      exact ⟨ipv4Octets ip, ipv4Octets ip, [], (List.append_nil _).symm, ⟨rfl, rfl⟩, rfl, ip, ipv4_ofOctets.mpr rfl, text⟩

private theorem readHost_ipv6 : Reads (readHost socks5AtypIpv6)
    (fun word host => ∃ ip : Ipv6Addr, word = ipv6Octets ip ∧ host = bracketed ip) [] := by
  unfold readHost
  rw [if_neg (by decide), if_pos rfl]
  apply Reads.congr
  · apply Reads.bind (Reads.readExact 16)
    intro word addr _
    apply reads_option (Ipv6Addr.ofOctets addr) bracketed
    · intro ip made
      simp only [made]
      rfl
    · intro unmade
      simp only [unmade]
  · intro word host
    constructor
    · intro ⟨_, addr, _, split, ⟨_, same⟩, ended, ip, made, text⟩
      subst same ended split
      exact ⟨ip, (List.append_nil addr).trans (ipv6_ofOctets.mp made), text⟩
    · intro ⟨ip, same, text⟩
      have sixteen : (ipv6Octets ip).length = 16 := (GeoIp.ipv6_of_octets (ipv6_ofOctets.mpr rfl)).1
      subst same
      exact ⟨ipv6Octets ip, ipv6Octets ip, [], (List.append_nil _).symm, ⟨sixteen, rfl⟩, rfl, ip, ipv6_ofOctets.mpr rfl, text⟩

private theorem readHost_domain : Reads (readHost socks5AtypDomain)
    (fun word host => ∃ name : String, (asBytes name).length < 256 ∧ word = UInt8.ofNat (asBytes name).length :: asBytes name ∧
      host = name.toList) [] := by
  unfold readHost
  rw [if_neg (by decide), if_neg (by decide), if_pos rfl]
  apply Reads.congr
  · apply Reads.bind (Reads.readExact 1)
    intro _ len _
    apply Reads.bind (Reads.readExact _)
    intro _ domain _
    apply reads_option (fromUtf8 domain) String.toList
    · intro name valid
      simp only [valid]
    · intro invalid
      simp only [invalid]
  · intro word host
    constructor
    · intro ⟨_, len, _, split, ⟨one, same⟩, _, domain, _, rest, ⟨count, also⟩, ended, name, valid, text⟩
      subst same also ended rest split
      obtain ⟨length, rfl⟩ := List.length_eq_one_iff.mp one
      have printed := asBytes_of_fromUtf8 valid
      subst printed
      have fits : (asBytes name).length = length.toNat := count
      refine ⟨name, fits ▸ length.toNat_lt, ?_, text⟩
      rw [fits, UInt8.ofNat_toNat]
      simp
    · intro ⟨name, short, same, text⟩
      subst same
      exact ⟨[UInt8.ofNat (asBytes name).length], [UInt8.ofNat (asBytes name).length], asBytes name, rfl, ⟨rfl, rfl⟩, asBytes name,
        asBytes name, [], (List.append_nil _).symm, ⟨domain_length short, rfl⟩, rfl, name, fromUtf8_asBytes name, text⟩

theorem readHost_reads (atyp : UInt8) : Reads (readHost atyp)
    (fun word host => ∃ address : Address, address.atyp = atyp ∧ word = address.bytes ∧ host = address.text) [] := by
  by_cases four : atyp = socks5AtypIpv4
  · subst four
    apply readHost_ipv4.congr
    intro word host
    constructor
    · intro ⟨ip, same, text⟩
      exact ⟨.ipv4 ip, rfl, same, text⟩
    · intro ⟨address, type, same, text⟩
      cases address with
      | ipv4 ip => exact ⟨ip, same, text⟩
      | ipv6 ip => cases type
      | domain name short => cases type
  · by_cases six : atyp = socks5AtypIpv6
    · subst six
      apply readHost_ipv6.congr
      intro word host
      constructor
      · intro ⟨ip, same, text⟩
        exact ⟨.ipv6 ip, rfl, same, text⟩
      · intro ⟨address, type, same, text⟩
        cases address with
        | ipv4 ip => cases type
        | ipv6 ip => exact ⟨ip, same, text⟩
        | domain name short => cases type
    · by_cases name : atyp = socks5AtypDomain
      · subst name
        apply readHost_domain.congr
        intro word host
        constructor
        · intro ⟨name, short, same, text⟩
          exact ⟨.domain name short, rfl, same, text⟩
        · intro ⟨address, type, same, text⟩
          cases address with
          | ipv4 ip => cases type
          | ipv6 ip => cases type
          | domain name short => exact ⟨name, short, same, text⟩
      · have refused : Reads (readHost atyp) (fun _ _ => False) [] := by
          unfold readHost
          rw [if_neg four, if_neg six, if_neg name]
          exact Reads.refuse _
        apply refused.congr
        intro word host
        apply iff_of_false not_false
        intro ⟨address, type, _⟩
        subst type
        cases address with
        | ipv4 ip => exact four rfl
        | ipv6 ip => exact six rfl
        | domain text short => exact name rfl

private theorem portBytes_read (port : UInt16) : u16FromBeBytes (portBytes port) = port := pair_segment port

private theorem read_portBytes {word : Bytes} (two : word.length = 2) : word = portBytes (u16FromBeBytes word) := by
  obtain ⟨hi, lo, rfl⟩ := List.length_eq_two.mp two
  exact (segment_pair hi lo).symm

private theorem four_bytes {req : Bytes} {version cmd : UInt8} (four : req.length = 4) (first : req[0]? = some version)
    (second : req[1]? = some cmd) : ∃ rsv, req = [version, cmd, rsv, req[3]?.getD 0] := by
  obtain ⟨a, b, rsv, atyp, rfl⟩ := List.length_eq_four.mp four
  cases first
  cases second
  exact ⟨rsv, rfl⟩

theorem parse_reads : Reads parseSocks5Request (fun word text => ∃ request : Request, word = request.bytes ∧ text = request.text) [5, 0] := by
  unfold parseSocks5Request
  apply Reads.congr
  · apply Reads.bind readGreeting_reads
    intro _ _ _
    apply Reads.bind (Reads.readExact 4)
    intro _ req _
    apply Reads.guarded
    · intro _
      apply Reads.guarded
      · intro _
        apply Reads.bind (readHost_reads _)
        intro _ host _
        apply Reads.bind (Reads.readExact 2)
        intro _ port _
        exact Reads.pure _
      · exact fun _ => rfl
    · exact fun _ => rfl
  · intro word text
    constructor
    · intro ⟨_, _, _, split, ⟨methods, few, offered, greeting⟩, _, req, _, rest, ⟨four, same⟩, version, connect, _, host, _, more,
        ⟨address, type, encoded, printed⟩, _, port, _, last, ⟨two, also⟩, ended, result⟩
      subst same also
      obtain ⟨rsv, header⟩ := four_bytes four version connect
      refine ⟨⟨methods, few, offered, rsv, address, u16FromBeBytes port⟩, ?_, ?_⟩
      · rw [split, greeting, rest, header, more, encoded, last, ended, ← type, List.append_nil]
        simp [Request.bytes, ← read_portBytes two, socks5Version, socks5CmdConnect]
      · rw [result, printed]
        rfl
    · intro ⟨request, same, result⟩
      refine ⟨greetingBytes request.methods, (), _, ?_, ⟨request.methods, request.few, request.offered, rfl⟩,
        [5, 1, request.rsv, request.address.atyp], _, _, rfl, ⟨rfl, rfl⟩, rfl, rfl, request.address.bytes, request.address.text, _, rfl,
        ⟨request.address, rfl, rfl, rfl⟩, portBytes request.port, _, [], rfl, ⟨rfl, rfl⟩, rfl, ?_⟩
      · rw [same]
        simp [Request.bytes]
      · rw [result, portBytes_read]
        rfl

/-- What splitting the address of a request gives back. -/
structure SplitsBack (request : Request) (host : List Char) (port : UInt16) : Prop where
  port : port = request.port
  ipv4 : ∀ ip, request.address = .ipv4 ip → host = ip.text ∧ parseIpAddr host = some (.v4 ip)
  ipv6 : ∀ ip, request.address = .ipv6 ip → host = ip.text ∧ parseIpAddr host = some (.v6 ip)
  domain : ∀ name short, request.address = .domain name short →
    (∀ c, name.toList.head? = some c ∨ name.toList.getLast? = some c → c ≠ '[' ∧ c ≠ ']') → host = name.toList

theorem request_splits (request : Request) :
    SplitsBack request (splitHostPort request.text).1 (splitHostPort request.text).2 := by
  have split := (split_text request.address.text request.port).2
  rw [Request.text, split]
  refine ⟨rfl, ?_, ?_, ?_⟩
  · intro ip same
    have parsed := parseIpAddr_text (.v4 ip)
    have bare : Text.trimMatches (fun c => c == '[' || c == ']') request.address.text = ip.text := by
      rw [same]
      exact trim_unbracketed fun c member => isIpChar_not_bracket (parseIpAddr_chars parsed c member)
    exact ⟨bare, bare.symm ▸ parsed⟩
  · intro ip same
    have bare : Text.trimMatches (fun c => c == '[' || c == ']') request.address.text = ip.text := by
      rw [same]
      exact trim_bracketed ip
    exact ⟨bare, bare.symm ▸ parseIpAddr_text (.v6 ip)⟩
  · intro name short same ends
    rw [same]
    apply Text.trimMatches_of_ends
    · intro c first
      simp [ends c (.inl first)]
    · intro c last
      simp [ends c (.inr last)]

/-- A request is accepted exactly if the stream starts with one, nothing else is read or
written, and its address survives being printed and split. -/
theorem socks5_request_exact (peer : Peer UInt8) (writable : peer.writable = true) :
    (∀ text last, parseSocks5Request peer = (some text, last) ↔
        ∃ request : Request, request.bytes <+: peer.source.rest ∧ text = request.text ∧ last = peer.after request.bytes.length [5, 0]) ∧
      ∀ request : Request, SplitsBack request (splitHostPort request.text).1 (splitHostPort request.text).2 := by
  refine ⟨?_, request_splits⟩
  intro text last
  rw [parse_reads peer writable]
  constructor
  · intro ⟨word, front, ⟨request, same, result⟩, moved⟩
    subst same
    exact ⟨request, front, result, moved⟩
  · intro ⟨request, front, result, moved⟩
    exact ⟨request.bytes, front, ⟨request, rfl, result⟩, moved⟩

private def connectPeer : Peer UInt8 :=
  ⟨⟨[5, 2, 1, 0, 5, 1, 0, 3, 1, 97, 0, 80, 7], 0, fun position => position % 3, false⟩, [], true⟩

theorem connect_exact :
    (∀ text last, parseSocks5Request connectPeer = (some text, last) ↔
        ∃ request : Request, request.bytes <+: connectPeer.source.rest ∧ text = request.text ∧
          last = connectPeer.after request.bytes.length [5, 0]) ∧
      ∀ request : Request, SplitsBack request (splitHostPort request.text).1 (splitHostPort request.text).2 :=
  socks5_request_exact connectPeer rfl

example : (parseSocks5Request connectPeer).1 = some "a:80".toList := by decide +kernel

end EchoProxy.Proofs.Socks
