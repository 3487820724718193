import EchoProxy.Lib.BitPrefix
import EchoProxy.Proofs.GeoTags

/-! The networks `load_geoip_dat` makes of a decoded list, against the CIDRs as the
file has them. The loader keeps the low byte of a prefix and checks only that. -/

namespace EchoProxy.Proofs.GeoIp
open EchoProxy GeoTags BitPrefix

/-! ### Numbers of addresses -/

def octetNumber (octets : Bytes) : Nat := number 256 (octets.map UInt8.toNat)

theorem octetNumber_lt (octets : Bytes) : octetNumber octets < 256 ^ octets.length := by
  have bound : number 256 (octets.map UInt8.toNat) < 256 ^ (octets.map UInt8.toNat).length := by
    apply number_lt
    intro digit member
    obtain ⟨octet, _, rfl⟩ := List.mem_map.mp member
    exact octet.toNat_lt
  rwa [List.length_map] at bound

theorem ipv4_bits_lt (ip : Ipv4Addr) : ip.bits < 2 ^ 32 := by
  have bound := octetNumber_lt [ip.a, ip.b, ip.c, ip.d]
  have size : 256 ^ 4 = 2 ^ 32 := by decide
  rwa [List.length_cons, List.length_cons, List.length_cons, List.length_cons, List.length_nil, size] at bound

theorem ipv6_bits_lt (ip : Ipv6Addr) : ip.bits < 2 ^ 128 := by
  have bits : ip.bits = number 65536 (ip.segments.map UInt16.toNat) := by
    rw [Ipv6Addr.bits, number, List.foldl_map]
  have bound : number 65536 (ip.segments.map UInt16.toNat) < 65536 ^ (ip.segments.map UInt16.toNat).length := by
    apply number_lt
    intro digit member
    obtain ⟨segment, _, rfl⟩ := List.mem_map.mp member
    exact segment.toNat_lt
  have size : 65536 ^ 8 = 2 ^ 128 := by decide
  rwa [List.length_map, ip.eight, size, ← bits] at bound

theorem ipv4_of_octets {octets : Bytes} {addr : Ipv4Addr} (made : Ipv4Addr.ofOctets octets = some addr) :
    octets.length = 4 ∧ addr.bits = octetNumber octets := by
  unfold Ipv4Addr.ofOctets at made
  split at made
  · cases made
    exact ⟨rfl, rfl⟩
  · cases made

private theorem pairs_fold : ∀ (octets : Bytes) (start : Nat), octets.length % 2 = 0 →
    (Ipv6Addr.bePairs octets).foldl (fun bits segment => bits * 65536 + segment.toNat) start =
      octets.foldl (fun value octet => value * 256 + octet.toNat) start
  | [], _, _ => rfl
  | [_], _, even => by simp at even
  | hi :: lo :: rest, start, even => by
    have first := hi.toNat_lt
    have second := lo.toNat_lt
    have fits : hi.toNat * 256 + lo.toNat < 65536 := by omega
    have place : start * 65536 + (hi.toNat * 256 + lo.toNat) = (start * 256 + hi.toNat) * 256 + lo.toNat := by omega
    have shorter : rest.length % 2 = 0 := by
      simp only [List.length_cons] at even
      omega
    rw [Ipv6Addr.bePairs, List.foldl_cons, List.foldl_cons, List.foldl_cons, UInt16.toNat_ofNat_of_lt' fits, place]
    exact pairs_fold rest _ shorter

theorem ipv6_of_octets {octets : Bytes} {addr : Ipv6Addr} (made : Ipv6Addr.ofOctets octets = some addr) :
    octets.length = 16 ∧ addr.bits = octetNumber octets := by
  unfold Ipv6Addr.ofOctets at made
  split at made
  · next sixteen =>
    cases made
    refine ⟨sixteen, ?_⟩
    rw [octetNumber, number, List.foldl_map]
    exact pairs_fold octets 0 (by rw [sixteen])
  · cases made

theorem exists_ipv4 (octets : Bytes) : (∃ addr, Ipv4Addr.ofOctets octets = some addr) ↔ octets.length = 4 := by
  constructor
  · intro ⟨addr, made⟩
    exact (ipv4_of_octets made).1
  · intro four
    obtain ⟨a, b, c, d, rfl⟩ := List.length_eq_four.mp four
    exact ⟨_, rfl⟩

theorem exists_ipv6 (octets : Bytes) : (∃ addr, Ipv6Addr.ofOctets octets = some addr) ↔ octets.length = 16 := by
  constructor
  · intro ⟨addr, made⟩
    exact (ipv6_of_octets made).1
  · intro sixteen
    exact ⟨_, dif_pos sixteen⟩

/-! ### One network -/

theorem inNetwork_iff (hostBits addr ip : Nat) : inNetwork hostBits addr ip = true ↔ addr / 2 ^ hostBits = ip / 2 ^ hostBits := by
  rw [← block_iff (Nat.two_pow_pos hostBits)]
  simp [inNetwork]

/-- A length and a prefix that make a network. -/
def Fits (ipLen prefixLen : Nat) : Prop := ipLen = 4 ∧ prefixLen ≤ 32 ∨ ipLen = 16 ∧ prefixLen ≤ 128

/-- The address agrees with the bytes of an IP on so many bits. -/
def Covers (ip : Bytes) (prefixLen : Nat) : IpAddr → Prop
  | .v4 addr => ip.length = 4 ∧ Agree 32 prefixLen (octetNumber ip) addr.bits
  | .v6 addr => ip.length = 16 ∧ Agree 128 prefixLen (octetNumber ip) addr.bits

/-- The prefix that is left of the one in the file. -/
def lowByte (cidr : Cidr) : Nat := cidr.prefixLen.toNat % 256

private theorem low_toUInt8 (cidr : Cidr) : cidr.prefixLen.toUInt8.toNat = lowByte cidr := by simp [lowByte]

theorem cidrNet_ok (cidr : Cidr) : (∃ net, cidrNet cidr = .ok net) ↔ Fits cidr.ip.length (lowByte cidr) := by
  have four := exists_ipv4 cidr.ip
  have sixteen := exists_ipv6 cidr.ip
  have low := low_toUInt8 cidr
  unfold cidrNet Fits
  split
  · next addr made =>
    have length := four.mp ⟨addr, made⟩
    unfold IpNet.newV4
    rw [low]
    split
    · next valid => simp [length, valid]
    · next invalid => simp [length, invalid]
  · next addr missing made =>
    have length := sixteen.mp ⟨addr, made⟩
    unfold IpNet.newV6
    rw [low]
    split
    · next valid => simp [length, valid]
    · next invalid => simp [length, invalid]
  · next missing absent =>
    have notFour : cidr.ip.length ≠ 4 := fun length => by simp [missing] at four; exact four length
    have notSixteen : cidr.ip.length ≠ 16 := fun length => by simp [absent] at sixteen; exact sixteen length
    simp [notFour, notSixteen]

theorem cidrNet_contains {cidr : Cidr} {net : IpNet} (made : cidrNet cidr = .ok net) (addr : IpAddr) :
    net.contains addr = true ↔ Covers cidr.ip (lowByte cidr) addr := by
  unfold cidrNet at made
  split at made
  · next base octets =>
    obtain ⟨four, bits⟩ := ipv4_of_octets octets
    unfold IpNet.newV4 at made
    split at made
    · next valid =>
      cases made
      rw [low_toUInt8] at valid
      cases addr with
      | v4 ip =>
        rw [IpNet.contains, inNetwork_iff, Covers, agree_iff_div valid (bits ▸ ipv4_bits_lt base) (ipv4_bits_lt ip), bits,
          low_toUInt8]
        simp [four]
      | v6 ip => simp [IpNet.contains, Covers, four]
    · cases made
  · next base missing octets =>
    obtain ⟨sixteen, bits⟩ := ipv6_of_octets octets
    unfold IpNet.newV6 at made
    split at made
    · next valid =>
      cases made
      rw [low_toUInt8] at valid
      cases addr with
      | v4 ip => simp [IpNet.contains, Covers, sixteen]
      | v6 ip =>
        rw [IpNet.contains, inNetwork_iff, Covers, agree_iff_div valid (bits ▸ ipv6_bits_lt base) (ipv6_bits_lt ip), bits,
          low_toUInt8]
        simp [sixteen]
    · cases made
  · cases made

/-! ### The whole list -/

abbrev First (upper : Uppercase) (list : GeoIpList) (tag : List Char) (entry : GeoIp) : Prop :=
  FirstEntry upper GeoIp.countryCode list.entry tag entry

variable {upper : Uppercase} {decodeGeoip : Bytes → Except String GeoIpList} {bytes : Bytes} {list : GeoIpList}
  {tags : List (List Char)}

private theorem load_decoded (decoded : decodeGeoip bytes = .ok list) :
    loadGeoipDat upper decodeGeoip (.ok bytes) tags =
      loadTags upper GeoIp.countryCode GeoIp.cidr .tagNotFound
        (fun result cidr => (cidrNet cidr).map fun net => result ++ [net]) list.entry tags [] := by
  simp only [loadGeoipDat, decoded]

theorem loadGeoipDat_ok (upper : Uppercase) (tags : List (List Char)) (decoded : decodeGeoip bytes = .ok list) :
    (∃ nets, loadGeoipDat upper decodeGeoip (.ok bytes) tags = .ok nets) ↔
      ∀ tag ∈ tags, ∃ entry, First upper list tag entry ∧ ∀ cidr ∈ entry.cidr, Fits cidr.ip.length (lowByte cidr) := by
  rw [load_decoded decoded]
  apply loadTags_ok
  intro result cidr
  rw [← cidrNet_ok]
  cases made : cidrNet cidr with
  | ok net => simp [Except.map]
  | error e => simp [Except.map]

theorem loadGeoipDat_contains (decoded : decodeGeoip bytes = .ok list) {nets : List IpNet}
    (loaded : loadGeoipDat upper decodeGeoip (.ok bytes) tags = .ok nets) (addr : IpAddr) :
    (∃ net ∈ nets, net.contains addr = true) ↔
      ∃ tag ∈ tags, ∃ entry, First upper list tag entry ∧ ∃ cidr ∈ entry.cidr, Covers cidr.ip (lowByte cidr) addr := by
  rw [load_decoded decoded] at loaded
  have collected := loadTags_collects (fun nets => ∃ net ∈ nets, net.contains addr = true)
    (fun cidr => Covers cidr.ip (lowByte cidr) addr) ?_ loaded
  · simpa using collected
  · intro result cidr next taken
    cases made : cidrNet cidr with
    | error e => simp [made, Except.map] at taken
    | ok net =>
      simp only [made, Except.map, Except.ok.injEq] at taken
      rw [← taken, ← cidrNet_contains made]
      simp [or_and_right, exists_or]

end EchoProxy.Proofs.GeoIp
