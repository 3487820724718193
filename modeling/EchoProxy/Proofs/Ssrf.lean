import EchoProxy.Ssrf
import EchoProxy.Proofs.IpText

/-! The destination filter: which addresses it blocks, and where the literal it
reads differs from the one the connector dials. -/

namespace EchoProxy.Proofs.Ssrf
open EchoProxy Reader IpParser IpText

/-! ### Address ranges -/

def v4Value (ip : Ipv4Addr) : Nat :=
  ip.a.toNat * 2 ^ 24 + ip.b.toNat * 2 ^ 16 + ip.c.toNat * 2 ^ 8 + ip.d.toNat

/-- `a.b.c.d/len` as a set of addresses. -/
def InV4Block (net : Ipv4Addr) (len : Nat) (ip : Ipv4Addr) : Prop :=
  v4Value ip / 2 ^ (32 - len) = v4Value net / 2 ^ (32 - len)

/-- Blocks of at most 16 bits are decided by the first segment. -/
def InV6Block (net len : Nat) (ip : Ipv6Addr) : Prop :=
  (ip.segments.headD 0).toNat / 2 ^ (16 - len) = net / 2 ^ (16 - len)

def UniqueLocal : IpAddr → Prop
  | .v4 _ => False
  | .v6 ip => InV6Block 0xfc00 7 ip

def LinkLocalV6 : IpAddr → Prop
  | .v4 _ => False
  | .v6 ip => InV6Block 0xfe80 10 ip

/-- The private, loopback, link-local and unspecified ranges of both families. -/
def Reserved : IpAddr → Prop
  | .v4 ip =>
    InV4Block ⟨10, 0, 0, 0⟩ 8 ip ∨ InV4Block ⟨172, 16, 0, 0⟩ 12 ip ∨ InV4Block ⟨192, 168, 0, 0⟩ 16 ip ∨
      InV4Block ⟨127, 0, 0, 0⟩ 8 ip ∨ InV4Block ⟨169, 254, 0, 0⟩ 16 ip ∨ InV4Block ⟨0, 0, 0, 0⟩ 32 ip
  | .v6 ip =>
    UniqueLocal (.v6 ip) ∨ LinkLocalV6 (.v6 ip) ∨ ip.segments = [0, 0, 0, 0, 0, 0, 0, 1] ∨
      ip.segments = [0, 0, 0, 0, 0, 0, 0, 0]

private theorem v4Value_div (ip : Ipv4Addr) :
    v4Value ip / 2 ^ 24 = ip.a.toNat ∧ v4Value ip / 2 ^ 20 = ip.a.toNat * 16 + ip.b.toNat / 16 ∧
      v4Value ip / 2 ^ 16 = ip.a.toNat * 256 + ip.b.toNat := by
  have hb := ip.b.toNat_lt
  have hc := ip.c.toNat_lt
  have hd := ip.d.toNat_lt
  simp only [v4Value]
  refine ⟨?_, ?_, ?_⟩ <;> omega

private theorem inV4Block_8 (net ip : Ipv4Addr) : InV4Block net 8 ip ↔ ip.a.toNat = net.a.toNat := by
  simp only [InV4Block, Nat.reduceSub, (v4Value_div _).1]

private theorem inV4Block_12 (net ip : Ipv4Addr) :
    InV4Block net 12 ip ↔ ip.a.toNat * 16 + ip.b.toNat / 16 = net.a.toNat * 16 + net.b.toNat / 16 := by
  simp only [InV4Block, Nat.reduceSub, (v4Value_div _).2.1]

private theorem inV4Block_16 (net ip : Ipv4Addr) :
    InV4Block net 16 ip ↔ ip.a.toNat * 256 + ip.b.toNat = net.a.toNat * 256 + net.b.toNat := by
  simp only [InV4Block, Nat.reduceSub, (v4Value_div _).2.2]

private theorem isPrivate_iff (ip : Ipv4Addr) :
    ip.isPrivate = true ↔ InV4Block ⟨10, 0, 0, 0⟩ 8 ip ∨ InV4Block ⟨172, 16, 0, 0⟩ 12 ip ∨
      InV4Block ⟨192, 168, 0, 0⟩ 16 ip := by
  have hb := ip.b.toNat_lt
  simp only [Ipv4Addr.isPrivate, Bool.or_eq_true, Bool.and_eq_true, beq_iff_eq, decide_eq_true_eq, or_assoc,
    inV4Block_8, inV4Block_12, inV4Block_16, ← UInt8.toNat_inj, UInt8.le_iff_toNat_le, UInt8.reduceToNat]
  omega

private theorem isLoopback_iff (ip : Ipv4Addr) : ip.isLoopback = true ↔ InV4Block ⟨127, 0, 0, 0⟩ 8 ip := by
  simp only [Ipv4Addr.isLoopback, beq_iff_eq, inV4Block_8, UInt8.toNat_inj]

private theorem isLinkLocal_iff (ip : Ipv4Addr) : ip.isLinkLocal = true ↔ InV4Block ⟨169, 254, 0, 0⟩ 16 ip := by
  have hb := ip.b.toNat_lt
  simp only [Ipv4Addr.isLinkLocal, Bool.and_eq_true, beq_iff_eq, inV4Block_16, ← UInt8.toNat_inj, UInt8.reduceToNat]
  omega

private theorem isUnspecified_iff (ip : Ipv4Addr) : ip.isUnspecified = true ↔ InV4Block ⟨0, 0, 0, 0⟩ 32 ip := by
  simp only [Ipv4Addr.isUnspecified, Bool.and_eq_true, beq_iff_eq, InV4Block, v4Value, ← UInt8.toNat_inj,
    UInt8.reduceToNat]
  omega

/-- For IPv4 the check blocks the reserved ranges and nothing else. -/
theorem isPublicIp_v4 (ip : Ipv4Addr) : isPublicIp (.v4 ip) = false ↔ Reserved (.v4 ip) := by
  simp only [isPublicIp, Bool.and_eq_false_iff, Bool.not_eq_false', isLoopback_iff, isPrivate_iff, isLinkLocal_iff,
    isUnspecified_iff, Reserved, or_assoc, or_comm, or_left_comm]

theorem isPublicIp_v6 (ip : Ipv6Addr) :
    isPublicIp (.v6 ip) = false ↔ ip.segments = [0, 0, 0, 0, 0, 0, 0, 1] ∨
      ip.segments = [0, 0, 0, 0, 0, 0, 0, 0] ∨ (ip.segments.headD 0).toNat / 256 = 0xff := by
  simp only [isPublicIp, Ipv6Addr.isLoopback, Ipv6Addr.isUnspecified, Ipv6Addr.isMulticast, Bool.and_eq_false_iff,
    Bool.not_eq_false', beq_iff_eq, or_assoc]

/-- The unique local and link-local blocks are the reserved ones the check for
IPv6 does not know. -/
theorem isPublicIp_of_local {ip : IpAddr} (range : UniqueLocal ip ∨ LinkLocalV6 ip) : isPublicIp ip = true := by
  cases ip with
  | v4 ip => rcases range with impossible | impossible <;> exact impossible.elim
  | v6 ip =>
    by_contra blocked
    rcases (isPublicIp_v6 ip).mp (by simpa using blocked) with one | zero | multicast
    · simp [UniqueLocal, LinkLocalV6, InV6Block, one] at range
    · simp [UniqueLocal, LinkLocalV6, InV6Block, zero] at range
    · simp only [UniqueLocal, LinkLocalV6, InV6Block] at range
      omega

/-- An IPv4-mapped address passes whatever it maps. -/
theorem isPublicIp_mapped (ip : Ipv4Addr) : isPublicIp (.v6 ip.toIpv6Mapped) = true := by
  by_contra blocked
  rcases (isPublicIp_v6 _).mp (by simpa using blocked) with one | zero | multicast
  · simp [Ipv4Addr.toIpv6Mapped, Ipv4Addr.groups, List.replicate] at one
  · simp [Ipv4Addr.toIpv6Mapped, Ipv4Addr.groups, List.replicate] at zero
  · simp [Ipv4Addr.toIpv6Mapped, List.replicate] at multicast

/-! ### The text the filter reads -/

theorem isIpChar_not_bracket {c : Char} (allowed : IsIpChar c) : (c == '[' || c == ']') = false := by
  rcases allowed with digit | rfl | rfl
  · by_contra bracket
    simp only [Bool.not_eq_false, Bool.or_eq_true, beq_iff_eq] at bracket
    rcases bracket with rfl | rfl <;> simp [toDigit] at digit
  · decide
  · decide

theorem decimal_not_colon {c : Char} (decimal : IsDecimal c) : c ≠ ':' := by
  rintro rfl
  simp [IsDecimal, toDigit] at decimal

theorem destHost_unbracketed {host port : List Char} (hostChars : ∀ c ∈ host, IsIpChar c)
    (digits : ∀ c ∈ port, IsDecimal c) : destHost (String.ofList (host ++ ':' :: port)) = host := by
  have split := Text.rsplitOnce_append host port (fun member => decimal_not_colon (digits _ member) rfl)
  simp only [destHost, String.toList_ofList, split]
  exact Text.trimMatches_of_ends
    (fun c front => isIpChar_not_bracket (hostChars c (List.mem_of_head? front)))
    (fun c back => isIpChar_not_bracket (hostChars c (List.mem_of_getLast? back)))

theorem destHost_bracketed {host port : List Char}
    (inside : ∀ c ∈ host, (c == '[' || c == ']') = false) (digits : ∀ c ∈ port, IsDecimal c) :
    destHost (String.ofList ('[' :: host ++ ']' :: ':' :: port)) = host := by
  have split := Text.rsplitOnce_append ('[' :: host ++ [']']) port (fun member => decimal_not_colon (digits _ member) rfl)
  rw [List.append_assoc] at split
  simp only [destHost, String.toList_ofList]
  simp only [List.cons_append, List.nil_append] at split ⊢
  simp only [split]
  exact Text.trimMatches_enclosed rfl rfl inside

theorem toDigits_decimal (n : Nat) : ∀ c ∈ Nat.toDigits 10 n, IsDecimal c := by
  obtain ⟨digits, printed, bounded, -⟩ := toDigits_values (show 1 < 10 by decide) n
  intro c member
  rw [printed] at member
  obtain ⟨digit, inside, rfl⟩ := List.mem_map.mp member
  simp [IsDecimal, toDigit_digitChar (.inl rfl) (bounded digit inside)]

/-- On the standard text of an address and a port the filter decides by the address. -/
theorem isDestAllowed_socketText (ip : IpAddr) (port : UInt16) :
    isDestAllowed (String.ofList (ip.socketText port)) = isPublicIp ip := by
  have parsed := parseIpAddr_text ip
  have chars := parseIpAddr_chars parsed
  have digits := toDigits_decimal port.toNat
  have host : destHost (String.ofList (ip.socketText port)) = ip.text := by
    cases ip with
    | v4 v4 => exact destHost_unbracketed chars digits
    | v6 v6 => exact destHost_bracketed (fun c member => isIpChar_not_bracket (chars c member)) digits
  simp only [isDestAllowed, host, parsed]

/-! ### Classification -/

/-- What the filter should do with an address: block it when it is reserved. -/
def BlocksReserved (ip : IpAddr) (port : UInt16) : Prop :=
  Reserved ip → isPublicIp ip = false ∧ isDestAllowed (String.ofList (ip.socketText port)) = false

/-- What the filter should do with the two representations of an IPv4 host. -/
def MappedAgrees (ip : Ipv4Addr) : Prop := isPublicIp (.v6 ip.toIpv6Mapped) = isPublicIp (.v4 ip)

/-- Reserved addresses are blocked exactly outside `fc00::/7` and `fe80::/10`,
and an IPv4 host is classified like its mapped form exactly when it is public. -/
theorem ssrf_classification_exact (ip : IpAddr) (port : UInt16) (host : Ipv4Addr) :
    (BlocksReserved ip port ↔ ¬ (UniqueLocal ip ∨ LinkLocalV6 ip)) ∧ (MappedAgrees host ↔ ¬ Reserved (.v4 host)) := by
  constructor
  · simp only [BlocksReserved, isDestAllowed_socketText, and_self]
    constructor
    · intro blocks range
      have reserved : Reserved ip := by
        cases ip with
        | v4 ip => rcases range with impossible | impossible <;> exact impossible.elim
        | v6 ip => rcases range with range | range
                   · exact .inl range
                   · exact .inr (.inl range)
      have allowed := isPublicIp_of_local range
      rw [blocks reserved] at allowed
      cases allowed
    · intro known reserved
      cases ip with
      | v4 ip => exact (isPublicIp_v4 ip).mpr reserved
      | v6 ip =>
        rcases reserved with range | range | one | zero
        · exact absurd (.inl range) known
        · exact absurd (.inr range) known
        · exact (isPublicIp_v6 ip).mpr (.inl one)
        · exact (isPublicIp_v6 ip).mpr (.inr (.inl zero))
  · rw [MappedAgrees, isPublicIp_mapped, ← isPublicIp_v4]
    cases isPublicIp (.v4 host) <;> simp

/-- `fd00::1` is unique local and passes; so does a private IPv4 host written as
an IPv4-mapped address. -/
theorem unique_local_passes :
    Reserved (.v6 ⟨[0xfd00, 0, 0, 0, 0, 0, 0, 1], rfl⟩) ∧
    isPublicIp (.v6 ⟨[0xfd00, 0, 0, 0, 0, 0, 0, 1], rfl⟩) = true ∧
    isDestAllowed "[fd00::1]:80" = true ∧
    isPublicIp (.v6 (Ipv4Addr.toIpv6Mapped ⟨10, 0, 0, 1⟩)) ≠ isPublicIp (.v4 ⟨10, 0, 0, 1⟩) :=
  ⟨.inl (by simp [UniqueLocal, InV6Block]), by decide, by decide, by decide⟩

/-! ### The check against the connector -/

private theorem readPort_some {input rest : List Char} {port : UInt16} (read : readPort input = some (port, rest)) :
    ∃ digits, input = ':' :: (digits ++ rest) ∧ ∀ c ∈ digits, IsDecimal c := by
  obtain ⟨⟨value, left⟩, number, same⟩ := Option.map_eq_some_iff.mp read
  obtain ⟨remaining, colon, number⟩ := Option.bind_eq_some_iff.mp number
  cases same
  obtain ⟨digits, rfl, decimal⟩ := readNumber_consumes 10 none true 65535 _ _ _ number
  exact ⟨digits, readGivenChar_some colon, decimal⟩

private theorem readScopeId_some {input rest : List Char} {scopeId : UInt32}
    (read : readScopeId input = some (scopeId, rest)) :
    ∃ digits, input = '%' :: (digits ++ rest) ∧ ∀ c ∈ digits, IsDecimal c := by
  obtain ⟨⟨value, left⟩, number, same⟩ := Option.map_eq_some_iff.mp read
  obtain ⟨remaining, percent, number⟩ := Option.bind_eq_some_iff.mp number
  cases same
  obtain ⟨digits, rfl, decimal⟩ := readNumber_consumes 10 none true 4294967295 _ _ _ number
  exact ⟨digits, readGivenChar_some percent, decimal⟩

private theorem endsIpv6_bracket : EndsIpv6 ']' := ⟨by unfold EndsDigits; decide, by decide, by decide⟩
private theorem endsIpv6_percent : EndsIpv6 '%' := ⟨by unfold EndsDigits; decide, by decide, by decide⟩

theorem isIpChar_not_percent {c : Char} (allowed : IsIpChar c) : c ≠ '%' := by
  rintro rfl
  simp [IsIpChar, toDigit] at allowed

/-- The forms of a string `SocketAddr::from_str` accepts: a dotted quad and a
port, or a bracketed IPv6 literal with an optional scope id. -/
inductive Literal (dest : String) : IpAddr → Prop where
  | dotted {ip host port} (text : dest = String.ofList (host ++ ':' :: port))
      (read : readIpv4Addr host = some (ip, [])) (digits : ∀ c ∈ port, IsDecimal c) : Literal dest (.v4 ip)
  | bracketed {ip host port} (text : dest = String.ofList ('[' :: host ++ ']' :: ':' :: port))
      (read : readIpv6Addr host = some (ip, [])) (digits : ∀ c ∈ port, IsDecimal c) : Literal dest (.v6 ip)
  | withScope {ip host scope port} (text : dest = String.ofList ('[' :: (host ++ '%' :: scope) ++ ']' :: ':' :: port))
      (read : readIpv6Addr host = some (ip, [])) (scopeDigits : ∀ c ∈ scope, IsDecimal c)
      (digits : ∀ c ∈ port, IsDecimal c) : Literal dest (.v6 ip)

theorem parseSocketAddr_literal {dest : String} {addr : SocketAddr}
    (parsed : parseSocketAddr dest.toList = some addr) : Literal dest addr.ip := by
  rcases Option.or_eq_some_iff.mp (parseWith_some.mp parsed) with v4 | ⟨-, v6⟩
  · obtain ⟨⟨ip, rest⟩, read, last⟩ := Option.bind_eq_some_iff.mp v4
    obtain ⟨⟨port, left⟩, tail, same⟩ := Option.map_eq_some_iff.mp last
    cases same
    obtain ⟨digits, rfl, decimal⟩ := readPort_some tail
    obtain ⟨host, text, -⟩ := readIpv4Addr_consumes _ _ _ read
    rw [text] at read
    have alone := readIpv4Addr_splits.alone (by rintro c ⟨⟩; exact ⟨endsDigits_colon, by decide⟩) read
    rw [List.append_nil] at text
    exact .dotted (by rw [← text, String.ofList_toList]) alone decimal
  · obtain ⟨body, opened, v6⟩ := Option.bind_eq_some_iff.mp v6
    obtain ⟨⟨ip, rest⟩, read, v6⟩ := Option.bind_eq_some_iff.mp v6
    obtain ⟨remaining, closed, v6⟩ := Option.bind_eq_some_iff.mp v6
    obtain ⟨⟨port, left⟩, tail, same⟩ := Option.map_eq_some_iff.mp v6
    cases same
    obtain ⟨digits, rfl, decimal⟩ := readPort_some tail
    obtain ⟨host, rfl, -⟩ := readIpv6Addr_consumes _ _ _ read
    have whole := readGivenChar_some opened
    have bracket := readGivenChar_some closed
    simp only [List.append_nil] at bracket
    cases scope : readScopeId rest with
    | none =>
      rw [scope, Option.getD_none] at bracket
      simp only at bracket
      subst bracket
      have alone := readIpv6Addr_splits.alone (by rintro c ⟨⟩; exact endsIpv6_bracket) read
      exact .bracketed (by rw [List.cons_append, ← whole, String.ofList_toList]) alone decimal
    | some found =>
      obtain ⟨scopeText, rfl, scopeDecimal⟩ := readScopeId_some scope
      rw [scope, Option.getD_some] at bracket
      rw [bracket] at whole
      have alone := readIpv6Addr_splits.alone (by rintro c ⟨⟩; exact endsIpv6_percent) read
      exact .withScope (by simp only [List.cons_append, List.append_assoc, ← whole, String.ofList_toList]) alone
        scopeDecimal decimal

private theorem ipChars_no_percent {host : List Char} (chars : ∀ c ∈ host, IsIpChar c) : '%' ∉ host :=
  fun member => isIpChar_not_percent (chars _ member) rfl

private theorem digits_no_percent {port : List Char} (digits : ∀ c ∈ port, IsDecimal c) : '%' ∉ port :=
  ipChars_no_percent fun c member => decimal_ipChar (digits c member)

/-- A scope id inside the brackets is part of the host the filter parses, which
then is no IP address and passes as a name. -/
theorem destHost_scoped {host scope port : List Char} (hostChars : ∀ c ∈ host, IsIpChar c)
    (scopeDigits : ∀ c ∈ scope, IsDecimal c) (digits : ∀ c ∈ port, IsDecimal c) :
    destHost (String.ofList ('[' :: (host ++ '%' :: scope) ++ ']' :: ':' :: port)) = host ++ '%' :: scope := by
  refine destHost_bracketed ?_ digits
  intro c member
  rcases List.mem_append.mp member with inHost | inScope
  · exact isIpChar_not_bracket (hostChars c inHost)
  · rcases List.mem_cons.mp inScope with rfl | digit
    · decide
    · exact isIpChar_not_bracket (decimal_ipChar (scopeDigits c digit))

/-- Without a scope id the filter reads the literal the connector dials; with one
it reads no address at all. -/
theorem destHost_dialed {dest : String} {addr : SocketAddr} (dialed : parseSocketAddr dest.toList = some addr) :
    parseIpAddr (destHost dest) = if '%' ∈ dest.toList then none else some addr.ip := by
  have literal := parseSocketAddr_literal dialed
  generalize addr.ip = target at literal ⊢
  cases literal with
  | @dotted ip host port text read digits =>
    have parsed := parseIpAddr_v4 read
    have hostChars := parseIpAddr_chars parsed
    have absent : '%' ∉ dest.toList := by
      simp [text, ipChars_no_percent hostChars, digits_no_percent digits]
    rw [if_neg absent, text, destHost_unbracketed hostChars digits, parsed]
  | @bracketed ip host port text read digits =>
    have parsed := parseIpAddr_v6 read
    have hostChars := parseIpAddr_chars parsed
    have absent : '%' ∉ dest.toList := by
      simp [text, ipChars_no_percent hostChars, digits_no_percent digits]
    rw [if_neg absent, text, destHost_bracketed (fun c member => isIpChar_not_bracket (hostChars c member)) digits,
      parsed]
  | @withScope ip host scope port text read scopeDigits digits =>
    have hostChars := parseIpAddr_chars (parseIpAddr_v6 read)
    have present : '%' ∈ dest.toList := by simp [text]
    rw [if_pos present, text, destHost_scoped hostChars scopeDigits digits]
    cases parsed : parseIpAddr (host ++ '%' :: scope) with
    | none => rfl
    | some found => exact absurd rfl (isIpChar_not_percent (parseIpAddr_chars parsed '%' (by simp)))

/-- On every string the connector dials as a literal, the filter decides by the
same address exactly when there is no scope id. With one the string counts as a
host name, and the decision is still right exactly when the address is public. -/
theorem check_reads_dialed_literal (dest : String) (addr : SocketAddr)
    (dialed : parseSocketAddr dest.toList = some addr) :
    (isDestAllowed dest = isPublicIp addr.ip ∧ parseIpAddr (destHost dest) = some addr.ip ↔ '%' ∉ dest.toList) ∧
      (isDestAllowed dest = isPublicIp addr.ip ↔ '%' ∉ dest.toList ∨ isPublicIp addr.ip = true) := by
  have parsed := destHost_dialed dialed
  by_cases present : '%' ∈ dest.toList
  · rw [if_pos present] at parsed
    have passes : isDestAllowed dest = true := by simp only [isDestAllowed, parsed]
    simp [passes, parsed, present]
  · rw [if_neg present] at parsed
    have decided : isDestAllowed dest = isPublicIp addr.ip := by simp only [isDestAllowed, parsed]
    simp only [decided, parsed, present, and_self, not_false_eq_true, true_or]

theorem check_reads_loopback_literal :
    (isDestAllowed "127.0.0.1:80" = isPublicIp (.v4 ⟨127, 0, 0, 1⟩) ∧
        parseIpAddr (destHost "127.0.0.1:80") = some (.v4 ⟨127, 0, 0, 1⟩) ↔ '%' ∉ "127.0.0.1:80".toList) ∧
      (isDestAllowed "127.0.0.1:80" = isPublicIp (.v4 ⟨127, 0, 0, 1⟩) ↔
        '%' ∉ "127.0.0.1:80".toList ∨ isPublicIp (.v4 ⟨127, 0, 0, 1⟩) = true) :=
  check_reads_dialed_literal "127.0.0.1:80" (.v4 ⟨127, 0, 0, 1⟩ 80) (by decide)

/-- The connector dials `[::1%1]:80` as the loopback address; the filter takes it
for a host name and lets it pass. -/
theorem scoped_loopback_passes :
    parseSocketAddr "[::1%1]:80".toList = some (.v6 ⟨[0, 0, 0, 0, 0, 0, 0, 1], rfl⟩ 80 1) ∧
    isPublicIp (.v6 ⟨[0, 0, 0, 0, 0, 0, 0, 1], rfl⟩) = false ∧
    isDestAllowed "[::1%1]:80" = true ∧ parseIpAddr (destHost "[::1%1]:80") = none :=
  ⟨by decide, by decide, by decide, by decide⟩

end EchoProxy.Proofs.Ssrf
