import EchoProxy.Routing
import EchoProxy.Proofs.Ssrf

/-! Whether the HTTP and the SOCKS5 front end route one target alike. They split the
same text; only the SOCKS5 one takes the brackets off an IPv6 address. -/

namespace EchoProxy.Proofs.Routing
open EchoProxy IpParser IpText Ssrf

/-! ### Rules -/

def Proxied (config : RoutingConfig) (host : List Char) (port : UInt16) : Prop := ∃ r ∈ config.proxy, r.matches host port = true
def Bypassed (config : RoutingConfig) (host : List Char) (port : UInt16) : Prop := ∃ r ∈ config.bypass, r.matches host port = true
def Listed (config : RoutingConfig) (host : List Char) : Prop := ∃ gs, config.bypassGeosite = some gs ∧ gs.matches host = true
def InCidrs (config : RoutingConfig) (ip : IpAddr) : Prop := ∃ n ∈ config.bypassCidrs, n.contains ip = true

/-- The decision by the rules that match; the text of the target is lowered first. -/
theorem shouldBypass_iff (config : RoutingConfig) (lower : Lowercase) (host : List Char) (port : UInt16) :
    config.shouldBypass lower host port = true ↔
      ¬Proxied config (lower.apply host) port ∧ (Bypassed config (lower.apply host) port ∨ Listed config (lower.apply host) ∨
        ∃ ip, parseIpAddr (lower.apply host) = some ip ∧ InCidrs config ip) := by
  have proxied : config.proxy.any (·.matches (lower.apply host) port) = true ↔ Proxied config (lower.apply host) port := List.any_eq_true
  have bypassed : config.bypass.any (·.matches (lower.apply host) port) = true ↔ Bypassed config (lower.apply host) port :=
    List.any_eq_true
  have listed : config.bypassGeosite.any (·.matches (lower.apply host)) = true ↔ Listed config (lower.apply host) :=
    Option.any_eq_true _ _
  unfold RoutingConfig.shouldBypass
  rw [← proxied, ← bypassed, ← listed]
  dsimp only
  split
  · next first => simp [first]
  · next first =>
    split
    · next second => simp [first, second]
    · next second =>
      split
      · next third => simp [first, second, third]
      · next third =>
        cases parsed : parseIpAddr (lower.apply host) with
        | none => simp [second, third]
        | some ip => simp [first, second, third, InCidrs]

/-! ### Ports -/

private theorem digitChar_value {digit : Nat} (small : digit < 10) :
    (Nat.digitChar digit).isDigit = true ∧ (Nat.digitChar digit).toNat - '0'.toNat = digit := by
  interval_cases digit <;> decide

private theorem toDigits_isDigit (n : Nat) : ∀ c ∈ Nat.toDigits 10 n, c.isDigit = true := by
  obtain ⟨digits, printed, bounded, -⟩ := toDigits_values (show 1 < 10 by decide) n
  intro c member
  rw [printed] at member
  obtain ⟨digit, inside, rfl⟩ := List.mem_map.mp member
  exact (digitChar_value (bounded digit inside)).1

private theorem decimalValue_toDigits (n : Nat) : Text.decimalValue (Nat.toDigits 10 n) = n := by
  obtain ⟨digits, printed, bounded, value, -⟩ := toDigits_values (show 1 < 10 by decide) n
  have folded : ∀ (rest : List Nat) (start : Nat), (∀ digit ∈ rest, digit < 10) →
      (rest.map Nat.digitChar).foldl (fun value digit => value * 10 + (digit.toNat - '0'.toNat)) start =
        rest.foldl (fun value digit => value * 10 + digit) start := by
    intro rest
    induction rest with
    | nil => intro start _; rfl
    | cons digit rest ih =>
      intro start small
      rw [List.map_cons, List.foldl_cons, List.foldl_cons, (digitChar_value (small digit (by simp))).2]
      exact ih _ fun later member => small later (by simp [member])
  rw [printed, Text.decimalValue, folded digits 0 bounded, value]

theorem parseUnsigned_toDigits {largest n : Nat} (fits : n ≤ largest) : Text.parseUnsigned largest (Nat.toDigits 10 n) = some n := by
  have value := decimalValue_toDigits n
  rw [Text.parseUnsigned_digits Nat.toDigits_ne_nil (toDigits_isDigit n) (value.symm ▸ fits), value]

theorem parsePort_toDigits (port : UInt16) : parsePort (Nat.toDigits 10 port.toNat) = some port := by
  have fits : port.toNat ≤ 65535 := Nat.le_of_lt_succ port.toNat_lt
  rw [parsePort, parseUnsigned_toDigits fits]
  simp

/-- A port in decimal digits, leading zeros allowed. -/
structure PortText where
  digits : List Char
  present : digits ≠ []
  decimal : ∀ c ∈ digits, c.isDigit = true
  fits : Text.decimalValue digits ≤ 65535

def PortText.port (text : PortText) : UInt16 := UInt16.ofNat (Text.decimalValue text.digits)

/-- Written as `0443`. -/
def port443 : PortText := ⟨['0', '4', '4', '3'], by decide, List.all_eq_true.mp rfl, by decide⟩

theorem PortText.parsed (text : PortText) : parsePort text.digits = some text.port := by
  rw [parsePort, Text.parseUnsigned_digits text.present text.decimal text.fits]
  rfl

theorem isDigit_digitChar {c : Char} (digit : c.isDigit = true) : ∃ d < 10, c = Nat.digitChar d := by
  have range : 48 ≤ c.toNat ∧ c.toNat ≤ 57 := by simpa [Char.isDigit, UInt32.le_iff_toNat_le] using digit
  have value : ∀ n, 48 ≤ n → n ≤ 57 → (Nat.digitChar (n - 48)).toNat = n := by
    intro n low high
    interval_cases n <;> decide
  refine ⟨c.toNat - 48, by omega, ?_⟩
  rw [← Char.toNat_inj, value _ range.1 range.2]

theorem isDigit_not_colon {c : Char} (digit : c.isDigit = true) : c ≠ ':' := by
  obtain ⟨d, small, rfl⟩ := isDigit_digitChar digit
  interval_cases d <;> decide

theorem PortText.colonFree (text : PortText) : ':' ∉ text.digits :=
  fun member => isDigit_not_colon (text.decimal _ member) rfl

/-! ### Targets -/

/-- What a local client asks for. -/
inductive Target where
  | ip (addr : IpAddr)
  | dns (name : List Char) (unbracketed : ∀ c ∈ name, (c == '[' || c == ']') = false)

/-- The Host value of an HTTP request for the target, and the address the SOCKS5
front end makes of its request. -/
def Target.text : Target → UInt16 → List Char
  | .ip addr, port => addr.socketText port
  | .dns name _, port => name ++ ':' :: Nat.toDigits 10 port.toNat

theorem split_text (host : List Char) (port : UInt16) :
    httpHostPort (host ++ ':' :: Nat.toDigits 10 port.toNat) = (host, port) ∧
      splitHostPort (host ++ ':' :: Nat.toDigits 10 port.toNat) = (Text.trimMatches (fun c => c == '[' || c == ']') host, port) := by
  have digits := toDigits_decimal port.toNat
  have split := Text.rsplitOnce_append host _ (fun member => decimal_not_colon (digits _ member) rfl)
  simp [httpHostPort, splitHostPort, split, parsePort_toDigits]

theorem trim_unbracketed {host : List Char} (inside : ∀ c ∈ host, (c == '[' || c == ']') = false) :
    Text.trimMatches (fun c => c == '[' || c == ']') host = host :=
  Text.trimMatches_of_ends (fun c front => inside c (List.mem_of_head? front)) (fun c back => inside c (List.mem_of_getLast? back))

/-! ### The text of an IPv6 address -/

/-- A character that lowering leaves alone. -/
def Low (c : Char) : Prop := c.toNat < 128 ∧ c.toLower = c

theorem toDigits_low {radix : Nat} (known : radix = 10 ∨ radix = 16) (n : Nat) : ∀ c ∈ Nat.toDigits radix n, Low c := by
  obtain ⟨digits, printed, bounded, -⟩ := toDigits_values (show 1 < radix by omega) n
  intro c member
  rw [printed] at member
  obtain ⟨digit, inside, rfl⟩ := List.mem_map.mp member
  have small : digit < 16 := (bounded digit inside).trans_le (by omega)
  unfold Low
  interval_cases digit <;> decide

theorem groupsText_low (first : Bool) (groups : List UInt16) : ∀ c ∈ groupsText first groups, Low c := by
  induction groups generalizing first with
  | nil => intro c member; cases first <;> cases member
  | cons group rest ih =>
    intro c member
    have digits := toDigits_low (.inr rfl) group.toNat
    cases first with
    | true => rcases List.mem_append.mp member with here | later; exacts [digits c here, ih false c later]
    | false =>
      rcases List.mem_append.mp member with here | later
      · rcases List.mem_cons.mp here with rfl | here
        · unfold Low; decide
        · exact digits c here
      · exact ih false c later

theorem ipv4_low (ip : Ipv4Addr) : ∀ c ∈ ip.text, Low c := by
  intro c member
  have dot : Low '.' := by unfold Low; decide
  have digits (octet : UInt8) := toDigits_low (.inl rfl) octet.toNat c
  simp only [Ipv4Addr.text, List.mem_append, List.mem_cons] at member
  rcases member with ((a | rfl | b) | rfl | c') | rfl | d <;> first | exact dot | exact digits _ ‹_›

theorem ipv6_low (ip : Ipv6Addr) : ∀ c ∈ ip.text, Low c := by
  intro c member
  have colon : Low ':' := by unfold Low; decide
  unfold Ipv6Addr.text at member
  split at member
  · next v4 _ =>
    simp only [List.mem_cons] at member
    have letter : Low 'f' := by unfold Low; decide
    rcases member with rfl | rfl | rfl | rfl | rfl | rfl | rfl | later <;>
      first | exact colon | exact letter | exact ipv4_low v4 c later
  · dsimp only at member
    split at member
    · simp only [List.mem_append, List.mem_cons] at member
      rcases member with front | rfl | rfl | back
      · exact groupsText_low _ _ c front
      · exact colon
      · exact colon
      · exact groupsText_low _ _ c back
    · exact groupsText_low _ _ c member

theorem lower_low (lower : Lowercase) {text : List Char} (low : ∀ c ∈ text, Low c) : lower.apply text = text := by
  rw [lower.ascii text fun c member => (low c member).1]
  exact (List.map_congr_left fun c member => (low c member).2).trans (List.map_id text)

/-! ### The two front ends -/

def bracketed (ip : Ipv6Addr) : List Char := '[' :: ip.text ++ [']']

/-- The rules come to the same for the bracketed text of the address, which no CIDR
rule reads, as for its bare text. -/
def SameRules (config : RoutingConfig) (ip : Ipv6Addr) (port : UInt16) : Prop :=
  (¬Proxied config (bracketed ip) port ∧ (Bypassed config (bracketed ip) port ∨ Listed config (bracketed ip))) ↔
    (¬Proxied config ip.text port ∧ (Bypassed config ip.text port ∨ Listed config ip.text ∨ InCidrs config (.v6 ip)))

def RoutedAlike (config : RoutingConfig) : Target → UInt16 → Prop
  | .ip (.v6 ip), port => SameRules config ip port
  | _, _ => True

theorem ipv4_colonFree (ip : Ipv4Addr) : ':' ∉ ip.text := by
  have digits (octet : UInt8) : ':' ∉ Nat.toDigits 10 octet.toNat :=
    fun member => decimal_not_colon (toDigits_decimal _ _ member) rfl
  simp [Ipv4Addr.text, digits]

theorem bracketed_low (ip : Ipv6Addr) : ∀ c ∈ bracketed ip, Low c := by
  intro c member
  simp only [bracketed, List.mem_append, List.mem_cons, List.not_mem_nil, or_false] at member
  rcases member with (rfl | inside) | rfl
  · unfold Low; decide
  · exact ipv6_low ip c inside
  · unfold Low; decide

private theorem bracketed_unparsed (ip : Ipv6Addr) : parseIpAddr (bracketed ip) = none := by
  cases parsed : parseIpAddr (bracketed ip) with
  | none => rfl
  | some found =>
    have bracket := isIpChar_not_bracket (parseIpAddr_chars parsed '[' (by simp [bracketed]))
    simp at bracket

private theorem splits_alike {host : List Char} (inside : ∀ c ∈ host, (c == '[' || c == ']') = false) (port : UInt16) :
    httpHostPort (host ++ ':' :: Nat.toDigits 10 port.toNat) = splitHostPort (host ++ ':' :: Nat.toDigits 10 port.toNat) := by
  rw [(split_text host port).1, (split_text host port).2, trim_unbracketed inside]

theorem trim_bracketed (ip : Ipv6Addr) : Text.trimMatches (fun c => c == '[' || c == ']') (bracketed ip) = ip.text :=
  Text.trimMatches_enclosed rfl rfl fun c member => isIpChar_not_bracket (parseIpAddr_chars (parseIpAddr_text (.v6 ip)) c member)

private theorem ipv6_splits (ip : Ipv6Addr) (port : UInt16) :
    httpHostPort (Target.text (.ip (.v6 ip)) port) = (bracketed ip, port) ∧
      splitHostPort (Target.text (.ip (.v6 ip)) port) = (ip.text, port) := by
  have whole : Target.text (.ip (.v6 ip)) port = bracketed ip ++ ':' :: Nat.toDigits 10 port.toNat := by
    simp [Target.text, IpAddr.socketText, bracketed]
  rw [whole, (split_text _ port).1, (split_text _ port).2, trim_bracketed]
  exact ⟨rfl, rfl⟩

/-- Addresses of version 4 and names are routed alike by the two front ends; an IPv6
address exactly if its bracketed and its bare text come to the same. -/
theorem front_ends_agree (config : RoutingConfig) (lower : Lowercase) (target : Target) (port : UInt16) :
    config.shouldBypass lower (httpHostPort (target.text port)).1 (httpHostPort (target.text port)).2 =
      config.shouldBypass lower (splitHostPort (target.text port)).1 (splitHostPort (target.text port)).2 ↔
    RoutedAlike config target port := by
  cases target with
  | dns name unbracketed =>
    rw [Target.text, splits_alike unbracketed]
    exact iff_of_true rfl trivial
  | ip addr =>
    cases addr with
    | v4 ip =>
      have chars : ∀ c ∈ ip.text, IsIpChar c := parseIpAddr_chars (parseIpAddr_text (.v4 ip))
      rw [Target.text, IpAddr.socketText, splits_alike fun c member => isIpChar_not_bracket (chars c member)]
      exact iff_of_true rfl trivial
    | v6 ip =>
      have bare := parseIpAddr_text (.v6 ip)
      rw [(ipv6_splits ip port).1, (ipv6_splits ip port).2, Bool.eq_iff_iff, shouldBypass_iff, shouldBypass_iff,
        lower_low lower (bracketed_low ip), lower_low lower (ipv6_low ip), bracketed_unparsed]
      simp only [IpAddr.text] at bare
      simp [bare, RoutedAlike, SameRules]

def ipv6Loopback : Ipv6Addr := ⟨[0, 0, 0, 0, 0, 0, 0, 1], rfl⟩

/-- A client that bypasses its own loopback address. -/
private def loopbackDirect : RoutingConfig := ⟨[], [], none, [.v6 ipv6Loopback 128 (by decide)]⟩

theorem loopback_routed_apart : ¬∀ (config : RoutingConfig) (lower : Lowercase) (target : Target) (port : UInt16),
    config.shouldBypass lower (httpHostPort (target.text port)).1 (httpHostPort (target.text port)).2 =
      config.shouldBypass lower (splitHostPort (target.text port)).1 (splitHostPort (target.text port)).2 := by
  intro alike
  have same := alike loopbackDirect asciiLowercase (.ip (.v6 ⟨[0, 0, 0, 0, 0, 0, 0, 1], rfl⟩)) 443
  revert same
  decide +kernel

end EchoProxy.Proofs.Routing
