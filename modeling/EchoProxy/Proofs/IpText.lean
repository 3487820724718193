import EchoProxy.Proofs.IpParser
import Mathlib.Tactic.IntervalCases

/-! Printing an address and parsing the text gives the address back. -/

namespace EchoProxy.Proofs.IpText
open EchoProxy Reader IpParser

/-! ### Numbers -/

theorem toDigit_digitChar {radix digit : Nat} (known : radix = 10 ∨ radix = 16) (small : digit < radix) :
    toDigit radix (Nat.digitChar digit) = some digit := by
  rcases known with rfl | rfl <;> interval_cases digit <;> decide

/-- The digit values of a printed number. -/
theorem toDigits_values {radix : Nat} (two : 1 < radix) (n : Nat) :
    ∃ digits : List Nat, Nat.toDigits radix n = digits.map Nat.digitChar ∧ (∀ digit ∈ digits, digit < radix) ∧
      digits.foldl (fun result digit => result * radix + digit) 0 = n ∧ (digits.head? = some 0 → n = 0) := by
  induction n using Nat.strongRecOn with
  | ind n ih =>
    by_cases small : n < radix
    · refine ⟨[n], by simp [Nat.toDigits_of_lt_base small], by simpa using small, by simp, by simp⟩
    · have smaller : n / radix < n := Nat.div_lt_self (by omega) two
      have positive : 0 < n / radix := Nat.div_pos (by omega) (by omega)
      obtain ⟨digits, printed, bounded, value, leading⟩ := ih (n / radix) smaller
      refine ⟨digits ++ [n % radix], ?_, ?_, ?_, ?_⟩
      · rw [Nat.toDigits_of_base_le two (by omega), printed]
        simp
      · intro digit member
        rcases List.mem_append.mp member with member | member
        · exact bounded digit member
        · rw [List.mem_singleton.mp member]
          exact Nat.mod_lt n (by omega)
      · rw [List.foldl_append, value]
        exact Nat.div_add_mod' n radix
      · intro zero
        cases digits with
        | nil => simp only [List.foldl_nil] at value; omega
        | cons digit rest => exact absurd (leading zero) (by omega)

theorem spanDigits_printed {radix : Nat} (known : radix = 10 ∨ radix = 16) {digits : List Nat} {rest : List Char}
    (bounded : ∀ digit ∈ digits, digit < radix) (stops : ∀ c, rest.head? = some c → EndsDigits c) :
    spanDigits radix (digits.map Nat.digitChar ++ rest) = (digits, rest) := by
  induction digits with
  | nil =>
    cases rest with
    | nil => rfl
    | cons c rest => simp [spanDigits, toDigit_none known (stops c rfl)]
  | cons digit digits ih =>
    have first := toDigit_digitChar known (bounded digit (by simp))
    simp [spanDigits, first, ih (fun later member => bounded later (by simp [member]))]

/-- A number reads back from its text when the reader's limits allow it. -/
theorem readNumber_toDigits {radix : Nat} (known : radix = 10 ∨ radix = 16) (maxDigits : Option Nat) (zero : Bool)
    {bound n : Nat} {rest : List Char} (short : ∀ limit, maxDigits = some limit → (Nat.toDigits radix n).length ≤ limit)
    (fits : n ≤ bound) (stops : ∀ c, rest.head? = some c → EndsDigits c) :
    readNumber radix maxDigits zero bound (Nat.toDigits radix n ++ rest) = some (n, rest) := by
  have two : 1 < radix := by omega
  obtain ⟨digits, printed, bounded, value, leading⟩ := toDigits_values two n
  have length : (Nat.toDigits radix n).length = digits.length := by simp [printed]
  have present : digits ≠ [] := by
    rintro rfl
    exact Nat.toDigits_ne_nil printed
  have noLimit : maxDigits.any (· < digits.length) = false := by
    cases limit : maxDigits with
    | none => rfl
    | some limit' => simpa [← length] using short limit' limit
  have noZero : (!zero && digits.head? == some 0 && decide (digits.length > 1)) = false := by
    by_cases leads : digits.head? = some 0
    · have only : (Nat.toDigits radix n).length = 1 := by simp [leading leads, Nat.toDigits_zero]
      simp [← length, only]
    · simp [leads]
  simp [readNumber, printed, spanDigits_printed known bounded stops, noLimit, present, noZero, value, fits]

/-! ### IPv4 -/

theorem readOctet_toDigits (octet : UInt8) {rest : List Char} (stops : ∀ c, rest.head? = some c → EndsDigits c) :
    readOctet (Nat.toDigits 10 octet.toNat ++ rest) = some (octet, rest) := by
  have bound := octet.toNat_lt
  have short : (Nat.toDigits 10 octet.toNat).length ≤ 3 :=
    (Nat.length_toDigits_le_iff (by decide) (by decide)).mpr (by omega)
  have read := readNumber_toDigits (.inl rfl) (some 3) false (by simpa using short) (show octet.toNat ≤ 255 by omega) stops
  simp [readOctet, read]

theorem endsDigits_dot : EndsDigits '.' := by unfold EndsDigits; decide
theorem endsDigits_colon : EndsDigits ':' := by unfold EndsDigits; decide

private theorem readDotted_toDigits (octet : UInt8) {rest : List Char}
    (stops : ∀ c, rest.head? = some c → EndsDigits c) :
    readSeparator '.' false readOctet ('.' :: (Nat.toDigits 10 octet.toNat ++ rest)) = some (octet, rest) := by
  simp [readSeparator, readGivenChar, readOctet_toDigits octet stops]

theorem readIpv4Addr_text (ip : Ipv4Addr) {rest : List Char} (stops : ∀ c, rest.head? = some c → EndsDigits c) :
    readIpv4Addr (ip.text ++ rest) = some (ip, rest) := by
  have dot : ∀ (tail : List Char) (c : Char), ('.' :: tail).head? = some c → EndsDigits c := by
    intro tail c front
    cases front
    exact endsDigits_dot
  simp only [readIpv4Addr, Ipv4Addr.text, List.append_assoc, List.cons_append]
  rw [readOctet_toDigits ip.a (dot _), Option.bind_some, readDotted_toDigits ip.b (dot _), Option.bind_some,
    readDotted_toDigits ip.c (dot _), Option.bind_some, readDotted_toDigits ip.d stops]
  rfl

/-! ### IPv6 groups -/

theorem readGroup_toDigits (group : UInt16) {rest : List Char} (stops : ∀ c, rest.head? = some c → EndsDigits c) :
    readGroup (Nat.toDigits 16 group.toNat ++ rest) = some (group, rest) := by
  have bound := group.toNat_lt
  have short : (Nat.toDigits 16 group.toNat).length ≤ 4 :=
    (Nat.length_toDigits_le_iff (by decide) (by decide)).mpr (by omega)
  have read := readNumber_toDigits (.inr rfl) (some 4) true (by simpa using short) (show group.toNat ≤ 65535 by omega) stops
  simp [readGroup, read]

private theorem spanDigits_reaches {input rest tail : List Char} {sep : Char}
    (others : ∀ c ∈ input, c ≠ sep) (stops : ∀ c, rest.head? = some c → EndsDigits c)
    (reached : (spanDigits 10 (input ++ rest)).2 = sep :: tail) : rest.head? = some sep := by
  induction input with
  | nil =>
    cases rest with
    | nil => simp [spanDigits] at reached
    | cons c rest =>
      simp only [List.nil_append, spanDigits, toDigit_none (.inl rfl) (stops c rfl), List.cons.injEq] at reached
      simp [reached.1]
  | cons c input ih =>
    cases digit : toDigit 10 c with
    | none =>
      simp only [List.cons_append, spanDigits, digit, List.cons.injEq] at reached
      exact absurd reached.1 (others c (by simp))
    | some value =>
      simp only [List.cons_append, spanDigits, digit] at reached
      exact ih (fun c' member => others c' (by simp [member])) reached

/-- A text whose digits are not followed by a dot is not an IPv4 address. -/
theorem readIpv4Addr_none {input rest : List Char} (others : ∀ c ∈ input, c ≠ '.')
    (stops : ∀ c, rest.head? = some c → EndsDigits c ∧ c ≠ '.') : readIpv4Addr (input ++ rest) = none := by
  cases read : readIpv4Addr (input ++ rest) with
  | none => rfl
  | some found =>
    obtain ⟨⟨a, remaining⟩, first, later⟩ := Option.bind_eq_some_iff.mp read
    obtain ⟨b, second, _⟩ := Option.bind_eq_some_iff.mp later
    obtain ⟨tail, dotted, _⟩ := Option.bind_eq_some_iff.mp second
    simp only [readOctet, readNumber, Option.map_eq_some_iff] at first
    obtain ⟨value, number, same⟩ := first
    split_ifs at number
    cases number
    simp only [Prod.mk.injEq] at same
    rw [← same.2] at dotted
    have front := spanDigits_reaches others (fun c found => (stops c found).1) (readGivenChar_some dotted)
    exact absurd rfl (stops '.' front).2

theorem toDigits_not_dot (n : Nat) : ∀ c ∈ Nat.toDigits 16 n, c ≠ '.' := by
  obtain ⟨digits, printed, bounded, -⟩ := toDigits_values (show 1 < 16 by decide) n
  intro c member same
  rw [printed] at member
  obtain ⟨digit, inside, rfl⟩ := List.mem_map.mp member
  have read := toDigit_digitChar (.inr rfl) (bounded digit inside)
  rw [same] at read
  exact absurd read (by rw [show toDigit 16 '.' = none from endsDigits_dot]; simp)

/-- Nothing that looks like another group starts here. -/
def Blocked (rest : List Char) : Prop := ∀ left first, readGroups left first rest = ([], false, rest)

theorem blocked_nil : Blocked [] := by
  intro left first
  cases left with
  | zero => rfl
  | succ left => cases first <;> cases left <;> rfl

theorem blocked_colons (rest : List Char) : Blocked (':' :: ':' :: rest) := by
  have digits : spanDigits 10 (':' :: rest) = ([], ':' :: rest) := rfl
  have hex : spanDigits 16 (':' :: rest) = ([], ':' :: rest) := rfl
  have digits' : spanDigits 10 (':' :: ':' :: rest) = ([], ':' :: ':' :: rest) := rfl
  have hex' : spanDigits 16 (':' :: ':' :: rest) = ([], ':' :: ':' :: rest) := rfl
  intro left first
  cases left with
  | zero => rfl
  | succ left =>
    cases first <;>
      simp [readGroups, readSeparator, readGivenChar, readIpv4Addr, readOctet, readGroup, readNumber, digits, hex,
        digits', hex']

private theorem groupsText_front {groups : List UInt16} {rest : List Char}
    (stops : ∀ c, rest.head? = some c → EndsDigits c ∧ c ≠ '.') :
    ∀ c, (groupsText false groups ++ rest).head? = some c → EndsDigits c ∧ c ≠ '.' := by
  intro c front
  cases groups with
  | nil => exact stops c front
  | cons group groups =>
    simp only [groupsText, List.cons_append, List.head?_cons, Option.some.injEq] at front
    subst front
    exact ⟨endsDigits_colon, by decide⟩

/-- Printed groups read back, up to whatever stops the reader after them. -/
theorem readGroups_groupsText {left : Nat} {first : Bool} {groups : List UInt16} {rest : List Char}
    (fits : groups.length ≤ left) (blocked : Blocked rest)
    (stops : ∀ c, rest.head? = some c → EndsDigits c ∧ c ≠ '.') :
    readGroups left first (groupsText first groups ++ rest) = (groups, false, rest) := by
  induction groups generalizing left first with
  | nil =>
    have empty : groupsText first [] = [] := by cases first <;> rfl
    rw [empty, List.nil_append, blocked]
  | cons group groups ih =>
    obtain ⟨left, rfl⟩ : ∃ smaller, left = smaller + 1 := ⟨left - 1, by simp at fits; omega⟩
    have front := @groupsText_front groups rest stops
    have read := readGroup_toDigits group (fun c found => (front c found).1)
    have embedded := readIpv4Addr_none (toDigits_not_dot group.toNat) front
    have later := @ih left false (by simpa using fits)
    cases first <;>
      simp [readGroups, readSeparator, readGivenChar, groupsText, List.append_assoc, embedded, read, later]

/-! ### The run of zeros -/

private theorem zeroSpan_valid {segments passed rest : List UInt16} {longest current : Span}
    (split : segments = passed ++ rest)
    (best : ∃ before after, passed = before ++ List.replicate longest.len 0 ++ after ∧
      (longest.len ≠ 0 → before.length = longest.start))
    (open_ : ∃ before, passed = before ++ List.replicate current.len 0 ∧
      (current.len ≠ 0 → before.length = current.start)) :
    let found := zeroSpan passed.length longest current rest
    ∃ before after, segments = before ++ List.replicate found.len 0 ++ after ∧
      (found.len ≠ 0 → before.length = found.start) := by
  induction rest generalizing passed longest current with
  | nil =>
    obtain ⟨before, after, same, start⟩ := best
    exact ⟨before, after, by rw [split, List.append_nil]; exact same, start⟩
  | cons segment rest ih =>
    have step : passed.length + 1 = (passed ++ [segment]).length := by simp
    by_cases zero : segment = 0
    · subst zero
      simp only [zeroSpan, step]
      obtain ⟨before, same, start⟩ := open_
      have grown : passed ++ [0] = before ++ List.replicate (current.len + 1) 0 := by
        rw [same, List.append_assoc, List.replicate_succ']
      have begins : before.length = if current.len = 0 then passed.length else current.start := by
        split
        next none => rw [same, none]; simp
        next some => exact start some
      apply ih (by simp [split])
      · split
        · exact ⟨before, [], by simpa using grown, fun _ => begins⟩
        · obtain ⟨before', after, same', start'⟩ := best
          exact ⟨before', after ++ [0], by rw [same']; simp, start'⟩
      · exact ⟨before, grown, fun _ => begins⟩
    · simp only [zeroSpan, if_neg zero, step]
      apply ih (by simp [split])
      · obtain ⟨before', after, same', start'⟩ := best
        exact ⟨before', after ++ [segment], by rw [same']; simp, start'⟩
      · exact ⟨passed ++ [segment], by simp, fun none => absurd rfl none⟩

/-- The run that `::` stands for is a run of zeros. -/
theorem zeroSpan_splits (segments : List UInt16) :
    let zeroes := zeroSpan 0 {} {} segments
    zeroes.len > 1 → segments = segments.take zeroes.start ++ List.replicate zeroes.len 0 ++
      segments.drop (zeroes.start + zeroes.len) := by
  intro zeroes long
  obtain ⟨before, after, same, start⟩ := @zeroSpan_valid segments [] segments {} {} rfl
    ⟨[], [], rfl, fun none => absurd rfl none⟩ ⟨[], rfl, fun none => absurd rfl none⟩
  have begins : before.length = zeroes.start := start (by change zeroes.len ≠ 0; omega)
  have front : segments.take zeroes.start = before := by
    rw [same, ← begins, List.append_assoc]
    exact List.take_left
  have back : segments.drop (zeroes.start + zeroes.len) = after := by
    have length : zeroes.start + zeroes.len = (before ++ List.replicate zeroes.len 0).length := by simp [begins]
    rw [same, length]
    exact List.drop_left
  rw [front, back]
  exact same

/-! ### IPv6 -/

theorem Ipv6Addr.ext_segments {ip other : Ipv6Addr} (same : ip.segments = other.segments) : ip = other := by
  cases ip
  cases other
  cases same
  rfl

theorem toIpv4Mapped_eq_some {ip : Ipv6Addr} {v4 : Ipv4Addr} (mapped : ip.toIpv4Mapped = some v4) :
    ip = v4.toIpv6Mapped := by
  apply Ipv6Addr.ext_segments
  simp only [Ipv6Addr.toIpv4Mapped] at mapped
  split at mapped
  next hi lo same =>
    cases mapped
    have high := hi.toNat_lt
    have low := lo.toNat_lt
    have hiBack : UInt16.ofNat ((UInt8.ofNat (hi.toNat / 256)).toNat * 256 + (UInt8.ofNat hi.toNat).toNat) = hi := by
      apply UInt16.toNat_inj.mp
      simp only [UInt8.toNat_ofNat', UInt16.toNat_ofNat']
      omega
    have loBack : UInt16.ofNat ((UInt8.ofNat (lo.toNat / 256)).toNat * 256 + (UInt8.ofNat lo.toNat).toNat) = lo := by
      apply UInt16.toNat_inj.mp
      simp only [UInt8.toNat_ofNat', UInt16.toNat_ofNat']
      omega
    rw [same]
    simp only [Ipv4Addr.toIpv6Mapped, Ipv4Addr.groups, hiBack, loBack]
    rfl
  next => cases mapped

private theorem readGroups_mapped (v4 : Ipv4Addr) :
    readGroups 7 true ('f' :: 'f' :: 'f' :: 'f' :: ':' :: v4.text) = (0xffff :: v4.groups, true, []) := by
  have printed : ['f', 'f', 'f', 'f'] = Nat.toDigits 16 (0xffff : UInt16).toNat := by decide
  have colon : ∀ c, (':' :: v4.text).head? = some c → EndsDigits c ∧ c ≠ '.' := by
    intro c front
    cases front
    exact ⟨endsDigits_colon, by decide⟩
  have group : readGroup ('f' :: 'f' :: 'f' :: 'f' :: ':' :: v4.text) = some (0xffff, ':' :: v4.text) := by
    change readGroup (['f', 'f', 'f', 'f'] ++ (':' :: v4.text)) = _
    rw [printed]
    exact readGroup_toDigits 0xffff fun c front => (colon c front).1
  have notV4 : readIpv4Addr ('f' :: 'f' :: 'f' :: 'f' :: ':' :: v4.text) = none :=
    @readIpv4Addr_none ['f', 'f', 'f', 'f'] _ (by simp) colon
  have v4Read : readIpv4Addr v4.text = some (v4, []) := by
    simpa using @readIpv4Addr_text v4 [] (by simp)
  simp [readGroups, readSeparator, readGivenChar, notV4, group, v4Read]

private theorem readIpv6Addr_compressed {head tail : List UInt16} {rest : List Char}
    (fits : head.length + tail.length ≤ 7)
    (read : ∃ embedded, readGroups (8 - (head.length + 1)) true rest = (tail, embedded, [])) :
    readIpv6Addr (groupsText true head ++ ':' :: ':' :: rest) =
      some (Ipv6Addr.ofGroups head tail (by omega), []) := by
  obtain ⟨embedded, back⟩ := read
  have colon : ∀ c, (':' :: ':' :: rest).head? = some c → EndsDigits c ∧ c ≠ '.' := by
    intro c front
    cases front
    exact ⟨endsDigits_colon, by decide⟩
  have front := @readGroups_groupsText 8 true head _ (by omega) (blocked_colons rest) colon
  have short : head.length ≠ 8 := by omega
  simp only [readIpv6Addr, front, short, dif_neg, not_false_eq_true, Bool.false_eq_true, if_false, readGivenChar,
    if_true, Option.bind_some, back]

theorem readIpv6Addr_text (ip : Ipv6Addr) : readIpv6Addr ip.text = some (ip, []) := by
  have eight := ip.eight
  unfold Ipv6Addr.text
  split
  next v4 mapped =>
    have read := @readIpv6Addr_compressed [] (0xffff :: v4.groups) _ (by simp [Ipv4Addr.groups])
      ⟨true, readGroups_mapped v4⟩
    rw [toIpv4Mapped_eq_some mapped]
    exact read
  next =>
    simp only
    split
    next long =>
      have zeros := zeroSpan_splits ip.segments long
      have lengths := congrArg List.length zeros
      simp only [List.length_append, List.length_replicate] at lengths
      set head := ip.segments.take (zeroSpan 0 {} {} ip.segments).start
      set tail := ip.segments.drop ((zeroSpan 0 {} {} ip.segments).start + (zeroSpan 0 {} {} ip.segments).len)
      have back : readGroups (8 - (head.length + 1)) true (groupsText true tail) = (tail, false, []) := by
        simpa using @readGroups_groupsText (8 - (head.length + 1)) true tail []
          (by omega) blocked_nil (by simp)
      rw [readIpv6Addr_compressed (by omega) ⟨false, back⟩]
      have gap : 8 - head.length - tail.length = (zeroSpan 0 {} {} ip.segments).len := by omega
      congr 2
      apply Ipv6Addr.ext_segments
      simp only [Ipv6Addr.ofGroups, gap]
      exact zeros.symm
    next =>
      have front : readGroups 8 true (groupsText true ip.segments) = (ip.segments, false, []) := by
        simpa using @readGroups_groupsText 8 true ip.segments []
          (by omega) blocked_nil (by simp)
      simp [readIpv6Addr, front, eight]

/-- `Display` and `FromStr` of an address are inverse. -/
theorem parseIpAddr_text (ip : IpAddr) : parseIpAddr ip.text = some ip := by
  cases ip with
  | v4 ip => exact parseIpAddr_v4 (by simpa [IpAddr.text] using @readIpv4Addr_text ip [] (by simp))
  | v6 ip => exact parseIpAddr_v6 (readIpv6Addr_text ip)

end EchoProxy.Proofs.IpText
