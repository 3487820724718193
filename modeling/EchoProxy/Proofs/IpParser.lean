import EchoProxy.IpAddr
import EchoProxy.Lib.Reader

/-! What the address readers consume and where they stop. An address is read
off a prefix of hexadecimal digits, dots and colons, and reads the same alone. -/

namespace EchoProxy.Proofs.IpParser
open EchoProxy Reader

def IsDecimal (c : Char) : Prop := (toDigit 10 c).isSome = true

/-- The characters an address literal is made of. -/
def IsIpChar (c : Char) : Prop := (toDigit 16 c).isSome = true ∨ c = '.' ∨ c = ':'

/-- Characters no group or octet reaches into. -/
def EndsDigits (c : Char) : Prop := toDigit 16 c = none

def EndsIpv4 (c : Char) : Prop := EndsDigits c ∧ c ≠ '.'
def EndsIpv6 (c : Char) : Prop := EndsDigits c ∧ c ≠ '.' ∧ c ≠ ':'

theorem toDigit_range {c : Char} (digit : (toDigit 16 c).isSome = true) :
    48 ≤ c.toNat ∧ c.toNat ≤ 57 ∨ 65 ≤ c.toNat ∧ c.toNat ≤ 70 ∨ 97 ≤ c.toNat ∧ c.toNat ≤ 102 := by
  simp only [toDigit, Char.le_def, UInt32.le_iff_toNat_le] at digit
  split at digit
  · next decimal => exact .inl decimal
  · split at digit
    · next lower => exact .inr (.inr lower)
    · split at digit
      · next upper => exact .inr (.inl upper)
      · simp at digit

theorem toDigit_widen {c : Char} {digit : Nat} (decimal : toDigit 10 c = some digit) :
    toDigit 16 c = some digit := by
  simp only [toDigit] at decimal ⊢
  split_ifs at decimal ⊢ <;> first | exact decimal | omega

theorem toDigit_none {radix : Nat} {c : Char} (known : radix = 10 ∨ radix = 16) (ends : EndsDigits c) :
    toDigit radix c = none := by
  rcases known with rfl | rfl
  · cases digit : toDigit 10 c with
    | none => rfl
    | some value => rw [EndsDigits, toDigit_widen digit] at ends; cases ends
  · exact ends

/-! ### Numbers -/

theorem spanDigits_consumes (radix : Nat) (input : List Char) :
    ∃ used, input = used ++ (spanDigits radix input).2 ∧ ∀ c ∈ used, (toDigit radix c).isSome = true := by
  induction input with
  | nil => exact ⟨[], rfl, by simp⟩
  | cons c rest ih =>
    obtain ⟨used, split, digits⟩ := ih
    cases found : toDigit radix c with
    | none => exact ⟨[], by simp [spanDigits, found], by simp⟩
    | some digit =>
      refine ⟨c :: used, by simpa [spanDigits, found] using split, ?_⟩
      intro c' member
      rcases List.mem_cons.mp member with rfl | member
      · simp [found]
      · exact digits c' member

theorem spanDigits_append {radix : Nat} (input rest : List Char)
    (stops : ∀ c, rest.head? = some c → toDigit radix c = none) :
    spanDigits radix (input ++ rest) = ((spanDigits radix input).1, (spanDigits radix input).2 ++ rest) := by
  induction input with
  | nil =>
    cases rest with
    | nil => rfl
    | cons c rest => simp [spanDigits, stops c rfl]
  | cons c input ih =>
    cases found : toDigit radix c <;> simp [spanDigits, found, ih]

theorem readNumber_consumes (radix : Nat) (maxDigits : Option Nat) (zero : Bool) (bound : Nat) :
    Consumes (fun c => (toDigit radix c).isSome = true) (readNumber radix maxDigits zero bound) := by
  intro input value rest taken
  obtain ⟨used, split, digits⟩ := spanDigits_consumes radix input
  simp only [readNumber] at taken
  split_ifs at taken
  cases taken
  exact ⟨used, split, digits⟩

theorem readNumber_splits {radix : Nat} (known : radix = 10 ∨ radix = 16) (maxDigits : Option Nat) (zero : Bool)
    (bound : Nat) : Splits EndsDigits (readNumber radix maxDigits zero bound) := by
  intro input rest stops
  simp only [readNumber, spanDigits_append input rest (fun c front => toDigit_none known (stops c front))]
  split_ifs <;> rfl

theorem readGivenChar_some {given : Char} {input rest : List Char} (taken : readGivenChar given input = some rest) :
    input = given :: rest := by
  cases input with
  | nil => cases taken
  | cons c input =>
    simp only [readGivenChar] at taken
    split at taken
    next same => cases taken; rw [same]
    next => cases taken

theorem readGivenChar_append {given : Char} (input rest : List Char)
    (stops : ∀ c, rest.head? = some c → c ≠ given) :
    readGivenChar given (input ++ rest) = (readGivenChar given input).map (· ++ rest) := by
  cases input with
  | nil =>
    cases rest with
    | nil => rfl
    | cons c rest => simp [readGivenChar, stops c rfl]
  | cons c input => by_cases same : c = given <;> simp [readGivenChar, same]

theorem readSeparator_consumes {α : Type} {sep : Char} {p : Char → Prop} {first : Bool} {inner : Read α}
    (allowed : p sep) (consumes : Consumes p inner) : Consumes p (readSeparator sep first inner) := by
  cases first with
  | true => exact consumes
  | false =>
    intro input value rest taken
    obtain ⟨remaining, given, taken⟩ := Option.bind_eq_some_iff.mp taken
    obtain ⟨used, rfl, digits⟩ := consumes remaining value rest taken
    exact ⟨sep :: used, readGivenChar_some given, by simpa using ⟨allowed, digits⟩⟩

theorem readSeparator_splits {α : Type} {sep : Char} {stop : Char → Prop} {first : Bool} {inner : Read α}
    (different : ∀ c, stop c → c ≠ sep) (splits : Splits stop inner) :
    Splits stop (readSeparator sep first inner) := by
  cases first with
  | true => exact splits
  | false =>
    intro input rest stops
    simp only [readSeparator, Bool.false_eq_true, if_false,
      readGivenChar_append input rest (fun c front => different c (stops c front))]
    cases readGivenChar sep input with
    | none => rfl
    | some remaining => exact splits remaining rest stops

/-! ### IPv4 -/

theorem decimal_ipChar {c : Char} (decimal : IsDecimal c) : IsIpChar c := by
  obtain ⟨digit, found⟩ := Option.isSome_iff_exists.mp decimal
  exact .inl (by simp [toDigit_widen found])

private theorem readOctet_consumes : Consumes IsIpChar readOctet := by
  intro input value rest taken
  obtain ⟨used, split, digits⟩ := (readNumber_consumes 10 (some 3) false 255).map UInt8.ofNat input value rest taken
  exact ⟨used, split, fun c member => decimal_ipChar (digits c member)⟩

private theorem readOctet_splits : Splits EndsIpv4 readOctet :=
  ((readNumber_splits (.inl rfl) (some 3) false 255).map UInt8.ofNat).mono fun _ ends => ends.1

theorem readIpv4Addr_consumes : Consumes IsIpChar readIpv4Addr := by
  have dotted : Consumes IsIpChar (readSeparator '.' false readOctet) :=
    readSeparator_consumes (.inr (.inl rfl)) readOctet_consumes
  exact readOctet_consumes.bind fun a => dotted.bind fun b => dotted.bind fun c =>
    dotted.map fun d => Ipv4Addr.mk a b c d

theorem readIpv4Addr_splits : Splits EndsIpv4 readIpv4Addr := by
  have dotted : Splits EndsIpv4 (readSeparator '.' false readOctet) :=
    readSeparator_splits (fun _ ends => ends.2) readOctet_splits
  exact readOctet_splits.bind fun a => dotted.bind fun b => dotted.bind fun c =>
    dotted.map fun d => Ipv4Addr.mk a b c d

/-! ### IPv6 -/

private theorem readGroup_consumes : Consumes IsIpChar readGroup := by
  intro input value rest taken
  obtain ⟨used, split, digits⟩ := (readNumber_consumes 16 (some 4) true 65535).map UInt16.ofNat input value rest taken
  exact ⟨used, split, fun c member => .inl (digits c member)⟩

private theorem readGroup_splits : Splits EndsIpv6 readGroup :=
  ((readNumber_splits (.inr rfl) (some 4) true 65535).map UInt16.ofNat).mono fun _ ends => ends.1

theorem readGroups_consumes (left : Nat) (first : Bool) (input : List Char) :
    ∃ used, input = used ++ (readGroups left first input).2.2 ∧ ∀ c ∈ used, IsIpChar c := by
  induction left generalizing first input with
  | zero => exact ⟨[], rfl, by simp⟩
  | succ left ih =>
    rw [readGroups]
    split
    next v4 rest embedded =>
      split at embedded
      · exact readSeparator_consumes (.inr (.inr rfl)) readIpv4Addr_consumes input v4 rest embedded
      · cases embedded
    next =>
      split
      next group rest taken =>
        obtain ⟨used, rfl, digits⟩ :=
          readSeparator_consumes (.inr (.inr rfl)) readGroup_consumes input group rest taken
        obtain ⟨more, split, others⟩ := ih false rest
        refine ⟨used ++ more, by rw [List.append_assoc, ← split], ?_⟩
        intro c member
        rcases List.mem_append.mp member with member | member
        · exact digits c member
        · exact others c member
      next => exact ⟨[], rfl, by simp⟩

theorem readGroups_append (left : Nat) (first : Bool) (input rest : List Char)
    (stops : ∀ c, rest.head? = some c → EndsIpv6 c) :
    readGroups left first (input ++ rest) =
      ((readGroups left first input).1, (readGroups left first input).2.1,
        (readGroups left first input).2.2 ++ rest) := by
  have v4Splits : Splits EndsIpv6 (readSeparator ':' first readIpv4Addr) :=
    readSeparator_splits (fun _ ends => ends.2.2) (readIpv4Addr_splits.mono fun _ ends => ⟨ends.1, ends.2.1⟩)
  have groupSplits : Splits EndsIpv6 (readSeparator ':' first readGroup) :=
    readSeparator_splits (fun _ ends => ends.2.2) readGroup_splits
  induction left generalizing first input with
  | zero => rfl
  | succ left ih =>
    have v4Splits' : Splits EndsIpv6 (readSeparator ':' false readIpv4Addr) :=
      readSeparator_splits (fun _ ends => ends.2.2) (readIpv4Addr_splits.mono fun _ ends => ⟨ends.1, ends.2.1⟩)
    have groupSplits' : Splits EndsIpv6 (readSeparator ':' false readGroup) :=
      readSeparator_splits (fun _ ends => ends.2.2) readGroup_splits
    rw [readGroups, readGroups, v4Splits input rest stops, groupSplits input rest stops]
    cases embedded : (if 1 ≤ left then readSeparator ':' first readIpv4Addr input else none) with
    | some found =>
      have taken : 1 ≤ left ∧ readSeparator ':' first readIpv4Addr input = some found := by
        split at embedded
        next room => exact ⟨room, embedded⟩
        next => cases embedded
      simp [taken.1, taken.2]
    | none =>
      have missed : (if 1 ≤ left then (readSeparator ':' first readIpv4Addr input).map
          (fun found => (found.1, found.2 ++ rest)) else none) = none := by
        split at embedded
        next room => simp [embedded]
        next room => simp [room]
      rw [missed]
      cases readSeparator ':' first readGroup input with
      | none => rfl
      | some found => simp [ih false found.2 v4Splits' groupSplits']

theorem readIpv6Addr_consumes : Consumes IsIpChar readIpv6Addr := by
  intro input value rest taken
  obtain ⟨used, split, digits⟩ := readGroups_consumes 8 true input
  simp only [readIpv6Addr] at taken
  split at taken
  · cases taken
    exact ⟨used, split, digits⟩
  · split at taken
    · cases taken
    · split at taken
      · cases taken
      next tail colons =>
        cases taken
        obtain ⟨middle, one, two⟩ := Option.bind_eq_some_iff.mp colons
        obtain ⟨more, split', others⟩ := readGroups_consumes (8 - ((readGroups 8 true input).1.length + 1)) true tail
        refine ⟨used ++ ':' :: ':' :: more, ?_, ?_⟩
        · rw [readGivenChar_some one, readGivenChar_some two] at split
          simpa only [List.append_assoc, List.cons_append, ← split'] using split
        · intro c member
          simp only [List.mem_append, List.mem_cons] at member
          rcases member with member | rfl | rfl | member
          · exact digits c member
          · exact .inr (.inr rfl)
          · exact .inr (.inr rfl)
          · exact others c member

theorem readIpv6Addr_splits : Splits EndsIpv6 readIpv6Addr := by
  intro input rest stops
  have colon : ∀ c, rest.head? = some c → c ≠ ':' := fun c front => (stops c front).2.2
  simp only [readIpv6Addr, readGroups_append _ _ input rest stops, readGivenChar_append _ rest colon]
  split
  · rfl
  · split
    · rfl
    · cases one : readGivenChar ':' (readGroups 8 true input).2.2 with
      | none => rfl
      | some middle =>
        cases two : readGivenChar ':' middle with
        | none => simp [readGivenChar_append middle rest colon, two]
        | some tail =>
          simp only [Option.map_some, Option.bind_some, readGivenChar_append middle rest colon, two,
            readGroups_append _ true tail rest stops]

/-- An embedded IPv4 address cannot open an IPv6 literal. -/
theorem readIpv4Addr_none_of_ipv6 {input : List Char} {found : Ipv6Addr × List Char}
    (taken : readIpv6Addr input = some found) : readIpv4Addr input = none := by
  cases embedded : readIpv4Addr input with
  | none => rfl
  | some v4 => simp [readIpv6Addr, readGroups, readSeparator, embedded, Ipv4Addr.groups] at taken

/-! ### Whole literals -/

theorem parseWith_some {α : Type} {inner : Read α} {input : List Char} {value : α} :
    parseWith inner input = some value ↔ inner input = some (value, []) := by
  unfold parseWith
  split
  next found taken => simp [taken]
  next missed =>
    constructor
    · intro impossible; cases impossible
    · intro taken; exact absurd taken (missed value)

theorem parseIpAddr_chars {input : List Char} {ip : IpAddr} (parsed : parseIpAddr input = some ip) :
    ∀ c ∈ input, IsIpChar c := by
  have taken := parseWith_some.mp parsed
  simp only [readIpAddr] at taken
  split at taken
  next v4 rest read =>
    cases taken
    obtain ⟨used, split, allowed⟩ := readIpv4Addr_consumes _ _ _ read
    simpa [split] using allowed
  next =>
    obtain ⟨⟨v6, rest⟩, read, same⟩ := Option.map_eq_some_iff.mp taken
    cases same
    obtain ⟨used, split, allowed⟩ := readIpv6Addr_consumes _ _ _ read
    simpa [split] using allowed

theorem parseIpAddr_v4 {input : List Char} {ip : Ipv4Addr} (read : readIpv4Addr input = some (ip, [])) :
    parseIpAddr input = some (.v4 ip) := by
  simp [parseIpAddr, parseWith, readIpAddr, read]

theorem parseIpAddr_v6 {input : List Char} {ip : Ipv6Addr} (read : readIpv6Addr input = some (ip, [])) :
    parseIpAddr input = some (.v6 ip) := by
  simp [parseIpAddr, parseWith, readIpAddr, readIpv4Addr_none_of_ipv6 read, read]

private theorem colon_closed {rest : List Char} (colonFree : ':' ∉ rest) : readGivenChar ':' rest = none := by
  cases rest with
  | nil => rfl
  | cons c rest =>
    simp only [List.mem_cons, not_or] at colonFree
    simp [readGivenChar, Ne.symm colonFree.1]

private theorem readGroups_colonFree (left : Nat) {rest : List Char} (colonFree : ':' ∉ rest) :
    readGroups left false rest = ([], false, rest) := by
  cases left with
  | zero => rfl
  | succ left => cases left <;> simp [readGroups, readSeparator, colon_closed colonFree]

/-- Without a colon there is one group at most, and no `::`. -/
theorem ipv6_colon {literal : List Char} {ip : Ipv6Addr} (reads : parseIpAddr literal = some (.v6 ip)) : ':' ∈ literal := by
  by_contra colonFree
  have taken := parseWith_some.mp reads
  simp only [readIpAddr] at taken
  cases embedded : readIpv4Addr literal with
  | some found => simp [embedded] at taken
  | none =>
    obtain ⟨groups, rest, short, front, after⟩ : ∃ groups rest, List.length groups ≤ 1 ∧ ':' ∉ rest ∧
        readGroups 8 true literal = (groups, false, rest) := by
      cases group : readGroup literal with
      | none => exact ⟨[], literal, by simp, colonFree, by simp [readGroups, readSeparator, embedded, group]⟩
      | some found =>
        obtain ⟨⟨value, rest⟩, number, rfl⟩ := Option.map_eq_some_iff.mp group
        obtain ⟨digits, rfl, -⟩ := readNumber_consumes 16 (some 4) true 65535 _ _ _ number
        have front : ':' ∉ rest := fun member => colonFree (List.mem_append_right _ member)
        refine ⟨[UInt16.ofNat value], rest, by simp, front, ?_⟩
        rw [readGroups]
        simp [readSeparator, embedded, group, readGroups_colonFree 7 front]
    have incomplete : groups.length ≠ 8 := by omega
    simp [embedded, readIpv6Addr, after, incomplete, colon_closed front] at taken

/-! ### The last character -/

private theorem spanDigits_length (radix : Nat) (input : List Char) :
    (spanDigits radix input).1.length + (spanDigits radix input).2.length = input.length := by
  induction input with
  | nil => rfl
  | cons c rest ih =>
    cases found : toDigit radix c with
    | none => simp [spanDigits, found]
    | some digit => simp [spanDigits, found, ← ih, Nat.add_right_comm]

private theorem readNumber_present {radix : Nat} {maxDigits : Option Nat} {zero : Bool} {bound value : Nat} {input rest : List Char}
    (taken : readNumber radix maxDigits zero bound input = some (value, rest)) : rest ≠ input := by
  intro same
  have length := spanDigits_length radix input
  simp only [readNumber] at taken
  split_ifs at taken with long none
  cases taken
  rw [same] at length
  apply none
  rw [← List.length_eq_zero_iff]
  omega

private theorem readNumber_closes {radix : Nat} {bad : Char} (other : toDigit radix bad = none) (maxDigits : Option Nat)
    (zero : Bool) (bound : Nat) : Closes bad (readNumber radix maxDigits zero bound) := by
  intro input value rest taken
  obtain ⟨used, rfl, digits⟩ := readNumber_consumes radix maxDigits zero bound input value rest taken
  have present : used ≠ [] := by
    intro empty
    subst empty
    exact readNumber_present taken rfl
  obtain ⟨front, c, rfl⟩ := List.eq_nil_or_concat used |>.resolve_left present
  refine ⟨front, c, by simp, ?_⟩
  intro same
  have digit := digits c (by simp)
  rw [same, other] at digit
  cases digit

private theorem readSeparator_closes {α : Type} {sep bad : Char} {first : Bool} {inner : Read α} (closes : Closes bad inner) :
    Closes bad (readSeparator sep first inner) := by
  cases first with
  | true => exact closes
  | false =>
    intro input value rest taken
    obtain ⟨remaining, given, taken⟩ := Option.bind_eq_some_iff.mp taken
    obtain ⟨used, c, rfl, other⟩ := closes remaining value rest taken
    exact ⟨sep :: used, c, by rw [readGivenChar_some given]; rfl, other⟩

private theorem readOctet_closes : Closes '.' readOctet := (readNumber_closes (by decide) (some 3) false 255).map UInt8.ofNat

private theorem readIpv4Addr_closes : Closes '.' readIpv4Addr := by
  have dotted : Consumes IsIpChar (readSeparator '.' false readOctet) :=
    readSeparator_consumes (.inr (.inl rfl)) readOctet_consumes
  have last : Closes '.' (readSeparator '.' false readOctet) := readSeparator_closes readOctet_closes
  exact Closes.bind readOctet_consumes fun a => Closes.bind dotted fun b => Closes.bind dotted fun c =>
    last.map fun d => Ipv4Addr.mk a b c d

private theorem readGroups_closes (left : Nat) (first : Bool) (input : List Char) :
    (readGroups left first input).2.2 = input ∨ ∃ used c, input = used ++ c :: (readGroups left first input).2.2 ∧ c ≠ '.' := by
  have group : Closes '.' readGroup := (readNumber_closes (by decide) (some 4) true 65535).map UInt16.ofNat
  induction left generalizing first input with
  | zero => exact .inl rfl
  | succ left ih =>
    rw [readGroups]
    split
    next v4 rest embedded =>
      split at embedded
      · exact .inr (readSeparator_closes readIpv4Addr_closes input v4 rest embedded)
      · cases embedded
    next =>
      split
      next value rest taken =>
        obtain ⟨used, c, split, other⟩ := readSeparator_closes group input value rest taken
        rcases ih false rest with whole | ⟨more, c', split', other'⟩
        · exact .inr ⟨used, c, by rw [whole]; exact split, other⟩
        · exact .inr ⟨used ++ c :: more, c', by rw [split]; simpa using split', other'⟩
      next => exact .inl rfl

private theorem readGroups_last {left : Nat} {first : Bool} {input : List Char} (whole : (readGroups left first input).2.2 = []) :
    input.getLast? ≠ some '.' := by
  rcases readGroups_closes left first input with same | ⟨used, c, split, other⟩
  · rw [← same, whole]
    simp
  · rw [whole] at split
    simp [split, other]

/-- The text of an address does not end with a dot. -/
theorem parseIpAddr_last {input : List Char} {ip : IpAddr} (parsed : parseIpAddr input = some ip) : input.getLast? ≠ some '.' := by
  have taken := parseWith_some.mp parsed
  simp only [readIpAddr] at taken
  split at taken
  next v4 rest read =>
    cases taken
    obtain ⟨used, c, rfl, other⟩ := readIpv4Addr_closes _ _ _ read
    simp [other]
  next =>
    obtain ⟨⟨v6, rest⟩, read, same⟩ := Option.map_eq_some_iff.mp taken
    cases same
    simp only [readIpv6Addr] at read
    split at read
    · simp only [Option.some.injEq, Prod.mk.injEq] at read
      exact readGroups_last read.2
    · split at read
      · cases read
      · split at read
        · cases read
        next tail colons =>
          simp only [Option.some.injEq, Prod.mk.injEq] at read
          obtain ⟨middle, one, two⟩ := Option.bind_eq_some_iff.mp colons
          obtain ⟨front, split, -⟩ := readGroups_consumes 8 true input
          rw [readGivenChar_some one, readGivenChar_some two] at split
          cases tail with
          | nil => simp [split]
          | cons c tail =>
            have last := readGroups_last read.2
            simpa [split] using last

end EchoProxy.Proofs.IpParser
