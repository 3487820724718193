import EchoProxy.Proofs.RequestTarget
import EchoProxy.Proofs.Routing

/-! What `parse_request_header` makes of the value of the Host line, and what the
handlers' split at the last colon gets back from it. -/

namespace EchoProxy.Proofs.HostField
open EchoProxy Buffered WireFormat HttpParser HttpFraming IpParser IpText Routing

/-! ### Values -/

/-- A host as a URI writes it. Of a name it matters only that it has no colons and no
white space. -/
inductive UriHost where
  | name (text : List Char) (plain : ∀ c ∈ text, c ≠ ':' ∧ Text.isWhitespace c = false)
  | ipv4 (ip : Ipv4Addr)
  | ipv6 (literal : List Char) (ip : Ipv6Addr) (reads : parseIpAddr literal = some (.v6 ip))

def UriHost.text : UriHost → List Char
  | .name text _ => text
  | .ipv4 ip => ip.text
  | .ipv6 literal _ _ => '[' :: literal ++ [']']

/-- What may follow the host: nothing, a colon, or a colon and a port. -/
inductive UriPort where
  | absent
  | empty
  | given (port : PortText)

def UriPort.suffix : UriPort → List Char
  | .absent => []
  | .empty => [':']
  | .given port => ':' :: port.digits

/-- The port with its default. -/
def UriPort.text : UriPort → List Char
  | .absent | .empty => ['8', '0']
  | .given port => port.digits

def UriPort.number : UriPort → UInt16
  | .absent | .empty => 80
  | .given port => port.port

/-- A Host line with this value, in any letter case and with any white space around it. -/
def HostLine (line : String) (host : UriHost) (port : UriPort) : Prop :=
  ∃ name front back, line.toList = name ++ (front ++ (host.text ++ port.suffix) ++ back) ∧
    name.map Char.toLower = "host:".toList ∧
    (∀ c ∈ front, Text.isWhitespace c = true) ∧ ∀ c ∈ back, Text.isWhitespace c = true

/-- The destination is the host and the port, and the handlers split it into them. -/
def Normalised (dest : String) (host : UriHost) (port : UriPort) : Prop :=
  dest.toList = host.text ++ ':' :: port.text ∧ httpHostPort dest.toList = (host.text, port.number)

/-- Every port that is written out is kept, and the default is added to what has no colon. -/
def Kept : UriHost → UriPort → Prop
  | _, .given _ => True
  | _, .empty => False
  | .ipv6 .., .absent => False
  | _, .absent => True

/-! ### Characters -/

private theorem range_plain {c : Char} (low : 33 ≤ c.toNat) (high : c.toNat < 128) : Text.isWhitespace c = false := by
  simp [Text.isWhitespace]
  omega

private theorem ipChar_plain {c : Char} (allowed : IsIpChar c) : Text.isWhitespace c = false := by
  rcases allowed with digit | rfl | rfl
  · have range := toDigit_range digit
    exact range_plain (by omega) (by omega)
  · decide
  · decide

private theorem digit_plain {c : Char} (digit : c.isDigit = true) : Text.isWhitespace c = false := by
  obtain ⟨d, small, rfl⟩ := isDigit_digitChar digit
  interval_cases d <;> decide

private theorem host_plain (host : UriHost) : ∀ c ∈ host.text, Text.isWhitespace c = false := by
  cases host with
  | name text plain => exact fun c member => (plain c member).2
  | ipv4 ip => exact fun c member => ipChar_plain (parseIpAddr_chars (parseIpAddr_text (.v4 ip)) c member)
  | ipv6 literal ip reads =>
    intro c member
    simp only [UriHost.text, List.mem_append, List.mem_cons, List.not_mem_nil, or_false] at member
    rcases member with (rfl | inside) | rfl
    · decide
    · exact ipChar_plain (parseIpAddr_chars reads c inside)
    · decide

private theorem suffix_plain (port : UriPort) : ∀ c ∈ port.suffix, Text.isWhitespace c = false := by
  cases port with
  | absent => simp [UriPort.suffix]
  | empty => simp [UriPort.suffix, Text.isWhitespace]
  | given port =>
    intro c member
    rcases List.mem_cons.mp member with rfl | digit
    · decide
    · exact digit_plain (port.decimal c digit)

/-! ### The Host line -/

theorem hostText_line {line : String} {host : UriHost} {port : UriPort} (written : HostLine line host port) :
    (hostText line).toList = if ':' ∈ host.text ++ port.suffix then host.text ++ port.suffix
      else host.text ++ port.suffix ++ [':', '8', '0'] := by
  obtain ⟨name, front, back, split, named, before, after⟩ := written
  have length : name.length = "host:".length := by
    have same := congrArg List.length named
    rwa [List.length_map] at same
  have value : fieldText "host:" line.toList = host.text ++ port.suffix := by
    rw [fieldText, split, ← length, List.drop_left]
    apply Text.trimMatches_padded before after
    intro c member
    rcases List.mem_append.mp member with inHost | inPort
    · exact host_plain host c inHost
    · exact suffix_plain port c inPort
  rw [hostText, value, String.toList_ofList]

private theorem split_kept (host : UriHost) (port : UriPort) :
    httpHostPort (host.text ++ ':' :: port.text) = (host.text, port.number) := by
  cases port with
  | absent | empty => exact RequestTarget.split_named (by decide) (by decide)
  | given port => exact RequestTarget.split_named port.colonFree port.parsed

theorem normalised_iff {line : String} {host : UriHost} {port : UriPort} (written : HostLine line host port) :
    Normalised (hostText line) host port ↔ Kept host port := by
  have dest := hostText_line written
  have same : Normalised (hostText line) host port ↔ (hostText line).toList = host.text ++ ':' :: port.text :=
    ⟨And.left, fun same => ⟨same, by rw [same]; exact split_kept host port⟩⟩
  rw [same, dest]
  cases port with
  | given port => simp [UriPort.suffix, UriPort.text, Kept]
  | empty => simp [UriPort.suffix, UriPort.text, Kept]
  | absent =>
    cases host with
    | name text plain =>
      have colonFree : ':' ∉ text := fun member => (plain _ member).1 rfl
      simp [UriPort.suffix, UriPort.text, UriHost.text, Kept, colonFree]
    | ipv4 ip => simp [UriPort.suffix, UriPort.text, UriHost.text, Kept, ipv4_colonFree ip]
    | ipv6 literal ip reads => simp [UriPort.suffix, UriPort.text, UriHost.text, Kept, ipv6_colon reads]

/-! ### Requests -/

private theorem host_of_line {all : List String} {line : String} (one : all.filter (hasName "host:" ·.toList) = [line]) :
    lastHost all = hostText line := by
  rw [lastHost, lastValue, one]
  rfl

/-- The normal form of the one Host line of a request, on every header block that is
accepted; blocks within the limits are. -/
theorem host_normalised (all : List String) (line : String) (host : UriHost) (port : UriPort)
    (one : all.filter (hasName "host:" ·.toList) = [line]) (written : HostLine line host port) :
    (∀ (bytes : Bytes) (arrived : Nat → Nat) (fails : Bool) (request : ProxyRequest), all.map asBytes = headLines bytes →
      (localRequest ⟨bytes, 0, arrived, fails⟩).map Prod.fst = some request →
        (Normalised request.host host port ↔ Kept host port)) ∧
    (Complete all → ∀ (body more : Bytes) (arrived : Nat → Nat) (fails : Bool), body.length = lastContentLength all →
      ∃ request, (localRequest ⟨(all.map asBytes).flatten ++ (body ++ more), 0, arrived, fails⟩).map Prod.fst = some request ∧
        (Normalised request.host host port ↔ Kept host port)) := by
  have accepted (bytes : Bytes) (arrived : Nat → Nat) (fails : Bool) (request : ProxyRequest)
      (lined : all.map asBytes = headLines bytes) (parsed : (localRequest ⟨bytes, 0, arrived, fails⟩).map Prod.fst = some request) :
      Normalised request.host host port ↔ Kept host port := by
    obtain ⟨found, framed⟩ := local_framed parsed
    have same : found = all := List.map_injective_iff.mpr @asBytes_injective (framed.lines.trans lined.symm)
    rw [framed.host, same, host_of_line one]
    exact normalised_iff written
  refine ⟨accepted, ?_⟩
  intro complete body more arrived fails length
  obtain ⟨⟨request, parsed⟩, head⟩ := complete_accepted complete body more length fails
  rw [← localRequest_bytes _ arrived] at parsed
  exact ⟨request, parsed, accepted _ arrived fails request head.symm parsed⟩

private def exampleLine : String := "HoST: \tEX.com:0443 \r\n"
private def exampleBlock : List String := [exampleLine, "\r\n"]
private def exampleHost : UriHost := .name ['E', 'X', '.', 'c', 'o', 'm'] (by simp [Text.isWhitespace])
private def examplePort : PortText := port443

theorem example_normalised : ∃ request,
    (localRequest ⟨(exampleBlock.map asBytes).flatten ++ ([] ++ []), 0, fun _ => 1, false⟩).map Prod.fst = some request ∧
      Normalised request.host exampleHost (.given examplePort) := by
  have written : HostLine exampleLine exampleHost (.given examplePort) :=
    ⟨"HoST:".toList, [' ', '\t'], [' ', '\r', '\n'], by decide +kernel, by decide, List.all_eq_true.mp rfl, List.all_eq_true.mp rfl⟩
  have complete : Complete exampleBlock := by
    refine ⟨⟨[exampleLine], rfl, by decide⟩, ?_, by decide +kernel, by decide +kernel⟩
    intro line member
    refine ⟨(asBytes line).dropLast, ?_⟩
    revert line
    decide +kernel
  obtain ⟨request, parsed, kept⟩ := (host_normalised exampleBlock exampleLine exampleHost (.given examplePort)
    (by decide +kernel) written).2 complete [] [] (fun _ => 1) false (by decide +kernel)
  exact ⟨request, parsed, kept.mpr trivial⟩

private def loopback : UriHost := .ipv6 [':', ':', '1'] ipv6Loopback (by decide +kernel)

/-- The destination stays `[::1]`, which the handlers split at the last colon of the address. -/
theorem loopback_split_apart : ¬∀ (all : List String) (line : String) (host : UriHost) (port : UriPort) (bytes : Bytes)
    (arrived : Nat → Nat) (fails : Bool) (request : ProxyRequest), all.filter (hasName "host:" ·.toList) = [line] →
    HostLine line host port → all.map asBytes = headLines bytes →
    (localRequest ⟨bytes, 0, arrived, fails⟩).map Prod.fst = some request → Normalised request.host host port := by
  intro normalised
  have written : HostLine "Host: [::1]\r\n" loopback .absent :=
    ⟨"Host:".toList, [' '], ['\r', '\n'], by decide +kernel, by decide, List.all_eq_true.mp rfl, List.all_eq_true.mp rfl⟩
  have parsed : (localRequest ⟨asBytes "GET / HTTP/1.1\r\nHost: [::1]\r\n\r\n", 0, fun _ => 1, false⟩).map Prod.fst =
      some ⟨"[::1]", false, "GET / HTTP/1.1\r\nHost: [::1]\r\n\r\n", []⟩ := by
    rw [localRequest_bytes]
    decide +kernel
  have whole := (normalised ["GET / HTTP/1.1\r\n", "Host: [::1]\r\n", "\r\n"] "Host: [::1]\r\n" loopback .absent _ _ _ _
    (by decide +kernel) written (by decide +kernel) parsed).1
  revert whole
  decide +kernel

end EchoProxy.Proofs.HostField
