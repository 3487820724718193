import EchoProxy.Routing
import EchoProxy.Proofs.HttpFraming

/-! Where an HTTP request goes: to the host of its last Host line, whatever its request
line says. -/

namespace EchoProxy.Proofs.RequestTarget
open EchoProxy Buffered HttpParser HttpFraming

/-! ### Targets -/

/-- The targets that name a host: `CONNECT host:port` and `METHOD http://host[:port]/path`. -/
inductive Target where
  | authority (host : List Char) (port : UInt16)
  | absolute (method host : List Char) (port : Option UInt16) (path : List Char)

/-- The host and port of the target, with the default port of `http`. -/
def Target.hostPort : Target → List Char × UInt16
  | .authority host port => (host, port)
  | .absolute _ host port _ => (host, port.getD 80)

def portText (port : UInt16) : List Char := ':' :: Nat.toDigits 10 port.toNat

def Target.line : Target → List Char
  | .authority host port => "CONNECT ".toList ++ host ++ portText port ++ " HTTP/1.1\r\n".toList
  | .absolute method host port path =>
    method ++ " http://".toList ++ host ++ (port.map portText).getD [] ++ path ++ " HTTP/1.1\r\n".toList

def Requests (all : List String) (target : Target) : Prop := all.head? = some (String.ofList target.line)

/-! ### Host lines -/

/-- The value of the last Host line. -/
def hostField (all : List String) : Option (List Char) :=
  lastValue (hasName "host:" ·.toList) (fun line => some (fieldText "host:" line.toList)) none all

/-- A Host value with a port, or without one and without a colon. -/
def Names (value host : List Char) (port : UInt16) : Prop :=
  (∃ digits, value = host ++ ':' :: digits ∧ ':' ∉ digits ∧ parsePort digits = some port) ∨
    (value = host ∧ ':' ∉ host ∧ port = 80)

theorem hostField_lastHost (all : List String) :
    lastHost all = (hostField all).elim "" fun value => String.ofList (if ':' ∈ value then value else value ++ [':', '8', '0']) := by
  unfold lastHost hostField lastValue
  cases (all.filter (hasName "host:" ·.toList)).getLast? <;> rfl

theorem split_named {host digits : List Char} {port : UInt16} (absent : ':' ∉ digits)
    (number : parsePort digits = some port) : httpHostPort (host ++ ':' :: digits) = (host, port) := by
  rw [httpHostPort, Text.rsplitOnce_append host digits absent]
  simp [number]

/-- The destination's host and port are the ones the value names. -/
theorem names_split {all : List String} {value host : List Char} {port : UInt16} (last : hostField all = some value)
    (names : Names value host port) : httpHostPort (lastHost all).toList = (host, port) := by
  rw [hostField_lastHost, last, Option.elim_some, String.toList_ofList]
  obtain ⟨digits, rfl, absent, number⟩ | ⟨rfl, absent, rfl⟩ := names
  · rw [if_pos (by simp)]
    exact split_named absent number
  · rw [if_neg absent]
    exact split_named (by decide) (by decide)

/-- The last Host line alone decides where a connection goes; the request line is never
looked at. -/
theorem destination_of_last_host (config : RoutingConfig) (lower : Lowercase) (bytes : Bytes) (arrived : Nat → Nat)
    (fails : Bool) (route : Route) (handled : handleLocalConnection config lower ⟨bytes, 0, arrived, fails⟩ = some route) :
    ∃ all : List String, all.map asBytes = headLines bytes ∧ route.dest = lastHost all ∧
      ∀ value host port, hostField all = some value → Names value host port →
        httpHostPort route.dest.toList = (host, port) ∧ route.direct = config.shouldBypass lower host port := by
  obtain ⟨⟨request, socket⟩, parsed, routed⟩ := Option.map_eq_some_iff.mp handled
  have found : (localRequest ⟨bytes, 0, arrived, fails⟩).map Prod.fst = some request := by rw [parsed]; rfl
  obtain ⟨all, framed⟩ := local_framed found
  have dest : route.dest = lastHost all := by rw [← routed, ← framed.host]; rfl
  refine ⟨all, framed.lines, dest, ?_⟩
  intro value host port last names
  have split : httpHostPort route.dest.toList = (host, port) := dest ▸ names_split last names
  refine ⟨split, ?_⟩
  have decided : route.direct =
      config.shouldBypass lower (httpHostPort route.dest.toList).1 (httpHostPort route.dest.toList).2 := by rw [← routed]; rfl
  rw [decided, split]

private def connectElsewhere : Bytes := asBytes "CONNECT a:1 HTTP/1.1\r\nHost: b:2\r\n\r\n"

private def noRules : RoutingConfig := ⟨[], [], none, []⟩

theorem connect_goes_to_host : ∃ all : List String, all.map asBytes = headLines connectElsewhere ∧ "b:2" = lastHost all ∧
    ∀ value host port, hostField all = some value → Names value host port →
      httpHostPort "b:2".toList = (host, port) ∧ false = noRules.shouldBypass asciiLowercase host port :=
  destination_of_last_host noRules asciiLowercase connectElsewhere (fun _ => 3) false ⟨false, "b:2", []⟩ (by decide +kernel)

theorem target_ignored : ¬∀ (config : RoutingConfig) (lower : Lowercase) (bytes : Bytes) (arrived : Nat → Nat) (fails : Bool)
    (route : Route) (all : List String) (target : Target),
    handleLocalConnection config lower ⟨bytes, 0, arrived, fails⟩ = some route → all.map asBytes = headLines bytes →
      Requests all target → httpHostPort route.dest.toList = target.hostPort ∧
        route.direct = config.shouldBypass lower target.hostPort.1 target.hostPort.2 := by
  intro followed
  have target := followed noRules asciiLowercase connectElsewhere (fun _ => 3) false ⟨false, "b:2", []⟩
    ["CONNECT a:1 HTTP/1.1\r\n", "Host: b:2\r\n", "\r\n"] (.authority ['a'] 1) (by decide +kernel) (by decide +kernel)
    (by unfold Requests; decide +kernel)
  revert target
  decide +kernel

end EchoProxy.Proofs.RequestTarget
