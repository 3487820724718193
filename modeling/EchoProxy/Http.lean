import EchoProxy.Client
import EchoProxy.Lib.BufReader
import EchoProxy.Lib.Text

/-! A local HTTP-proxy connection up to its relay loop: `parse_request_header` of
`client/src/lib.rs` reads the head of the connection through a buffered reader of
its own, and what follows is read from the socket directly. -/

namespace EchoProxy
open Buffered

def maxHeaderBytes : Nat := 64 * 1024
def maxContentLength : Nat := 64 * 1024 * 1024

/-- `BufReader::new`. -/
def bufReaderCapacity : Nat := 8 * 1024

/-- `usize` is 64 bits wide. -/
def usizeMax : Nat := 2 ^ 64 - 1

/-- The reads `parse_request_header` makes, so that it can be followed on the
buffered socket and on plain bytes. -/
structure LineReader (σ : Type) where
  readLine : σ → Option (String × σ)
  readExact : Nat → σ → Option (Bytes × σ)

/-- The accumulators of the header loop. -/
structure HeaderBlock where
  headers : String
  host : String
  contentLength : Nat
  deriving DecidableEq

def HeaderBlock.empty : HeaderBlock := ⟨"", "", 0⟩

/-- What follows the name of a header line, trimmed. -/
def headerValue (name : String) (line : List Char) : List Char :=
  (Text.trimEndMatches ['\r', '\n'] (Text.trim (line.drop name.length))).rdropWhile (· == '\n')

def hostValue (line : List Char) : String :=
  let host := headerValue "host:" line
  String.ofList (if ':' ∈ host then host else host ++ [':', '8', '0'])

def contentLengthValue (line : List Char) : Nat :=
  (Text.parseUnsigned usizeMax (headerValue "content-length:" line)).getD 0

/-- Whether the line has this name, given in lower case. -/
def hasName (name : String) (line : List Char) : Bool := name.toList.isPrefixOf (line.map Char.toLower)

/-- One turn of the header loop after its read; `none` is `return None`. -/
def headerLine (block : HeaderBlock) (line : String) : Option HeaderBlock :=
  if block.headers.utf8ByteSize + line.utf8ByteSize > maxHeaderBytes then none
  else
    let host := if hasName "host:" line.toList then hostValue line.toList else block.host
    let contentLength :=
      if hasName "content-length:" line.toList then contentLengthValue line.toList else block.contentLength
    if hasName "content-length:" line.toList ∧ contentLength > maxContentLength then none
    else some ⟨block.headers ++ line, host, contentLength⟩

/-- The header loop. Every line it keeps has at least one byte, so that the limit
on the block bounds its turns. -/
def readHeaders {σ : Type} (reader : LineReader σ) : Nat → HeaderBlock → σ → Option (HeaderBlock × σ)
  | 0, _, _ => none
  | turns + 1, block, s =>
    (reader.readLine s).bind fun (line, s) =>
      if line = "" then some (block, s)
      else (headerLine block line).bind fun block =>
        if line = "\r\n" then some (block, s) else readHeaders reader turns block s

def parseRequestHeader {σ : Type} (reader : LineReader σ) (s : σ) : Option (ProxyRequest × σ) :=
  (readHeaders reader (maxHeaderBytes + 1) .empty s).bind fun (block, s) =>
    (reader.readExact block.contentLength s).map fun (body, s) =>
      (⟨block.host, "CONNECT ".toList.isPrefixOf block.headers.toList, block.headers, body⟩, s)

/-- `read_line` and `read_exact` of the buffered reader. -/
def bufReader : LineReader (Reader UInt8) where
  readLine r :=
    (r.readUntil bufReaderCapacity 10 (r.left.length + 1)).bind fun (bytes, r) => (fromUtf8 bytes).map (·, r)
  readExact count r := r.readExact bufReaderCapacity count count

/-- The request at the front of a local connection, and the socket as the relay
finds it: the buffered reader is dropped with what its buffer holds. -/
def localRequest (socket : Source UInt8) : Option (ProxyRequest × Source UInt8) :=
  (parseRequestHeader bufReader ⟨socket, []⟩).map fun (request, reader) => (request, reader.source)

/-- What goes to the destination ahead of the relay, in `handle_direct` as in the
tunnel handlers. -/
def firstData (request : ProxyRequest) : List Bytes :=
  if request.isConnect then [] else [asBytes request.headers ++ request.body]

/-- Everything that goes to the destination, one entry for each DATA frame or write. -/
def forwardedData (request : ProxyRequest) (socket : Source UInt8) : List Bytes :=
  firstData request ++ socket.pieces bufferSize (socket.rest.length + 1)

end EchoProxy
