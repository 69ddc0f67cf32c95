import JanusGate.Common.Domain

/-!
# Incremental ClientHello parsing

The parser of `tls_client_hello.c`.  The partial fields of the state are
lists, so that the received counts are their lengths.  A server name is the
text in front of the terminator of its array.
-/

namespace JanusGate

inductive TlsClientHelloResult where
  | more
  | complete
  | notClientHello
  | malformed
  | tooLarge
  deriving DecidableEq

structure TlsClientHello where
  hasServerName : Bool := false
  encryptedClientHello : Bool := false
  serverName : Bytes := []
  deriving DecidableEq

/-- Bounded state for one TLS flow; the default is the initialized parser. -/
structure TlsClientHelloParser where
  recordHeader : Bytes := []
  recordRemaining : Nat := 0
  recordCount : Nat := 0
  handshakeHeader : Bytes := []
  bodySize : Nat := 0
  body : Bytes := []
  terminal : TlsClientHelloResult := .more
  hello : TlsClientHello := {}
  deriving DecidableEq

variable (parser : TlsClientHelloParser) (data : Bytes)

namespace Tls

def contentHandshake : UInt8 := 22
def handshakeClientHello : UInt8 := 1
def extensionServerName : UInt16 := 0
def extensionEncryptedClientHello : UInt16 := 0xfe0d
def clientHelloPrefixSize : Nat := 34
def clientHelloMax : Nat := 16384
def recordPayloadMax : Nat := 18432
def recordCountMax : Nat := 64
def recordHeaderSize : Nat := 5
def handshakeHeaderSize : Nat := 4

def visibleByte (value : UInt8) : Bool := decide (value ≤ 0x7f) && value != 0

/-- Copy and validate a visible ASCII SNI: the text left in the output, and whether it was accepted.
-/
def normalizeServerName (name : Bytes) : Bytes × Bool :=
  if name.length = 0 ∨ name.length > domainNameMax then ([], false)
  else
    let lowered := name.map lowerAscii
    if lowered.all visibleByte then
      if domainIsNormalized lowered then (lowered, true) else ([], false)
    else (lowered.takeWhile visibleByte, false)

/-- The entry loop of the server_name extension; every entry takes at least three bytes. -/
def parseServerNames : Nat → Bytes → TlsClientHello → TlsClientHello × Bool
  | 0, data, hello => (hello, data.isEmpty)
  | fuel + 1, data, hello =>
    if data = [] then (hello, true)
    else
      match readU16Be data 1 with
      | none => (hello, false)
      | some nameSize =>
        let rest := data.drop (3 + nameSize.toNat)
        if nameSize = 0 ∨ nameSize.toNat > data.length - 3 then (hello, false)
        else if byteAt data 0 ≠ 0 then parseServerNames fuel rest hello
        else if hello.hasServerName then (hello, false)
        else
          match normalizeServerName (slice data 3 nameSize.toNat) with
          | (serverName, true) =>
            parseServerNames fuel rest { hello with
              hasServerName := true
              serverName := serverName }
          | (serverName, false) => ({ hello with serverName := serverName }, false)

def parseServerNameExtension (hello : TlsClientHello) : TlsClientHello × Bool :=
  match readU16Be data 0 with
  | none => (hello, false)
  | some listSize =>
    if listSize.toNat ≠ data.length - 2 ∨ listSize = 0 then (hello, false)
    else parseServerNames data.length (data.drop 2) hello

/-- Parse the bounded extension vector.  Every extension takes at least four
bytes. -/
def parseExtensions : Nat → Bytes → Bool → TlsClientHello → TlsClientHello × Bool
  | 0, data, _, hello => (hello, data.isEmpty)
  | fuel + 1, data, sawServerName, hello =>
    if data = [] then (hello, true)
    else
      match readU16Be data 0, readU16Be data 2 with
      | some extensionType, some extensionSize =>
        let rest := data.drop (4 + extensionSize.toNat)
        if extensionSize.toNat > data.length - 4 then (hello, false)
        else if extensionType = extensionServerName then
          if sawServerName then (hello, false)
          else
            match parseServerNameExtension (slice data 4 extensionSize.toNat) hello with
            | (hello, true) => parseExtensions fuel rest true hello
            | (hello, false) => (hello, false)
        else if extensionType = extensionEncryptedClientHello then
          parseExtensions fuel rest sawServerName { hello with encryptedClientHello := true }
        else parseExtensions fuel rest sawServerName hello
      | _, _ => (hello, false)

/-- The extensions of a ClientHello body: `none` is malformed, `some none` a body without them. -/
def clientHelloExtensions (body : Bytes) : Option (Option Bytes) := do
  if body.length < clientHelloPrefixSize + 1 ∨ byteAt body 0 ≠ 0x03 ∨ byteAt body 1 ≠ 0x03 then none
  let offset := clientHelloPrefixSize
  let sessionSize := (byteAt body offset).toNat
  if sessionSize > 32 ∨ sessionSize > body.length - offset - 1 then none
  let offset := offset + 1 + sessionSize
  let cipherSuitesSize ← readU16Be body offset
  if cipherSuitesSize < 2 ∨ cipherSuitesSize &&& 1 ≠ 0 ∨
      cipherSuitesSize.toNat > body.length - offset - 2 then
    none
  let offset := offset + 2 + cipherSuitesSize.toNat
  if offset ≥ body.length then none
  let compressionSize := (byteAt body offset).toNat
  if compressionSize = 0 ∨ compressionSize > body.length - offset - 1 then none
  let offset := offset + 1 + compressionSize
  if offset = body.length then return none
  let extensionsSize ← readU16Be body offset
  if extensionsSize.toNat ≠ body.length - offset - 2 then none
  return some (body.drop (offset + 2))

/-- Parse one complete ClientHello body: what was extracted, and whether it is well formed. -/
def parseClientHello (body : Bytes) : TlsClientHello × Bool :=
  match clientHelloExtensions body with
  | none => ({}, false)
  | some none => ({}, true)
  | some (some extensions) => parseExtensions body.length extensions false {}

def activateRecord : TlsClientHelloParser :=
  let header := parser.recordHeader
  if parser.recordCount ≥ recordCountMax then { parser with terminal := .tooLarge }
  else
    match readU16Be header 3 with
    | none => { parser with terminal := .malformed }
    | some recordSize =>
      if byteAt header 0 ≠ contentHandshake ∨ byteAt header 1 ≠ 0x03 ∨
          byteAt header 2 < 0x01 ∨ byteAt header 2 > 0x03 ∨
          recordSize = 0 ∨ recordSize.toNat > recordPayloadMax then
        { parser with terminal := .malformed }
      else
        { parser with
          recordHeader := []
          recordRemaining := recordSize.toNat
          recordCount := parser.recordCount + 1 }

def activateHandshake : TlsClientHelloParser :=
  let header := parser.handshakeHeader
  let bodySize := (byteAt header 1).toNat * 65536 +
    (byteAt header 2).toNat * 256 + (byteAt header 3).toNat
  if byteAt header 0 ≠ handshakeClientHello then { parser with terminal := .notClientHello }
  else if bodySize = 0 then { parser with terminal := .malformed }
  else if bodySize > clientHelloMax then { parser with terminal := .tooLarge }
  else { parser with bodySize := bodySize }

/-- The record-header stage of one round: the parser, the unread bytes, and
whether the round goes on. -/
def recordStage : TlsClientHelloParser × Bytes × Bool :=
  if parser.recordRemaining = 0 then
    let missing := recordHeaderSize - parser.recordHeader.length
    let parser := { parser with recordHeader := parser.recordHeader ++ data.take missing }
    let data := data.drop missing
    if parser.recordHeader.length < recordHeaderSize then (parser, data, false)
    else
      let parser := activateRecord parser
      (parser, data, parser.terminal == .more)
  else (parser, data, true)

def handshakeStage : TlsClientHelloParser × Bytes × Bool :=
  if parser.handshakeHeader.length < handshakeHeaderSize then
    let missing := min parser.recordRemaining (handshakeHeaderSize - parser.handshakeHeader.length)
    let copied := data.take missing
    let parser := { parser with
      handshakeHeader := parser.handshakeHeader ++ copied
      recordRemaining := parser.recordRemaining - copied.length }
    let data := data.drop missing
    if parser.handshakeHeader.length < handshakeHeaderSize then (parser, data, false)
    else
      let parser := activateHandshake parser
      (parser, data, parser.terminal == .more)
  else (parser, data, true)

def bodyStage : TlsClientHelloParser × Bytes :=
  let missing := min parser.recordRemaining (parser.bodySize - parser.body.length)
  let copied := data.take missing
  let parser := { parser with
    body := parser.body ++ copied
    recordRemaining := parser.recordRemaining - copied.length }
  let data := data.drop missing
  if parser.body.length = parser.bodySize then
    let (hello, wellFormed) := parseClientHello parser.body
    ({ parser with
      terminal := if wellFormed then .complete else .malformed
      hello := hello }, data)
  else (parser, data)

def feedRound : TlsClientHelloParser × Bytes :=
  match recordStage parser data with
  | (parser, data, false) => (parser, data)
  | (parser, data, true) =>
    match handshakeStage parser data with
    | (parser, data, false) => (parser, data)
    | (parser, data, true) => bodyStage parser data

/-- The feed loop.  Every round reads a byte, so that the number of bytes is
enough fuel. -/
def feedLoop : Nat → TlsClientHelloParser → Bytes → TlsClientHelloParser
  | 0, parser, _ => parser
  | fuel + 1, parser, data =>
    if data = [] ∨ parser.terminal ≠ .more then parser
    else
      let (parser, data) := feedRound parser data
      feedLoop fuel parser data

end Tls

def tlsClientHelloParserFeed : TlsClientHelloParser := Tls.feedLoop data.length parser data

end JanusGate
