import JanusGate.Common.TlsClientHello
import JanusGate.Daemon.Dataplane
import JanusGate.Daemon.Fragment
import JanusGate.Daemon.TcpStream

/-!
# The packet worker

The per-queue worker of `dataplane_worker.c`.  One call handles one queued
frame.  What the call takes from outside is part of its input: the acquired
snapshot, the two readings of the monotonic clock (absent when
`clock_gettime` fails, whose status only has to be an error), and how building
and sending a DNS response or a reset pair ended.  Logging and the worker's
own counters do not influence a verdict and are left out.
-/

namespace JanusGate

/-- Per-queue context with one TLS parser for each flow slot. -/
structure DataplaneWorker where
  limits : PacketLimits
  limitsValid : packetLimitsValid limits = true
  fragments : FragmentTracker
  streams : TcpStreamTracker
  tlsStreams : TcpStreamTracker
  tlsParsers : List TlsClientHelloParser

/-- Everything one call depends on besides the worker. -/
structure WorkerInput where
  frame : Bytes
  snapshot : Option PolicySnapshot
  fragmentClock : Option Nat
  streamClock : Option Nat
  responseStatus : Int
  resetStatus : Int

variable (worker : DataplaneWorker)

namespace Worker

variable (snapshot : PolicySnapshot)

def processFragment (clock : Option Nat) (result : DataplaneResult) :
    DataplaneWorker × Int × DataplaneResult :=
  match clock with
  | none => (worker, eInval, result)
  | some nowMs =>
    let payloadSize := worker.fragments.limits.maxBytesPerDatagram
    let (fragments, answer) := fragmentTrackerAdd worker.fragments result.packet nowMs payloadSize
    let worker := { worker with fragments := fragments }
    match answer with
    | .error status => (worker, status, result)
    | .ok (.complete payload) =>
      match fragmentBuildFrame result.packet payload (payloadSize + Fragment.frameOverheadMax) with
      | .error status => (worker, status, result)
      | .ok frame => (worker, dataplaneEvaluate frame worker.limits snapshot)
    | .ok .malformed | .ok .overlap | .ok .exhausted =>
      (worker, 0, { result with verdict := .drop, reason := .malformed })
    | .ok .stored | .ok .duplicate => (worker, 0, result)

def resetBlockedStream (tracker : TcpStreamTracker) (result : DataplaneResult) (nowMs : Nat)
    (resetStatus : Int) : TcpStreamTracker × Int :=
  if result.reason ≠ .policyBlock then (tracker, eInval)
  else
    let (tracker, status) := tcpStreamTrackerRejectFlow tracker result.packet nowMs
    (tracker, if status ≠ 0 then status else resetStatus)

/-- The message loop of `process_stream`.  The path of a reported message is cleared. -/
def processMessages (snapshot : PolicySnapshot) (nowMs : Nat)
    (resetStatus : Int) (tracker : TcpStreamTracker) :
    List Bytes → DataplaneResult → TcpStreamTracker × Int × DataplaneResult
  | [], result => (tracker, 0, result)
  | message :: messages, result =>
    let (status, result) := dataplaneEvaluateTcpDns result.packet message snapshot
    if status ≠ 0 then (tracker, status, result)
    else
      let result := { result with policyPath := none }
      if result.verdict = .drop then
        let (tracker, status) := resetBlockedStream tracker result nowMs resetStatus
        (tracker, status, result)
      else processMessages snapshot nowMs resetStatus tracker messages result

variable (input : WorkerInput) (result : DataplaneResult)

def processStream : DataplaneWorker × Int × DataplaneResult :=
  match input.streamClock with
  | none => (worker, eInval, result)
  | some nowMs =>
    let (streams, answer) :=
      tcpStreamTrackerAdd worker.streams result.packet nowMs worker.streams.limits.maxBufferedBytes
        worker.streams.limits.maxMessagesPerPacket
    let worker := { worker with streams := streams }
    match answer with
    | .error status => (worker, status, result)
    | .ok (.messages messages) =>
      let (streams, status, result) :=
        processMessages snapshot nowMs input.resetStatus streams messages result
      ({ worker with streams := streams }, status, result)
    | .ok .buffered | .ok .duplicate =>
      (worker, 0, { result with verdict := .accept, reason := .streamPending })
    | .ok .closed => (worker, 0, { result with verdict := .accept, reason := .pass })
    | .ok .malformed | .ok .conflict | .ok .exhausted =>
      (worker, 0, { result with verdict := .drop, reason := .malformed })

def acceptUnavailableSni : DataplaneResult :=
  { result with verdict := .accept, reason := .sniEncryptedOrUnavailable }

def applyClientHello (tracker : TcpStreamTracker) (snapshot : PolicySnapshot)
    (result : DataplaneResult) (hello : TlsClientHello) (helloResult : TlsClientHelloResult)
    (nowMs : Nat) (resetStatus : Int) : TcpStreamTracker × Int × DataplaneResult :=
  match helloResult with
  | .complete =>
    if hello.hasServerName then
      let (status, result) := dataplaneEvaluateVisibleSni result.packet hello.serverName snapshot
      if status ≠ 0 then (tracker, status, result)
      else if result.verdict = .drop then
        let (tracker, status) := resetBlockedStream tracker result nowMs resetStatus
        (tracker, status, result)
      else if hello.encryptedClientHello then (tracker, 0, acceptUnavailableSni result)
      else (tracker, 0, result)
    else (tracker, 0, acceptUnavailableSni result)
  | .notClientHello => (tracker, 0, acceptUnavailableSni result)
  | .malformed | .tooLarge =>
    let (tracker, status) := tcpStreamTrackerRejectFlow tracker result.packet nowMs
    (tracker, status, { result with verdict := .drop, reason := .malformed })
  | .more => (tracker, 0, { result with verdict := .accept, reason := .streamPending })

def resetParser (parsers : List TlsClientHelloParser)
    (flowIndex : Option Nat) (needed : Bool) : List TlsClientHelloParser :=
  match flowIndex with
  | some index => if needed then parsers.set index {} else parsers
  | none => parsers

/-- Feed newly contiguous TLS bytes to the parser of their slot, unless it has decided. -/
def feedTlsBytes (resetStatus : Int) (nowMs index : Nat)
    (output : Bytes) (result : DataplaneResult) : DataplaneWorker × Int × DataplaneResult :=
  let parser := worker.tlsParsers.getD index {}
  if parser.terminal = .more then
    let parser := tlsClientHelloParserFeed parser output
    let (tlsStreams, status, result) :=
      applyClientHello worker.tlsStreams snapshot result parser.hello
        parser.terminal nowMs resetStatus
    ({ worker with
        tlsStreams := tlsStreams
        tlsParsers := worker.tlsParsers.set index parser }, status, result)
  else (worker, 0, { result with verdict := .accept, reason := .pass })

def processTlsStream : DataplaneWorker × Int × DataplaneResult :=
  match input.streamClock with
  | none => (worker, eInval, result)
  | some nowMs =>
    let (tlsStreams, answer) :=
      tcpStreamTrackerAddRaw worker.tlsStreams result.packet nowMs
        worker.tlsStreams.limits.maxBufferedBytes
    let worker := { worker with tlsStreams := tlsStreams }
    match answer with
    | .error status => (worker, status, result)
    | .ok (chunk, streamResult) =>
      if chunk.flowIndex.any (fun index => decide (index ≥ worker.tlsParsers.length)) then
        (worker, eRange, result)
      else
        let worker := { worker with
          tlsParsers := resetParser worker.tlsParsers chunk.flowIndex chunk.newFlow }
        let (worker, status, result) :=
          match streamResult with
          | .bytes =>
            feedTlsBytes worker snapshot input.resetStatus nowMs
              (chunk.flowIndex.getD 0) chunk.output result
          | .buffered | .duplicate =>
            (worker, 0, { result with verdict := .accept, reason := .streamPending })
          | .closed => (worker, 0, { result with verdict := .accept, reason := .pass })
          | .conflict | .exhausted =>
            (worker, 0, { result with verdict := .drop, reason := .malformed })
        ({ worker with
            tlsParsers :=
              resetParser worker.tlsParsers chunk.flowIndex chunk.closed }, status, result)

/-- The response stage applies to one blocked complete UDP query. -/
def respondsUdp : Bool :=
  result.reason == .policyBlock && result.packet.transport == .udp &&
    result.packet.destinationPort == 53 && result.questionIndex.isSome

def processStreams : DataplaneWorker × Int × DataplaneResult :=
  if result.reason = .streamPending ∧ result.packet.transport = .tcp then
    if result.packet.destinationPort = 53 then processStream worker snapshot input result
    else if result.packet.destinationPort = 443 ∨ result.packet.destinationPort = 853 then
      processTlsStream worker snapshot input result
    else (worker, 0, result)
  else (worker, 0, result)

def inspectFrame : DataplaneWorker × Int × DataplaneResult :=
  let (status, result) := dataplaneEvaluate input.frame worker.limits snapshot
  if status = 0 ∧ result.reason = .fragmentPending then
    processFragment worker snapshot input.fragmentClock result
  else (worker, status, result)

/-- All stages for one queued frame under an acquired snapshot. -/
def classify : DataplaneWorker × Int × DataplaneResult :=
  match inspectFrame worker snapshot input with
  | (worker, 0, result) =>
    if respondsUdp result then (worker, input.responseStatus, result)
    else processStreams worker snapshot input result
  | failed => failed

end Worker

open Worker

def dataplaneWorkerProcess (input : WorkerInput) : DataplaneWorker × NfqueueVerdict :=
  match input.snapshot with
  | none => (worker, .drop)
  | some snapshot =>
    let (worker, status, result) := classify worker snapshot input
    (worker, if status ≠ 0 then .drop else result.verdict)

def dataplaneWorkerCreate (limits : PacketLimits) (fragmentLimits : FragmentLimits)
    (streamLimits : TcpStreamLimits) : Except Int DataplaneWorker :=
  if limitsValid : packetLimitsValid limits = true then do
    let fragments ← fragmentTrackerCreate fragmentLimits
    let streams ← tcpStreamTrackerCreate streamLimits
    let tlsStreams ← tcpStreamTrackerCreate streamLimits
    return {
      limits := limits
      limitsValid := limitsValid
      fragments := fragments
      streams := streams
      tlsStreams := tlsStreams
      tlsParsers := List.replicate streamLimits.maxFlows {} }
  else .error eInval

end JanusGate
