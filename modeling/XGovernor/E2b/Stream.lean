import XGovernor.Domain.Json
import XGovernor.Lib.Framing

/-!
# The stream of a remote process

A command in a remote sandbox is started with one request whose response is a stream of events:
output of the process, its end, and keep-alives.  The stream comes as length-prefixed frames (or,
from some servers, as one plain JSON document), cut into chunks by the transport.
`ConnectStartStreamDecoder` collects the output and `startProcessRaw` drives it; a supervised
process first prints a guard prefix of its own, which must not reach the caller.

JSON and Base64 decoding belong to libraries and are parameters.
-/

namespace XGovernor.E2b

open Domain Lib

abbrev Bytes := List UInt8

/-! ## Failures -/

inductive E2bFailureKind where
  | dns | connect | tls | timeout | httpStatus | bodyInterrupted | protocol | unknown
  deriving DecidableEq

structure E2bFailure where
  kind : E2bFailureKind
  message : String
  retryable : Bool
  deriving DecidableEq

def E2bFailure.ofProtocol (message : String) : E2bFailure :=
  ⟨.protocol, message, false⟩

def E2bFailure.retryableProtocol (message : String) : E2bFailure :=
  ⟨.protocol, message, true⟩

def E2bFailure.ofInterrupted (message : String) : E2bFailure :=
  ⟨.bodyInterrupted, message, true⟩

structure E2bExecOutput where
  stdout : Bytes
  stderr : Bytes
  exitCode : Option Int
  timedOut : Bool
  deriving DecidableEq

/-- A failed start.  `interrupted` is the state `RunningOrCompleted` of a failure that came after
the process was started; `operationError` is the text of the error a failure before that maps to. -/
structure E2bExecFailure where
  failure : E2bFailure
  operationError : Option String
  stdout : Bytes
  stderr : Bytes
  interrupted : Bool
  deriving DecidableEq

/-! ## Events -/

structure DataEvent where
  stdout : Option String
  stderr : Option String
  pty : Option String

structure EndEvent where
  exitCode : Option Int
  status : Option String
  error : Option String

structure ProcessEvent where
  data : Option DataEvent
  «end» : Option EndEvent

structure StartResponse where
  event : Option ProcessEvent

/-- What the JSON and Base64 libraries compute. -/
structure Codec where
  /-- `serde_json::from_slice::<StartResponse>` -/
  startResponse : Bytes → Except String StartResponse
  /-- `serde_json::from_slice::<Value>` -/
  value : Bytes → Option Json
  /-- The text of a JSON value. -/
  render : Json → String
  /-- The standard Base64 alphabet. -/
  base64 : String → Except String Bytes

/-! ## Exit codes -/

/-- `str::trim`. -/
def trim (text : List Char) : List Char :=
  ((text.dropWhile isWhitespace).reverse.dropWhile isWhitespace).reverse

/-- `str::strip_prefix`. -/
def stripStart : List Char → List Char → Option (List Char)
  | [], text => some text
  | _ :: _, [] => none
  | p :: ps, c :: cs => if p = c then stripStart ps cs else none

/-- The value of decimal digits. -/
def parseDigits (text : List Char) : Option Nat :=
  if text ≠ [] ∧ text.all Char.isDigit then
    some (text.foldl (fun value c => value * 10 + (c.toNat - 48)) 0)
  else
    none

/-- `str::parse::<i32>`. -/
def parseI32 (text : List Char) : Option Int :=
  let value : Option Int := match text with
    | '-' :: digits => (parseDigits digits).map fun n => -(n : Int)
    | '+' :: digits => (parseDigits digits).map fun n => (n : Int)
    | digits => (parseDigits digits).map fun n => (n : Int)
  value.filter fun n => -2147483648 ≤ n ∧ n ≤ 2147483647

/-- The part of a text after its last blank, if it has one. -/
def afterLastBlank (text : List Char) : Option (List Char) :=
  if ' ' ∈ text then some (text.reverse.takeWhile (· ≠ ' ')).reverse else none

/-- `parse_status_exit_code`. -/
def parseStatusExitCode (status : String) : Option Int :=
  let status := trim status.toList
  ((stripStart "exit status ".toList status).bind fun value => parseI32 (trim value)).or
    ((afterLastBlank status).bind parseI32)

/-! ## The collector -/

structure StartStreamCollector where
  stdout : Bytes := []
  stderr : Bytes := []
  exitCode : Option Int := none
  completed : Bool := false
  deriving DecidableEq

variable (codec : Codec)

/-- `decode_stream_chunk`. -/
def decodeStreamChunk (label value : String) : Except E2bFailure Bytes :=
  match codec.base64 value with
  | .ok bytes => .ok bytes
  | .error error =>
    .error (.ofProtocol ("failed to decode e2b process " ++ label ++ " chunk: " ++ error))

/-- One part of a data event; what was collected before a bad part stays. -/
def collectPart (label : String) (part : Option String)
    (extend : Bytes → StartStreamCollector → StartStreamCollector)
    (collector : StartStreamCollector) : Except E2bFailure Unit × StartStreamCollector :=
  match part with
  | none => (.ok (), collector)
  | some value =>
    match decodeStreamChunk codec label value with
    | .error failure => (.error failure, collector)
    | .ok bytes => (.ok (), extend bytes collector)

def StartStreamCollector.extendStdout (bytes : Bytes) (collector : StartStreamCollector) :
    StartStreamCollector :=
  { collector with stdout := collector.stdout ++ bytes }

def StartStreamCollector.extendStderr (bytes : Bytes) (collector : StartStreamCollector) :
    StartStreamCollector :=
  { collector with stderr := collector.stderr ++ bytes }

def StartStreamCollector.applyData (data : DataEvent)
    (collector : StartStreamCollector) : Except E2bFailure Unit × StartStreamCollector :=
  match collectPart codec "stdout" data.stdout .extendStdout collector with
  | (.error failure, collector) => (.error failure, collector)
  | (.ok _, collector) =>
    match collectPart codec "stderr" data.stderr .extendStderr collector with
    | (.error failure, collector) => (.error failure, collector)
    | (.ok _, collector) => collectPart codec "pty" data.pty .extendStdout collector

/-- The end of the process: a text in `error` goes to the error output unless it only repeats the
exit code. -/
def StartStreamCollector.applyEnd (event : EndEvent) (collector : StartStreamCollector) :
    StartStreamCollector :=
  let exitCode := event.exitCode.or (parseStatusExitCode (event.status.getD ""))
  let stderr := match event.error.filter fun value => !isBlank value with
    | none => collector.stderr
    | some error =>
      let reportedExit := (stripStart "exit status ".toList (trim error.toList)).bind parseI32
      if reportedExit = none ∨ reportedExit ≠ exitCode then
        collector.stderr ++ error.toUTF8.data.toList
      else
        collector.stderr
  { collector with exitCode, stderr, completed := true }

/-- `StartStreamCollector::apply`. -/
def StartStreamCollector.apply (response : StartResponse)
    (collector : StartStreamCollector) : Except E2bFailure Unit × StartStreamCollector :=
  match response.event with
  | none => (.ok (), collector)
  | some event =>
    match event.data, event.end with
    | some data, _ => collector.applyData codec data
    | none, some event => (.ok (), collector.applyEnd event)
    | none, none => (.ok (), collector)

def StartStreamCollector.intoOutput (collector : StartStreamCollector) : E2bExecOutput :=
  ⟨collector.stdout, collector.stderr, collector.exitCode, false⟩

/-! ## Frames -/

/-- One frame: its flags and its payload. -/
structure Frame where
  flags : UInt8
  payload : Bytes

/-- The first frame of a buffer: five bytes of header, then as many as they say. -/
def nextFrame : Bytes → Option (Frame × Bytes)
  | flags :: b₁ :: b₂ :: b₃ :: b₄ :: body =>
    let len := ((b₁.toNat * 256 + b₂.toNat) * 256 + b₃.toNat) * 256 + b₄.toNat
    if body.length < len then none else some (⟨flags, body.take len⟩, body.drop len)
  | _ => none

/-- `parse_end_stream_payload`. -/
def parseEndStreamPayload (payload : Bytes) : Except E2bFailure Unit :=
  if payload = [] then .ok ()
  else
    match codec.value payload with
    | none => .ok ()
    | some value =>
      match value.get? "error" with
      | none | some .null => .ok ()
      | some error =>
        .error (.retryableProtocol ("e2b process stream ended with error: " ++ codec.render error))

/-- What the loop of `drain_frames` does with one frame. -/
def applyFrame (frame : Frame) (collector : StartStreamCollector) :
    Except E2bFailure Unit × StartStreamCollector :=
  if frame.flags &&& 2 ≠ 0 then (parseEndStreamPayload codec frame.payload, collector)
  else if frame.flags &&& 1 ≠ 0 then
    (.error (.ofProtocol "compressed e2b process stream frames are not supported"), collector)
  else if frame.payload = [] then (.ok (), collector)
  else
    match codec.startResponse frame.payload with
    | .error error =>
      (.error (.ofProtocol ("failed to decode e2b process stream event: " ++ error)), collector)
    | .ok response => collector.apply codec response

/-! ## The decoder -/

inductive StreamMode where
  | framed
  | plainJson
  deriving DecidableEq

structure ConnectStartStreamDecoder where
  mode : Option StreamMode := none
  buffer : Bytes := []
  collector : StartStreamCollector := {}

namespace ConnectStartStreamDecoder

/-- `drain_frames`.  Every turn takes a header off the buffer, so a fuel of the buffer's length is
enough. -/
def drainFrames (codec : Codec) :
    Nat → ConnectStartStreamDecoder → Except E2bFailure Unit × ConnectStartStreamDecoder
  | 0, decoder => (.ok (), decoder)
  | fuel + 1, decoder =>
    match nextFrame decoder.buffer with
    | none => (.ok (), decoder)
    | some (frame, rest) =>
      match applyFrame codec frame decoder.collector with
      | (.error failure, collector) => (.error failure, { decoder with buffer := rest, collector })
      | (.ok _, collector) => drainFrames codec fuel { decoder with buffer := rest, collector }

/-- `u8::is_ascii_whitespace`. -/
def isAsciiWhitespace (byte : UInt8) : Bool :=
  byte = 9 || byte = 10 || byte = 12 || byte = 13 || byte = 32

/-- The mode that the first byte that is not blank decides. -/
def modeOf (bytes : Bytes) : Option StreamMode :=
  (bytes.find? fun byte => !isAsciiWhitespace byte).map fun first =>
    if first = 123 then .plainJson else .framed

/-- `push`. -/
def push (bytes : Bytes) (decoder : ConnectStartStreamDecoder) :
    Except E2bFailure Unit × ConnectStartStreamDecoder :=
  let buffer := decoder.buffer ++ bytes
  let mode := decoder.mode.or (modeOf buffer)
  let decoder := { decoder with buffer, mode }
  if mode = some .framed then drainFrames codec buffer.length decoder else (.ok (), decoder)

/-- `finish`, as the result and the collector that is left: a failure keeps it, since the caller
still reads it. -/
def finish (decoder : ConnectStartStreamDecoder) :
    Except E2bFailure E2bExecOutput × StartStreamCollector :=
  match decoder.mode with
  | some .plainJson =>
    match codec.startResponse decoder.buffer with
    | .error error =>
      (.error (.ofProtocol ("failed to decode e2b process response: " ++ error)), decoder.collector)
    | .ok response =>
      match decoder.collector.apply codec response with
      | (.error failure, collector) => (.error failure, collector)
      | (.ok _, collector) => (.ok collector.intoOutput, collector)
  | some .framed =>
    if decoder.buffer ≠ [] then
      (.error (.ofInterrupted (if decoder.buffer.length < 5 then
          "malformed e2b process stream frame header"
        else "malformed e2b process stream frame length")), decoder.collector)
    else (.ok decoder.collector.intoOutput, decoder.collector)
  | none => (.error (.ofInterrupted "empty e2b process stream"), decoder.collector)

end ConnectStartStreamDecoder

/-! ## The drive -/

/-- The flight of a supervised process, as far as its stream is concerned. -/
structure Flight where
  tag : String

/-- The bytes that the supervisor prints before it starts the process, between two zero bytes. -/
def Flight.guardPrefix (flight : Flight) : Bytes :=
  0 :: (("XGOVERNOR-GUARD:" ++ flight.tag).toUTF8.data.toList ++ [0])

/-- `strip_guard_prefix`.  `ready` is the flag in the flight's status. -/
def stripGuardPrefix (flight : Option Flight) (ready : Bool) (collector : StartStreamCollector) :
    Except E2bFailure (Bool × StartStreamCollector) :=
  match flight with
  | none => .ok (ready, collector)
  | some flight =>
    if !ready && flight.guardPrefix.length ≤ collector.stdout.length then
      if flight.guardPrefix.isPrefixOf collector.stdout then
        .ok (true, { collector with stdout := collector.stdout.drop flight.guardPrefix.length })
      else
        .error (.ofProtocol "E2B process supervisor acknowledgement mismatch")
    else
      .ok (ready, collector)

/-- What a failure while reading becomes: the output of a process that has ended is returned all
the same. -/
def endWith (failure : E2bFailure) (collector : StartStreamCollector) :
    Except E2bExecFailure E2bExecOutput :=
  if collector.completed then .ok collector.intoOutput
  else
    .error
      { failure
        operationError := none
        stdout := collector.stdout
        stderr := collector.stderr
        interrupted := true }

/-- The read loop of `start_process_raw`: the body arrives as chunks, and may break off with a
transport error. -/
def readStream (codec : Codec) (flight : Option Flight) :
    List (Except E2bFailure Bytes) → Bool → ConnectStartStreamDecoder →
      Except E2bExecFailure E2bExecOutput
  | [], _, decoder =>
    match decoder.finish codec with
    | (.ok output, _) => .ok output
    | (.error failure, collector) => endWith failure collector
  | .error failure :: _, _, decoder => endWith failure decoder.collector
  | .ok chunk :: rest, ready, decoder =>
    match decoder.push codec chunk with
    | (.error failure, decoder) => endWith failure decoder.collector
    | (.ok _, decoder) =>
      match stripGuardPrefix flight ready decoder.collector with
      | .error failure => endWith failure decoder.collector
      | .ok (ready, collector) => readStream codec flight rest ready { decoder with collector }

/-- `start_process_raw`: `opened` is how the request fared up to its response. -/
def startProcessRaw (codec : Codec) (flight : Option Flight)
    (opened : Except E2bExecFailure Unit) (body : List (Except E2bFailure Bytes)) :
    Except E2bExecFailure E2bExecOutput :=
  match opened with
  | .error failure => .error failure
  | .ok _ => readStream codec flight body false {}

/-- `start_process`: outside a turn the process runs unsupervised; inside one it needs a flight,
and the supervising task hands on what the read loop returns. -/
def startProcess (codec : Codec) (registered : Option (Except String Flight))
    (opened : Except E2bExecFailure Unit) (body : List (Except E2bFailure Bytes)) :
    Except E2bExecFailure E2bExecOutput :=
  match registered with
  | none => startProcessRaw codec none opened body
  | some (.error error) => .error ⟨.ofProtocol error, some error, [], [], false⟩
  | some (.ok flight) => startProcessRaw codec (some flight) opened body

end XGovernor.E2b
