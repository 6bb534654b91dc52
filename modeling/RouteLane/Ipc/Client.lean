import RouteLane.Ipc.Framing
import RouteLane.Lib.Fallible

/-!
# The client of the daemon's socket

`DaemonClient` opens a connection for each request and reads one reply from it.  A
subscription keeps its connection: a task of its own reads the events that follow the reply,
until a frame cannot be read.
-/

namespace RouteLane

open Streams

/-- The JSON of what goes over the socket. -/
structure WireText where
  envelope : JsonText DaemonEnvelope
  response : JsonText DaemonResponse
  event : JsonText DaemonEvent

/-- What an attempt to reach the daemon meets within its time. -/
inductive Reach where
  | timeout
  | refused (error : String)
  /-- A connection: how it takes what is written, and what comes back over it. -/
  | connected (sink : Sink UInt8) (stream : List (Arrival UInt8))

def DaemonEnvelope.new (requestId : String) (request : DaemonRequest) : DaemonEnvelope :=
  ⟨ipcProtocolVersion, requestId, request⟩

def validateResponseIdentity (response : DaemonResponse) (expectedRequestId : String) :
    Except IpcError Unit :=
  if response.protocolVersion ≠ ipcProtocolVersion then
    .error ⟨"IPC_UNSUPPORTED_PROTOCOL_VERSION",
      "response protocol version " ++ toString response.protocolVersion ++
        " is unsupported; expected " ++ toString ipcProtocolVersion⟩
  else if response.requestId ≠ expectedRequestId then
    .error ⟨"IPC_RESPONSE_ID_MISMATCH", "daemon response request_id did not match the request"⟩
  else .ok ()

def connectError (error : String) : IpcError :=
  ⟨"IPC_CONNECT_FAILED", "could not connect to daemon socket: " ++ error⟩

/-- The events of a stream, up to the first frame that cannot be read; `fuel` bounds how many. -/
def readEvents (json : JsonText DaemonEvent) : ℕ → List (Arrival UInt8) → List DaemonEvent
  | 0, _ => []
  | fuel + 1, stream =>
    match readFrame json stream with
    | (.error _, _) => []
    | (.ok event, rest) => event :: readEvents json fuel rest

namespace DaemonClient

variable (wire : WireText)

/-- What `send` and `subscribe` begin with: the envelope written and the reply read and checked,
with what is left of the connection; `timeoutMessage` is what is said of one that takes too
long. -/
def exchange (reach : Reach) (envelope : DaemonEnvelope) (timeoutMessage : String) :
    Except IpcError (DaemonResponse × List (Arrival UInt8)) :=
  match reach with
  | .timeout => .error ⟨"IPC_TIMEOUT", timeoutMessage⟩
  | .refused error => .error (connectError error)
  | .connected sink stream => do
    (writeFrame wire.envelope sink envelope).1
    let read := readFrame wire.response stream
    let response ← read.1
    validateResponseIdentity response envelope.requestId
    return (response, read.2)

/-- `send_with_timeout` over `send`. -/
def send (reach : Reach) (envelope : DaemonEnvelope) : Except IpcError DaemonResponse := do
  let read ← exchange wire reach envelope "daemon request timed out"
  return read.1

/-- `subscribe_with_timeout` over `subscribe`: the events the subscription will give. -/
def subscribe (reach : Reach) (requestId : String) : Except IpcError (List DaemonEvent) := do
  let read ← exchange wire reach (.new requestId .subscribe) "daemon subscription timed out"
  match read.1.error with
  | some error => .error error
  | none =>
    if read.1.result = some .subscribed then
      return readEvents wire.event (arrived read.2).length read.2
    else
      .error ⟨"IPC_INVALID_RESPONSE",
        "subscribe request did not receive a subscription acknowledgement"⟩

end DaemonClient

/-! ## Reading -/

section Reading

variable {T : Type} {json : JsonText T} {stream rest : List (Arrival UInt8)} {value : T}

/-- A frame that was read stood at the head of what has arrived. -/
theorem arrived_readFrame (h : readFrame json stream = (.ok value, rest)) :
    ∃ lengthBytes payload, lengthBytes.length = 4 ∧ payload.length = fromBeBytes lengthBytes ∧
      arrived stream = lengthBytes ++ (payload ++ arrived rest) ∧
      decodePayload json payload = .ok value := by
  rw [readFrame] at h
  cases hhead : readExact 4 stream with
  | mk outcome left =>
    rw [hhead] at h
    cases outcome with
    | error e => cases h
    | ok lengthBytes =>
      simp only at h
      split at h
      · cases h
      · cases hbody : readExact (fromBeBytes lengthBytes) left with
        | mk outcome last =>
          rw [hbody] at h
          cases outcome with
          | error e => cases h
          | ok payload =>
            obtain ⟨hdecode, rfl⟩ := Prod.mk.inj h
            obtain ⟨hfour, hstream⟩ := arrived_readExact hhead
            obtain ⟨hlength, hleft⟩ := arrived_readExact hbody
            exact ⟨lengthBytes, payload, hfour, hlength, by rw [hstream, hleft], hdecode⟩

/-- What is read from the beginning of a frame is what the frame was written for. -/
theorem readFrame_of_part (hjson : json.RoundTrips) {written : T} {text : String}
    {after : List UInt8} (hencode : json.encode written = .ok text)
    (hfits : text.utf8ByteSize ≤ maxFrameBytes)
    (harrived : arrived stream <+: frameBytes text ++ after)
    (h : readFrame json stream = (.ok value, rest)) :
    value = written ∧ arrived rest <+: after := by
  obtain ⟨lengthBytes, payload, hfour, hlength, hstream, hdecode⟩ := arrived_readFrame h
  obtain ⟨more, hmore⟩ := harrived
  rw [hstream, frameBytes, List.append_assoc, List.append_assoc, List.append_assoc] at hmore
  obtain ⟨rfl, hbody⟩ := List.append_inj hmore (hfour.trans (length_toBeBytes _).symm)
  have hsmall : text.utf8ByteSize < 2 ^ 32 := lt_of_le_of_lt hfits (by decide)
  rw [fromBeBytes_toBeBytes hsmall] at hlength
  obtain ⟨rfl, hrest⟩ := List.append_inj hbody (hlength.trans (length_textBytes _).symm)
  refine ⟨?_, more, hrest⟩
  rw [decodePayload, textOfBytes_textBytes] at hdecode
  simp only [hjson _ _ hencode] at hdecode
  exact (Except.ok.inj hdecode).symm

theorem length_arrived_readFrame (h : readFrame json stream = (.ok value, rest)) :
    (arrived rest).length < (arrived stream).length := by
  obtain ⟨lengthBytes, payload, hfour, -, harrived, -⟩ := arrived_readFrame h
  rw [harrived, List.length_append, List.length_append, hfour]
  omega

end Reading

/-- The events do not depend on the fuel, where there is as much of it as there are bytes. -/
theorem readEvents_of_le {json : JsonText DaemonEvent} {fuel fuel' : ℕ}
    {stream : List (Arrival UInt8)} (h : (arrived stream).length ≤ fuel)
    (h' : (arrived stream).length ≤ fuel') :
    readEvents json fuel stream = readEvents json fuel' stream := by
  induction fuel generalizing fuel' stream with
  | zero =>
    cases fuel' with
    | zero => rfl
    | succ fuel' =>
      rw [readEvents, readEvents]
      split
      · rfl
      · next hread =>
        have hless := length_arrived_readFrame hread
        omega
  | succ fuel ih =>
    cases fuel' with
    | zero =>
      rw [readEvents, readEvents]
      split
      · rfl
      · next hread =>
        have hless := length_arrived_readFrame hread
        omega
    | succ fuel' =>
      rw [readEvents, readEvents]
      split
      · rfl
      · next event rest hread =>
        have hless := length_arrived_readFrame hread
        have hrest : readEvents json fuel rest = readEvents json fuel' rest :=
          ih (by omega) (by omega)
        rw [hrest]

/-- A subscription that ends after one event gives that event. -/
theorem readEvents_singleton {json : JsonText DaemonEvent} {event : DaemonEvent} {text : String}
    (hdecode : json.decode text = .ok event) (hfits : text.utf8ByteSize ≤ maxFrameBytes)
    {pieces : List (List UInt8)} (hpieces : pieces.flatten = frameBytes text) :
    readEvents json (arrived (ofPieces pieces)).length (ofPieces pieces) = [event] := by
  have hframe : pieces.flatten = frameBytes text ++ [] := by rw [hpieces, List.append_nil]
  obtain ⟨rest, hread, hrest⟩ := readFrame_of_decode hdecode hfits hframe
  have hlength : (arrived (ofPieces pieces)).length = text.utf8ByteSize + 3 + 1 := by
    rw [arrived_ofPieces, hpieces, length_frameBytes]
    omega
  have hnonempty : rest.flatten ≠ frameBytes text := by
    rw [hrest]
    intro hnil
    have hempty := congrArg List.length hnil
    rw [length_frameBytes, List.length_nil] at hempty
    omega
  have hend : (readFrame json (ofPieces rest)).1 = .error (readError .unexpectedEof) :=
    readFrame_of_broken hfits (hrest ▸ List.nil_prefix) hnonempty
  rw [hlength, readEvents, hread]
  cases hafter : readFrame json (ofPieces rest) with
  | mk outcome left =>
    rw [hafter] at hend
    obtain rfl : outcome = .error (readError .unexpectedEof) := hend
    simp [readEvents, hafter]

/-! ## The identity of a reply -/

theorem validateResponseIdentity_eq_ok {response : DaemonResponse} {id : String} :
    validateResponseIdentity response id = .ok () ↔
      response.protocolVersion = ipcProtocolVersion ∧ response.requestId = id := by
  unfold validateResponseIdentity
  split
  · simp_all
  · split <;> simp_all

namespace DaemonClient

variable {wire : WireText} {reach : Reach} {envelope : DaemonEnvelope}

/-- A reply that is taken was read from a connection, and is the reply to this request. -/
theorem exchange_eq_ok {message : String} {read : DaemonResponse × List (Arrival UInt8)}
    (h : exchange wire reach envelope message = .ok read) :
    ∃ sink stream, reach = .connected sink stream ∧
      (writeFrame wire.envelope sink envelope).1 = .ok () ∧
      readFrame wire.response stream = (.ok read.1, read.2) ∧
      read.1.protocolVersion = ipcProtocolVersion ∧ read.1.requestId = envelope.requestId := by
  cases reach with
  | timeout => cases h
  | refused error => cases h
  | connected sink stream =>
    simp only [exchange] at h
    obtain ⟨⟨⟩, hwrite, h⟩ := Fallible.bind_eq_ok.1 h
    obtain ⟨response, hread, h⟩ := Fallible.bind_eq_ok.1 h
    obtain ⟨⟨⟩, hidentity, h⟩ := Fallible.bind_eq_ok.1 h
    obtain rfl := Except.ok.inj h
    obtain ⟨hversion, hid⟩ := validateResponseIdentity_eq_ok.1 hidentity
    exact ⟨sink, stream, rfl, hwrite, Prod.ext hread rfl, hversion, hid⟩

/-- A reply to this request that arrives, with whatever comes behind it. -/
theorem exchange_of_decode {response : DaemonResponse} {text reply : String}
    {after : List UInt8} {pieces : List (List UInt8)} (message : String)
    (hencode : wire.envelope.encode envelope = .ok text) (hfits : text.utf8ByteSize ≤ maxFrameBytes)
    (hdecode : wire.response.decode reply = .ok response)
    (hreply : reply.utf8ByteSize ≤ maxFrameBytes)
    (hidentity : validateResponseIdentity response envelope.requestId = .ok ())
    (hpieces : pieces.flatten = frameBytes reply ++ after) :
    ∃ rest, exchange wire (.connected (openSink []) (ofPieces pieces)) envelope message =
      .ok (response, ofPieces rest) ∧ rest.flatten = after := by
  obtain ⟨rest, hread, hrest⟩ := readFrame_of_decode hdecode hreply hpieces
  refine ⟨rest, ?_, hrest⟩
  simp only [exchange, writeFrame_openSink hencode hfits, hread]
  exact Fallible.bind_eq_ok.2 ⟨(), rfl, Fallible.bind_eq_ok.2 ⟨response, rfl,
    Fallible.bind_eq_ok.2 ⟨(), hidentity, rfl⟩⟩⟩

theorem send_eq_ok {response : DaemonResponse} (h : send wire reach envelope = .ok response) :
    response.protocolVersion = ipcProtocolVersion ∧ response.requestId = envelope.requestId := by
  obtain ⟨read, hread, h⟩ := Fallible.bind_eq_ok.1 h
  obtain rfl := Except.ok.inj h
  obtain ⟨-, -, -, -, -, hidentity⟩ := exchange_eq_ok hread
  exact hidentity

/-- A subscription is the events behind an acknowledgement. -/
theorem subscribe_eq_ok {id : String} {events : List DaemonEvent} :
    subscribe wire reach id = .ok events ↔
      ∃ read, exchange wire reach (.new id .subscribe) "daemon subscription timed out" = .ok read ∧
        read.1.error = none ∧ read.1.result = some .subscribed ∧
        readEvents wire.event (arrived read.2).length read.2 = events := by
  rw [subscribe, Fallible.bind_eq_ok]
  refine exists_congr fun read => and_congr_right fun _ => ?_
  cases herror : read.1.error with
  | some error => simp
  | none => by_cases hresult : read.1.result = some .subscribed <;> simp [hresult, pure, Except.pure]

end DaemonClient

end RouteLane
