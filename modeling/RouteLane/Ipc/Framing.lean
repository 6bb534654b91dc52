import RouteLane.Ipc.Protocol
import RouteLane.Lib.Streams
import RouteLane.Net.JsonText

/-!
# Frames

What is sent over the daemon's socket: the length of a JSON text in four bytes, and the text.
Reader and writer are apart, and agree on the prefix and on the limit.
-/

namespace RouteLane

open Streams

def maxFrameBytes : ℕ := 1048576

/-- A type's JSON, as `serde_json` writes and reads it. -/
structure JsonText (T : Type) where
  encode : T → Except String String
  decode : String → Except String T

/-- What is written is read back. -/
def JsonText.RoundTrips {T : Type} (json : JsonText T) : Prop :=
  ∀ value text, json.encode value = .ok text → json.decode text = .ok value

/-! ## Bytes -/

/-- `u32::to_be_bytes`, of a length cast to 32 bits. -/
def toBeBytes (n : ℕ) : List UInt8 :=
  [UInt8.ofNat (n / 2 ^ 24), UInt8.ofNat (n / 2 ^ 16), UInt8.ofNat (n / 2 ^ 8), UInt8.ofNat n]

/-- `u32::from_be_bytes`. -/
def fromBeBytes (bytes : List UInt8) : ℕ := bytes.foldl (fun n b => n * 256 + b.toNat) 0

theorem fromBeBytes_toBeBytes {n : ℕ} (h : n < 2 ^ 32) : fromBeBytes (toBeBytes n) = n := by
  simp only [fromBeBytes, toBeBytes, List.foldl_cons, List.foldl_nil, UInt8.toNat_ofNat']
  omega

/-! ## Reading -/

/-- `read_error`. -/
def readError : ReadError → IpcError
  | .unexpectedEof =>
    ⟨"IPC_UNEXPECTED_EOF", "frame ended before its declared length: early eof"⟩
  | .other message => ⟨"IPC_READ_FAILED", "could not read IPC frame: " ++ message⟩

def frameTooLarge (length : ℕ) : IpcError :=
  ⟨"IPC_FRAME_TOO_LARGE",
    "frame is " ++ toString length ++ " bytes; maximum is " ++ toString maxFrameBytes⟩

section Codec

variable {T : Type} (json : JsonText T)

/-- What a payload is read as. -/
def decodePayload (payload : List UInt8) : Except IpcError T :=
  match textOfBytes payload with
  | none => .error ⟨"IPC_INVALID_UTF8", "frame is not UTF-8: " ++ utf8ErrorText payload⟩
  | some text =>
    (json.decode text).mapError fun e => ⟨"IPC_INVALID_JSON", "frame JSON is invalid: " ++ e⟩

/-- `read_frame`, and what it leaves of the stream. -/
def readFrame (stream : List (Arrival UInt8)) : Except IpcError T × List (Arrival UInt8) :=
  match readExact 4 stream with
  | (.error e, stream) => (.error (readError e), stream)
  | (.ok lengthBytes, stream) =>
    let length := fromBeBytes lengthBytes
    if maxFrameBytes < length then (.error (frameTooLarge length), stream)
    else
      match readExact length stream with
      | (.error e, stream) => (.error (readError e), stream)
      | (.ok payload, stream) => (decodePayload json payload, stream)

/-- `write_error`. -/
def writeError (message : String) : IpcError :=
  ⟨"IPC_WRITE_FAILED", "could not write IPC frame: " ++ message⟩

/-- `write_frame`, and what the sink has then. -/
def writeFrame (sink : Sink UInt8) (value : T) : Except IpcError Unit × Sink UInt8 :=
  match json.encode value with
  | .error e => (.error ⟨"IPC_JSON_ENCODE_FAILED", "could not encode JSON frame: " ++ e⟩, sink)
  | .ok text =>
    let payload := textBytes text
    if maxFrameBytes < payload.length then (.error (frameTooLarge payload.length), sink)
    else
      match sink.writeAll (toBeBytes payload.length) with
      | (.error e, sink) => (.error (writeError e), sink)
      | (.ok (), sink) =>
        match sink.writeAll payload with
        | (.error e, sink) => (.error (writeError e), sink)
        | (.ok (), sink) => (sink.flush.mapError writeError, sink)

/-- One frame after another written. -/
def writeFrames : Sink UInt8 → List T → Except IpcError Unit × Sink UInt8
  | sink, [] => (.ok (), sink)
  | sink, value :: rest =>
    match writeFrame json sink value with
    | (.error e, sink) => (.error e, sink)
    | (.ok (), sink) => writeFrames sink rest

/-- So many frames read, one after another. -/
def readFrames : ℕ → List (Arrival UInt8) → Except IpcError (List T) × List (Arrival UInt8)
  | 0, stream => (.ok [], stream)
  | n + 1, stream =>
    match readFrame json stream with
    | (.error e, stream) => (.error e, stream)
    | (.ok value, stream) =>
      match readFrames n stream with
      | (.error e, stream) => (.error e, stream)
      | (.ok values, stream) => (.ok (value :: values), stream)

end Codec

/-! ## Frames -/

/-- The bytes of the frame of a text. -/
def frameBytes (text : String) : List UInt8 := toBeBytes text.utf8ByteSize ++ textBytes text

theorem length_toBeBytes (n : ℕ) : (toBeBytes n).length = 4 := rfl

theorem length_frameBytes (text : String) : (frameBytes text).length = 4 + text.utf8ByteSize := by
  rw [frameBytes, List.length_append, length_toBeBytes, length_textBytes]

/-- A sink that never fails. -/
def openSink (written : List UInt8) : Sink UInt8 := ⟨written, none, none⟩

section Frames

variable {T : Type} {json : JsonText T} {value : T} {text : String}

/-- A value whose JSON fits is written as one frame. -/
theorem writeFrame_openSink (hencode : json.encode value = .ok text)
    (hfits : text.utf8ByteSize ≤ maxFrameBytes) (written : List UInt8) :
    writeFrame json (openSink written) value = (.ok (), openSink (written ++ frameBytes text)) := by
  have hlength : ¬maxFrameBytes < (textBytes text).length := by
    rw [length_textBytes]
    omega
  unfold writeFrame
  simp only [hencode, if_neg hlength]
  simp only [openSink, Sink.writeAll, Sink.flush, frameBytes, length_textBytes, Except.mapError,
    List.append_assoc]

/-- A value whose JSON does not fit is not written, whatever the sink. -/
theorem writeFrame_too_large (hencode : json.encode value = .ok text)
    (hlarge : maxFrameBytes < text.utf8ByteSize) (sink : Sink UInt8) :
    writeFrame json sink value = (.error (frameTooLarge text.utf8ByteSize), sink) := by
  have hlength : maxFrameBytes < (textBytes text).length := by
    rw [length_textBytes]
    exact hlarge
  unfold writeFrame
  simp only [hencode]
  exact if_pos hlength

/-- A frame and what follows it, in whatever pieces: the frame is read, the rest is left. -/
theorem readFrame_of_decode (hdecode : json.decode text = .ok value)
    (hfits : text.utf8ByteSize ≤ maxFrameBytes) {pieces : List (List UInt8)} {after : List UInt8}
    (hpieces : pieces.flatten = frameBytes text ++ after) :
    ∃ rest, readFrame json (ofPieces pieces) = (.ok value, ofPieces rest) ∧
      rest.flatten = after := by
  have hlength : pieces.flatten.length = 4 + text.utf8ByteSize + after.length := by
    rw [hpieces, List.length_append, length_frameBytes]
  obtain ⟨rest, hhead, hrest⟩ := readExact_of_le (show 4 ≤ pieces.flatten.length by omega)
  have htake : pieces.flatten.take 4 = toBeBytes text.utf8ByteSize := by
    rw [hpieces, frameBytes, List.append_assoc]
    exact List.take_left' rfl
  have hdrop : rest.flatten = textBytes text ++ after := by
    rw [hrest, hpieces, frameBytes, List.append_assoc]
    exact List.drop_left' rfl
  have hdeclared : fromBeBytes (toBeBytes text.utf8ByteSize) = text.utf8ByteSize := by
    refine fromBeBytes_toBeBytes (lt_of_le_of_lt hfits ?_)
    unfold maxFrameBytes
    norm_num
  have henough : text.utf8ByteSize ≤ rest.flatten.length := by
    rw [hdrop, List.length_append, length_textBytes]
    omega
  obtain ⟨rest', hpayload, hrest'⟩ := readExact_of_le henough
  have hbytes : rest.flatten.take text.utf8ByteSize = textBytes text := by
    rw [hdrop]
    exact List.take_left' rfl
  refine ⟨rest', ?_, ?_⟩
  · unfold readFrame
    rw [hhead, htake]
    simp only [hdeclared, if_neg (not_lt.2 hfits), hpayload, hbytes, decodePayload,
      textOfBytes_textBytes, hdecode, Except.mapError]
  · rw [hrest', hdrop]
    exact List.drop_left' rfl

/-- The frame of what was written is read back. -/
theorem readFrame_frameBytes (hjson : json.RoundTrips) (hencode : json.encode value = .ok text)
    (hfits : text.utf8ByteSize ≤ maxFrameBytes) {pieces : List (List UInt8)} {after : List UInt8}
    (hpieces : pieces.flatten = frameBytes text ++ after) :
    ∃ rest, readFrame json (ofPieces pieces) = (.ok value, ofPieces rest) ∧
      rest.flatten = after := readFrame_of_decode (hjson _ _ hencode) hfits hpieces

/-- A frame that breaks off is no value. -/
theorem readFrame_of_broken (hfits : text.utf8ByteSize ≤ maxFrameBytes)
    {pieces : List (List UInt8)} (hpart : pieces.flatten <+: frameBytes text)
    (hstrict : pieces.flatten ≠ frameBytes text) :
    (readFrame json (ofPieces pieces)).1 = .error (readError .unexpectedEof) := by
  obtain ⟨missing, hmissing⟩ := hpart
  have hlength : pieces.flatten.length < 4 + text.utf8ByteSize := by
    have htotal := congrArg List.length hmissing
    rw [List.length_append, length_frameBytes] at htotal
    have hsome : missing ≠ [] := by
      rintro rfl
      exact hstrict (by rw [← hmissing, List.append_nil])
    have := List.length_pos_iff.2 hsome
    omega
  by_cases hhead : 4 ≤ pieces.flatten.length
  · obtain ⟨rest, hread, hrest⟩ := readExact_of_le hhead
    have hsame : (pieces.flatten ++ missing).take 4 = pieces.flatten.take 4 :=
      List.take_append_of_le_length hhead
    have htake : pieces.flatten.take 4 = toBeBytes text.utf8ByteSize := by
      rw [← hsame, hmissing, frameBytes]
      exact List.take_left' rfl
    have hdeclared : fromBeBytes (toBeBytes text.utf8ByteSize) = text.utf8ByteSize := by
      refine fromBeBytes_toBeBytes (lt_of_le_of_lt hfits ?_)
      unfold maxFrameBytes
      norm_num
    have hshort : rest.flatten.length < text.utf8ByteSize := by
      rw [hrest, List.length_drop]
      omega
    have hend := readExact_of_lt hshort
    unfold readFrame
    rw [hread, htake]
    simp only [hdeclared, if_neg (not_lt.2 hfits)]
    cases hpayload : readExact text.utf8ByteSize (ofPieces rest) with
    | mk outcome left =>
      rw [hpayload] at hend
      obtain rfl : outcome = .error .unexpectedEof := hend
      rfl
  · have hend := readExact_of_lt (show pieces.flatten.length < 4 by omega)
    unfold readFrame
    cases hread : readExact 4 (ofPieces pieces) with
    | mk outcome left =>
      rw [hread] at hend
      obtain rfl : outcome = .error .unexpectedEof := hend
      rfl

/-- A declared length above the limit: only the four bytes that declare it are consumed. -/
theorem readFrame_too_large {pieces : List (List UInt8)} (hhead : 4 ≤ pieces.flatten.length)
    (hlarge : maxFrameBytes < fromBeBytes (pieces.flatten.take 4)) :
    ∃ rest, readFrame json (ofPieces pieces) =
        (.error (frameTooLarge (fromBeBytes (pieces.flatten.take 4))), ofPieces rest) ∧
      rest.flatten = pieces.flatten.drop 4 := by
  obtain ⟨rest, hread, hrest⟩ := readExact_of_le hhead
  refine ⟨rest, ?_, hrest⟩
  unfold readFrame
  rw [hread]
  simp only [if_pos hlarge]

end Frames

/-! ## Connections -/

section Connections

variable {T : Type} {json : JsonText T}

/-- The JSON of a value fits a frame. -/
def Fits (json : JsonText T) (value : T) : Prop :=
  ∃ text, json.encode value = .ok text ∧ text.utf8ByteSize ≤ maxFrameBytes

/-- Values that fit are written, and read back from whatever pieces they arrive in. -/
theorem readFrames_writeFrames (hjson : json.RoundTrips) {values : List T}
    (hfit : ∀ value ∈ values, Fits json value) (written : List UInt8) :
    ∃ sent, writeFrames json (openSink written) values = (.ok (), openSink (written ++ sent)) ∧
      ∀ (pieces : List (List UInt8)) (after : List UInt8), pieces.flatten = sent ++ after →
        ∃ rest, readFrames json values.length (ofPieces pieces) = (.ok values, ofPieces rest) ∧
          rest.flatten = after := by
  induction values generalizing written with
  | nil =>
    refine ⟨[], by rw [List.append_nil]; rfl, fun pieces after hpieces => ⟨pieces, rfl, ?_⟩⟩
    rw [hpieces, List.nil_append]
  | cons value values ih =>
    obtain ⟨text, hencode, hfits⟩ := hfit value List.mem_cons_self
    obtain ⟨sent, hwritten, hread⟩ :=
      ih (fun other hother => hfit other (List.mem_cons_of_mem _ hother)) (written ++ frameBytes text)
    refine ⟨frameBytes text ++ sent, ?_, ?_⟩
    · rw [writeFrames, writeFrame_openSink hencode hfits, ← List.append_assoc]
      exact hwritten
    · intro pieces after hpieces
      obtain ⟨rest, hone, hrest⟩ := readFrame_frameBytes hjson hencode hfits
        (hpieces.trans (List.append_assoc _ _ _))
      obtain ⟨rest', hmore, hrest'⟩ := hread rest after hrest
      refine ⟨rest', ?_, hrest'⟩
      rw [List.length_cons, readFrames, hone]
      simp only [hmore]

/-- What the two ends of a connection make of each other. -/
structure Framed (json : JsonText T) : Prop where
  /-- The frames of values that fit, in whatever pieces: exactly these values, and nothing else. -/
  roundTrip : ∀ values : List T, (∀ value ∈ values, Fits json value) →
    ∃ sent, writeFrames json (openSink []) values = (.ok (), openSink sent) ∧
      ∀ pieces : List (List UInt8), pieces.flatten = sent →
        ∃ rest, readFrames json values.length (ofPieces pieces) = (.ok values, ofPieces rest) ∧
          rest.flatten = []
  /-- A part of a frame is not read as a value. -/
  broken : ∀ value sent, Fits json value →
    writeFrame json (openSink []) value = (.ok (), openSink sent) →
    ∀ pieces : List (List UInt8), pieces.flatten <+: sent → pieces.flatten ≠ sent →
      ∃ e, (readFrame json (ofPieces pieces)).1 = .error e ∧ e.code = "IPC_UNEXPECTED_EOF"
  /-- A length above the limit is refused, and its payload left. -/
  refused : ∀ pieces : List (List UInt8), 4 ≤ pieces.flatten.length →
    maxFrameBytes < fromBeBytes (pieces.flatten.take 4) →
    ∃ e rest, readFrame json (ofPieces pieces) = (.error e, ofPieces rest) ∧
      e.code = "IPC_FRAME_TOO_LARGE" ∧ rest.flatten = pieces.flatten.drop 4
  /-- A value that does not fit is not written, not even in part. -/
  unwritten : ∀ value text, json.encode value = .ok text → maxFrameBytes < text.utf8ByteSize →
    ∀ sink, ∃ e, writeFrame json sink value = (.error e, sink) ∧ e.code = "IPC_FRAME_TOO_LARGE"

/-- **Framing round-trips.** -/
theorem framed (hjson : json.RoundTrips) : Framed json where
  roundTrip values hfit := by
    obtain ⟨sent, hwritten, hread⟩ := readFrames_writeFrames hjson hfit []
    refine ⟨sent, hwritten, fun pieces hpieces => ?_⟩
    exact hread pieces [] (by rw [hpieces, List.append_nil])
  broken value sent hfit hsent pieces hpart hstrict := by
    obtain ⟨text, hencode, hfits⟩ := hfit
    have hframe : sent = frameBytes text := by
      rw [writeFrame_openSink hencode hfits] at hsent
      have hwritten := congrArg (fun outcome => outcome.2.written) hsent
      exact hwritten.symm
    subst hframe
    exact ⟨_, readFrame_of_broken hfits hpart hstrict, rfl⟩
  refused pieces hhead hlarge := by
    obtain ⟨rest, hread, hrest⟩ := readFrame_too_large hhead hlarge
    exact ⟨_, rest, hread, rfl, hrest⟩
  unwritten value text hencode hlarge sink :=
    ⟨_, writeFrame_too_large hencode hlarge sink, rfl⟩

/-- Texts as JSON strings. -/
def quotedText : JsonText String where
  encode s := .ok (JsonValue.quote s)
  decode text :=
    match JsonValue.unquote text with
    | some s => .ok s
    | none => .error "expected a string"

theorem roundTrips_quotedText : quotedText.RoundTrips := by
  intro s text h
  obtain rfl := Except.ok.inj h
  show (match JsonValue.unquote (JsonValue.quote s) with
    | some s => Except.ok s
    | none => _) = _
  rw [JsonValue.unquote_quote]

/-- Two texts, the second with quotes and a line break, arrive in three pieces. -/
theorem framed_quotedText :
    ∃ sent, writeFrames quotedText (openSink []) ["status", "say \"hi\"\n"] =
        (.ok (), openSink sent) ∧
      ∃ rest, readFrames quotedText 2 (ofPieces [sent.take 3, (sent.drop 3).take 9, sent.drop 12]) =
          (.ok ["status", "say \"hi\"\n"], ofPieces rest) ∧ rest.flatten = [] := by
  have hfits : ∀ s ∈ ["status", "say \"hi\"\n"], Fits quotedText s :=
    fun s hs => ⟨JsonValue.quote s, rfl, by revert s; decide⟩
  obtain ⟨sent, hwritten, hread⟩ := (framed roundTrips_quotedText).roundTrip _ hfits
  refine ⟨sent, hwritten, hread _ ?_⟩
  rw [List.flatten_cons, List.flatten_cons, List.flatten_cons, List.flatten_nil, List.append_nil,
    show sent.drop 12 = (sent.drop 3).drop 9 by rw [List.drop_drop], List.take_append_drop,
    List.take_append_drop]

end Connections

end RouteLane
