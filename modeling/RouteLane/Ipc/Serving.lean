import RouteLane.Ipc.Client

/-!
# Serving a connection

The daemon reads one envelope from a connection, answers it, and where it was a subscription
writes the events that are published from then on.  The client may see any part of what the
daemon wrote, in any pieces, and the daemon any part of what the client wrote.  The main
result is that nothing else comes of it: a reply is the reply to this envelope, and the
events of a subscription are events the daemon published, in that order.
-/

namespace RouteLane

open Streams

/-! ## The events of a subscription -/

/-- What `recv` gives of the daemon's events. -/
inductive Feed where
  | event (event : DaemonEvent)
  /-- Events were dropped, for the subscriber was too slow. -/
  | lagged

def Feed.given : Feed → Option DaemonEvent
  | .event given => some given
  | .lagged => none

/-- The daemon publishes an event, or the subscriber asks for the next one. -/
inductive FeedStep where
  | publish (event : DaemonEvent)
  | recv

def FeedStep.published : FeedStep → Option DaemonEvent
  | .publish event => some event
  | .recv => none

def eventCapacity : ℕ := 32

/-- What a receiver of `broadcast::channel` gives, with what it has not read yet: the channel
keeps the last events, and a receiver that fell behind is told so and goes on from the oldest
that are kept. -/
def feed : List DaemonEvent → List FeedStep → List Feed
  | _, [] => []
  | unread, .publish event :: steps => feed (unread ++ [event]) steps
  | [], .recv :: steps => feed [] steps
  | event :: unread, .recv :: steps =>
    if eventCapacity < (event :: unread).length then
      .lagged :: feed ((event :: unread).drop ((event :: unread).length - eventCapacity)) steps
    else .event event :: feed unread steps

/-! ## The connection -/

variable (wire : WireText)

/-- The events of a subscription written, up to the first that cannot be. -/
def forwardEvents : Sink UInt8 → List Feed → Except IpcError Unit × Sink UInt8
  | sink, [] => (.ok (), sink)
  | sink, .lagged :: feed => forwardEvents sink feed
  | sink, .event event :: feed =>
    match writeFrame wire.event sink event with
    | (.error e, sink) => (.error e, sink)
    | (.ok (), sink) => forwardEvents sink feed

/-- `serve_connection`; the feed is what the receiver gives that a subscription opens before
the request is handled. -/
def serveConnection (handle : DaemonEnvelope → DaemonResponse) (feed : List Feed)
    (sink : Sink UInt8) (stream : List (Arrival UInt8)) : Except IpcError Unit × Sink UInt8 :=
  match readFrame wire.envelope stream with
  | (.error error, _) =>
    (.error error, (writeFrame wire.response sink (.failure "" error)).2)
  | (.ok envelope, _) =>
    let response := handle envelope
    match writeFrame wire.response sink response with
    | (.error e, sink) => (.error e, sink)
    | (.ok (), sink) =>
      if response.error = none ∧ envelope.request = .subscribe then forwardEvents wire sink feed
      else (.ok (), sink)

/-! ## What the feed gives -/

/-- Whatever a receiver gives was published, in this order. -/
theorem feed_sublist (unread : List DaemonEvent) (steps : List FeedStep) :
    ((feed unread steps).filterMap Feed.given).Sublist
      (unread ++ steps.filterMap FeedStep.published) := by
  induction steps generalizing unread with
  | nil => exact List.nil_sublist _
  | cons step steps ih =>
    cases step with
    | publish event => simpa [feed, FeedStep.published] using ih (unread ++ [event])
    | recv =>
      cases unread with
      | nil => exact ih []
      | cons event unread =>
        rw [feed]
        split
        · have hkept := List.drop_sublist ((event :: unread).length - eventCapacity) (event :: unread)
          exact (ih _).trans (hkept.append_right _)
        · exact (ih unread).cons_cons event

/-- Without a gap, where the receiver was never too slow. -/
theorem feed_gapless (unread : List DaemonEvent) (steps : List FeedStep)
    (h : ∀ given ∈ feed unread steps, given ≠ .lagged) :
    (feed unread steps).filterMap Feed.given <+:
      unread ++ steps.filterMap FeedStep.published := by
  induction steps generalizing unread with
  | nil => exact List.nil_prefix
  | cons step steps ih =>
    cases step with
    | publish event => simpa [feed, FeedStep.published] using ih (unread ++ [event]) h
    | recv =>
      cases unread with
      | nil => exact ih [] h
      | cons event unread =>
        rw [feed] at h ⊢
        split at h
        · exact absurd rfl (h .lagged List.mem_cons_self)
        · next hkept =>
          rw [if_neg hkept]
          exact List.cons_prefix_cons.2 ⟨rfl, ih unread (List.forall_mem_cons.1 h).2⟩

/-! ## What is written -/

section Writing

variable {T : Type} {json : JsonText T}

/-- Values one after another, a frame each. -/
inductive Frames (json : JsonText T) : List T → List UInt8 → Prop
  | nil : Frames json [] []
  | cons {value : T} {values : List T} {text : String} {bytes : List UInt8}
      (encode : json.encode value = .ok text) (fits : text.utf8ByteSize ≤ maxFrameBytes)
      (rest : Frames json values bytes) : Frames json (value :: values) (frameBytes text ++ bytes)

/-- Nothing but the beginning of the value's frame is written, and all of it where that
succeeds. -/
theorem writeFrame_written (sink : Sink UInt8) (value : T) :
    ((writeFrame json sink value).1 ≠ .ok () ∧
        (writeFrame json sink value).2.written = sink.written) ∨
      ∃ text part, json.encode value = .ok text ∧ text.utf8ByteSize ≤ maxFrameBytes ∧
        part <+: frameBytes text ∧
        (writeFrame json sink value).2.written = sink.written ++ part ∧
        ((writeFrame json sink value).1 = .ok () → part = frameBytes text) := by
  unfold writeFrame
  cases hencode : json.encode value with
  | error e => exact Or.inl ⟨by simp, rfl⟩
  | ok text =>
    by_cases hlarge : maxFrameBytes < (textBytes text).length
    · simp only [if_pos hlarge]
      exact Or.inl ⟨by simp, trivial⟩
    · refine Or.inr ⟨text, ?_⟩
      simp only [if_neg hlarge]
      have hframe : frameBytes text = toBeBytes (textBytes text).length ++ textBytes text := rfl
      obtain ⟨head, hhead, hfirst, hall⟩ :=
        sink.writeAll_written (toBeBytes (textBytes text).length)
      rcases hlength : sink.writeAll (toBeBytes (textBytes text).length) with ⟨⟨e⟩ | ⟨⟨⟩⟩, sink'⟩
      · rw [hlength] at hfirst
        exact ⟨head, trivial, not_lt.1 hlarge, hhead.trans ⟨_, hframe.symm⟩, hfirst, by simp⟩
      · rw [hlength] at hfirst hall
        obtain rfl := hall rfl
        obtain ⟨body, hbody, hsecond, hrest⟩ := sink'.writeAll_written (textBytes text)
        have hwritten : (sink'.writeAll (textBytes text)).2.written =
            sink.written ++ (toBeBytes (textBytes text).length ++ body) := by
          rw [hsecond, hfirst, List.append_assoc]
        have hpart : toBeBytes (textBytes text).length ++ body <+: frameBytes text := by
          rw [hframe]
          exact (List.prefix_append_right_inj _).2 hbody
        rcases hpayload : sink'.writeAll (textBytes text) with ⟨⟨e⟩ | ⟨⟨⟩⟩, sink''⟩
        · rw [hpayload] at hwritten
          simp only [hpayload]
          exact ⟨_, trivial, not_lt.1 hlarge, hpart, hwritten, by simp⟩
        · rw [hpayload] at hwritten hrest
          obtain rfl := hrest rfl
          simp only [hpayload]
          exact ⟨_, trivial, not_lt.1 hlarge, hpart, hwritten, fun _ => rfl⟩

/-- A part of what is written is read as a part of the values. -/
theorem readEvents_of_frames {json : JsonText DaemonEvent} (hjson : json.RoundTrips)
    {events : List DaemonEvent} {bytes : List UInt8} (h : Frames json events bytes) (fuel : ℕ)
    {stream : List (Arrival UInt8)} (harrived : arrived stream <+: bytes) :
    readEvents json fuel stream <+: events := by
  induction h generalizing fuel stream with
  | nil =>
    cases fuel with
    | zero => exact List.nil_prefix
    | succ fuel =>
      rw [readEvents]
      split
      · exact List.nil_prefix
      · next hread =>
        have hless := length_arrived_readFrame hread
        rw [List.prefix_nil.1 harrived] at hless
        exact absurd hless (Nat.not_lt_zero _)
  | cons encode fits rest ih =>
    cases fuel with
    | zero => exact List.nil_prefix
    | succ fuel =>
      rw [readEvents]
      split
      · exact List.nil_prefix
      · next hread =>
        obtain ⟨rfl, hrest⟩ := readFrame_of_part hjson encode fits harrived hread
        exact List.cons_prefix_cons.2 ⟨rfl, ih fuel hrest⟩

/-- All of what is written is read as all of the values, in whatever pieces. -/
theorem readEvents_of_all {json : JsonText DaemonEvent} (hjson : json.RoundTrips)
    {events : List DaemonEvent} {bytes : List UInt8} (h : Frames json events bytes) {fuel : ℕ}
    {pieces : List (List UInt8)} (hpieces : pieces.flatten = bytes) (hfuel : bytes.length ≤ fuel) :
    readEvents json fuel (ofPieces pieces) = events := by
  induction h generalizing fuel pieces with
  | nil =>
    have hnone : arrived (ofPieces pieces) <+: [] := by rw [arrived_ofPieces, hpieces]
    exact List.prefix_nil.1 (readEvents_of_frames hjson .nil fuel hnone)
  | @cons value values text bytes encode fits rest ih =>
    obtain ⟨rest, hread, hrest⟩ := readFrame_frameBytes hjson encode fits hpieces
    rw [List.length_append, length_frameBytes] at hfuel
    cases fuel with
    | zero => omega
    | succ fuel =>
      rw [readEvents, hread]
      show value :: readEvents json fuel (ofPieces rest) = value :: values
      rw [ih hrest (by omega)]

end Writing

/-! ## What is served -/

section Serving

/-- The events of a feed. -/
def givenEvents (feed : List Feed) : List DaemonEvent := feed.filterMap Feed.given

theorem forwardEvents_written (sink : Sink UInt8) (feed : List Feed) :
    ∃ events bytes part, Frames wire.event events bytes ∧ events <+: givenEvents feed ∧
      part <+: bytes ∧ (forwardEvents wire sink feed).2.written = sink.written ++ part := by
  induction feed generalizing sink with
  | nil => exact ⟨[], [], [], .nil, List.nil_prefix, List.nil_prefix, (List.append_nil _).symm⟩
  | cons given feed ih =>
    cases given with
    | lagged => exact ih sink
    | event event =>
      rw [forwardEvents]
      rcases hwrite : writeFrame wire.event sink event with ⟨⟨e⟩ | ⟨⟨⟩⟩, sink'⟩
      · rcases writeFrame_written sink event with ⟨-, hsame⟩ | hpart
        · rw [hwrite] at hsame
          exact ⟨[], [], [], .nil, List.nil_prefix, List.nil_prefix,
            hsame.trans (List.append_nil _).symm⟩
        · obtain ⟨text, part, hencode, hfits, hpart, hwritten, -⟩ := hpart
          rw [hwrite] at hwritten
          refine ⟨[event], _, part, .cons hencode hfits .nil, ?_, ?_, hwritten⟩
          · exact List.cons_prefix_cons.2 ⟨rfl, List.nil_prefix⟩
          · rw [List.append_nil]
            exact hpart
      · rcases writeFrame_written sink event with ⟨hfailed, -⟩ | hpart
        · exact absurd (congrArg Prod.fst hwrite) hfailed
        · obtain ⟨text, part, hencode, hfits, -, hwritten, hall⟩ := hpart
          rw [hwrite] at hwritten hall
          obtain rfl := hall rfl
          obtain ⟨events, bytes, part, hframes, hevents, hpart, hmore⟩ := ih sink'
          refine ⟨event :: events, _, frameBytes text ++ part, .cons hencode hfits hframes,
            List.cons_prefix_cons.2 ⟨rfl, hevents⟩, ?_, ?_⟩
          · exact (List.prefix_append_right_inj _).2 hpart
          · rw [hmore, hwritten, List.append_assoc]

variable {wire} (handle : DaemonEnvelope → DaemonResponse) (feed : List Feed)
  {envelope : DaemonEnvelope} {stream rest : List (Arrival UInt8)}

/-- The events that may follow the reply to an envelope. -/
def owedEvents (envelope : DaemonEnvelope) : List DaemonEvent :=
  if (handle envelope).error = none ∧ envelope.request = .subscribe then givenEvents feed else []

/-- To an envelope that was read the daemon writes a part of the reply and of the events. -/
theorem serveConnection_written (h : readFrame wire.envelope stream = (.ok envelope, rest))
    (sink : Sink UInt8) :
    (serveConnection wire handle feed sink stream).2.written = sink.written ∨
      ∃ text events bytes part, wire.response.encode (handle envelope) = .ok text ∧
        text.utf8ByteSize ≤ maxFrameBytes ∧ Frames wire.event events bytes ∧
        events <+: owedEvents handle feed envelope ∧ part <+: frameBytes text ++ bytes ∧
        (serveConnection wire handle feed sink stream).2.written = sink.written ++ part := by
  simp only [serveConnection, h]
  rcases hwrite : writeFrame wire.response sink (handle envelope) with ⟨⟨e⟩ | ⟨⟨⟩⟩, sink'⟩
  · rcases writeFrame_written sink (handle envelope) with ⟨-, hsame⟩ | hpart
    · rw [hwrite] at hsame
      exact Or.inl hsame
    · obtain ⟨text, part, hencode, hfits, hpart, hwritten, -⟩ := hpart
      rw [hwrite] at hwritten
      refine Or.inr ⟨text, [], [], part, hencode, hfits, .nil, List.nil_prefix, ?_, hwritten⟩
      rw [List.append_nil]
      exact hpart
  · rcases writeFrame_written sink (handle envelope) with ⟨hfailed, -⟩ | hpart
    · exact absurd (congrArg Prod.fst hwrite) hfailed
    · obtain ⟨text, part, hencode, hfits, -, hwritten, hall⟩ := hpart
      rw [hwrite] at hwritten hall
      obtain rfl := hall rfl
      refine Or.inr ⟨text, ?_⟩
      rw [owedEvents]
      by_cases hsubscribed : (handle envelope).error = none ∧ envelope.request = .subscribe
      · obtain ⟨events, bytes, part, hframes, hevents, hpart, hmore⟩ :=
          forwardEvents_written wire sink' feed
        simp only [if_pos hsubscribed]
        refine ⟨events, bytes, frameBytes text ++ part, hencode, hfits, hframes, hevents,
          (List.prefix_append_right_inj _).2 hpart, ?_⟩
        rw [hmore, hwritten, List.append_assoc]
      · simp only [if_neg hsubscribed]
        refine ⟨[], [], frameBytes text, hencode, hfits, .nil, List.nil_prefix, ?_, hwritten⟩
        rw [List.append_nil]

/-- To an envelope that could not be read the daemon writes a part of a failure without an id. -/
theorem serveConnection_unread {error : IpcError}
    (h : readFrame wire.envelope stream = (.error error, rest)) (sink : Sink UInt8) :
    (serveConnection wire handle feed sink stream).2.written = sink.written ∨
      ∃ text part, wire.response.encode (.failure "" error) = .ok text ∧
        text.utf8ByteSize ≤ maxFrameBytes ∧ part <+: frameBytes text ∧
        (serveConnection wire handle feed sink stream).2.written = sink.written ++ part := by
  simp only [serveConnection, h]
  rcases writeFrame_written sink (DaemonResponse.failure "" error) with ⟨-, hsame⟩ | hpart
  · exact Or.inl hsame
  · obtain ⟨text, part, hencode, hfits, hpart, hwritten, -⟩ := hpart
    exact Or.inr ⟨text, part, hencode, hfits, hpart, hwritten⟩

end Serving

/-! ## A conversation -/

section Conversation

variable {wire} {handle : DaemonEnvelope → DaemonResponse} {feed : List Feed}
  {envelope : DaemonEnvelope}

/-- What is written is read back, by every type that goes over the socket. -/
structure WireText.RoundTrips (wire : WireText) : Prop where
  envelope : wire.envelope.RoundTrips
  response : wire.response.RoundTrips
  event : wire.event.RoundTrips

/-- One connection, as its two ends see it: each may take any part of what is written to it, see
any part of what the other has written, in any pieces, and fail at any point. -/
structure Conversation (wire : WireText) (handle : DaemonEnvelope → DaemonResponse)
    (feed : List Feed) (envelope : DaemonEnvelope) where
  sink : Sink UInt8
  request : List (Arrival UInt8)
  serverSink : Sink UInt8
  reply : List (Arrival UInt8)
  sinkNew : sink.written = []
  serverSinkNew : serverSink.written = []
  carried : arrived request <+: (writeFrame wire.envelope sink envelope).2.written
  returned : arrived reply <+: (serveConnection wire handle feed serverSink request).2.written

/-- What is read of the envelope is the envelope. -/
theorem Conversation.readFrame_request (c : Conversation wire handle feed envelope)
    (hwire : wire.RoundTrips) {read : DaemonEnvelope} {rest : List (Arrival UInt8)}
    (h : readFrame wire.envelope c.request = (.ok read, rest)) : read = envelope := by
  have hcarried := c.carried
  rcases writeFrame_written c.sink envelope with ⟨-, hsame⟩ | hpart
  · rw [hsame, c.sinkNew, List.prefix_nil] at hcarried
    have hless := length_arrived_readFrame h
    rw [hcarried] at hless
    exact absurd hless (Nat.not_lt_zero _)
  · obtain ⟨text, part, hencode, hfits, hpart, hwritten, -⟩ := hpart
    rw [hwritten, c.sinkNew, List.nil_append] at hcarried
    have harrived : arrived c.request <+: frameBytes text ++ [] := by
      rw [List.append_nil]
      exact hcarried.trans hpart
    exact (readFrame_of_part hwire.envelope hencode hfits harrived h).1

/-- A reply the client takes is the daemon's reply to the envelope, and what follows it is a part
of the events. -/
theorem Conversation.exchange_eq_ok (c : Conversation wire handle feed envelope)
    (hwire : wire.RoundTrips) (hid : envelope.requestId ≠ "") {message : String}
    {read : DaemonResponse × List (Arrival UInt8)}
    (h : DaemonClient.exchange wire (.connected c.sink c.reply) envelope message = .ok read) :
    read.1 = handle envelope ∧ ∃ events bytes, Frames wire.event events bytes ∧
      events <+: owedEvents handle feed envelope ∧ arrived read.2 <+: bytes := by
  obtain ⟨sink, stream, hreach, -, hread, -, hidentity⟩ := DaemonClient.exchange_eq_ok h
  obtain ⟨rfl, rfl⟩ := Reach.connected.inj hreach
  have hreturned := c.returned
  have hsome : arrived c.reply ≠ [] := by
    intro hnone
    have hless := length_arrived_readFrame hread
    rw [hnone] at hless
    exact absurd hless (Nat.not_lt_zero _)
  rcases hrequest : readFrame wire.envelope c.request with ⟨⟨e⟩ | ⟨envelope'⟩, rest⟩
  · -- the failure without an id is never taken for a reply
    rcases serveConnection_unread handle feed hrequest c.serverSink with
      hsame | ⟨text, part, hencode, hfits, hpart, hwritten⟩
    · rw [hsame, c.serverSinkNew, List.prefix_nil] at hreturned
      exact absurd hreturned hsome
    · rw [hwritten, c.serverSinkNew, List.nil_append] at hreturned
      have harrived : arrived c.reply <+: frameBytes text ++ [] := by
        rw [List.append_nil]
        exact hreturned.trans hpart
      have hfailure := (readFrame_of_part hwire.response hencode hfits harrived hread).1
      rw [hfailure] at hidentity
      exact absurd hidentity.symm hid
  · obtain rfl := c.readFrame_request hwire hrequest
    rcases serveConnection_written handle feed hrequest c.serverSink with
      hsame | ⟨text, events, bytes, part, hencode, hfits, hframes, hevents, hpart, hwritten⟩
    · rw [hsame, c.serverSinkNew, List.prefix_nil] at hreturned
      exact absurd hreturned hsome
    · rw [hwritten, c.serverSinkNew, List.nil_append] at hreturned
      obtain ⟨hresponse, hrest⟩ :=
        readFrame_of_part hwire.response hencode hfits (hreturned.trans hpart) hread
      exact ⟨hresponse, events, bytes, hframes, hevents, hrest⟩

/-! ## Nothing in the way -/

/-- The events of a feed that all fit are all written. -/
theorem forwardEvents_openSink (hfit : ∀ event ∈ givenEvents feed, Fits wire.event event)
    (written : List UInt8) :
    ∃ bytes, Frames wire.event (givenEvents feed) bytes ∧
      forwardEvents wire (openSink written) feed = (.ok (), openSink (written ++ bytes)) := by
  induction feed generalizing written with
  | nil => exact ⟨[], .nil, by rw [List.append_nil]; rfl⟩
  | cons given feed ih =>
    cases given with
    | lagged => exact ih hfit written
    | event event =>
      obtain ⟨⟨text, hencode, hfits⟩, hmore⟩ := List.forall_mem_cons.1 hfit
      obtain ⟨bytes, hframes, hwritten⟩ := ih hmore (written ++ frameBytes text)
      refine ⟨frameBytes text ++ bytes, .cons hencode hfits hframes, ?_⟩
      rw [forwardEvents, writeFrame_openSink hencode hfits, ← List.append_assoc]
      exact hwritten

/-- Both ends work, everything arrives, and everything fits. -/
structure Conversation.Undisturbed (c : Conversation wire handle feed envelope) : Prop where
  sink : c.sink = openSink []
  serverSink : c.serverSink = openSink []
  request : ∃ pieces, c.request = ofPieces pieces ∧
    pieces.flatten = (writeFrame wire.envelope c.sink envelope).2.written
  reply : ∃ pieces, c.reply = ofPieces pieces ∧
    pieces.flatten = (serveConnection wire handle feed c.serverSink c.request).2.written
  envelopeFits : Fits wire.envelope envelope
  responseFits : Fits wire.response (handle envelope)
  eventsFit : ∀ event ∈ givenEvents feed, Fits wire.event event

/-- Where nothing is in the way the client takes the reply, and finds all the events after it. -/
theorem Conversation.Undisturbed.exchange_eq {c : Conversation wire handle feed envelope}
    (h : c.Undisturbed) (hwire : wire.RoundTrips)
    (hversion : (handle envelope).protocolVersion = ipcProtocolVersion)
    (hid : (handle envelope).requestId = envelope.requestId) (message : String) :
    ∃ pieces bytes, Frames wire.event (owedEvents handle feed envelope) bytes ∧
      pieces.flatten = bytes ∧
      DaemonClient.exchange wire (.connected c.sink c.reply) envelope message =
        .ok (handle envelope, ofPieces pieces) := by
  obtain ⟨request, hrequest, harrived⟩ := h.request
  obtain ⟨reply, hreply, hreturned⟩ := h.reply
  obtain ⟨text, hencode, hfits⟩ := h.envelopeFits
  obtain ⟨text', hencode', hfits'⟩ := h.responseFits
  rw [h.sink, writeFrame_openSink hencode hfits, List.nil_append] at harrived
  obtain ⟨rest, hread, -⟩ := readFrame_frameBytes hwire.envelope hencode hfits
    (harrived.trans (List.append_nil _).symm)
  rw [h.serverSink, hrequest, serveConnection, hread] at hreturned
  simp only [writeFrame_openSink hencode' hfits', List.nil_append] at hreturned
  have hbytes : ∃ bytes, Frames wire.event (owedEvents handle feed envelope) bytes ∧
      reply.flatten = frameBytes text' ++ bytes := by
    rw [owedEvents]
    by_cases hsubscribed : (handle envelope).error = none ∧ envelope.request = .subscribe
    · obtain ⟨bytes, hframes, hforward⟩ := forwardEvents_openSink h.eventsFit (frameBytes text')
      rw [if_pos hsubscribed, hforward] at hreturned
      rw [if_pos hsubscribed]
      exact ⟨bytes, hframes, hreturned⟩
    · rw [if_neg hsubscribed] at hreturned
      rw [if_neg hsubscribed]
      exact ⟨[], .nil, hreturned.trans (List.append_nil _).symm⟩
  obtain ⟨bytes, hframes, hreturned⟩ := hbytes
  obtain ⟨pieces, hread, hpieces⟩ :=
    readFrame_frameBytes hwire.response hencode' hfits' hreturned
  refine ⟨pieces, bytes, hframes, hpieces, ?_⟩
  rw [DaemonClient.exchange, h.sink, hreply, writeFrame_openSink hencode hfits]
  simp only [hread]
  show (validateResponseIdentity (handle envelope) envelope.requestId >>= fun _ =>
    pure (handle envelope, ofPieces pieces)) = _
  rw [validateResponseIdentity_eq_ok.2 ⟨hversion, hid⟩]
  rfl

end Conversation

/-! ## What comes of a call -/

/-- Whatever part of it arrives, in whatever pieces, the client takes nothing but the daemon's
reply to its own request; and a subscription gives nothing but events that were published since,
in that order, without a gap where the subscriber was never too slow.  Where nothing is in the
way, the reply arrives, and all the events. -/
theorem Conversation.calls_exact {wire : WireText} (hwire : wire.RoundTrips)
    {handle : DaemonEnvelope → DaemonResponse} {steps : List FeedStep} {envelope : DaemonEnvelope}
    (hid : envelope.requestId ≠ "") (c : Conversation wire handle (feed [] steps) envelope) :
    (∀ response, DaemonClient.send wire (.connected c.sink c.reply) envelope = .ok response →
        response = handle envelope) ∧
      (∀ events, envelope = .new envelope.requestId .subscribe →
        DaemonClient.subscribe wire (.connected c.sink c.reply) envelope.requestId = .ok events →
        events.Sublist (steps.filterMap FeedStep.published) ∧
          ((∀ given ∈ feed [] steps, given ≠ .lagged) →
            events <+: steps.filterMap FeedStep.published)) ∧
      (c.Undisturbed → (handle envelope).protocolVersion = ipcProtocolVersion →
        (handle envelope).requestId = envelope.requestId →
        DaemonClient.send wire (.connected c.sink c.reply) envelope = .ok (handle envelope) ∧
          (envelope = .new envelope.requestId .subscribe → (handle envelope).error = none →
            (handle envelope).result = some .subscribed →
            DaemonClient.subscribe wire (.connected c.sink c.reply) envelope.requestId =
              .ok (givenEvents (feed [] steps)))) := by
  refine ⟨?_, ?_, ?_⟩
  · intro response h
    obtain ⟨read, hread, h⟩ := Fallible.bind_eq_ok.1 h
    obtain rfl := Except.ok.inj h
    exact (c.exchange_eq_ok hwire hid hread).1
  · intro events hsubscribe h
    obtain ⟨read, hread, -, -, rfl⟩ := DaemonClient.subscribe_eq_ok.1 h
    rw [← hsubscribe] at hread
    obtain ⟨-, all, bytes, hframes, hall, hrest⟩ := c.exchange_eq_ok hwire hid hread
    have hevents := readEvents_of_frames hwire.event hframes (arrived read.2).length hrest
    have howed : owedEvents handle (feed [] steps) envelope <+: givenEvents (feed [] steps) := by
      rw [owedEvents]
      split
      · exact List.prefix_rfl
      · exact List.nil_prefix
    have hgiven := hevents.trans (hall.trans howed)
    refine ⟨hgiven.sublist.trans (feed_sublist [] steps), fun hquick => ?_⟩
    exact hgiven.trans (feed_gapless [] steps hquick)
  · intro hopen hversion hown
    refine ⟨?_, ?_⟩
    · obtain ⟨pieces, bytes, -, -, hexchange⟩ :=
        hopen.exchange_eq hwire hversion hown "daemon request timed out"
      rw [DaemonClient.send, hexchange]
      rfl
    · intro hsubscribe herror hresult
      obtain ⟨pieces, bytes, hframes, hpieces, hexchange⟩ :=
        hopen.exchange_eq hwire hversion hown "daemon subscription timed out"
      have howed : owedEvents handle (feed [] steps) envelope = givenEvents (feed [] steps) := by
        refine if_pos ⟨herror, ?_⟩
        rw [hsubscribe]
        rfl
      rw [howed] at hframes
      have hlength : bytes.length ≤ (arrived (ofPieces pieces)).length := by
        rw [arrived_ofPieces, hpieces]
      refine DaemonClient.subscribe_eq_ok.2 ⟨(handle envelope, ofPieces pieces), ?_, herror,
        hresult, readEvents_of_all hwire.event hframes hpieces hlength⟩
      rw [← hsubscribe]
      exact hexchange

/-! ## An instance -/

/-- The JSON of one value. -/
def JsonText.only {T : Type} [DecidableEq T] (value : T) (text : String) : JsonText T where
  encode other := if other = value then .ok text else .error "not written"
  decode read := if read = text then .ok value else .error "not read"

theorem JsonText.only_roundTrips {T : Type} [DecidableEq T] (value : T) (text : String) :
    (JsonText.only value text).RoundTrips := by
  intro other read h
  simp only [only] at h ⊢
  split at h
  · next hvalue =>
    obtain rfl := Except.ok.inj h
    rw [if_pos rfl, hvalue]
  · cases h

theorem JsonText.only_fits {T : Type} [DecidableEq T] {value : T} {text : String}
    (h : text.utf8ByteSize ≤ maxFrameBytes) : Fits (JsonText.only value text) value :=
  ⟨text, if_pos rfl, h⟩

/-- The daemon has become inactive. -/
def inactiveEvent : DaemonEvent := .stateChanged 1 1 .inactive

/-- What a client says that subscribes, what it is told, and one event. -/
def subscribeText : WireText where
  envelope := .only (.new "a" .subscribe)
    "\x7b\"protocol_version\":2,\"request_id\":\"a\",\"request\":\x7b\"method\":\"Subscribe\"\x7d\x7d"
  response := .only (.success "a" .subscribed)
    "\x7b\"protocol_version\":2,\"request_id\":\"a\",\"result\":\x7b\"kind\":\"Subscribed\"\x7d,\"error\":null\x7d"
  event := .only inactiveEvent
    "\x7b\"event\":\"StateChanged\",\"value\":\x7b\"sequence\":1,\"generation\":1,\"health\":\x7b\"state\":\"Inactive\",\"lanes\":\x7b\x7d,\"diagnostics\":[]\x7d\x7d\x7d"

/-- The daemon publishes one event once the client has subscribed. -/
def subscribeSteps : List FeedStep := [.publish inactiveEvent, .recv]

/-- Both ends see all of what the other has written, in one piece. -/
def subscribeConversation : Conversation subscribeText (fun _ => .success "a" .subscribed)
    (feed [] subscribeSteps) (.new "a" .subscribe) where
  sink := openSink []
  request :=
    ofPieces [(writeFrame subscribeText.envelope (openSink []) (.new "a" .subscribe)).2.written]
  serverSink := openSink []
  reply := ofPieces [(serveConnection subscribeText (fun _ => .success "a" .subscribed)
    (feed [] subscribeSteps) (openSink []) (ofPieces [(writeFrame subscribeText.envelope
      (openSink []) (.new "a" .subscribe)).2.written])).2.written]
  sinkNew := rfl
  serverSinkNew := rfl
  carried := by rw [arrived_ofPieces, List.flatten_singleton]
  returned := by rw [arrived_ofPieces, List.flatten_singleton]

theorem subscribeConversation_undisturbed : subscribeConversation.Undisturbed where
  sink := rfl
  serverSink := rfl
  request := ⟨_, rfl, List.flatten_singleton⟩
  reply := ⟨_, rfl, List.flatten_singleton⟩
  envelopeFits := JsonText.only_fits (by decide)
  responseFits := JsonText.only_fits (by decide)
  eventsFit := by
    intro event hevent
    have hgiven : givenEvents (feed [] subscribeSteps) = [inactiveEvent] := rfl
    rw [hgiven] at hevent
    obtain rfl := List.mem_singleton.1 hevent
    exact JsonText.only_fits (by decide)

/-- The client that subscribes is given the event. -/
theorem calls_exact_subscription :
    DaemonClient.subscribe subscribeText
        (.connected subscribeConversation.sink subscribeConversation.reply) "a" =
      .ok [inactiveEvent] := by
  have hwire : subscribeText.RoundTrips :=
    ⟨JsonText.only_roundTrips _ _, JsonText.only_roundTrips _ _, JsonText.only_roundTrips _ _⟩
  obtain ⟨-, -, hopen⟩ := subscribeConversation.calls_exact hwire (by decide)
  obtain ⟨-, hsubscribe⟩ := hopen subscribeConversation_undisturbed rfl rfl
  exact hsubscribe rfl rfl rfl

end RouteLane
