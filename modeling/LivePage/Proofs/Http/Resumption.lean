import LivePage.Http.EventSource
import LivePage.Proofs.EventStream.Calls
import LivePage.Proofs.EventStream.Ids
import LivePage.Proofs.Http.Requests

/-!
# Resuming streams

A source is driven by hand: connections are opened one after another, and each of
them is read and closed at will.  What has been read is kept in a ledger of lines.  The
id that the next request carries follows from the ledger: it is the id buffer as it
stood at the last blank line read.
-/

namespace LivePage
namespace Http

open EventStream LiveReload

/-! ## Ledgers of lines -/

/-- The lines read on the connections of a source. -/
structure Ledger where
  /-- The lines read on each connection before the present one. -/
  past : List (List (List Char)) := []
  /-- The lines read on the present connection. -/
  read : List (List Char) := []
  /-- The complete lines that the present connection has yet to read. -/
  unread : List (List Char) := []

namespace Ledger

/-- The id that the present connection started from. -/
def startId (l : Ledger) : Option String :=
  l.past.foldl committedId none

/-- The id at the last blank line read on any connection. -/
def lastId (l : Ledger) : Option String :=
  committedId l.startId l.read

/-- The decoder of the present connection. -/
def decoder (l : Ledger) : Decoder :=
  (Decoder.resume l.startId).feed l.read

/-- Opens a connection to a stream. -/
def accept (l : Ledger) (octets : List UInt8) : Ledger where
  past := l.past ++ [l.read]
  unread := streamLines octets

/-- Asks the present connection for a frame. -/
def next (l : Ledger) : Ledger :=
  let length := l.decoder.callLength l.unread
  { l with read := l.read ++ l.unread.take length, unread := l.unread.drop length }

/-- Closes the present connection, which then reads no more lines. -/
def close (l : Ledger) : Ledger :=
  { l with unread := [] }

theorem startId_accept (l : Ledger) (octets : List UInt8) :
    (l.accept octets).startId = l.lastId := by
  simp [startId, accept, lastId]

theorem lastId_accept (l : Ledger) (octets : List UInt8) :
    (l.accept octets).lastId = l.lastId := by
  rw [lastId, startId_accept]
  rfl

theorem decoder_accept (l : Ledger) (octets : List UInt8) :
    (l.accept octets).decoder = .resume l.lastId := by
  rw [decoder, startId_accept]
  rfl

theorem decoder_next (l : Ledger) :
    l.next.decoder =
      l.decoder.feed (l.unread.take (l.decoder.callLength l.unread)) :=
  Decoder.feed_append _ _ _

theorem lastEventId_decoder (l : Ledger) : l.decoder.lastEventId = l.lastId :=
  Decoder.lastEventId_feed_resume _ _

/-- A reader where a ledger says is there after a call, too. -/
theorem next_of_reader {l : Ledger} {reader : Reader} (hdecoder : reader.decoder = l.decoder)
    (hlines : reader.HasLinesThenFailures l.unread) :
    reader.next.2.decoder = l.next.decoder ∧
      reader.next.2.HasLinesThenFailures l.next.unread := by
  obtain ⟨hafter, hleft⟩ := hlines.next
  rw [hdecoder] at hafter hleft
  refine ⟨?_, hleft⟩
  rw [hafter, decoder_next]

/-- Where no line is left, a call reads none. -/
theorem next_of_unread_nil {l : Ledger} (h : l.unread = []) : l.next = l := by
  obtain ⟨past, read, unread⟩ := l
  cases h
  simp [next]

end Ledger

/-! ## The streams that a source opens -/

/-- Whether a response is a stream to be read. -/
def Response.isStream (r : Response) : Bool :=
  isSuccess r.status && isEventStream (contentType r.headers)

/-- All lines of a body are yet to be read when it is opened. -/
theorem hasLines_fills (id : Option String) (b : Body) :
    (Reader.resume id b.fills).HasLinesThenFailures (streamLines b.octets) := by
  refine ⟨b.failures.map BodyFault.text, ?_⟩
  have htail : b.failures.map (Fill.failure ·.text) =
      failureFills (b.failures.map BodyFault.text) := by
    simp [failureFills]
  by_cases hoctets : b.octets = []
  · have h := Reader.hasLines_resume (List.forall_mem_nil _ : AreChunks []) id
      (failureFills (b.failures.map BodyFault.text))
    simpa [Body.fills, hoctets, htail, chunkFills] using h
  · have hcuts : AreChunks [b.octets] := List.forall_mem_singleton.mpr hoctets
    have h := Reader.hasLines_resume hcuts id
      (failureFills (b.failures.map BodyFault.text))
    simpa [Body.fills, hoctets, htail, chunkFills] using h

namespace Source

theorem openResponse_of_isStream (id : Option String) {r : Response}
    (h : r.isStream = true) :
    openResponse id r = .ok ⟨some (.resume id r.content.fills), r.content.lasting⟩ := by
  obtain ⟨hstatus, htype⟩ := Bool.and_eq_true_iff.mp h
  simp [openResponse, hstatus, htype]

theorem openResponse_of_not_isStream (id : Option String) {r : Response}
    (h : r.isStream = false) : ∃ fault, openResponse id r = .error fault := by
  unfold openResponse
  split_ifs with hstatus htype
  · exact ⟨_, rfl⟩
  · simp_all [Response.isStream]
  · exact ⟨_, rfl⟩

/-- The octets of the stream that a source opens, if it opens one. -/
def stream? (s : Source) (endpoint : String) : Option (List UInt8) :=
  match (s.request endpoint).1 with
  | .ok response => if response.isStream then some response.content.octets else none
  | .error _ => none

theorem lastEventId_connect (s : Source) (endpoint : String) :
    (s.connect endpoint).2.lastEventId = s.lastEventId :=
  rfl

theorem connect_of_error {s : Source} {endpoint : String} {cause : RequestFault}
    {server : Server} (h : s.request endpoint = (.error cause, server)) :
    s.connect endpoint = (.error (.request cause), { s with server }) := by
  simp only [connect, h]
  rfl

theorem connect_of_ok {s : Source} {endpoint : String} {r : Response} {server : Server}
    (h : s.request endpoint = (.ok r, server)) :
    s.connect endpoint = (openResponse s.lastEventId r, { s with server }) := by
  simp only [connect, h]
  rfl

theorem connect_of_stream?_none {s : Source} {endpoint : String}
    (h : s.stream? endpoint = none) :
    ∃ fault, (s.connect endpoint).1 = .error fault := by
  unfold stream? at h
  rcases hrequest : s.request endpoint with ⟨cause | response, server⟩
  · exact ⟨_, congrArg Prod.fst (connect_of_error hrequest)⟩
  · rw [hrequest] at h
    have hstream : response.isStream = false := by simpa using h
    rw [connect_of_ok hrequest]
    exact openResponse_of_not_isStream _ hstream

/-- A stream starts from the id of the source, with all its lines yet to be read. -/
theorem connect_of_stream?_some {s : Source} {endpoint : String} {octets : List UInt8}
    (h : s.stream? endpoint = some octets) :
    ∃ reader lasting, (s.connect endpoint).1 = .ok ⟨some reader, lasting⟩ ∧
      reader.decoder = .resume s.lastEventId ∧
      reader.HasLinesThenFailures (streamLines octets) := by
  unfold stream? at h
  rcases hrequest : s.request endpoint with ⟨cause | response, server⟩
  · rw [hrequest] at h
    cases h
  · rw [hrequest] at h
    simp only [Option.ite_none_right_eq_some, Option.some.injEq] at h
    obtain ⟨hstream, rfl⟩ := h
    refine ⟨.resume s.lastEventId response.content.fills, response.content.lasting, ?_,
      rfl, hasLines_fills _ _⟩
    rw [connect_of_ok hrequest]
    exact openResponse_of_isStream _ hstream

end Source

/-! ## Sessions -/

/-- What may be done with a source by hand. -/
inductive Step where
  | connect (endpoint : String)
  | next
  | close
  deriving DecidableEq, Repr

/-- A session with a source, and a ledger of what is read in it. -/
structure Tracked where
  session : Session Source Connection
  ledger : Ledger

namespace Tracked

/-- The reader of the present connection, until that is closed. -/
def reader? (t : Tracked) : Option Reader :=
  t.session.connection.bind (·.reader)

/-- A session that has not begun. -/
def start (base : List Char) (server : Server) : Tracked where
  session := { source := .new base server }
  ledger := {}

/-- Takes one step. -/
def step (t : Tracked) : Step → Tracked
  | .connect endpoint =>
    { session := (t.session.connect endpoint).2
      ledger := (t.session.source.stream? endpoint).elim t.ledger t.ledger.accept }
  | .next => { session := t.session.next.2, ledger := t.ledger.next }
  | .close => { session := t.session.close, ledger := t.ledger.close }

/-- Takes some steps, one after another. -/
def run (t : Tracked) (steps : List Step) : Tracked :=
  steps.foldl step t

/-- The session is where the ledger says: its source has the id in force, and its reader
has taken in the lines read and is to read the others. -/
structure IsFaithful (t : Tracked) : Prop where
  lastEventId : t.session.source.lastEventId = t.ledger.lastId
  unread : t.reader? = none → t.ledger.unread = []
  reader : ∀ reader, t.reader? = some reader →
    reader.decoder = t.ledger.decoder ∧ reader.HasLinesThenFailures t.ledger.unread

theorem isFaithful_start (base : List Char) (server : Server) :
    (start base server).IsFaithful where
  lastEventId := rfl
  unread _ := rfl
  reader _ h := by cases h

theorem source_connect (t : Tracked) (endpoint : String) :
    (t.step (.connect endpoint)).session.source = (t.session.source.connect endpoint).2 := by
  simp only [step, Session.connect]
  split <;> rename_i hconnect <;> exact (congrArg Prod.snd hconnect).symm

/-- A connect that opens no stream keeps the present connection. -/
theorem reader?_connect_of_none {t : Tracked} {endpoint : String}
    (h : t.session.source.stream? endpoint = none) :
    (t.step (.connect endpoint)).reader? = t.reader? ∧
      ∃ fault, (t.session.connect endpoint).1 = .error fault := by
  obtain ⟨fault, hfault⟩ := Source.connect_of_stream?_none h
  have hconnect : EventSource.connect t.session.source endpoint =
      (.error fault.toFault, (t.session.source.connect endpoint).2) := by
    simp [EventSource.connect, hfault, Except.mapError]
  simp [step, reader?, Session.connect, hconnect]

theorem reader?_connect_of_some {t : Tracked} {endpoint : String} {octets : List UInt8}
    (h : t.session.source.stream? endpoint = some octets) :
    (t.session.connect endpoint).1 = .ok () ∧
      ∃ reader, (t.step (.connect endpoint)).reader? = some reader ∧
        reader.decoder = .resume t.session.source.lastEventId ∧
        reader.HasLinesThenFailures (streamLines octets) := by
  obtain ⟨reader, lasting, hreader, hdecoder, hlines⟩ := Source.connect_of_stream?_some h
  have hconnect : EventSource.connect t.session.source endpoint =
      (.ok ⟨some reader, lasting⟩, (t.session.source.connect endpoint).2) := by
    simp [EventSource.connect, hreader, Except.mapError]
  simp only [step, reader?, Session.connect, hconnect]
  exact ⟨trivial, reader, rfl, hdecoder, hlines⟩

theorem isFaithful_connect {t : Tracked} (h : t.IsFaithful) (endpoint : String) :
    (t.step (.connect endpoint)).IsFaithful := by
  cases hstream : t.session.source.stream? endpoint with
  | none =>
      have hledger : (t.step (.connect endpoint)).ledger = t.ledger := by
        simp [step, hstream]
      obtain ⟨hreader, -⟩ := reader?_connect_of_none hstream
      refine ⟨?_, ?_, ?_⟩
      · rw [source_connect, hledger]
        exact h.lastEventId
      · rw [hreader, hledger]
        exact h.unread
      · rw [hreader, hledger]
        exact h.reader
  | some octets =>
      have hledger : (t.step (.connect endpoint)).ledger = t.ledger.accept octets := by
        simp [step, hstream]
      obtain ⟨-, reader, hreader, hdecoder, hlines⟩ := reader?_connect_of_some hstream
      refine ⟨?_, ?_, ?_⟩
      · rw [source_connect, hledger, Ledger.lastId_accept]
        exact h.lastEventId
      · simp [hreader]
      · rw [hreader, hledger, Ledger.decoder_accept, ← h.lastEventId]
        rintro _ ⟨⟩
        exact ⟨hdecoder, hlines⟩

/-- Reading without a connection, or after a close, does nothing. -/
theorem next_of_reader?_none {t : Tracked} (h : t.reader? = none) :
    t.session.next.2 = t.session := by
  rcases t with ⟨⟨source, _ | ⟨_ | reader, lasting⟩, actions⟩, ledger⟩
  · rfl
  · rfl
  · cases h

theorem next_of_reader?_some {t : Tracked} {reader : Reader} (h : t.reader? = some reader) :
    (t.step .next).reader? = some reader.next.2 ∧
      (t.step .next).session.source.lastEventId = reader.next.2.lastEventId := by
  rcases t with ⟨⟨source, _ | ⟨_ | reader, lasting⟩, actions⟩, ledger⟩
  · cases h
  · cases h
  · cases h
    exact ⟨rfl, rfl⟩

theorem isFaithful_next {t : Tracked} (h : t.IsFaithful) : (t.step .next).IsFaithful := by
  cases hreader : t.reader? with
  | none =>
      have hstep : t.step .next = t := by
        simp only [step]
        rw [next_of_reader?_none hreader, Ledger.next_of_unread_nil (h.unread hreader)]
      rwa [hstep]
  | some reader =>
      obtain ⟨hdecoder, hlines⟩ := h.reader reader hreader
      obtain ⟨hdecoder', hleft⟩ := Ledger.next_of_reader hdecoder hlines
      obtain ⟨hreader', hid⟩ := next_of_reader?_some hreader
      refine ⟨?_, ?_, ?_⟩
      · rw [hid, Reader.lastEventId, hdecoder']
        exact Ledger.lastEventId_decoder _
      · simp [hreader']
      · rw [hreader']
        rintro _ ⟨⟩
        exact ⟨hdecoder', hleft⟩

theorem close_step (t : Tracked) :
    (t.step .close).reader? = none ∧ (t.step .close).session.source = t.session.source := by
  rcases t with ⟨⟨source, _ | connection, actions⟩, ledger⟩ <;> exact ⟨rfl, rfl⟩

theorem isFaithful_close {t : Tracked} (h : t.IsFaithful) :
    (t.step .close).IsFaithful := by
  obtain ⟨hreader, hsource⟩ := t.close_step
  refine ⟨?_, fun _ => rfl, ?_⟩
  · rw [hsource]
    exact h.lastEventId
  · simp [hreader]

theorem isFaithful_run (base : List Char) (server : Server) (steps : List Step) :
    ((start base server).run steps).IsFaithful := by
  induction steps using List.reverseRecOn with
  | nil => exact isFaithful_start base server
  | append_singleton steps step ih =>
      rw [run, List.foldl_append]
      cases step with
      | connect endpoint => exact isFaithful_connect ih endpoint
      | next => exact isFaithful_next ih
      | close => exact isFaithful_close ih

end Tracked
end Http
end LivePage
