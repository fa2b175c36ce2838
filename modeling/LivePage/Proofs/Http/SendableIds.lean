import LivePage.Proofs.EventStream.RoundTrip
import LivePage.Proofs.Http.Resumption

/-!
# Event ids that can be sent

A source sends its last event id as the value of a header, and a header value holds no control
character but the tab.  The lines of a stream keep only three of them out of an id.  An id with
another one is put in force, and from then on no request is sent at all.
-/

namespace LivePage
namespace Http

open EventStream LiveReload

/-! ## Ids and the lines that set them -/

theorem isEventId_of_idAfterLine {line : List Char} (hline : IsUnterminated '\n' '\r' line)
    {id : String} (h : idAfterLine none line = some id) : isEventId id = true := by
  unfold idAfterLine at h
  dsimp only at h
  split_ifs at h with hfield hvalue
  cases h
  rw [isEventId_iff, String.toList_ofList]
  refine ⟨ofList_ne_empty hvalue, hfield.2, ?_⟩
  intro c hc
  exact hline c ((Decoder.value_suffix_line line).mem hc)

/-- Whether a line sets no id that cannot be sent. -/
def isSendableLine (line : List Char) : Bool :=
  (idAfterLine none line).all fun id => isHeaderValue id.toList

namespace Ledger

/-- The lines read on all connections. -/
def lines (l : Ledger) : List (List Char) :=
  l.past.flatten ++ l.read

theorem exists_line_of_startId {l : Ledger} {id : String} (h : l.startId = some id) :
    ∃ line ∈ l.past.flatten, idAfterLine none line = some id := by
  unfold startId at h
  generalize l.past = past at h ⊢
  induction past using List.reverseRecOn with
  | nil => cases h
  | append_singleton past lines ih =>
      rw [List.foldl_append, List.foldl_cons, List.foldl_nil] at h
      rcases committedId_eq_some h with hpast | ⟨line, hmem, hset⟩
      · obtain ⟨line, hmem, hset⟩ := ih hpast
        exact ⟨line, by simp [hmem], hset⟩
      · exact ⟨line, by simp [hmem], hset⟩

/-- The id in force was set by a line that has been read. -/
theorem exists_line_of_lastId {l : Ledger} {id : String} (h : l.lastId = some id) :
    ∃ line ∈ l.lines, idAfterLine none line = some id := by
  rcases committedId_eq_some h with hstart | ⟨line, hmem, hset⟩
  · obtain ⟨line, hmem, hset⟩ := exists_line_of_startId hstart
    exact ⟨line, List.mem_append_left _ hmem, hset⟩
  · exact ⟨line, List.mem_append_right _ hmem, hset⟩

def IsUnterminated (l : Ledger) : Prop :=
  ∀ line ∈ l.lines ++ l.unread, EventStream.IsUnterminated '\n' '\r' line

theorem IsUnterminated.accept {l : Ledger} (h : l.IsUnterminated) (octets : List UInt8) :
    (l.accept octets).IsUnterminated := by
  intro line hline
  simp only [lines, Ledger.accept, List.flatten_append, List.flatten_cons, List.flatten_nil,
    List.append_nil] at hline
  rcases List.mem_append.mp hline with hread | hunread
  · exact h line (List.mem_append_left _ hread)
  · exact isUnterminated_of_mem_streamLines hunread

theorem IsUnterminated.next {l : Ledger} (h : l.IsUnterminated) : l.next.IsUnterminated := by
  have hlines : l.next.lines ++ l.next.unread = l.lines ++ l.unread := by
    simp [lines, Ledger.next]
  unfold IsUnterminated
  rwa [hlines]

theorem IsUnterminated.close {l : Ledger} (h : l.IsUnterminated) : l.close.IsUnterminated := by
  intro line hline
  have hread : line ∈ l.lines := by simpa [lines, Ledger.close] using hline
  exact h line (List.mem_append_left _ hread)

end Ledger

theorem Tracked.isUnterminated_run (base : List Char) (server : Server) (steps : List Step) :
    ((start base server).run steps).ledger.IsUnterminated := by
  induction steps using List.reverseRecOn with
  | nil => exact List.forall_mem_nil _
  | append_singleton steps step ih =>
      rw [run, List.foldl_append]
      cases step with
      | connect endpoint =>
          simp only [List.foldl_cons, List.foldl_nil, Tracked.step]
          cases Source.stream? _ endpoint with
          | none => exact ih
          | some octets => exact ih.accept octets
      | next => exact ih.next
      | close => exact ih.close

/-! ## Requests that cannot be sent -/

theorem Server.exchange_ne_badHeaderValue (s : Server) (allowsCut : Bool) (a : Address)
    (headers : List (String × String)) :
    (s.exchange allowsCut a headers).1 ≠ .error .badHeaderValue := by
  unfold exchange
  split
  · simp
  · simp [RequestFault.refused]
  · split
    · cases Response.ofOctets allowsCut _ <;> simp [Except.mapError]
    · simp [RequestFault.refused]

theorem Server.onward_ne_badHeaderValue (a : Address) (r : Response) :
    onward a r ≠ .error .badHeaderValue := by
  unfold onward
  cases r.body.fault? with
  | some fault => simp [bind, Except.bind, throw, throwThe, MonadExceptOf.throw]
  | none =>
      simp only [pure, Except.pure, throw, throwThe, MonadExceptOf.throw]
      split
      · simp
      · split <;> simp

theorem Server.get_ne_badHeaderValue (headers : List (String × String)) (limit : Nat)
    (s : Server) (a : Address) : (get headers limit s a).1 ≠ .error .badHeaderValue := by
  induction limit generalizing s a with
  | zero =>
      have hexchange := s.exchange_ne_badHeaderValue (decide (0 ≠ 0)) a headers
      unfold get
      split
      · rename_i heq
        rwa [heq] at hexchange
      · split_ifs <;> simp
  | succ limit ih =>
      have hexchange := s.exchange_ne_badHeaderValue (decide (limit + 1 ≠ 0)) a headers
      unfold get
      split
      · rename_i heq
        rwa [heq] at hexchange
      · rename_i response s' heq
        have honward := onward_ne_badHeaderValue a response
        split_ifs
        · split
          · simp
          · rename_i hfault _
            rw [hfault] at honward
            simpa using honward
          · rename_i hlimit _
            cases hlimit
            exact ih _ _
        · simp

namespace Source

/-- Whether the last event id of a source can be sent. -/
def isResumable (s : Source) : Bool :=
  s.lastEventId.all fun id => isHeaderValue id.toList

theorem all_headers (s : Source) :
    (s.headers.all fun h => isHeaderValue h.2.toList) = s.isResumable := by
  obtain ⟨base, id, server⟩ := s
  have haccept : isHeaderValue eventStreamType.toList = true := by decide
  have hcache : isHeaderValue "no-cache".toList = true := by decide
  cases id with
  | none => simp only [headers, isResumable, haccept, hcache, Option.toList_none, List.map_nil,
      List.append_nil, List.all_cons, List.all_nil, Option.all_none, Bool.and_self]
  | some id => simp only [headers, isResumable, haccept, hcache, Option.toList_some,
      List.map_cons, List.map_nil, List.cons_append, List.nil_append, List.all_cons,
      List.all_nil, Option.all_some, Bool.true_and, Bool.and_true]

/-- A request whose id cannot be sent gets no answer, and the server gets no request. -/
theorem request_of_not_isResumable {s : Source} (h : s.isResumable = false)
    (endpoint : String) :
    ∃ cause, s.request endpoint = (.error cause, s.server) := by
  unfold request
  rw [all_headers, h]
  split
  · exact ⟨_, rfl⟩
  · exact ⟨_, rfl⟩

/-- A request fails because of its id where the id cannot be sent, and only there. -/
theorem request_eq_badHeaderValue_iff (s : Source) (endpoint : String) :
    (s.request endpoint).1 = .error .badHeaderValue ↔
      s.isResumable = false ∧ ∃ a, Address.ofText (s.base ++ endpoint.toList) = .ok a := by
  unfold request
  rw [all_headers]
  cases haddress : Address.ofText (s.base ++ endpoint.toList) with
  | error fault => simp
  | ok a =>
      cases hresumable : s.isResumable with
      | false => simp
      | true =>
          have hsent := Server.get_ne_badHeaderValue s.headers maxRedirects s.server a
          simpa using hsent

theorem connect_of_not_isResumable {s : Source} (h : s.isResumable = false)
    (endpoint : String) :
    s.stream? endpoint = none ∧
      ∃ cause, s.connect endpoint = (.error (.request cause), s) := by
  obtain ⟨cause, hrequest⟩ := request_of_not_isResumable h endpoint
  constructor
  · simp only [stream?, hrequest]
  · exact ⟨cause, connect_of_error hrequest⟩

end Source

/-! ## Sessions -/

namespace Tracked

/-- A session without a connection whose next request would carry an id that cannot be
sent. -/
structure IsStuck (t : Tracked) (source : Source) : Prop where
  source_eq : t.session.source = source
  reader? : t.reader? = none
  not_isResumable : source.isResumable = false

variable {t : Tracked} {source : Source}

theorem IsStuck.connect (h : t.IsStuck source) (endpoint : String) :
    ∃ fault, (t.session.connect endpoint).1 = .error fault ∧ fault.isRetryable = true := by
  obtain ⟨rfl, -, hresumable⟩ := h
  obtain ⟨-, cause, hconnect⟩ := Source.connect_of_not_isResumable hresumable endpoint
  have hsession : EventSource.connect t.session.source endpoint =
      (.error (StreamFault.request cause).toFault, t.session.source) := by
    simp [EventSource.connect, hconnect, Except.mapError]
  refine ⟨(StreamFault.request cause).toFault, ?_, rfl⟩
  simp only [Session.connect, hsession]

/-- Nothing that is done with a stuck session changes its source. -/
theorem IsStuck.step (h : t.IsStuck source) (step : Step) : (t.step step).IsStuck source := by
  obtain ⟨rfl, hreader, hresumable⟩ := h
  cases step with
  | connect endpoint =>
      obtain ⟨hstream, cause, hconnect⟩ :=
        Source.connect_of_not_isResumable hresumable endpoint
      refine ⟨?_, ?_, hresumable⟩
      · rw [source_connect, hconnect]
      · rw [(reader?_connect_of_none hstream).1, hreader]
  | next =>
      have hnext := next_of_reader?_none hreader
      refine ⟨congrArg (·.source) hnext, ?_, hresumable⟩
      rw [← hreader]
      exact congrArg (·.connection.bind (·.reader)) hnext
  | close =>
      obtain ⟨hnone, hsource⟩ := t.close_step
      exact ⟨hsource, hnone, hresumable⟩

theorem IsStuck.run (h : t.IsStuck source) (steps : List Step) :
    (t.run steps).IsStuck source := by
  induction steps generalizing t with
  | nil => exact h
  | cons step steps ih => exact ih (h.step step)

/-- The id in force was set by a line that was read, and can stand in a line.  A request
fails because of it where it holds a control character, and only there.  So no request does
as long as no line sets such an id.  Once one is in force and no connection is left, no
request is sent any more, and each connect asks for another one. -/
theorem lastEventId_sendable_of_session (base : List Char) (server : Server)
    (steps : List Step) :
    let before := (start base server).run steps
    let source := before.session.source
    (∀ id, source.lastEventId = some id →
      isEventId id = true ∧ ∃ line ∈ before.ledger.lines, idAfterLine none line = some id) ∧
    (∀ endpoint, (source.request endpoint).1 = .error .badHeaderValue ↔
      source.isResumable = false ∧
        ∃ a, Address.ofText (source.base ++ endpoint.toList) = .ok a) ∧
    ((∀ line ∈ before.ledger.lines, isSendableLine line = true) →
      source.isResumable = true) ∧
    (source.isResumable = false → before.reader? = none →
      ∀ (more : List Step) (endpoint : String),
        (before.run more).session.source = source ∧
        ∃ fault, ((before.run more).session.connect endpoint).1 = .error fault ∧
          fault.isRetryable = true) := by
  intro before source
  have hlast : source.lastEventId = before.ledger.lastId :=
    (isFaithful_run base server steps).lastEventId
  have hset (id : String) (h : source.lastEventId = some id) :
      ∃ line ∈ before.ledger.lines, idAfterLine none line = some id :=
    Ledger.exists_line_of_lastId (hlast.symm.trans h)
  refine ⟨?_, source.request_eq_badHeaderValue_iff, ?_, ?_⟩
  · intro id hid
    obtain ⟨line, hmem, hline⟩ := hset id hid
    have hunterminated := isUnterminated_run base server steps line
      (List.mem_append_left _ hmem)
    exact ⟨isEventId_of_idAfterLine hunterminated hline, line, hmem, hline⟩
  · intro hlines
    rw [Source.isResumable, Option.all_eq_true]
    intro id hid
    obtain ⟨line, hmem, hline⟩ := hset id hid
    have hsendable := hlines line hmem
    rwa [isSendableLine, hline, Option.all_some] at hsendable
  · intro hresumable hreader more endpoint
    have hstuck : before.IsStuck source := ⟨rfl, hreader, hresumable⟩
    exact ⟨(hstuck.run more).source_eq, (hstuck.run more).connect endpoint⟩

/-- A server whose stream sets an id and ends its event. -/
def idServer (id : String) : Server where
  host := "docs".toList
  port := 80
  replies := [Utf8.encode
    ("HTTP/1.1 200 OK\r\nContent-Type: text/event-stream\r\n\r\nid: ".toList ++
      id.toList ++ "\n\n".toList)]

/-- One stream sets an id with a tab and a letter that is not ASCII, the other one with a
control character. -/
theorem lastEventId_sendable_of_two_streams :
    let steps : List Step := [.connect "/ss-events", .next, .close]
    let first := (start "http://docs".toList (idServer "é\t7")).run steps
    let second := (start "http://docs".toList (idServer "\x017")).run steps
    first.session.source.lastEventId = some "é\t7" ∧
      (∀ line ∈ first.ledger.lines, isSendableLine line = true) ∧
      first.session.source.isResumable = true ∧
      second.session.source.lastEventId = some "\x017" ∧
      second.session.source.isResumable = false ∧ second.reader? = none ∧
      ∀ (more : List Step) (endpoint : String),
        (second.run more).session.source = second.session.source ∧
        ∃ fault, ((second.run more).session.connect endpoint).1 = .error fault ∧
          fault.isRetryable = true := by
  intro steps first second
  obtain ⟨hfirst, hlines⟩ : first.session.source.lastEventId = some "é\t7" ∧
      ∀ line ∈ first.ledger.lines, isSendableLine line = true := by
    decide +kernel
  obtain ⟨hsecond, hresumable, hreader⟩ :
      second.session.source.lastEventId = some "\x017" ∧
        second.session.source.isResumable = false ∧ second.reader? = none := by
    decide +kernel
  obtain ⟨-, -, hsendable, -⟩ :=
    lastEventId_sendable_of_session "http://docs".toList (idServer "é\t7") steps
  obtain ⟨-, -, -, hstuck⟩ :=
    lastEventId_sendable_of_session "http://docs".toList (idServer "\x017") steps
  refine ⟨hfirst, hlines, hsendable hlines, hsecond, hresumable, hreader, ?_⟩
  exact hstuck hresumable hreader

/-- A stream sets an id with a control character, and the next request fails because of
it. -/
theorem not_isResumable_of_control_character :
    ¬∀ (base : List Char) (server : Server) (steps : List Step) (endpoint : String),
      (((start base server).run steps).session.source.request endpoint).1 ≠
        .error .badHeaderValue := by
  intro h
  apply h "http://docs".toList (idServer "\x01") [.connect "/ss-events", .next] "/ss-events"
  decide +kernel

end Tracked
end Http
end LivePage
