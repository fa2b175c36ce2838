import LivePage.Http.Reply
import LivePage.Proofs.Http.ContentTypes
import LivePage.Proofs.LiveReload.Standings

/-!
# Refusals

A server that answers, but not with an event stream, is not asked again.  Whatever else goes
wrong between a client and a server is left to the policy: a request without a response, and a
stream that cannot be read or that ends.
-/

namespace LivePage
namespace Http

open EventStream LiveReload

namespace Source

/-- An exchange fails a client, though no response is refused: the request gets no response, or
the response is read as a stream that fails or ends, and closed then. -/
inductive Fails (s : Source) (c : Client) : List Action → Fault → Client → Source → Prop where
  | request {cause : RequestFault} {server : Server}
      (h : s.request c.options.endpoint = (.error cause, server)) :
      Fails s c [.connect c.options.endpoint] ⟨.connect, cause.text⟩ c { s with server }
  | stream {connection connection' : Connection} {fault : Fault} {c' : Client}
      {s' s'' : Source} (h : s.connect c.options.endpoint = (.ok connection, s'))
      (hread : readConnection c.onOpen s' connection = (.fault fault, c', connection', s'')) :
      Fails s c [.connect c.options.endpoint, .close] fault c' (s''.close connection').2

variable {s s' : Source} {c c' : Client} {calls : List Action} {fault : Fault}
  {endpoint : String} {server : Server}

theorem connect_of_isRefused {r : Response} {cause : StreamFault}
    (h : s.request endpoint = (.ok r, server)) (hr : r.IsRefused cause) :
    s.connect endpoint = (.error cause, { s with server }) := by
  rw [connect_of_ok h, openResponse_of_isRefused hr]

/-! ## Which faults are final -/

theorem isRetryable_of_isRefused {r : Response} {cause : StreamFault}
    (h : r.IsRefused cause) : cause.toFault.isRetryable = false := by
  cases h <;> rfl

theorem kind_of_next_eq_failed {connection : Connection}
    (h : (EventSource.next s connection).1 = .failed fault) : fault.kind = .read := by
  obtain ⟨_ | reader, lasting⟩ := connection
  · cases h
  · have hread : (endPull lasting reader.next.1).mapCause StreamFault.toFault = .failed fault := h
    cases hpull : reader.next.1 with
    | frame f =>
        rw [hpull] at hread
        cases hread
    | failed message =>
        rw [hpull] at hread
        cases hread
        rfl
    | finished =>
        rw [hpull] at hread
        cases lasting with
        | none => cases hread
        | some cause =>
            cases hread
            rfl

theorem fault_of_readConnection {connection : Connection}
    (h : (readConnection c s connection).1 = .fault fault) :
    fault.kind = .read ∨ fault = .endOfStream := by
  fun_induction readConnection c s connection with
  | case1 => cases h
  | case2 _ _ _ _ _ _ _ _ _ _ _ ih => exact ih h
  | case3 _ _ _ _ _ _ _ ih => exact ih h
  | case4 _ _ _ _ _ _ hnext =>
      cases h
      exact .inl (kind_of_next_eq_failed (congrArg Prod.fst hnext))
  | case5 =>
      cases h
      exact .inr rfl

/-- What is left to the policy tells that there was no response, that reading failed, or that
the stream ended. -/
theorem Fails.fault_eq (h : s.Fails c calls fault c' s') :
    fault.kind = .connect ∨ fault.kind = .read ∨ fault = .endOfStream := by
  cases h with
  | request h => exact .inl rfl
  | stream h hread => exact .inr (fault_of_readConnection (congrArg Prod.fst hread))

theorem Fails.isRetryable (h : s.Fails c calls fault c' s') : fault.isRetryable = true := by
  rcases h.fault_eq with hkind | hkind | rfl
  · rw [Fault.isRetryable, hkind]
  · rw [Fault.isRetryable, hkind]
  · rfl

/-! ## All failures -/

theorem eventSource_connect (s : Source) (endpoint : String) :
    EventSource.connect s endpoint =
      ((s.connect endpoint).1.mapError StreamFault.toFault, (s.connect endpoint).2) :=
  rfl

theorem Fails.loses (h : s.Fails c calls fault c' s') : c.Loses s calls fault c' s' := by
  cases h with
  | request h =>
      refine .refused ?_
      rw [eventSource_connect, connect_of_error h]
      rfl
  | stream h hread =>
      refine .dropped ?_ hread
      rw [eventSource_connect, h]
      rfl

theorem loses_of_isRefused {r : Response} {cause : StreamFault}
    (h : s.request c.options.endpoint = (.ok r, server)) (hr : r.IsRefused cause) :
    c.Loses s [.connect c.options.endpoint] cause.toFault c { s with server } := by
  refine .refused ?_
  rw [eventSource_connect, connect_of_isRefused h hr]
  rfl

theorem isRefused_or_fails_of_loses (h : c.Loses s calls fault c' s') :
    (∃ r server cause, s.request c.options.endpoint = (.ok r, server) ∧ r.IsRefused cause) ∨
      s.Fails c calls fault c' s' := by
  rcases hrequest : s.request c.options.endpoint with ⟨cause | r, server⟩
  · have hconnect := connect_of_error hrequest
    cases h with
    | refused h =>
        rw [eventSource_connect, hconnect] at h
        cases h
        exact .inr (.request hrequest)
    | dropped h hread =>
        rw [eventSource_connect, hconnect] at h
        cases h
  · rcases openResponse_isOk_or_isRefused s.lastEventId r with
      ⟨connection, hopen⟩ | ⟨cause, hr⟩
    · have hconnect : s.connect c.options.endpoint = (.ok connection, { s with server }) := by
        rw [connect_of_ok hrequest, hopen]
      cases h with
      | refused h =>
          rw [eventSource_connect, hconnect] at h
          cases h
      | dropped h hread =>
          rw [eventSource_connect, hconnect] at h
          cases h
          exact .inr (.stream hconnect hread)
    · exact .inl ⟨r, server, cause, rfl, hr⟩

/-! ## Runs -/

/-- Wherever a run has come to, a response that is refused ends it there and then, and nothing
is counted.  Anything else that fails is counted, and the policy says how long to wait for
another connection: only where it does not, the run ends.  There is no other way for a run to
give up. -/
theorem failures_of_run {c : Client} (hc : c.phase ≠ .closed) (s : Source) :
    (∀ n p, Run.Reaches c s n p →
      (∀ r server cause, p.source.request c.options.endpoint = (.ok r, server) →
        r.IsRefused cause →
        (p.source.connect c.options.endpoint).1 = .error cause ∧
        ∀ limit, Run.within? limit c s =
          if n < limit then
            some ⟨.gaveUp, p.actions ++ [.connect c.options.endpoint],
              { p.client with phase := .closed }, { p.source with server }⟩
          else none) ∧
      ∀ calls fault c' s', p.source.Fails p.client calls fault c' s' →
        (fault.kind = .connect ∨ fault.kind = .read ∨ fault = .endOfStream) ∧
        match c.options.reconnect.delay? (c'.attempts + 1) c'.serverRetry with
        | some delay =>
          (∀ limit ≤ n + 1, Run.within? limit c s = none) ∧
          Run.Reaches c s (n + 1)
            ⟨p.actions ++ (calls ++ [.sleep delay]),
              { c' with phase := .connecting, attempts := c'.attempts + 1 }, s'⟩
        | none =>
          ∀ limit, Run.within? limit c s =
            if n < limit then
              some ⟨.gaveUp, p.actions ++ calls,
                { c' with phase := .closed, attempts := c'.attempts + 1 }, s'⟩
            else none) ∧
    ∀ limit run, Run.within? limit c s = some run → run.outcome = .gaveUp →
      ∃ n p, n < limit ∧ Run.Reaches c s n p ∧
        ((∃ r server cause, p.source.request c.options.endpoint = (.ok r, server) ∧
            r.IsRefused cause) ∨
          ∃ calls fault c' s', p.source.Fails p.client calls fault c' s' ∧
            c.options.reconnect.delay? (c'.attempts + 1) c'.serverRetry = none) := by
  refine ⟨fun n p h => ⟨?_, ?_⟩, ?_⟩
  · intro r server cause hrequest hr
    obtain ⟨-, hoptions⟩ := h.client_isOpen hc
    rw [← hoptions] at hrequest ⊢
    refine ⟨congrArg Prod.fst (connect_of_isRefused hrequest hr), ?_⟩
    exact h.within?_of_final hc (loses_of_isRefused hrequest hr) (isRetryable_of_isRefused hr)
  · intro calls fault c' s' hfails
    refine ⟨hfails.fault_eq, ?_⟩
    split <;> rename_i hdelay
    · have hagain := h.again_of_delay hc hfails.loses hfails.isRetryable hdelay
      exact ⟨fun _ => hagain.within?_of_le, hagain⟩
    · exact h.within?_of_exhausted hc hfails.loses hfails.isRetryable hdelay
  · intro limit run hrun hgaveUp
    obtain ⟨n, p, calls, fault, c', s', hn, h, hloses, hdelay⟩ :=
      Run.exists_loses_of_gaveUp hrun hc hgaveUp
    obtain ⟨-, hoptions⟩ := h.client_isOpen hc
    refine ⟨n, p, hn, h, ?_⟩
    rcases isRefused_or_fails_of_loses hloses with hrefused | hfails
    · rw [hoptions] at hrefused
      exact .inl hrefused
    · exact .inr ⟨calls, fault, c', s', hfails, hdelay hfails.isRetryable⟩

/-- The server sends a stream that asks for a delay and ends, and after that has only a page
that says so. -/
def goneServer : Server where
  host := "docs".toList
  port := 80
  replies := [
    Reply.octets { body := ascii "retry: 5\n" },
    Reply.octets { status := 404, contentType := some (ascii "text/html") }]

def goneSource : Source :=
  .new "http://docs".toList goneServer

def goneStream : Connection where
  reader := some (.resume none [.chunk (ascii "retry: 5\n")])

/-- The stream fails any client, and the response after it has another status. -/
theorem exists_fails_goneSource (c : Client) (hc : c.options.endpoint = "/ss-events") :
    ∃ s', goneSource.Fails c [.connect c.options.endpoint, .close] .endOfStream
        (c.onOpen.onRetry (.ofMillis 5)) s' ∧
      ∃ r, (s'.request "/ss-events").1 = .ok r ∧ r.status = 404 := by
  have hopened : (goneSource.connect "/ss-events").1 = .ok goneStream := by decide +kernel
  have hretry : (EventSource.next (goneSource.connect "/ss-events").2 goneStream).1 =
      .frame (.retry (.ofMillis 5)) := by
    decide +kernel
  have hend : (EventSource.next
      (EventSource.next (goneSource.connect "/ss-events").2 goneStream).2.2
      (EventSource.next (goneSource.connect "/ss-events").2 goneStream).2.1).1 =
      .finished := by
    decide +kernel
  have hmissing : ((EventSource.next
      (EventSource.next (goneSource.connect "/ss-events").2 goneStream).2.2
      (EventSource.next (goneSource.connect "/ss-events").2 goneStream).2.1).2.2.request
        "/ss-events").1.map (·.status) = .ok 404 := by
    decide +kernel
  rcases hconnect : goneSource.connect "/ss-events" with ⟨opened, s₁⟩
  rw [hconnect] at hopened hretry hend hmissing
  rcases hfirst : EventSource.next s₁ goneStream with ⟨first, k₂, s₂⟩
  rw [hfirst] at hretry hend hmissing
  rcases hsecond : EventSource.next s₂ k₂ with ⟨second, k₃, s₃⟩
  rw [hsecond] at hend hmissing
  cases hopened
  cases hretry
  cases hend
  have hread : readConnection c.onOpen s₁ goneStream =
      (.fault .endOfStream, c.onOpen.onRetry (.ofMillis 5), k₃, s₃) := by
    rw [readConnection_of_retry hfirst, readConnection_of_finished hsecond]
  refine ⟨s₃, .stream (hc ▸ hconnect) hread, ?_⟩
  rcases hrequest : (s₃.request "/ss-events").1 with cause | r
  · rw [hrequest] at hmissing
    cases hmissing
  · rw [hrequest] at hmissing
    exact ⟨r, rfl, Except.ok.inj hmissing⟩

/-- After the end of a stream there is another connection, and after a missing page none. -/
theorem failures_of_run_gone :
    let c : Client := .new {}
    c.phase ≠ .closed ∧
      ∃ c' s',
        Run.Reaches c goneSource 1
          ⟨[.connect "/ss-events", .close, .sleep (.ofMillis 5)], c', s'⟩ ∧
        c'.attempts = 1 ∧
        (s'.connect "/ss-events").1 = .error (.status 404 "Not Found") ∧
        ∀ limit, Run.within? limit c goneSource =
          if 1 < limit then
            some ⟨.gaveUp,
              [.connect "/ss-events", .close, .sleep (.ofMillis 5), .connect "/ss-events"],
              { c' with phase := .closed }, { s' with server := (s'.request "/ss-events").2 }⟩
          else none := by
  intro c
  have hc : c.phase ≠ .closed := nofun
  obtain ⟨s', hlost, r, hr, hstatus⟩ := exists_fails_goneSource c rfl
  obtain ⟨hpoints, -⟩ := failures_of_run hc goneSource
  obtain ⟨-, hfails⟩ := hpoints 0 _ .start
  obtain ⟨-, -, hagain⟩ := hfails _ _ _ _ hlost
  have hrefused := Response.IsRefused.status (r := r) (by omega)
  rw [hstatus] at hrefused
  obtain ⟨hfinal, -⟩ := hpoints 1 _ hagain
  obtain ⟨hstatus, hrun⟩ := hfinal r _ _ (Prod.ext hr rfl) hrefused
  exact ⟨hc, _, _, hagain, rfl, hstatus, hrun⟩

end Source
end Http
end LivePage
