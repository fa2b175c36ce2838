import LivePage.LiveReload.Script
import LivePage.Proofs.LiveReload.Metering
import Mathlib.Data.List.Basic

/-!
# Runs over a script

What a run of a new client comes to, told from the positions of a script.  A
connection has one result.  The delay after it depends on how many connections ago
one was accepted, and on the last delay that the server asked for, and on nothing
else that happened before.
-/

namespace LivePage
namespace LiveReload

open EventStream

/-! ## One connection of a script -/

/-- Whether nothing more is read after a delivery. -/
def endsReading : Delivery → Bool
  | .error _ => true
  | .ok (.message m) => m.isPlain
  | .ok (.retry _) => false

/-- The delay that a delivery asks for. -/
def askedDelay? : Delivery → Option Duration
  | .ok (.retry delay) => some delay
  | _ => none

/-- What a connection comes to: its refusal, its first plain message, its first
fault or its end, whichever comes first. -/
def resultOf : ScriptedCall → Reading
  | .error fault => .fault fault
  | .ok deliveries =>
    match deliveries.find? endsReading with
    | none => .fault .endOfStream
    | some (.error fault) => .fault fault
    | some (.ok _) => .reload

/-- The delays that are asked for before that. -/
def delaysOf : ScriptedCall → List Duration
  | .error _ => []
  | .ok deliveries => (deliveries.takeWhile (!endsReading ·)).filterMap askedDelay?

/-- How often a connection is read: up to the delivery that ends reading, or once
more than there are deliveries. -/
def readsOf : ScriptedCall → Nat
  | .error _ => 0
  | .ok deliveries => (deliveries.takeWhile (!endsReading ·)).length + 1

section Deliveries

variable {delivery : Delivery} (deliveries : List Delivery)

theorem resultOf_cons (h : endsReading delivery = false) :
    resultOf (.ok (delivery :: deliveries)) = resultOf (.ok deliveries) := by
  simp only [resultOf, List.find?_cons, h]

theorem delaysOf_cons (h : endsReading delivery = false) :
    delaysOf (.ok (delivery :: deliveries)) =
      (askedDelay? delivery).toList ++ delaysOf (.ok deliveries) := by
  simp only [delaysOf, List.takeWhile_cons, h, Bool.not_false, if_true]
  cases hdelay : askedDelay? delivery <;> simp [hdelay]

theorem readsOf_cons (h : endsReading delivery = false) :
    readsOf (.ok (delivery :: deliveries)) = readsOf (.ok deliveries) + 1 := by
  simp [readsOf, h]

theorem delaysOf_cons_of_endsReading (h : endsReading delivery = true) :
    delaysOf (.ok (delivery :: deliveries)) = [] := by
  simp [delaysOf, h]

theorem readsOf_cons_of_endsReading (h : endsReading delivery = true) :
    readsOf (.ok (delivery :: deliveries)) = 1 := by
  simp [readsOf, h]

end Deliveries

/-- A client after a connection was read. -/
def Client.afterReading (c : Client) (call : ScriptedCall) : Client :=
  let noted := { c with serverRetry := (delaysOf call).getLast?.or c.serverRetry }
  match resultOf call with
  | .reload => { noted with phase := .closed, reloads := noted.reloads + 1 }
  | .fault _ => noted

theorem next_script (s : Script) (record : List OutsideCall) (frame : Frame)
    (deliveries : List Delivery) :
    EventSource.next (Metered.mk s record)
        ({ deliveries := .ok frame :: deliveries } : ScriptedConnection) =
      (.frame frame, { deliveries }, ⟨s, record ++ [.next]⟩) :=
  rfl

/-- A script plays one connection up to its result. -/
theorem readConnection_script {c : Client} (hc : c.phase ≠ .closed) (s : Script)
    (record : List OutsideCall) (deliveries : List Delivery) :
    ∃ connection,
      readConnection c (Metered.mk s record) { deliveries } =
        (resultOf (.ok deliveries), c.afterReading (.ok deliveries), connection,
          ⟨s, record ++ List.replicate (readsOf (.ok deliveries)) .next⟩) := by
  induction deliveries generalizing c record with
  | nil => exact ⟨_, readConnection_of_finished rfl⟩
  | cons delivery deliveries ih =>
      rcases delivery with fault | m | delay
      · exact ⟨_, readConnection_of_failed rfl⟩
      · have hnext := next_script s record (.message m) deliveries
        cases hm : m.isPlain with
        | true =>
            have hends : endsReading (.ok (.message m)) = true := hm
            rw [readConnection_of_reload hnext (Client.onMessage_of_plain hc hm),
              readsOf_cons_of_endsReading _ hends, Client.afterReading,
              delaysOf_cons_of_endsReading _ hends]
            refine ⟨{ deliveries }, ?_⟩
            simp [resultOf, hends]
        | false =>
            have hends : endsReading (.ok (.message m)) = false := hm
            obtain ⟨connection, ih⟩ := ih hc (record ++ [.next])
            refine ⟨connection, ?_⟩
            rw [readConnection_of_ignored hnext
              (Client.onMessage_of_ignored (Or.inr hm)) (by simp), ih,
              resultOf_cons _ hends, readsOf_cons _ hends, Client.afterReading,
              Client.afterReading, resultOf_cons _ hends, delaysOf_cons _ hends,
              List.append_assoc, List.replicate_succ]
            rfl
      · have hnext := next_script s record (.retry delay) deliveries
        have hends : endsReading (.ok (.retry delay)) = false := rfl
        have hlast : (delay :: delaysOf (.ok deliveries)).getLast?.or c.serverRetry =
            (delaysOf (.ok deliveries)).getLast?.or (some delay) := by
          rw [List.getLast?_cons]
          cases (delaysOf (.ok deliveries)).getLast? <;> rfl
        obtain ⟨connection, ih⟩ := ih (c := c.onRetry delay) hc (record ++ [.next])
        refine ⟨connection, ?_⟩
        rw [readConnection_of_retry hnext, ih,
          resultOf_cons _ hends, readsOf_cons _ hends, Client.afterReading,
          Client.afterReading, resultOf_cons _ hends, delaysOf_cons _ hends,
          List.append_assoc, List.replicate_succ]
        simp only [askedDelay?, Option.toList_some, List.cons_append, List.nil_append,
          hlast]
        rfl

/-! ## Positions of a script -/

/-- What is done after a connection. -/
inductive Turn where
  /-- Wait, and go on to the next connection. -/
  | wait (delay : Duration)
  | stop (outcome : Outcome)
  deriving DecidableEq, Repr

/-- How the run ends at a turn, if it does. -/
def Turn.outcome? : Turn → Option Outcome
  | .wait _ => none
  | .stop outcome => some outcome

/-- What a turn does to the outside. -/
def Turn.actions : Turn → List Action
  | .wait delay => [.sleep delay]
  | .stop .reloaded => [.reload]
  | .stop .gaveUp => []

/-- The calls that a turn takes. -/
def Turn.calls : Turn → List OutsideCall
  | .wait delay => [.sleep delay]
  | .stop .reloaded => [.reload]
  | .stop .gaveUp => []

namespace Script

/-- The connection at a position.  With the script used up, it is refused. -/
def call (s : Script) (i : Nat) : ScriptedCall :=
  s.calls.getD i (.error .unscripted)

/-- What is left of a script after some connections. -/
def after (s : Script) (n : Nat) : Script where
  calls := s.calls.drop n

/-- The position of the last connection that was accepted among the first ones. -/
def lastAccepted? (s : Script) (n : Nat) : Option Nat :=
  (List.range n).reverse.find? fun i => isAccepted (s.call i)

/-- The number of connections from the last accepted one among the first ones up to
the last of these, both counted, or of all these if none was accepted. -/
def attempts (s : Script) (n : Nat) : Nat :=
  n - (s.lastAccepted? n).getD 0

/-- The delay that was asked for last on the first connections. -/
def retryInForce (s : Script) (n : Nat) : Option Duration :=
  ((List.range n).flatMap fun i => delaysOf (s.call i)).getLast?

/-- What is done after the connection at a position.  A client counts its attempts in 32 bits,
and so does its policy: after 2 ^ 32 of them in a row the count begins anew. -/
def turn (policy : ReconnectPolicy) (s : Script) (i : Nat) : Turn :=
  match resultOf (s.call i) with
  | .reload => .stop .reloaded
  | .fault fault =>
    if fault.isRetryable then
      match policy.delay? (.ofNat (s.attempts (i + 1))) (s.retryInForce (i + 1)) with
      | some delay => .wait delay
      | none => .stop .gaveUp
    else .stop .gaveUp

/-- Everything that is done at a position. -/
def actionsAt (options : Options) (s : Script) (i : Nat) : List Action :=
  connectionCalls options.endpoint (isAccepted (s.call i)) ++
    (s.turn options.reconnect i).actions

/-- Every call that is received at a position. -/
def recordAt (options : Options) (s : Script) (i : Nat) : List OutsideCall :=
  connectionRecord options.endpoint (isAccepted (s.call i)) (readsOf (s.call i)) ++
    (s.turn options.reconnect i).calls

variable (s : Script)

theorem lt_of_lastAccepted? {n i : Nat} (h : s.lastAccepted? n = some i) : i < n := by
  have := List.mem_of_find?_eq_some h
  simpa using this

theorem attempts_succ_of_accepted {n : Nat} (h : isAccepted (s.call n) = true) :
    s.attempts (n + 1) = 1 := by
  simp [attempts, lastAccepted?, List.range_succ, h]

theorem attempts_succ_of_refused {n : Nat} (h : isAccepted (s.call n) = false) :
    s.attempts (n + 1) = s.attempts n + 1 := by
  have hlast : s.lastAccepted? (n + 1) = s.lastAccepted? n := by
    simp [lastAccepted?, List.range_succ, h]
  rw [attempts, attempts, hlast]
  cases hn : s.lastAccepted? n with
  | none => rfl
  | some i =>
      have := s.lt_of_lastAccepted? hn
      simp only [Option.getD_some]
      omega

theorem retryInForce_succ (n : Nat) :
    s.retryInForce (n + 1) =
      (delaysOf (s.call n)).getLast?.or (s.retryInForce n) := by
  simp [retryInForce, List.range_succ, List.getLast?_append]

theorem connect_after (n : Nat) :
    (s.after n).connect =
      ((s.call n).map fun deliveries => { deliveries }, s.after (n + 1)) := by
  by_cases hn : n < s.calls.length
  · have hcall : s.call n = s.calls[n] := by
      simp [call, List.getD_eq_getElem?_getD, hn]
    rw [connect, after, List.drop_eq_getElem_cons hn, hcall]
    cases s.calls[n] <;> rfl
  · have hlength : s.calls.length ≤ n := Nat.le_of_not_lt hn
    have hcall : s.call n = .error .unscripted := by
      simp [call, List.getD_eq_getElem?_getD, hlength]
    have hdrop : ∀ m, n ≤ m → s.after m = ⟨[]⟩ := fun m hm => by
      rw [after, List.drop_eq_nil_of_le (Nat.le_trans hlength hm)]
    rw [hcall, hdrop n (Nat.le_refl n), hdrop (n + 1) (Nat.le_succ n)]
    rfl

end Script

/-! ## Runs of a new client -/

/-- The client of a run before the connection at a position. -/
def Script.clientBefore (options : Options) (s : Script) (n : Nat) : Client where
  options := options
  phase := .connecting
  attempts := .ofNat (s.attempts n)
  serverRetry := s.retryInForce n
  reloads := 0

/-- A fault at a position is answered as the position says, if the client has noted
what came before. -/
theorem answerFault_at {options : Options} {s : Script} {n : Nat} {c : Client}
    (hoptions : c.options = options) (hphase : c.phase ≠ .closed)
    (hattempts : c.attempts + 1 = .ofNat (s.attempts (n + 1)))
    (hretry : c.serverRetry = s.retryInForce (n + 1)) (hreloads : c.reloads = 0)
    {fault : Fault} (hresult : resultOf (s.call n) = .fault fault)
    (actions : List Action) (source : Script) (record : List OutsideCall) :
    ∃ c',
      answerFault actions fault c (Metered.mk source record) =
          ⟨(s.turn options.reconnect n).outcome?,
            actions ++ (s.turn options.reconnect n).actions, c',
            ⟨source, record ++ (s.turn options.reconnect n).calls⟩⟩ ∧
        ((s.turn options.reconnect n).outcome? = none →
          c' = s.clientBefore options (n + 1)) := by
  subst hoptions
  cases hfault : fault.isRetryable with
  | false =>
      have hturn : s.turn c.options.reconnect n = .stop .gaveUp := by
        simp [Script.turn, hresult, hfault]
      rw [answerFault_of_final hphase hfault, hturn, Turn.actions, Turn.calls,
        List.append_nil, List.append_nil]
      exact ⟨_, rfl, nofun⟩
  | true =>
      cases hdelay : c.options.reconnect.delay? (c.attempts + 1) c.serverRetry with
      | none =>
          have hturn : s.turn c.options.reconnect n = .stop .gaveUp := by
            simp [Script.turn, hresult, hfault, ← hattempts, ← hretry, hdelay]
          rw [answerFault_of_exhausted hphase hfault hdelay, hturn, Turn.actions, Turn.calls,
            List.append_nil, List.append_nil]
          exact ⟨_, rfl, nofun⟩
      | some delay =>
          have hturn : s.turn c.options.reconnect n = .wait delay := by
            simp [Script.turn, hresult, hfault, ← hattempts, ← hretry, hdelay]
          rw [answerFault_of_delay hphase hfault hdelay, hturn]
          refine ⟨_, rfl, fun _ => ?_⟩
          rw [Script.clientBefore, ← hattempts, ← hretry, ← hreloads]

/-- What a new client's run has left of a script, and recorded, before the connection at a
position. -/
def Script.sourceBefore (options : Options) (s : Script) (n : Nat) : Metered Script where
  source := s.after n
  record := (List.range n).flatMap (s.recordAt options)

theorem Script.sourceBefore_succ (options : Options) (s : Script) (n : Nat) :
    s.sourceBefore options (n + 1) =
      ⟨s.after (n + 1),
        (List.range n).flatMap (s.recordAt options) ++ s.recordAt options n⟩ := by
  simp [Script.sourceBefore, List.range_succ]

/-- A connection that was read is closed before anything else. -/
theorem close_script (s : Script) (endpoint : String) (record : List OutsideCall) (reads : Nat)
    (connection : ScriptedConnection) :
    (EventSource.close (Metered.mk s
        (record ++ [.connect endpoint true] ++ List.replicate reads .next)) connection).2 =
      ⟨s, record ++ connectionRecord endpoint true reads⟩ :=
  close_metered rfl connection

/-- A round of a new client's run does what its position says. -/
theorem playRound_at (options : Options) (s : Script) (n : Nat) :
    ∃ c',
      playRound (s.clientBefore options n) (s.sourceBefore options n) =
          ⟨(s.turn options.reconnect n).outcome?, s.actionsAt options n, c',
            s.sourceBefore options (n + 1)⟩ ∧
        ((s.turn options.reconnect n).outcome? = none →
          c' = s.clientBefore options (n + 1)) := by
  rw [Script.sourceBefore_succ, Script.sourceBefore]
  generalize (List.range n).flatMap (s.recordAt options) = record
  have hconnect : EventSource.connect (Metered.mk (s.after n) record)
      options.endpoint = (_, ⟨s.after (n + 1), _⟩) :=
    connect_metered (s.connect_after n) record
  have hretry := s.retryInForce_succ n
  rw [Script.actionsAt, Script.recordAt, ← List.append_assoc]
  cases hcall : s.call n with
  | error fault =>
      rw [hcall] at hconnect hretry
      have hattempts := s.attempts_succ_of_refused (n := n) (by rw [hcall]; rfl)
      have hresult : resultOf (s.call n) = .fault fault := by rw [hcall]; rfl
      rw [playRound_of_refused hconnect]
      refine answerFault_at rfl ?_ ?_ ?_ rfl hresult _ _ _
      · exact nofun
      · rw [hattempts, UInt32.ofNat_add]
        rfl
      · exact hretry.symm
  | ok deliveries =>
      rw [hcall] at hconnect hretry
      have hattempts := s.attempts_succ_of_accepted (n := n) (by rw [hcall]; rfl)
      have hopen : (s.clientBefore options n).onOpen =
          { s.clientBefore options n with phase := .connected, attempts := 0 } :=
        Client.onOpen_of_connecting rfl
      obtain ⟨connection, hread⟩ := readConnection_script
        (c := (s.clientBefore options n).onOpen)
        (by rw [hopen]; exact nofun) (s.after (n + 1))
        (record ++ [.connect options.endpoint true]) deliveries
      cases hresult : resultOf (.ok deliveries) with
      | reload =>
          rw [hresult] at hread
          have hturn : s.turn options.reconnect n = .stop .reloaded := by
            rw [Script.turn, hcall, hresult]
          rw [playRound_of_reload hconnect hread, hturn, close_script]
          exact ⟨_, rfl, nofun⟩
      | fault fault =>
          rw [hresult] at hread
          rw [playRound_of_fault hconnect hread, close_script]
          have hnoted : (s.clientBefore options n).onOpen.afterReading (.ok deliveries) =
              { s.clientBefore options n with
                phase := .connected, attempts := 0
                serverRetry := s.retryInForce (n + 1) } := by
            rw [Client.afterReading, hresult, hopen, hretry]
            rfl
          rw [hnoted]
          refine answerFault_at rfl ?_ ?_ rfl rfl (hcall ▸ hresult) _ _ _
          · exact nofun
          · rw [hattempts]
            rfl

/-- From any position on, a run goes on up to the first turn that stops it. -/
theorem isCourse_at {options : Options} {s : Script} {client : Client}
    {source : Metered Script} {run : Run (Metered Script)}
    (h : Run.IsCourse client source run) {n : Nat}
    (hclient : client = s.clientBefore options n)
    (hsource : source = s.sourceBefore options n) :
    ∃ k, (∀ i, n ≤ i → i < k → (s.turn options.reconnect i).outcome? = none) ∧
      (s.turn options.reconnect k).outcome? = some run.outcome ∧
      (List.range n).flatMap (s.actionsAt options) ++ run.actions =
        (List.range (k + 1)).flatMap (s.actionsAt options) ∧
      run.source = s.sourceBefore options (k + 1) := by
  induction h generalizing n with
  | last h =>
      subst hclient hsource
      obtain ⟨c', hround, -⟩ := playRound_at options s n
      rw [hround, Round.mk.injEq] at h
      obtain ⟨houtcome, rfl, rfl, rfl⟩ := h
      refine ⟨n, fun i hle hlt => absurd hlt (Nat.not_lt.mpr hle), houtcome, ?_, rfl⟩
      simp [List.range_succ]
  | again h rest ih =>
      subst hclient hsource
      obtain ⟨c', hround, hnext⟩ := playRound_at options s n
      rw [hround, Round.mk.injEq] at h
      obtain ⟨houtcome, rfl, rfl, rfl⟩ := h
      obtain ⟨k, hwaits, hstop, hactions, hsource⟩ := ih (hnext houtcome) rfl
      refine ⟨k, fun i hle hlt => ?_, hstop, ?_, hsource⟩
      · rcases Nat.eq_or_lt_of_le hle with rfl | hlt'
        · exact houtcome
        · exact hwaits i hlt' hlt
      · rw [← hactions]
        simp [List.range_succ]

/-! ## Delays -/

theorem Turn.eq_stop_of_outcome? {turn : Turn} {outcome : Outcome}
    (h : turn.outcome? = some outcome) : turn = .stop outcome := by
  cases turn with
  | wait delay => cases h
  | stop outcome' => exact congrArg Turn.stop (Option.some_inj.mp h)

theorem Turn.filterMap_delay?_actions_of_stop (outcome : Outcome) :
    (Turn.stop outcome).actions.filterMap Action.delay? = [] := by
  cases outcome <;> rfl

theorem Turn.map_wait_filterMap_delay?_actions {turn : Turn}
    (h : turn.outcome? = none) :
    (turn.actions.filterMap Action.delay?).map .wait = [turn] := by
  cases turn with
  | wait delay => rfl
  | stop outcome => cases h

theorem Script.filterMap_delay?_actionsAt (options : Options) (s : Script) (i : Nat) :
    (s.actionsAt options i).filterMap Action.delay? =
      (s.turn options.reconnect i).actions.filterMap Action.delay? := by
  rw [actionsAt, List.filterMap_append, filterMap_delay?_connectionCalls,
    List.nil_append]

/-- The delays that are waited for are those of all turns but the last one. -/
theorem Script.map_wait_filterMap_delay?_actionsAt {options : Options} {s : Script}
    {n : Nat} {outcome : Outcome}
    (hwaits : ∀ i < n, (s.turn options.reconnect i).outcome? = none)
    (hstop : s.turn options.reconnect n = .stop outcome) :
    (((List.range (n + 1)).flatMap (s.actionsAt options)).filterMap
        Action.delay?).map .wait =
      (List.range n).map (s.turn options.reconnect) := by
  rw [List.filterMap_flatMap, List.range_succ, List.flatMap_append,
    List.flatMap_singleton, filterMap_delay?_actionsAt, hstop,
    Turn.filterMap_delay?_actions_of_stop, List.append_nil, List.map_flatMap,
    List.map_eq_flatMap]
  refine List.flatMap_congr fun i hi => ?_
  rw [filterMap_delay?_actionsAt,
    Turn.map_wait_filterMap_delay?_actions (hwaits i (List.mem_range.mp hi))]

/-! ## The whole run -/

/-- A run of a new client over a script ends at the first turn that stops it.  All
that it did is told by the positions of the script: the delays that it waited for, its
calls, those that the source received, and what is left of the script. -/
theorem run_of_new_client {options : Options} {s : Script} {limit : Nat}
    {run : Run Script} (h : Run.within? limit (.new options) s = some run) :
    ∃ n, (List.range n).map (s.turn options.reconnect) = run.sleeps.map .wait ∧
      s.turn options.reconnect n = .stop run.outcome ∧
      run.actions = (List.range (n + 1)).flatMap (s.actionsAt options) ∧
      run.source = s.after (n + 1) ∧
      Run.within? limit (.new options) (Metered.mk s []) =
        some (run.metered
          ((List.range (n + 1)).flatMap (s.recordAt options))) := by
  obtain ⟨calls, hmetered⟩ := within?_metered h []
  obtain ⟨n, hwaits, houtcome, hactions, hsource⟩ :=
    isCourse_at (s := s) (n := 0) (Run.isCourse_of_within? hmetered) rfl rfl
  have hstop := Turn.eq_stop_of_outcome? houtcome
  refine ⟨n, ?_, hstop, hactions, congrArg Metered.source hsource, ?_⟩
  · rw [← Script.map_wait_filterMap_delay?_actionsAt
      (fun i => hwaits i (Nat.zero_le i)) hstop, ← hactions]
    rfl
  · have hrecord := congrArg Metered.record hsource
    rw [hmetered]
    exact congrArg (fun record => some (run.metered record)) hrecord

/-- A refusal, then a connection that fails after it asked for a delay, and then one
that is read up to its first plain message. -/
theorem run_of_new_client_three_connections :
    let options : Options := { reconnect := .fixed (.ofMillis 100) (some 2) }
    let s : Script := ⟨[.error ⟨.connect, "refused"⟩,
      .ok [.ok (.retry (.ofMillis 40)), .ok (.message ⟨"ping", "", none⟩),
        .error ⟨.read, "reset"⟩],
      .ok [.ok (.message ⟨"message", "", none⟩), .ok (.retry (.ofMillis 5))]]⟩
    let run : Run Script := ⟨.reloaded,
      [.connect "/ss-events", .sleep (.ofMillis 100), .connect "/ss-events", .close,
        .sleep (.ofMillis 40), .connect "/ss-events", .close, .reload],
      ⟨options, .closed, 0, some (.ofMillis 40), 1⟩, ⟨[]⟩⟩
    Run.within? 3 (.new options) s = some run ∧
      ∃ n, (List.range n).map (s.turn options.reconnect) = run.sleeps.map .wait ∧
        s.turn options.reconnect n = .stop run.outcome ∧
        run.actions = (List.range (n + 1)).flatMap (s.actionsAt options) ∧
        run.source = s.after (n + 1) ∧
        Run.within? 3 (.new options) (Metered.mk s []) =
          some (run.metered
            ((List.range (n + 1)).flatMap (s.recordAt options))) := by
  intro options s run
  have h : Run.within? 3 (.new options) s = some run := by
    simp [options, s, run, Run.within?, playRound, answerFault, readConnection,
      EventSource.connect, EventSource.next, EventSource.close, Outside.sleep,
      Outside.reload, Script.connect, ScriptedConnection.next, Client.new, Client.onOpen,
      Client.onMessage, Client.onRetry, Client.onFault, Fault.isRetryable,
      ReconnectPolicy.delay?, ReconnectPolicy.allows, Message.isPlain, defaultEvent,
      defaultEndpoint]
  exact ⟨h, run_of_new_client h⟩

end LiveReload
end LivePage
