import LivePage.LiveReload.Script
import LivePage.Proofs.LiveReload.Metering

/-!
# The order of calls

A run makes its calls connection by connection, and closes each one that was accepted
before it makes another call.  A reload can only come last.  Runs of one client that
follow one another reload the page at most once, whatever the client was told before
them.
-/

namespace LivePage
namespace LiveReload

variable {σ κ : Type} [Outside σ κ]

/-! ## The calls of one run -/

/-- The calls of a run, in order. -/
def Run.calls (r : Run σ) : List Action :=
  r.actions.filter (·.delay?.isNone)

/-- The call at the end of a run. -/
def Outcome.calls : Outcome → List Action
  | .reloaded => [.reload]
  | .gaveUp => []

/-- The connections of a run were accepted or not as the list says. -/
structure Run.IsOrderly (endpoint : String) (accepted : List Bool) (r : Run σ) :
    Prop where
  calls : r.calls = accepted.flatMap (connectionCalls endpoint) ++ r.outcome.calls
  closes_before_reload : r.outcome = .reloaded → accepted.getLast? = some true
  sleeps : accepted.length = r.sleeps.length + 1

theorem filter_connectionCalls (endpoint : String) (accepted : Bool) :
    (connectionCalls endpoint accepted).filter (·.delay?.isNone) =
      connectionCalls endpoint accepted := by
  cases accepted <;> rfl

theorem Run.IsOrderly.cons {endpoint : String} {accepted : List Bool} {r : Run σ}
    (h : r.IsOrderly endpoint accepted) (first : Bool) (delay : Duration) :
    ({ r with actions :=
        connectionCalls endpoint first ++ [.sleep delay] ++ r.actions } : Run σ).IsOrderly
      endpoint (first :: accepted) where
  calls := by
    have hrest := h.calls
    simp only [Run.calls] at hrest
    simp only [Run.calls, List.filter_append, filter_connectionCalls, hrest,
      List.flatMap_cons, List.append_assoc]
    rfl
  closes_before_reload := fun hreload => by
    rw [List.getLast?_cons, h.closes_before_reload hreload]
    rfl
  sleeps := by
    have hrest := h.sleeps
    simp only [Run.sleeps] at hrest
    simp only [Run.sleeps, List.filterMap_append, filterMap_delay?_connectionCalls,
      List.length_cons, hrest, List.nil_append, List.length_append]
    exact Nat.add_comm _ 1

/-- A run over a metered outside makes its calls connection by connection, and the record
adds nothing but reading to what was done. -/
theorem isOrderly_of_isCourse {client : Client} {m : Metered σ} {run : Run (Metered σ)}
    (h : Run.IsCourse client m run) :
    ∃ calls,
      run.source.record = m.record ++ calls ∧
        calls.filterMap OutsideCall.action? = run.actions ∧
        run.IsOrderly client.options.endpoint (calls.filterMap OutsideCall.accepted?) := by
  induction h with
  | @last client client' m m' outcome actions h =>
      have hplays := playRound_playsTo client m
      obtain ⟨calls, hrecord, hactions, haccepted⟩ := record_playRound client m
      rw [h] at hplays hrecord hactions
      refine ⟨calls, hrecord, hactions, ?_⟩
      rw [haccepted]
      cases hplays with
      | reload haccepted =>
          rw [haccepted]
          exact ⟨rfl, fun _ => rfl, rfl⟩
      | giveUp =>
          refine ⟨?_, nofun, ?_⟩
          · simp [Run.calls, filter_connectionCalls, Outcome.calls]
          · simp [Run.sleeps, filterMap_delay?_connectionCalls]
  | @again client client' m m' actions run h rest ih =>
      have hplays := playRound_playsTo client m
      obtain ⟨first, hfirst, hactions, haccepted⟩ := record_playRound client m
      obtain ⟨calls, hcalls, hrest, horderly⟩ := ih
      rw [h] at hplays hfirst hactions
      refine ⟨first ++ calls, ?_, ?_, ?_⟩
      · rw [hcalls, ← List.append_assoc, ← hfirst]
      · rw [List.filterMap_append, hactions, hrest]
      · rw [List.filterMap_append, haccepted]
        cases hplays with
        | wait delay hphase hconnecting hoptions hreloads =>
            rw [hoptions] at horderly
            exact horderly.cons _ delay

theorem isOrderly_of_within? {limit : Nat} {client : Client} {source : σ} {run : Run σ}
    (h : Run.within? limit client source = some run) :
    ∃ record,
      Run.within? limit client (Metered.mk source []) = some (run.metered record) ∧
        record.filterMap OutsideCall.action? = run.actions ∧
        run.IsOrderly client.options.endpoint
          (record.filterMap OutsideCall.accepted?) := by
  obtain ⟨record, hmetered⟩ := within?_metered h []
  obtain ⟨calls, hrecord, hactions, horderly⟩ :=
    isOrderly_of_isCourse (Run.isCourse_of_within? hmetered)
  have hrecord : record = calls := hrecord
  subst hrecord
  exact ⟨record, hmetered, hactions, horderly.calls, horderly.closes_before_reload,
    horderly.sleeps⟩

theorem Run.IsOrderly.count_reload {endpoint : String} {accepted : List Bool}
    {r : Run σ} (h : r.IsOrderly endpoint accepted) :
    r.actions.count .reload = if r.outcome = .reloaded then 1 else 0 := by
  have hcalls : r.calls.count .reload = r.actions.count .reload :=
    List.count_filter rfl
  have hblocks : .reload ∉ accepted.flatMap (connectionCalls endpoint) := by
    intro hmem
    obtain ⟨first, -, hmem⟩ := List.mem_flatMap.mp hmem
    cases first <;> simp [connectionCalls] at hmem
  rw [← hcalls, h.calls, List.count_append, List.count_eq_zero.mpr hblocks]
  cases r.outcome <;> rfl

/-! ## The client of a run -/

/-- A client has asked for no reload before it is closed, and for one at most. -/
structure Client.ReloadsAtMostOnce (c : Client) : Prop where
  le_one : c.reloads.toNat ≤ 1
  eq_zero : c.phase ≠ .closed → c.reloads = 0

theorem Client.reloadsAtMostOnce_new (options : Options) :
    (Client.new options).ReloadsAtMostOnce :=
  ⟨Nat.zero_le 1, fun _ => rfl⟩

theorem Client.ReloadsAtMostOnce.of_reloads_eq {c c' : Client}
    (h : c.ReloadsAtMostOnce) (hreloads : c'.reloads = c.reloads)
    (hphase : c.phase = .closed → c'.phase = .closed) : c'.ReloadsAtMostOnce where
  le_one := hreloads ▸ h.le_one
  eq_zero hc := hreloads ▸ h.eq_zero fun hclosed => hc (hphase hclosed)

/-- Nothing that can happen to a client makes it ask for a second reload. -/
theorem Client.ReloadsAtMostOnce.on {c : Client} (h : c.ReloadsAtMostOnce) (e : Event) :
    (c.on e).2.ReloadsAtMostOnce := by
  cases e with
  | opened =>
      exact h.of_reloads_eq c.onOpen_reloads c.onOpen_phase_eq_closed_iff.mpr
  | message m =>
      rcases c.onMessage_cases m with hm | ⟨hphase, -, hm⟩
      · rw [Client.on, hm]
        exact h
      · rw [Client.on, hm, h.eq_zero hphase]
        exact ⟨Nat.le_refl 1, fun hc => absurd rfl hc⟩
  | retry delay => exact h.of_reloads_eq rfl id
  | fault f =>
      refine h.of_reloads_eq (c.onFault_reloads f) fun hc => ?_
      rw [Client.on, Client.onFault_of_closed hc]
      exact hc

theorem Client.ReloadsAtMostOnce.onAll {c : Client} (h : c.ReloadsAtMostOnce)
    (events : List Event) : (c.onAll events).ReloadsAtMostOnce := by
  induction events generalizing c with
  | nil => exact h
  | cons e events ih => exact ih (h.on e)

/-- What a run does to the reloads of its client. -/
theorem client_of_isCourse {client : Client} {source : σ} {run : Run σ}
    (h : Run.IsCourse client source run) :
    run.client.options = client.options ∧ run.client.phase = .closed ∧
      match run.outcome with
      | .reloaded => client.phase ≠ .closed ∧ run.client.reloads = client.reloads + 1
      | .gaveUp => run.client.reloads = client.reloads := by
  induction h with
  | @last client client' source source' outcome actions h =>
      have hplays := playRound_playsTo client source
      rw [h] at hplays
      cases hplays with
      | reload haccepted hphase hclosed hoptions hreloads =>
          exact ⟨hoptions, hclosed, hphase, hreloads⟩
      | giveUp hclosed hoptions hreloads => exact ⟨hoptions, hclosed, hreloads⟩
  | @again client client' source source' actions run h rest ih =>
      have hplays := playRound_playsTo client source
      rw [h] at hplays
      cases hplays with
      | wait delay hphase hconnecting hoptions hreloads =>
          obtain ⟨ihoptions, ihphase, ihreloads⟩ := ih
          refine ⟨ihoptions.trans hoptions, ihphase, ?_⟩
          cases houtcome : run.outcome with
          | reloaded =>
              rw [houtcome] at ihreloads
              exact ⟨hphase, hreloads ▸ ihreloads.2⟩
          | gaveUp =>
              rw [houtcome] at ihreloads
              exact ihreloads.trans hreloads

/-- A closed client makes one connection, and gives up. -/
theorem run_of_closed_client {client : Client} {source : σ} {run : Run σ}
    (h : Run.IsCourse client source run) (hclosed : client.phase = .closed) :
    run.outcome = .gaveUp ∧
      (∃ accepted, run.actions = connectionCalls client.options.endpoint accepted) ∧
      run.client.phase = client.phase ∧ run.client.attempts = client.attempts ∧
      run.client.reloads = client.reloads := by
  have hplays := playRound_playsTo client source
  cases h with
  | last h =>
      rw [h] at hplays
      cases hplays with
      | reload haccepted hphase => exact absurd hclosed hphase
      | giveUp hclosed' hoptions hreloads hattempts =>
          exact ⟨rfl, ⟨_, rfl⟩, hclosed'.trans hclosed.symm, hattempts hclosed, hreloads⟩
  | again h =>
      rw [h] at hplays
      cases hplays with
      | wait delay hphase => exact absurd hclosed hphase

/-- A run reloads the page as often as its client asked for it. -/
theorem Client.ReloadsAtMostOnce.after_run {client : Client}
    (hclient : client.ReloadsAtMostOnce) {source : σ} {limit : Nat} {run : Run σ}
    (h : Run.within? limit client source = some run) :
    run.client.ReloadsAtMostOnce ∧
      client.reloads.toNat + run.actions.count .reload = run.client.reloads.toNat := by
  obtain ⟨record, -, -, horderly⟩ := isOrderly_of_within? h
  obtain ⟨-, hclosed, hreloads⟩ := client_of_isCourse (Run.isCourse_of_within? h)
  rw [horderly.count_reload]
  cases houtcome : run.outcome with
  | reloaded =>
      simp only [houtcome] at hreloads
      obtain ⟨hphase, hreloads⟩ := hreloads
      rw [hclient.eq_zero hphase] at hreloads ⊢
      rw [hreloads]
      exact ⟨⟨by rw [hreloads]; decide, fun hc => absurd hclosed hc⟩, rfl⟩
  | gaveUp =>
      simp only [houtcome] at hreloads
      rw [hreloads]
      exact ⟨hclient.of_reloads_eq hreloads fun _ => hclosed, rfl⟩

theorem Client.onAll_options (c : Client) (events : List Event) :
    (c.onAll events).options = c.options := by
  induction events generalizing c with
  | nil => rfl
  | cons e events ih =>
      rw [onAll, ih]
      cases e with
      | opened => exact c.onOpen_options
      | message m =>
          rcases c.onMessage_cases m with hm | ⟨-, -, hm⟩ <;> rw [on, hm]
      | retry delay => rfl
      | fault f => exact c.onFault_options f

/-! ## Runs that follow one another -/

/-- A run that returned, and what it started from. -/
structure Played (σ : Type) {κ : Type} [Outside σ κ] where
  client : Client
  source : σ
  limit : Nat
  run : Run σ
  returned : Run.within? limit client source = some run

/-- Each run starts from the client that the one before it has left. -/
def IsSuccession : Client → List (Played σ) → Prop
  | _, [] => True
  | client, p :: ps => p.client = client ∧ IsSuccession p.run.client ps

/-- The client after the last of some runs. -/
def clientAfter : Client → List (Played σ) → Client
  | client, [] => client
  | _, p :: ps => clientAfter p.run.client ps

/-- Everything that was done in some runs. -/
def allActions (played : List (Played σ)) : List Action :=
  played.flatMap (·.run.actions)

theorem options_of_mem_succession {client : Client} {played : List (Played σ)}
    (h : IsSuccession client played) {p : Played σ} (hp : p ∈ played) :
    p.client.options = client.options := by
  induction played generalizing client with
  | nil => cases hp
  | cons q played ih =>
      obtain ⟨rfl, hrest⟩ := h
      rcases List.mem_cons.mp hp with rfl | hp
      · rfl
      · have hrun := client_of_isCourse (Run.isCourse_of_within? q.returned)
        exact (ih hrest hp).trans hrun.1

theorem Client.ReloadsAtMostOnce.after_succession {client : Client}
    (hclient : client.ReloadsAtMostOnce) {played : List (Played σ)}
    (h : IsSuccession client played) :
    (clientAfter client played).ReloadsAtMostOnce ∧
      client.reloads.toNat + (allActions played).count .reload =
        (clientAfter client played).reloads.toNat := by
  induction played generalizing client with
  | nil => exact ⟨hclient, rfl⟩
  | cons p played ih =>
      obtain ⟨rfl, hrest⟩ := h
      obtain ⟨hrun, hcount⟩ := hclient.after_run p.returned
      obtain ⟨hlast, hcounts⟩ := ih hrun hrest
      refine ⟨hlast, ?_⟩
      rw [clientAfter, ← hcounts, ← hcount, Nat.add_assoc]
      simp [allActions]

/-- What is always true of a run that returned. -/
structure Played.IsRegular (p : Played σ) : Prop where
  /-- Over a metered outside the record is what was done and the reading besides, and it goes
  connection by connection. -/
  orderly : ∃ record,
    Run.within? p.limit p.client (Metered.mk p.source []) = some (p.run.metered record) ∧
      record.filterMap OutsideCall.action? = p.run.actions ∧
      p.run.IsOrderly p.client.options.endpoint (record.filterMap OutsideCall.accepted?)
  reload_iff : .reload ∈ p.run.actions ↔ p.run.outcome = .reloaded
  /-- A closed client makes one connection, gives up and stays as it is. -/
  closed : p.client.phase = .closed →
    p.run.outcome = .gaveUp ∧
      (∃ accepted,
        p.run.actions = connectionCalls p.client.options.endpoint accepted) ∧
      p.run.client.phase = p.client.phase ∧
      p.run.client.attempts = p.client.attempts ∧
      p.run.client.reloads = p.client.reloads

theorem Played.isRegular (p : Played σ) : p.IsRegular := by
  obtain ⟨record, hmetered, hactions, horderly⟩ := isOrderly_of_within? p.returned
  refine ⟨⟨record, hmetered, hactions, horderly⟩, ?_,
    run_of_closed_client (Run.isCourse_of_within? p.returned)⟩
  rw [← List.count_pos_iff, horderly.count_reload]
  cases p.run.outcome <;> simp

/-- Whatever a client was told, and whatever source each of its runs is played over,
all its runs are regular and have its endpoint.  Together they reload the page as often
as the client asked for it, and that is at most once. -/
theorem calls_of_successive_runs (options : Options) (events : List Event)
    {played : List (Played σ)}
    (h : IsSuccession ((Client.new options).onAll events) played) :
    (∀ p ∈ played, p.IsRegular ∧ p.client.options = options) ∧
      (allActions played).count .reload ≤ 1 ∧
      ((Client.new options).onAll events).reloads.toNat +
          (allActions played).count .reload =
        (clientAfter ((Client.new options).onAll events) played).reloads.toNat := by
  have hstart := (Client.reloadsAtMostOnce_new options).onAll events
  obtain ⟨hlast, hcount⟩ := hstart.after_succession h
  refine ⟨fun p hp => ⟨p.isRegular, ?_⟩, ?_, hcount⟩
  · exact (options_of_mem_succession h hp).trans
      ((Client.new options).onAll_options events)
  · have := hlast.le_one
    omega

/-- A client that has lost a connection is run twice over one script: it reloads the
page, and then it is closed. -/
theorem calls_of_two_runs :
    let options : Options := { reconnect := .fixed (.ofMillis 5) none }
    let client := (Client.new options).onAll [.opened, .fault .endOfStream]
    ∃ played : List (Played Script),
      played.map (·.run.outcome) = [.reloaded, .gaveUp] ∧
        allActions played =
          [.connect "/ss-events", .sleep (.ofMillis 5), .connect "/ss-events", .close,
            .reload, .connect "/ss-events", .close] ∧
        IsSuccession client played ∧
        (∀ p ∈ played, p.IsRegular ∧ p.client.options = options) ∧
        (allActions played).count .reload ≤ 1 ∧
        client.reloads.toNat + (allActions played).count .reload =
          (clientAfter client played).reloads.toNat := by
  intro options client
  let s : Script := ⟨[.error .unscripted, .ok [.ok (.message ⟨"message", "", none⟩)],
    .ok [.ok (.message ⟨"message", "", none⟩)]]⟩
  let first : Run Script := ⟨.reloaded,
    [.connect "/ss-events", .sleep (.ofMillis 5), .connect "/ss-events", .close, .reload],
    ⟨options, .closed, 0, none, 1⟩, ⟨s.calls.drop 2⟩⟩
  let second : Run Script :=
    ⟨.gaveUp, [.connect "/ss-events", .close], first.client, ⟨[]⟩⟩
  have hclient : client = ⟨options, .connecting, 1, none, 0⟩ := rfl
  have hfirst : Run.within? 2 client s = some first := by
    simp [hclient, options, s, first, Run.within?, playRound, answerFault,
      readConnection, EventSource.connect, EventSource.next, EventSource.close,
      Outside.sleep, Outside.reload, Script.connect, ScriptedConnection.next,
      Client.onOpen, Client.onMessage, Client.onFault, Fault.unscripted,
      Fault.isRetryable, ReconnectPolicy.delay?, ReconnectPolicy.allows,
      EventStream.Message.isPlain, EventStream.defaultEvent, defaultEndpoint]
  have hsecond : Run.within? 1 first.client first.source = some second := by
    simp [options, s, first, second, Run.within?, playRound, answerFault,
      readConnection, EventSource.connect, EventSource.next, EventSource.close,
      Script.connect, ScriptedConnection.next, Client.onOpen, Client.onMessage,
      Client.onFault, defaultEndpoint]
  have h : IsSuccession client [⟨_, _, _, _, hfirst⟩, ⟨_, _, _, _, hsecond⟩] :=
    ⟨rfl, rfl, trivial⟩
  exact ⟨_, rfl, rfl, h, calls_of_successive_runs options _ h⟩

end LiveReload
end LivePage
