import LivePage.Proofs.LiveReload.Reading

/-!
# Rounds of a run

A round tries one connection.  Whatever source it is played over, it closes the
connection that it opened, and then the page is reloaded, the client waits, or it
gives up.
-/

namespace LivePage
namespace LiveReload

variable {σ κ : Type} [Outside σ κ]

/-- Whether a connection was accepted. -/
def isAccepted {α : Type} : Except Fault α → Bool
  | .ok _ => true
  | .error _ => false

/-- The calls that one connection takes: an accepted one is closed. -/
def connectionCalls (endpoint : String) (accepted : Bool) : List Action :=
  if accepted then [.connect endpoint, .close] else [.connect endpoint]

theorem filterMap_delay?_connectionCalls (endpoint : String) (accepted : Bool) :
    (connectionCalls endpoint accepted).filterMap Action.delay? = [] := by
  cases accepted <;> rfl

/-! ## Equations -/

theorem playRound_of_refused {client : Client} {source source' : σ} {fault : Fault}
    (h : EventSource.connect source client.options.endpoint = (.error fault, source')) :
    playRound client source =
      answerFault (connectionCalls client.options.endpoint false) fault client source' := by
  simp only [playRound, h]
  rfl

theorem playRound_of_reload {client client' : Client} {source source' source'' : σ}
    {connection connection' : κ}
    (h : EventSource.connect source client.options.endpoint = (.ok connection, source'))
    (hread : readConnection client.onOpen source' connection =
      (.reload, client', connection', source'')) :
    playRound client source =
      ⟨some .reloaded, connectionCalls client.options.endpoint true ++ [.reload],
        client', Outside.reload (EventSource.close source'' connection').2⟩ := by
  simp only [playRound, h, hread]
  rfl

theorem playRound_of_fault {client client' : Client} {source source' source'' : σ}
    {connection connection' : κ} {fault : Fault}
    (h : EventSource.connect source client.options.endpoint = (.ok connection, source'))
    (hread : readConnection client.onOpen source' connection =
      (.fault fault, client', connection', source'')) :
    playRound client source =
      answerFault (connectionCalls client.options.endpoint true) fault client'
        (EventSource.close source'' connection').2 := by
  simp only [playRound, h, hread]
  rfl

theorem answerFault_of_delay {client : Client} {fault : Fault}
    (hphase : client.phase ≠ .closed) (hfault : fault.isRetryable = true)
    {delay : Duration}
    (hdelay : client.options.reconnect.delay? (client.attempts + 1) client.serverRetry =
      some delay) (actions : List Action) (source : σ) :
    answerFault actions fault client source =
      ⟨none, actions ++ [.sleep delay],
        { client with phase := .connecting, attempts := client.attempts + 1 },
        Outside.sleep source delay⟩ := by
  rw [answerFault, Client.onFault_of_delay hphase hfault hdelay]

theorem answerFault_of_exhausted {client : Client} {fault : Fault}
    (hphase : client.phase ≠ .closed) (hfault : fault.isRetryable = true)
    (hdelay : client.options.reconnect.delay? (client.attempts + 1) client.serverRetry =
      none) (actions : List Action) (source : σ) :
    answerFault actions fault client source =
      ⟨some .gaveUp, actions,
        { client with phase := .closed, attempts := client.attempts + 1 }, source⟩ := by
  rw [answerFault, Client.onFault_of_exhausted hphase hfault hdelay]

theorem answerFault_of_final {client : Client} {fault : Fault}
    (hphase : client.phase ≠ .closed) (hfault : fault.isRetryable = false)
    (actions : List Action) (source : σ) :
    answerFault actions fault client source =
      ⟨some .gaveUp, actions, { client with phase := .closed }, source⟩ := by
  rw [answerFault, Client.onFault_of_final hphase hfault]

theorem answerFault_of_closed {client : Client} (hphase : client.phase = .closed)
    (fault : Fault) (actions : List Action) (source : σ) :
    answerFault actions fault client source =
      ⟨some .gaveUp, actions, client, source⟩ := by
  rw [answerFault, Client.onFault_of_closed hphase]

/-! ## All that a round can come to -/

/-- What a connection that was accepted or not can come to for a client. -/
inductive Client.PlaysTo (c : Client) (accepted : Bool) : Round σ → Prop where
  | reload {c' : Client} {source : σ} (haccepted : accepted = true)
      (hphase : c.phase ≠ .closed) (hclosed : c'.phase = .closed)
      (hoptions : c'.options = c.options) (hreloads : c'.reloads = c.reloads + 1) :
      PlaysTo c accepted
        ⟨some .reloaded, connectionCalls c.options.endpoint accepted ++ [.reload], c',
          source⟩
  | wait {c' : Client} {source : σ} (delay : Duration) (hphase : c.phase ≠ .closed)
      (hconnecting : c'.phase = .connecting) (hoptions : c'.options = c.options)
      (hreloads : c'.reloads = c.reloads) :
      PlaysTo c accepted
        ⟨none, connectionCalls c.options.endpoint accepted ++ [.sleep delay], c', source⟩
  | giveUp {c' : Client} {source : σ} (hclosed : c'.phase = .closed)
      (hoptions : c'.options = c.options) (hreloads : c'.reloads = c.reloads)
      (hattempts : c.phase = .closed → c'.attempts = c.attempts) :
      PlaysTo c accepted
        ⟨some .gaveUp, connectionCalls c.options.endpoint accepted, c', source⟩

/-- A fault is answered alike whatever was noted since the client was asked last. -/
theorem answerFault_playsTo {c c' : Client}
    (hphase : c'.phase = .closed ↔ c.phase = .closed) (hoptions : c'.options = c.options)
    (hreloads : c'.reloads = c.reloads)
    (hattempts : c.phase = .closed → c'.attempts = c.attempts) (accepted : Bool)
    (fault : Fault) (source : σ) :
    c.PlaysTo accepted
      (answerFault (connectionCalls c.options.endpoint accepted) fault c' source) := by
  by_cases hc : c'.phase = .closed
  · rw [answerFault_of_closed hc]
    exact .giveUp hc hoptions hreloads hattempts
  · have hopen : c.phase ≠ .closed := fun h => hc (hphase.mpr h)
    cases hfault : fault.isRetryable with
    | false =>
        rw [answerFault_of_final hc hfault]
        exact .giveUp rfl hoptions hreloads fun h => absurd h hopen
    | true =>
        cases hdelay : c'.options.reconnect.delay? (c'.attempts + 1) c'.serverRetry with
        | none =>
            rw [answerFault_of_exhausted hc hfault hdelay]
            exact .giveUp rfl hoptions hreloads fun h => absurd h hopen
        | some delay =>
            rw [answerFault_of_delay hc hfault hdelay]
            exact .wait delay hopen rfl hoptions hreloads

theorem Client.onOpen_phase_eq_closed_iff (c : Client) :
    c.onOpen.phase = .closed ↔ c.phase = .closed := by
  by_cases hc : c.phase = .connecting
  · rw [onOpen_of_connecting hc]
    simp [hc]
  · rw [onOpen_of_ne_connecting hc]

theorem Client.onOpen_options (c : Client) : c.onOpen.options = c.options := by
  unfold onOpen
  split <;> rfl

theorem Client.onOpen_reloads (c : Client) : c.onOpen.reloads = c.reloads := by
  unfold onOpen
  split <;> rfl

theorem playRound_playsTo (c : Client) (source : σ) :
    c.PlaysTo (isAccepted (EventSource.connect source c.options.endpoint).1)
      (playRound c source) := by
  cases hconnect : EventSource.connect source c.options.endpoint with
  | mk result source' =>
      cases result with
      | error fault =>
          rw [playRound_of_refused hconnect]
          exact answerFault_playsTo Iff.rfl rfl rfl (fun _ => rfl) false fault source'
      | ok connection =>
          have hreads := readConnection_readsTo c.onOpen source' connection
          cases hread : readConnection c.onOpen source' connection with
          | mk reading rest =>
              obtain ⟨c', connection', source''⟩ := rest
              rw [hread] at hreads
              cases hreads with
              | reload hphase serverRetry =>
                  rw [playRound_of_reload hconnect hread]
                  refine .reload rfl ?_ rfl c.onOpen_options ?_
                  · exact fun h => hphase (c.onOpen_phase_eq_closed_iff.mpr h)
                  · exact congrArg (· + 1) c.onOpen_reloads
              | fault f serverRetry =>
                  rw [playRound_of_fault hconnect hread]
                  refine answerFault_playsTo ?_ ?_ ?_ ?_ true f _
                  · exact c.onOpen_phase_eq_closed_iff
                  · exact c.onOpen_options
                  · exact c.onOpen_reloads
                  · intro hc
                    have hne : c.phase ≠ .connecting := by simp [hc]
                    show c.onOpen.attempts = c.attempts
                    rw [Client.onOpen_of_ne_connecting hne]

end LiveReload
end LivePage
