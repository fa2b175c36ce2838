import LivePage.LiveReload.Run
import LivePage.Proofs.LiveReload.Answers

/-!
# Reading one connection

What a connection does to a client while it is read, one equation to each thing that
it can deliver, and all of it together.
-/

namespace LivePage
namespace LiveReload

open EventStream

variable {σ κ : Type} [Outside σ κ]

/-! ## One delivery -/

theorem readConnection_eq (client : Client) (source : σ) (connection : κ) :
    readConnection client source connection =
      match EventSource.next source connection with
      | (.frame (.message m), connection', source') =>
        match client.onMessage m with
        | (.closeAndReload, client') => (.reload, client', connection', source')
        | (_, client') => readConnection client' source' connection'
      | (.frame (.retry delay), connection', source') =>
        readConnection (client.onRetry delay) source' connection'
      | (.failed fault, connection', source') =>
        (.fault fault, client, connection', source')
      | (.finished, connection', source') =>
        (.fault .endOfStream, client, connection', source') := by
  rw [readConnection]
  split <;> rename_i hnext <;> exact hnext ▸ rfl

theorem readConnection_of_reload {client client' : Client} {source source' : σ}
    {connection connection' : κ} {m : Message}
    (hnext : EventSource.next source connection =
      (.frame (.message m), connection', source'))
    (hm : client.onMessage m = (.closeAndReload, client')) :
    readConnection client source connection =
      (.reload, client', connection', source') := by
  rw [readConnection_eq, hnext]
  simp only [hm]

theorem readConnection_of_ignored {client client' : Client} {source source' : σ}
    {connection connection' : κ} {m : Message} {command : Command}
    (hnext : EventSource.next source connection =
      (.frame (.message m), connection', source'))
    (hm : client.onMessage m = (command, client')) (hc : command ≠ .closeAndReload) :
    readConnection client source connection =
      readConnection client' source' connection' := by
  rw [readConnection_eq, hnext]
  simp only [hm]

theorem readConnection_of_retry {client : Client} {source source' : σ}
    {connection connection' : κ} {delay : Duration}
    (hnext : EventSource.next source connection =
      (.frame (.retry delay), connection', source')) :
    readConnection client source connection =
      readConnection (client.onRetry delay) source' connection' := by
  rw [readConnection_eq, hnext]

theorem readConnection_of_failed {client : Client} {source source' : σ}
    {connection connection' : κ} {fault : Fault}
    (hnext : EventSource.next source connection =
      (.failed fault, connection', source')) :
    readConnection client source connection =
      (.fault fault, client, connection', source') := by
  rw [readConnection_eq, hnext]

theorem readConnection_of_finished {client : Client} {source source' : σ}
    {connection connection' : κ}
    (hnext : EventSource.next source connection = (.finished, connection', source')) :
    readConnection client source connection =
      (.fault .endOfStream, client, connection', source') := by
  rw [readConnection_eq, hnext]

/-! ## All deliveries -/

/-- What no delivery changes about a source, reading a connection does not change. -/
theorem readConnection_keeps {α : Type} {f : σ → α}
    (hnext : ∀ source (connection : κ), f (EventSource.next source connection).2.2 = f source)
    (client : Client) (source : σ) (connection : κ) :
    f (readConnection client source connection).2.2.2 = f source := by
  have hkeeps {source source' : σ} {connection connection' : κ} {pull : Pull Fault}
      (h : EventSource.next source connection = (pull, connection', source')) :
      f source' = f source := by
    rw [← hnext source connection, h]
  fun_induction readConnection client source connection with
  | case1 client source connection m connection' source' h client' hm => exact hkeeps h
  | case2 client source connection m connection' source' h command client' hc hm ih =>
      exact ih.trans (hkeeps h)
  | case3 client source connection delay connection' source' h ih => exact ih.trans (hkeeps h)
  | case4 client source connection fault connection' source' h => exact hkeeps h
  | case5 client source connection connection' source' h => exact hkeeps h

/-- What reading a connection to its end can come to for a client. -/
inductive Client.ReadsTo (c : Client) : Reading → Client → Prop where
  | reload (hphase : c.phase ≠ .closed) (serverRetry : Option Duration) :
      ReadsTo c .reload
        { c with phase := .closed, serverRetry, reloads := c.reloads + 1 }
  | fault (f : Fault) (serverRetry : Option Duration) :
      ReadsTo c (.fault f) { c with serverRetry }

theorem Client.ReadsTo.of_onRetry {c c' : Client} {delay : Duration}
    {reading : Reading} (h : (c.onRetry delay).ReadsTo reading c') :
    c.ReadsTo reading c' := by
  cases h with
  | reload hphase serverRetry => exact .reload (c := c) hphase serverRetry
  | fault f serverRetry => exact .fault f serverRetry

theorem readConnection_readsTo (client : Client) (source : σ) (connection : κ) :
    client.ReadsTo (readConnection client source connection).1
      (readConnection client source connection).2.1 := by
  fun_induction readConnection client source connection with
  | case1 client source connection m connection' source' hnext client' hm =>
      rcases client.onMessage_cases m with h | ⟨hphase, -, h⟩
      · rw [h] at hm
        cases hm
      · rw [h] at hm
        cases hm
        exact .reload hphase client.serverRetry
  | case2 client source connection m connection' source' hnext command client' hc hm ih =>
      rcases client.onMessage_cases m with h | ⟨-, -, h⟩
      · rw [h] at hm
        cases hm
        exact ih
      · rw [h] at hm
        cases hm
        exact (hc rfl).elim
  | case3 client source connection delay connection' source' hnext ih =>
      exact ih.of_onRetry
  | case4 client source connection fault connection' source' hnext =>
      exact .fault fault client.serverRetry
  | case5 client source connection connection' source' hnext =>
      exact .fault .endOfStream client.serverRetry

end LiveReload
end LivePage
