import LivePage.Proofs.LiveReload.Courses
import LivePage.Proofs.LiveReload.Rounds

/-!
# Views of the outside

There can be more to the outside of a client than its source, such as a record of all calls
or a command that is run at each reload.  A view leaves that out, and answers every call as
before.  A client cannot tell the difference: a run is the same through a view.
-/

namespace LivePage
namespace LiveReload

/-- A way to look at one outside as another that answers alike. -/
structure View (τ σ : Type) {κ : Type} [Outside τ κ] [Outside σ κ] where
  see : τ → σ
  connect : ∀ t endpoint, EventSource.connect (see t) endpoint =
    ((EventSource.connect t endpoint).1, see (EventSource.connect t endpoint).2)
  next : ∀ t connection, EventSource.next (see t) connection =
    ((EventSource.next t connection).1, (EventSource.next t connection).2.1,
      see (EventSource.next t connection).2.2)
  close : ∀ t connection, EventSource.close (see t) connection =
    ((EventSource.close t connection).1, see (EventSource.close t connection).2)
  reload : ∀ t, Outside.reload (see t) = see (Outside.reload t)
  sleep : ∀ t delay, Outside.sleep (see t) delay = see (Outside.sleep t delay)
  stock : ∀ t, EventSource.stock (see t) = EventSource.stock t

section Maps

variable {τ σ : Type}

/-- A round with another source. -/
def Round.map (f : τ → σ) (r : Round τ) : Round σ :=
  ⟨r.outcome, r.actions, r.client, f r.source⟩

/-- A run with another source. -/
def Run.map (f : τ → σ) (r : Run τ) : Run σ :=
  ⟨r.outcome, r.actions, r.client, f r.source⟩

/-- A visit with another source. -/
def Visit.map (f : τ → σ) (v : Visit τ) : Visit σ :=
  ⟨v.reloads, v.outcome, v.actions, f v.source⟩

end Maps

namespace View

/-- Everything can be looked at as it is. -/
def refl (σ : Type) {κ : Type} [Outside σ κ] : View σ σ where
  see := id
  connect _ _ := rfl
  next _ _ := rfl
  close _ _ := rfl
  reload _ := rfl
  sleep _ _ := rfl
  stock _ := rfl

variable {τ σ κ : Type} [Outside τ κ] [Outside σ κ] (v : View τ σ)

/-! ## Rounds -/

theorem readConnection_see (client : Client) (t : τ) (connection : κ) :
    readConnection client (v.see t) connection =
      ((readConnection client t connection).1, (readConnection client t connection).2.1,
        (readConnection client t connection).2.2.1,
        v.see (readConnection client t connection).2.2.2) := by
  have hsee {t t' : τ} {connection connection' : κ} {pull : EventStream.Pull Fault}
      (h : EventSource.next t connection = (pull, connection', t')) :
      EventSource.next (v.see t) connection = (pull, connection', v.see t') := by
    rw [v.next, h]
  fun_induction readConnection client t connection with
  | case1 client t connection m connection' t' hnext client' hm =>
      exact readConnection_of_reload (hsee hnext) hm
  | case2 client t connection m connection' t' hnext command client' hc hm ih =>
      rw [readConnection_of_ignored (hsee hnext) hm hc, ih]
  | case3 client t connection delay connection' t' hnext ih =>
      rw [readConnection_of_retry (hsee hnext), ih]
  | case4 client t connection fault connection' t' hnext =>
      exact readConnection_of_failed (hsee hnext)
  | case5 client t connection connection' t' hnext =>
      exact readConnection_of_finished (hsee hnext)

theorem answerFault_see (actions : List Action) (fault : Fault) (client : Client) (t : τ) :
    answerFault actions fault client (v.see t) =
      (answerFault actions fault client t).map v.see := by
  unfold answerFault
  split
  · rw [v.sleep]
    rfl
  · rfl

theorem playRound_see (client : Client) (t : τ) :
    playRound client (v.see t) = (playRound client t).map v.see := by
  have hconnects := v.connect t client.options.endpoint
  rcases hconnect : EventSource.connect t client.options.endpoint with ⟨fault | connection, t'⟩
  · rw [hconnect] at hconnects
    rw [playRound_of_refused hconnect, playRound_of_refused hconnects, answerFault_see]
  · rw [hconnect] at hconnects
    have hreads := v.readConnection_see client.onOpen t' connection
    rcases hread : readConnection client.onOpen t' connection with
      ⟨_ | fault, client', connection', t''⟩
    · rw [hread] at hreads
      rw [playRound_of_reload hconnect hread, playRound_of_reload hconnects hreads, v.close,
        v.reload]
      rfl
    · rw [hread] at hreads
      rw [playRound_of_fault hconnect hread, playRound_of_fault hconnects hreads, v.close,
        answerFault_see]

/-! ## Runs -/

theorem within?_see (limit : Nat) (client : Client) (t : τ) :
    Run.within? limit client (v.see t) = (Run.within? limit client t).map (·.map v.see) := by
  induction limit generalizing client t with
  | zero => rfl
  | succ limit ih =>
      have hsee := v.playRound_see client t
      rcases hround : playRound client t with ⟨_ | outcome, actions, client', t'⟩
      · rw [hround] at hsee
        rw [Run.within?_succ_of_none hround, Run.within?_succ_of_none hsee, ih,
          Option.map_map, Option.map_map]
        rfl
      · rw [hround] at hsee
        rw [Run.within?_succ_of_some hround, Run.within?_succ_of_some hsee]
        rfl

theorem of?_see (client : Client) (t : τ) :
    Run.of? client (v.see t) = (Run.of? client t).map (·.map v.see) := by
  rw [Run.of?, Run.of?, Run.budget, Run.budget, v.stock, within?_see]

theorem isCourse_see {client : Client} {t : τ} {run : Run τ}
    (h : Run.IsCourse client t run) : Run.IsCourse client (v.see t) (run.map v.see) := by
  induction h with
  | @last client client' t t' outcome actions h =>
      have hsee := v.playRound_see client t
      rw [h] at hsee
      exact .last hsee
  | @again client client' t t' actions run h rest ih =>
      have hsee := v.playRound_see client t
      rw [h] at hsee
      exact .again hsee ih

/-! ## Visits -/

theorem visitWithin?_see (options : Options) (once : Bool) (limit : Nat) (t : τ) :
    Visit.within? options once limit (v.see t) =
      (Visit.within? options once limit t).map (·.map v.see) := by
  induction limit generalizing t with
  | zero => rfl
  | succ limit ih =>
      rw [Visit.within?, Visit.within?, v.of?_see]
      rcases Run.of? (.new options) t with _ | ⟨_ | _, actions, client, t'⟩
      · rfl
      · cases once with
        | true => rfl
        | false =>
            show (Visit.within? options false limit (v.see t')).map _ =
              ((Visit.within? options false limit t').map _).map _
            rw [ih, Option.map_map, Option.map_map]
            rfl
      · rfl

theorem visitOf?_see (options : Options) (once : Bool) (t : τ) :
    Visit.of? options once (v.see t) = (Visit.of? options once t).map (·.map v.see) := by
  rw [Visit.of?, Visit.of?, v.stock, visitWithin?_see]

end View
end LiveReload
end LivePage
