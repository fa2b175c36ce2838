import LivePage.Proofs.LiveReload.Courses
import LivePage.Proofs.LiveReload.Rounds

/-!
# Standings of a run

Between two rounds, a run has done some things and has come to a client and a source.  What
the next round does there says how the whole run ends, or that it has not ended yet, whatever
number of connections it may try.
-/

namespace LivePage
namespace LiveReload

variable {σ κ : Type} [Outside σ κ]

/-- Where a run is between two rounds. -/
structure Standing (σ : Type) where
  /-- What has been done. -/
  actions : List Action
  client : Client
  source : σ

namespace Run

/-- The standings that a run comes to, each with the number of rounds before it. -/
inductive Reaches (client : Client) (source : σ) : Nat → Standing σ → Prop where
  | start : Reaches client source 0 ⟨[], client, source⟩
  | again {n : Nat} {p : Standing σ} {actions : List Action} {client' : Client} {source' : σ}
      (h : Reaches client source n p)
      (hround : playRound p.client p.source = ⟨none, actions, client', source'⟩) :
      Reaches client source (n + 1) ⟨p.actions ++ actions, client', source'⟩

variable {client client' : Client} {source source' : σ} {n : Nat} {p : Standing σ}
  {actions : List Action}

/-- A round may come before all others. -/
theorem Reaches.after (h : Reaches client' source' n p)
    (hround : playRound client source = ⟨none, actions, client', source'⟩) :
    Reaches client source (n + 1) ⟨actions ++ p.actions, p.client, p.source⟩ := by
  induction h with
  | start =>
      rw [List.append_nil]
      exact .again .start hround
  | again h hlast ih =>
      rw [← List.append_assoc]
      exact .again ih hlast

theorem Reaches.exists_of_le (h : Reaches client source n p) {m : Nat} (hm : m ≤ n) :
    ∃ earlier, Reaches client source m earlier := by
  induction h with
  | start =>
      rw [Nat.le_zero.mp hm]
      exact ⟨_, .start⟩
  | again h hround ih =>
      rcases Nat.le_succ_iff.mp hm with hle | rfl
      · exact ih hle
      · exact ⟨_, .again h hround⟩

/-- Options never change, and a run that goes on has a client that is not closed. -/
theorem Reaches.client_isOpen (h : Reaches client source n p) (hclient : client.phase ≠ .closed) :
    p.client.phase ≠ .closed ∧ p.client.options = client.options := by
  induction h with
  | start => exact ⟨hclient, rfl⟩
  | @again n p actions client' source' h hround ih =>
      have hplays := playRound_playsTo p.client p.source
      rw [hround] at hplays
      cases hplays with
      | wait delay hphase hconnecting hoptions hreloads =>
          refine ⟨?_, hoptions.trans ih.2⟩
          rw [hconnecting]
          nofun

/-! ## How a run goes on from a standing -/

theorem Reaches.within?_add (h : Reaches client source n p) (limit : Nat) :
    within? (n + limit) client source =
      (within? limit p.client p.source).map fun run =>
        { run with actions := p.actions ++ run.actions } := by
  induction h generalizing limit with
  | start => simp
  | @again n p actions client' source' h hround ih =>
      rw [Nat.add_assoc, Nat.add_comm 1, ih, within?_succ_of_none hround, Option.map_map]
      simp only [Function.comp_def, List.append_assoc]

theorem Reaches.within?_of_le (h : Reaches client source n p) {limit : Nat}
    (hlimit : limit ≤ n) : within? limit client source = none := by
  obtain ⟨earlier, hearlier⟩ := h.exists_of_le hlimit
  exact hearlier.within?_add 0

/-- A run ends with the first round that says how. -/
theorem Reaches.within?_of_last (h : Reaches client source n p) {outcome : Outcome}
    (hround : playRound p.client p.source = ⟨some outcome, actions, client', source'⟩)
    (limit : Nat) :
    within? limit client source =
      if n < limit then some ⟨outcome, p.actions ++ actions, client', source'⟩ else none := by
  by_cases hlimit : n < limit
  · obtain ⟨more, rfl⟩ := Nat.exists_eq_add_of_lt hlimit
    rw [if_pos hlimit, Nat.add_assoc, h.within?_add, within?_succ_of_some hround]
    rfl
  · rw [if_neg hlimit, h.within?_of_le (Nat.le_of_not_lt hlimit)]

/-- Every run that ends does so from some standing. -/
theorem IsCourse.exists_reaches {run : Run σ} (h : IsCourse client source run) :
    ∃ n p actions, Reaches client source n p ∧
      playRound p.client p.source = ⟨some run.outcome, actions, run.client, run.source⟩ := by
  induction h with
  | last hround => exact ⟨0, _, _, .start, hround⟩
  | again hround rest ih =>
      obtain ⟨n, p, actions, hreaches, hlast⟩ := ih
      exact ⟨n + 1, _, actions, hreaches.after hround, hlast⟩

end Run

/-! ## How a connection fails -/

/-- A connection fails a client: it is refused, or it is accepted, then read until it fails
or ends, and closed. -/
inductive Client.Loses (c : Client) (source : σ) : List Action → Fault → Client → σ → Prop where
  | refused {fault : Fault} {source' : σ}
      (h : EventSource.connect source c.options.endpoint = (.error fault, source')) :
      Loses c source (connectionCalls c.options.endpoint false) fault c source'
  | dropped {connection connection' : κ} {fault : Fault} {c' : Client} {source' source'' : σ}
      (h : EventSource.connect source c.options.endpoint = (.ok connection, source'))
      (hread : readConnection c.onOpen source' connection =
        (.fault fault, c', connection', source'')) :
      Loses c source (connectionCalls c.options.endpoint true) fault c'
        (EventSource.close source'' connection').2

namespace Client.Loses

variable {c c' : Client} {source source' : σ} {calls : List Action} {fault : Fault}

theorem playRound_eq (h : c.Loses source calls fault c' source') :
    playRound c source = answerFault calls fault c' source' := by
  cases h with
  | refused h => exact playRound_of_refused h
  | dropped h hread => exact playRound_of_fault h hread

theorem client_eq (h : c.Loses source calls fault c' source') (hc : c.phase ≠ .closed) :
    c'.phase ≠ .closed ∧ c'.options = c.options := by
  cases h with
  | refused h => exact ⟨hc, rfl⟩
  | @dropped connection _ _ _ source' _ h hread =>
      have hreads := readConnection_readsTo c.onOpen source' connection
      rw [hread] at hreads
      cases hreads with
      | fault f serverRetry =>
          exact ⟨mt c.onOpen_phase_eq_closed_iff.mp hc, c.onOpen_options⟩

end Client.Loses

theorem playRound_reloads_or_loses (c : Client) (source : σ) :
    (playRound c source).outcome = some .reloaded ∨
      ∃ calls fault c' source', c.Loses source calls fault c' source' := by
  rcases hconnect : EventSource.connect source c.options.endpoint with
    ⟨fault | connection, source'⟩
  · exact .inr ⟨_, _, _, _, .refused hconnect⟩
  · rcases hread : readConnection c.onOpen source' connection with
      ⟨_ | fault, c', connection', source''⟩
    · rw [playRound_of_reload hconnect hread]
      exact .inl rfl
    · exact .inr ⟨_, _, _, _, .dropped hconnect hread⟩

/-! ## What follows from a failure -/

section Failure

variable {client c' : Client} {source source' : σ} {n : Nat} {p : Standing σ}
  {calls : List Action} {fault : Fault}

theorem Run.Reaches.client_of_loses (h : Run.Reaches client source n p)
    (hclient : client.phase ≠ .closed)
    (hloses : p.client.Loses p.source calls fault c' source') :
    c'.phase ≠ .closed ∧ c'.options = client.options := by
  obtain ⟨hp, hoptions⟩ := h.client_isOpen hclient
  obtain ⟨hc', hoptions'⟩ := hloses.client_eq hp
  exact ⟨hc', hoptions'.trans hoptions⟩

/-- A fault after which no connection can help ends the run, and does not count. -/
theorem Run.Reaches.within?_of_final (h : Run.Reaches client source n p)
    (hclient : client.phase ≠ .closed)
    (hloses : p.client.Loses p.source calls fault c' source')
    (hfault : fault.isRetryable = false) (limit : Nat) :
    Run.within? limit client source =
      if n < limit then
        some ⟨.gaveUp, p.actions ++ calls, { c' with phase := .closed }, source'⟩
      else none := by
  obtain ⟨hc', -⟩ := h.client_of_loses hclient hloses
  apply h.within?_of_last
  rw [hloses.playRound_eq, answerFault_of_final hc' hfault]

/-- After any other fault the run goes on where the policy grants a delay. -/
theorem Run.Reaches.again_of_delay (h : Run.Reaches client source n p)
    (hclient : client.phase ≠ .closed)
    (hloses : p.client.Loses p.source calls fault c' source')
    (hfault : fault.isRetryable = true) {delay : Duration}
    (hdelay : client.options.reconnect.delay? (c'.attempts + 1) c'.serverRetry = some delay) :
    Run.Reaches client source (n + 1)
      ⟨p.actions ++ (calls ++ [.sleep delay]),
        { c' with phase := .connecting, attempts := c'.attempts + 1 },
        Outside.sleep source' delay⟩ := by
  obtain ⟨hc', hoptions⟩ := h.client_of_loses hclient hloses
  rw [← hoptions] at hdelay
  apply h.again
  rw [hloses.playRound_eq, answerFault_of_delay hc' hfault hdelay]

theorem Run.Reaches.within?_of_exhausted (h : Run.Reaches client source n p)
    (hclient : client.phase ≠ .closed)
    (hloses : p.client.Loses p.source calls fault c' source')
    (hfault : fault.isRetryable = true)
    (hdelay : client.options.reconnect.delay? (c'.attempts + 1) c'.serverRetry = none)
    (limit : Nat) :
    Run.within? limit client source =
      if n < limit then
        some ⟨.gaveUp, p.actions ++ calls,
          { c' with phase := .closed, attempts := c'.attempts + 1 }, source'⟩
      else none := by
  obtain ⟨hc', hoptions⟩ := h.client_of_loses hclient hloses
  rw [← hoptions] at hdelay
  apply h.within?_of_last
  rw [hloses.playRound_eq, answerFault_of_exhausted hc' hfault hdelay]

/-- A run that gives up was failed by its last connection, for good or with no delay left. -/
theorem Run.exists_loses_of_gaveUp {limit : Nat} {run : Run σ}
    (h : Run.within? limit client source = some run) (hclient : client.phase ≠ .closed)
    (hrun : run.outcome = .gaveUp) :
    ∃ n p calls fault c' source', n < limit ∧ Run.Reaches client source n p ∧
      p.client.Loses p.source calls fault c' source' ∧
      (fault.isRetryable = true →
        client.options.reconnect.delay? (c'.attempts + 1) c'.serverRetry = none) := by
  obtain ⟨n, p, actions, hreaches, hlast⟩ := (isCourse_of_within? h).exists_reaches
  have hn : n < limit := by
    rcases Nat.lt_or_ge n limit with hlt | hge
    · exact hlt
    · rw [hreaches.within?_of_le hge] at h
      cases h
  rcases playRound_reloads_or_loses p.client p.source with
    hreload | ⟨calls, fault, c', source', hloses⟩
  · rw [hlast, hrun] at hreload
    cases hreload
  · refine ⟨n, p, calls, fault, c', source', hn, hreaches, hloses, fun hfault => ?_⟩
    obtain ⟨hc', hoptions⟩ := hreaches.client_of_loses hclient hloses
    rw [← hoptions]
    cases hdelay : c'.options.reconnect.delay? (c'.attempts + 1) c'.serverRetry with
    | none => rfl
    | some delay =>
        rw [hloses.playRound_eq, answerFault_of_delay hc' hfault hdelay] at hlast
        cases hlast

end Failure

end LiveReload
end LivePage
