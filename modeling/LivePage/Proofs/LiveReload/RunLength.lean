import LivePage.Proofs.LiveReload.ScriptedEnds
import LivePage.Proofs.LiveReload.ScriptedRuns

/-!
# The length of a run

Under a limited policy a new client's run over a script returns.  It tries the connections of
the script in order, and after the last of them no more than the policy allows: an accepted
connection starts the count anew, but also uses up a call of the script, and the fault that
ends it counts already.
-/

namespace LivePage
namespace LiveReload

/-! ## How many connections -/

section Limited

variable {c : Client} {limit : UInt32}

/-- A client that goes on has made at least one attempt. -/
theorem attempts_pos_of_playRound {σ κ : Type} [Outside σ κ] {c' : Client}
    {source source' : σ} {actions : List Action} (hc : c.IsGoingOn)
    (hlimit : c.options.reconnect.limit? = some limit)
    (hlt : limit.toNat + 1 < UInt32.size)
    (h : playRound c source = ⟨none, actions, c', source'⟩) : 0 < c'.attempts.toNat := by
  obtain ⟨c₁, -, hattempts, delay, -, rfl⟩ := exists_delay_of_playRound h
  have hle := UInt32.le_iff_toNat_le.mp (hc.attempts limit hlimit)
  have hsmall : c₁.attempts.toNat ≤ limit.toNat := by
    rcases hattempts with heq | heq
    · rw [heq]
      exact hle
    · rw [heq]
      exact Nat.zero_le _
  show 0 < (c₁.attempts + 1).toNat
  rw [toNat_add_one (by omega)]
  exact Nat.succ_pos _

/-- With the script used up, a run under a known limit uses up what the limit still allows. -/
theorem Run.IsCourse.connects_of_usedUp {s : Script} {run : Run Script}
    (h : IsCourse c s run) (hs : s = ⟨[]⟩) (hc : c.IsGoingOn)
    (hlimit : c.options.reconnect.limit? = some limit) :
    connects run.actions + c.attempts.toNat = limit.toNat + 1 := by
  obtain ⟨-, limit', hlast, -, hconnects⟩ := h.of_usedUp hs hc
  have heq : limit = limit' := by
    rw [hlimit] at hlast
    exact Option.some_inj.mp hlast
  rw [heq]
  exact hconnects

/-- As long as there is a call of the script left, a run tries no more connections than there
are calls left and reconnections that the policy allows in a row. -/
theorem Run.IsCourse.connects_le_add_limit {s : Script} {run : Run Script}
    (h : IsCourse c s run) (hc : c.IsGoingOn)
    (hlimit : c.options.reconnect.limit? = some limit)
    (hlt : limit.toNat + 1 < UInt32.size) (hs : s ≠ ⟨[]⟩) :
    connects run.actions ≤ s.calls.length + limit.toNat := by
  induction h with
  | @last c c' s s' outcome actions h =>
      have hone := connects_of_playRound h
      have hlength := s.length_tail_of_ne_nil hs
      show connects actions ≤ _
      omega
  | @again c c' s s' actions run h rest ih =>
      have hone := connects_of_playRound h
      obtain ⟨hgoing, hoptions⟩ := isGoingOn_of_playRound h
      have hlimit' : c'.options.reconnect.limit? = some limit := by
        rw [hoptions, hlimit]
      have hlength := s.length_tail_of_ne_nil hs
      rw [← source_of_playRound h] at hlength
      simp only [connects_append, hone]
      by_cases hs' : s' = ⟨[]⟩
      · have hconnects := rest.connects_of_usedUp hs' hgoing hlimit'
        have hpos := attempts_pos_of_playRound hc hlimit hlt h
        omega
      · have hrest := ih hgoing hlimit' hs'
        omega

theorem Run.IsCourse.connects_le_of_new {options : Options} {s : Script} {run : Run Script}
    (h : IsCourse (.new options) s run) (hlimit : options.reconnect.limit? = some limit)
    (hlt : limit.toNat + 1 < UInt32.size) :
    connects run.actions ≤ max s.calls.length 1 + limit.toNat := by
  have hnew := Client.isGoingOn_new options
  by_cases hs : s = ⟨[]⟩
  · have hconnects := h.connects_of_usedUp hs hnew hlimit
    have hfresh : (Client.new options).attempts.toNat = 0 := rfl
    omega
  · have hle := h.connects_le_add_limit hnew hlimit hlt hs
    omega

end Limited

/-! ## Which connections -/

theorem connects_actionsAt (options : Options) (s : Script) (i : Nat) :
    connects (s.actionsAt options i) = 1 := by
  have hcalls : connects (connectionCalls options.endpoint (isAccepted (s.call i))) = 1 := by
    cases isAccepted (s.call i) <;> rfl
  have hturn : connects (s.turn options.reconnect i).actions = 0 := by
    rcases s.turn options.reconnect i with delay | _ | _ <;> rfl
  rw [Script.actionsAt, connects_append, hcalls, hturn]

theorem connects_flatMap_actionsAt (options : Options) (s : Script) (n : Nat) :
    connects ((List.range n).flatMap (s.actionsAt options)) = n := by
  induction n with
  | zero => rfl
  | succ n ih =>
      rw [List.range_succ, List.flatMap_append, List.flatMap_singleton, connects_append, ih,
        connects_actionsAt]

/-- Each connection that a new client tries is the one at its place in the script. -/
theorem Run.within?_record {options : Options} {s : Script} {n : Nat} {run : Run Script}
    (h : within? n (.new options) s = some run) :
    run.source = s.after (connects run.actions) ∧
      within? n (.new options) (Metered.mk s []) =
        some (run.metered
          ((List.range (connects run.actions)).flatMap (s.recordAt options))) := by
  obtain ⟨record, hmetered⟩ := within?_metered h []
  obtain ⟨k, -, -, hactions, hsource⟩ :=
    isCourse_at (s := s) (n := 0) (isCourse_of_within? hmetered) rfl rfl
  have hconnects : connects run.actions = k + 1 := by
    rw [← connects_flatMap_actionsAt options s (k + 1)]
    exact congrArg connects hactions
  rw [hconnects, hmetered]
  constructor
  · exact congrArg Metered.source hsource
  · have hrecord := congrArg Metered.record hsource
    exact congrArg (fun record => some (run.metered record)) hrecord

/-! ## The whole run -/

/-- A new client's run over a script of any contents returns if its policy is limited, after
as many connections as the script has, or one, and those that the policy allows in a row. -/
theorem run_returns (options : Options) (s : Script) {limit : UInt32}
    (hlimit : options.reconnect.limit? = some limit) (hlt : limit.toNat < UInt32.size - 1) :
    ∃ run, Run.within? (max s.calls.length 1 + limit.toNat) (.new options) s = some run ∧
      Run.of? (.new options) s = some run ∧
      connects run.actions ≤ max s.calls.length 1 + limit.toNat ∧
      run.source = s.after (connects run.actions) ∧
      Run.within? (max s.calls.length 1 + limit.toNat) (.new options) (Metered.mk s []) =
        some (run.metered
          ((List.range (connects run.actions)).flatMap (s.recordAt options))) := by
  have hlt' : limit.toNat + 1 < UInt32.size := by omega
  obtain ⟨run, hcourse⟩ :=
    Run.exists_isCourse hlt' (c := .new options) hlimit (Client.isGoingOn_new options) s
  have hconnects := hcourse.connects_le_of_new hlimit hlt'
  have hwithin := Run.within?_of_isCourse hcourse hconnects
  obtain ⟨hsource, hrecord⟩ := Run.within?_record hwithin
  exact ⟨run, hwithin, (Run.of?_eq_some_iff (.refl Script)).mpr hcourse, hconnects, hsource, hrecord⟩

/-- Two accepted connections that do not last, and one reconnection after them.  Fewer
connections than that do not end the run. -/
theorem run_returns_two_lost_connections :
    let options : Options := { reconnect := .fixed (.ofMillis 100) (some 1) }
    let s : Script := ⟨[.ok [], .ok [.error ⟨.read, "reset"⟩]]⟩
    options.reconnect.limit? = some 1 ∧ (1 : UInt32).toNat < UInt32.size - 1 ∧
      Run.within? 2 (.new options) s = none ∧
      ∃ run, Run.within? 3 (.new options) s = some run ∧
        Run.of? (.new options) s = some run ∧
        connects run.actions ≤ 3 ∧
        run.source = s.after (connects run.actions) ∧
        Run.within? 3 (.new options) (Metered.mk s []) =
          some (run.metered
            ((List.range (connects run.actions)).flatMap (s.recordAt options))) := by
  intro options s
  have hlt : (1 : UInt32).toNat < UInt32.size - 1 := by decide
  have htwo : Run.within? 2 (.new options) s = none := by
    simp [options, s, Run.within?, playRound, answerFault, readConnection,
      EventSource.connect, EventSource.next, EventSource.close, Outside.sleep,
      Script.connect, ScriptedConnection.next,
      Client.new, Client.onOpen, Client.onFault, Fault.endOfStream, Fault.isRetryable,
      ReconnectPolicy.delay?, ReconnectPolicy.allows]
  exact ⟨rfl, hlt, htwo, run_returns options s rfl hlt⟩

end LiveReload
end LivePage
