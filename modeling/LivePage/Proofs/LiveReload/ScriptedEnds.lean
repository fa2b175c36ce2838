import LivePage.LiveReload.Script
import LivePage.Proofs.LiveReload.Views

/-!
# Runs over a script end

A script foresees finitely many connections and refuses all others, so a client that
reconnects only so often gives up in the end.  How long a run lasts is measured in the
connections that it tries: each one uses up a call of the script, or one of the
reconnections that the policy allows in a row.
-/

namespace LivePage
namespace LiveReload

variable {σ κ : Type} [Outside σ κ]

/-! ## Connections -/

/-- Whether an action tries to open a connection. -/
def Action.isConnect : Action → Bool
  | .connect _ => true
  | _ => false

/-- The number of connections that were tried. -/
def connects (actions : List Action) : Nat :=
  actions.countP (·.isConnect)

theorem connects_append (actions actions' : List Action) :
    connects (actions ++ actions') = connects actions + connects actions' :=
  List.countP_append

theorem connects_of_playRound {c c' : Client} {source source' : σ}
    {outcome : Option Outcome} {actions : List Action}
    (h : playRound c source = ⟨outcome, actions, c', source'⟩) : connects actions = 1 := by
  have hone (accepted : Bool) :
      connects (connectionCalls c.options.endpoint accepted) = 1 := by
    cases accepted <;> rfl
  have hplays := playRound_playsTo c source
  rw [h] at hplays
  cases hplays with
  | reload | wait =>
      rw [connects_append, hone]
      rfl
  | giveUp => exact hone _

/-- A run that ends does so within every number of connections that is not less than the
number of those that it tries. -/
theorem Run.within?_of_isCourse {client : Client} {source : σ} {run : Run σ}
    (h : IsCourse client source run) {limit : Nat}
    (hlimit : connects run.actions ≤ limit) :
    within? limit client source = some run := by
  induction h generalizing limit with
  | @last client client' source source' outcome actions h =>
      have hone := connects_of_playRound h
      have hpos : 1 ≤ limit := Nat.le_trans (Nat.le_of_eq hone.symm) hlimit
      obtain ⟨limit, rfl⟩ := Nat.exists_eq_add_of_le' hpos
      exact within?_succ_of_some h limit
  | @again client client' source source' actions run h rest ih =>
      have hone := connects_of_playRound h
      have hsum : 1 + connects run.actions ≤ limit := by
        rw [← hone, ← connects_append]
        exact hlimit
      obtain ⟨limit, rfl⟩ := Nat.exists_eq_add_of_le hsum
      rw [Nat.add_assoc, Nat.add_comm 1, within?_succ_of_none h,
        ih (Nat.le_add_right _ limit)]
      rfl

/-! ## Reconnections -/

theorem toNat_add_one {n : UInt32} (h : n.toNat + 1 < UInt32.size) :
    (n + 1).toNat = n.toNat + 1 := by
  rw [UInt32.toNat_add, UInt32.toNat_one]
  exact Nat.mod_eq_of_lt h

namespace ReconnectPolicy

variable {policy : ReconnectPolicy} {attempt limit : UInt32} {retry : Option Duration}

theorem le_limit_of_delay? {delay : Duration}
    (h : policy.delay? attempt retry = some delay) (hlimit : policy.limit? = some limit) :
    attempt ≤ limit := by
  cases policy with
  | never => cases h
  | fixed | backoff =>
      simp only [limit?] at hlimit
      simp only [delay?, hlimit, allows, Option.ite_none_right_eq_some] at h
      exact of_decide_eq_true h.1

/-- A policy gives up on the reconnection after the last one that it allows. -/
theorem limit?_of_delay?_eq_none (hle : ∀ limit ∈ policy.limit?, attempt ≤ limit)
    (h : policy.delay? (attempt + 1) retry = none) :
    policy.limit? = some attempt ∧ attempt.toNat + 1 < UInt32.size := by
  have hgt : ∃ limit, policy.limit? = some limit ∧ attempt ≤ limit ∧
      (limit < attempt + 1 ∨ limit = 0) := by
    cases hlimit : policy.limit? with
    | none => cases policy <;> simp_all [limit?, delay?, allows]
    | some limit =>
        refine ⟨limit, rfl, hle limit hlimit, ?_⟩
        cases policy with
        | never => exact Or.inr (Option.some_inj.mp hlimit).symm
        | fixed | backoff =>
            simp only [limit?] at hlimit
            simp only [delay?, hlimit, allows, ite_eq_right_iff, reduceCtorEq, imp_false,
              decide_eq_true_eq, UInt32.not_le] at h
            exact Or.inl h
  obtain ⟨limit, hlimit, hattempt, hgt⟩ := hgt
  simp only [UInt32.le_iff_toNat_le] at hattempt
  simp only [UInt32.lt_iff_toNat_lt, UInt32.toNat_add, UInt32.toNat_one,
    ← UInt32.toNat_inj, UInt32.toNat_zero] at hgt
  have hlast : limit = attempt := by
    apply UInt32.toNat_inj.mp
    omega
  subst hlast
  refine ⟨hlimit, ?_⟩
  show limit.toNat + 1 < 4294967296
  omega

end ReconnectPolicy

/-- All that the answer to a fault can be. -/
theorem answerFault_cases (actions : List Action) (fault : Fault) (c : Client)
    (source : σ) :
    (∃ delay,
      c.options.reconnect.delay? (c.attempts + 1) c.serverRetry = some delay ∧
        answerFault actions fault c source =
          ⟨none, actions ++ [.sleep delay],
            { c with phase := .connecting, attempts := c.attempts + 1 },
            Outside.sleep source delay⟩) ∨
    ((c.phase ≠ .closed → fault.isRetryable = true →
        c.options.reconnect.delay? (c.attempts + 1) c.serverRetry = none) ∧
      ∃ c', answerFault actions fault c source = ⟨some .gaveUp, actions, c', source⟩) := by
  by_cases hphase : c.phase = .closed
  · exact Or.inr ⟨fun h => absurd hphase h, _, answerFault_of_closed hphase ..⟩
  · cases hfault : fault.isRetryable with
    | false => exact Or.inr ⟨nofun, _, answerFault_of_final hphase hfault ..⟩
    | true =>
        cases hdelay : c.options.reconnect.delay? (c.attempts + 1) c.serverRetry with
        | none =>
            exact Or.inr ⟨fun _ _ => rfl, _, answerFault_of_exhausted hphase hfault hdelay ..⟩
        | some delay =>
            exact Or.inl ⟨delay, rfl, answerFault_of_delay hphase hfault hdelay ..⟩

/-- A client that can still be told to reconnect: it is not closed, and it has not
reconnected more often in a row than its policy allows. -/
structure Client.IsGoingOn (c : Client) : Prop where
  phase : c.phase ≠ .closed
  attempts : ∀ limit ∈ c.options.reconnect.limit?, c.attempts ≤ limit

theorem Client.isGoingOn_new (options : Options) : (Client.new options).IsGoingOn where
  phase := nofun
  attempts limit _ := UInt32.le_iff_toNat_le.mpr (Nat.zero_le limit.toNat)

/-- A client that waits has counted the fault, and its policy had a delay for it. -/
theorem exists_delay_of_answerFault {actions actions' : List Action} {fault : Fault}
    {c c' : Client} {source source' : σ}
    (h : answerFault actions fault c source = ⟨none, actions', c', source'⟩) :
    ∃ delay, c.options.reconnect.delay? (c.attempts + 1) c.serverRetry = some delay ∧
      c' = { c with phase := .connecting, attempts := c.attempts + 1 } := by
  rcases answerFault_cases actions fault c source with
    ⟨delay, hdelay, hanswer⟩ | ⟨-, c'', hanswer⟩
  · rw [hanswer] at h
    cases h
    exact ⟨delay, hdelay, rfl⟩
  · rw [hanswer] at h
    cases h

theorem Client.onOpen_attempts (c : Client) :
    c.onOpen.attempts = c.attempts ∨ c.onOpen.attempts = 0 := by
  by_cases hc : c.phase = .connecting
  · rw [onOpen_of_connecting hc]
    exact Or.inr rfl
  · rw [onOpen_of_ne_connecting hc]
    exact Or.inl rfl

/-- A round that leaves a run open has counted one fault more, on top of what the client had
before or of nothing. -/
theorem exists_delay_of_playRound {c c' : Client} {source source' : σ}
    {actions : List Action}
    (h : playRound c source = ⟨none, actions, c', source'⟩) :
    ∃ c₁ : Client, c₁.options = c.options ∧
      (c₁.attempts = c.attempts ∨ c₁.attempts = 0) ∧
      ∃ delay, c₁.options.reconnect.delay? (c₁.attempts + 1) c₁.serverRetry = some delay ∧
        c' = { c₁ with phase := .connecting, attempts := c₁.attempts + 1 } := by
  rcases hconnect : EventSource.connect source c.options.endpoint with
    ⟨fault | connection, source₁⟩
  · rw [playRound_of_refused hconnect] at h
    exact ⟨c, rfl, Or.inl rfl, exists_delay_of_answerFault h⟩
  · have hreads := readConnection_readsTo c.onOpen source₁ connection
    rcases hread : readConnection c.onOpen source₁ connection with
      ⟨_ | fault, c₁, connection', source₂⟩
    · rw [playRound_of_reload hconnect hread] at h
      cases h
    · rw [playRound_of_fault hconnect hread] at h
      rw [hread] at hreads
      cases hreads with
      | fault f serverRetry =>
          exact ⟨{ c.onOpen with serverRetry }, c.onOpen_options, c.onOpen_attempts,
            exists_delay_of_answerFault h⟩

/-- A client waits only for a reconnection that its policy allows. -/
theorem isGoingOn_of_playRound {c c' : Client} {source source' : σ}
    {actions : List Action}
    (h : playRound c source = ⟨none, actions, c', source'⟩) :
    c'.IsGoingOn ∧ c'.options = c.options := by
  obtain ⟨c₁, hoptions, -, delay, hdelay, rfl⟩ := exists_delay_of_playRound h
  refine ⟨⟨nofun, ?_⟩, hoptions⟩
  intro limit hlimit
  exact ReconnectPolicy.le_limit_of_delay? hdelay hlimit

/-! ## Rounds over a script -/

theorem source_answerFault (actions : List Action) (fault : Fault) (c : Client)
    (s : Script) : (answerFault actions fault c s).source = s := by
  rcases answerFault_cases actions fault c s with
    ⟨delay, -, hanswer⟩ | ⟨-, c', hanswer⟩ <;> rw [hanswer]
  rfl

theorem connect_usedUp (endpoint : String) :
    EventSource.connect (⟨[]⟩ : Script) endpoint = (.error .unscripted, ⟨[]⟩) :=
  rfl

/-- Each round uses up one call of a script. -/
theorem source_of_playRound {c c' : Client} {s s' : Script} {outcome : Option Outcome}
    {actions : List Action} (h : playRound c s = ⟨outcome, actions, c', s'⟩) :
    s' = ⟨s.calls.tail⟩ := by
  have hsource : s' = (playRound c s).source := by rw [h]
  rw [hsource]
  clear h hsource
  obtain ⟨calls⟩ := s
  rcases calls with _ | ⟨fault | deliveries, calls⟩
  · rw [playRound_of_refused (connect_usedUp _), source_answerFault]
    rfl
  · have hconnect : EventSource.connect (⟨.error fault :: calls⟩ : Script)
        c.options.endpoint = (.error fault, ⟨calls⟩) := rfl
    rw [playRound_of_refused hconnect, source_answerFault]
    rfl
  · have hconnect : EventSource.connect (⟨.ok deliveries :: calls⟩ : Script)
        c.options.endpoint = (.ok { deliveries }, ⟨calls⟩) := rfl
    have hkeeps : (readConnection c.onOpen (⟨calls⟩ : Script)
        ({ deliveries } : ScriptedConnection)).2.2.2 = ⟨calls⟩ :=
      readConnection_keeps (f := id) (fun _ _ => rfl) ..
    rcases hread : readConnection c.onOpen (⟨calls⟩ : Script)
        ({ deliveries } : ScriptedConnection) with ⟨_ | fault, c', connection', s'⟩
    · rw [playRound_of_reload hconnect hread]
      rwa [hread] at hkeeps
    · rw [playRound_of_fault hconnect hread, source_answerFault]
      rwa [hread] at hkeeps

theorem Script.length_tail_of_ne_nil (s : Script) (hs : s ≠ ⟨[]⟩) :
    (Script.mk s.calls.tail).calls.length + 1 = s.calls.length := by
  obtain ⟨_ | ⟨call, calls⟩⟩ := s
  · exact absurd rfl hs
  · rfl

/-- With the script used up, a client waits as long as its policy has it. -/
theorem playRound_of_usedUp {c : Client} (hc : c.IsGoingOn) :
    (∃ delay,
      c.options.reconnect.delay? (c.attempts + 1) c.serverRetry = some delay ∧
        playRound c (⟨[]⟩ : Script) =
          ⟨none, connectionCalls c.options.endpoint false ++ [.sleep delay],
            { c with phase := .connecting, attempts := c.attempts + 1 }, ⟨[]⟩⟩) ∨
    (c.options.reconnect.limit? = some c.attempts ∧ c.attempts.toNat + 1 < UInt32.size ∧
      ∃ c', playRound c (⟨[]⟩ : Script) =
        ⟨some .gaveUp, connectionCalls c.options.endpoint false, c', ⟨[]⟩⟩) := by
  rw [playRound_of_refused (connect_usedUp _)]
  rcases answerFault_cases (connectionCalls c.options.endpoint false) .unscripted c
    (⟨[]⟩ : Script) with ⟨delay, hdelay, hanswer⟩ | ⟨hnone, c', hanswer⟩
  · exact Or.inl ⟨delay, hdelay, hanswer⟩
  · obtain ⟨hlimit, hlt⟩ :=
      ReconnectPolicy.limit?_of_delay?_eq_none hc.attempts (hnone hc.phase rfl)
    exact Or.inr ⟨hlimit, hlt, c', hanswer⟩

/-! ## Runs over a script -/

/-- With the script used up, a run takes one connection more than there are reconnections
left that the policy allows. -/
theorem Run.IsCourse.of_usedUp {c : Client} {s : Script} {run : Run Script}
    (h : IsCourse c s run) (hs : s = ⟨[]⟩) (hc : c.IsGoingOn) :
    run.outcome = .gaveUp ∧
      ∃ limit, c.options.reconnect.limit? = some limit ∧ limit.toNat + 1 < UInt32.size ∧
        connects run.actions + c.attempts.toNat = limit.toNat + 1 := by
  induction h with
  | @last c c' s s' outcome actions h =>
      subst hs
      have hone := connects_of_playRound h
      rcases playRound_of_usedUp hc with ⟨delay, -, hround⟩ | ⟨hlimit, hlt, c'', hround⟩
      · rw [hround] at h
        cases h
      · rw [hround] at h
        cases h
        exact ⟨rfl, c.attempts, hlimit, hlt, by rw [hone, Nat.add_comm]⟩
  | @again c c' s s' actions run h rest ih =>
      subst hs
      have hone := connects_of_playRound h
      obtain ⟨hgoing, hoptions⟩ := isGoingOn_of_playRound h
      rcases playRound_of_usedUp hc with ⟨delay, hdelay, hround⟩ | ⟨-, -, c'', hround⟩
      · rw [hround] at h
        cases h
        obtain ⟨houtcome, limit, hlimit, hlt, hconnects⟩ := ih rfl hgoing
        have hattempts := hc.attempts limit hlimit
        rw [UInt32.le_iff_toNat_le] at hattempts
        have hsucc := toNat_add_one (n := c.attempts) (by omega)
        simp only [hsucc] at hconnects
        refine ⟨houtcome, limit, hlimit, hlt, ?_⟩
        rw [connects_append, hone]
        omega
      · rw [hround] at h
        cases h

/-- A run that reloads the page has tried as many connections as it used up calls of the
script.  One that gives up may have tried more, but no more than the policy allows in a
row after them. -/
theorem Run.IsCourse.connects_le {c : Client} {s : Script} {run : Run Script}
    (h : IsCourse c s run) (hc : c.IsGoingOn) :
    match run.outcome with
    | .reloaded => connects run.actions + run.source.calls.length = s.calls.length
    | .gaveUp => connects run.actions ≤
        s.calls.length + (c.options.reconnect.limit?.getD 0).toNat + 1 := by
  induction h with
  | @last c c' s s' outcome actions h =>
      have hone := connects_of_playRound h
      cases outcome with
      | reloaded =>
          have hs : s ≠ ⟨[]⟩ := by
            rintro rfl
            exact nomatch ((IsCourse.last h).of_usedUp rfl hc).1
          have hlength := s.length_tail_of_ne_nil hs
          rw [← source_of_playRound h] at hlength
          show connects actions + s'.calls.length = s.calls.length
          omega
      | gaveUp =>
          show connects actions ≤ s.calls.length + _ + 1
          rw [hone]
          exact Nat.le_add_left 1 _
  | @again c c' s s' actions run h rest ih =>
      have hone := connects_of_playRound h
      obtain ⟨hgoing, hoptions⟩ := isGoingOn_of_playRound h
      by_cases hs : s = ⟨[]⟩
      · obtain ⟨houtcome, limit, hlimit, -, hconnects⟩ :=
          (IsCourse.again h rest).of_usedUp hs hc
        simp only at houtcome hconnects
        simp only [houtcome, hlimit, Option.getD_some]
        omega
      · have hlength := s.length_tail_of_ne_nil hs
        rw [← source_of_playRound h] at hlength
        have hrest := ih hgoing
        rw [hoptions] at hrest
        simp only [connects_append, hone]
        cases houtcome : run.outcome with
        | reloaded =>
            simp only [houtcome] at hrest ⊢
            omega
        | gaveUp =>
            simp only [houtcome] at hrest ⊢
            omega

/-- Over a script that is used up, a client with a limited policy gives up. -/
theorem Run.exists_isCourse_of_usedUp {limit : UInt32} (hlt : limit.toNat + 1 < UInt32.size)
    {c : Client} (hlimit : c.options.reconnect.limit? = some limit) (hc : c.IsGoingOn) :
    ∃ run, IsCourse c (⟨[]⟩ : Script) run := by
  generalize hleft : limit.toNat - c.attempts.toNat = left
  induction left generalizing c with
  | zero =>
      rcases playRound_of_usedUp hc with ⟨delay, hdelay, hround⟩ | ⟨-, -, c', hround⟩
      · have hnext := ReconnectPolicy.le_limit_of_delay? hdelay hlimit
        have hattempts := UInt32.le_iff_toNat_le.mp (hc.attempts limit hlimit)
        rw [UInt32.le_iff_toNat_le, toNat_add_one (by omega)] at hnext
        omega
      · exact ⟨_, .last hround⟩
  | succ left ih =>
      rcases playRound_of_usedUp hc with ⟨delay, hdelay, hround⟩ | ⟨-, -, c', hround⟩
      · obtain ⟨hgoing, -⟩ := isGoingOn_of_playRound hround
        have hfewer : limit.toNat - (c.attempts + 1).toNat = left := by
          rw [toNat_add_one (by omega)]
          omega
        obtain ⟨run, hrun⟩ :=
          ih (c := { c with phase := .connecting, attempts := c.attempts + 1 })
            hlimit hgoing hfewer
        exact ⟨_, .again hround hrun⟩
      · exact ⟨_, .last hround⟩

/-- A run over a script ends if its policy is limited. -/
theorem Run.exists_isCourse {limit : UInt32} (hlt : limit.toNat + 1 < UInt32.size)
    {c : Client} (hlimit : c.options.reconnect.limit? = some limit) (hc : c.IsGoingOn)
    (s : Script) : ∃ run, IsCourse c s run := by
  obtain ⟨calls⟩ := s
  induction calls generalizing c with
  | nil => exact exists_isCourse_of_usedUp hlt hlimit hc
  | cons call calls ih =>
      rcases hround : playRound c (⟨call :: calls⟩ : Script) with
        ⟨_ | outcome, actions, c', s'⟩
      · obtain ⟨hgoing, hoptions⟩ := isGoingOn_of_playRound hround
        obtain ⟨run, hrun⟩ := ih (hoptions ▸ hlimit) hgoing
        have hsource : s' = ⟨calls⟩ := source_of_playRound hround
        exact ⟨_, .again hround (hsource ▸ hrun)⟩
      · exact ⟨_, .last hround⟩

/-! ## Runs that can be looked at as runs over a script -/

section Views

variable {τ : Type} [Outside τ ScriptedConnection] (v : View τ Script) {options : Options}
  {t : τ} {run : Run τ}

/-- A reload uses up all calls of the script that were tried before it. -/
theorem Run.IsCourse.connects_of_reloaded (h : IsCourse (.new options) t run)
    (houtcome : run.outcome = .reloaded) :
    connects run.actions + (v.see run.source).calls.length = (v.see t).calls.length := by
  have hconnects := (v.isCourse_see h).connects_le (Client.isGoingOn_new options)
  have hseen : (run.map v.see).outcome = .reloaded := houtcome
  simp only [hseen] at hconnects
  exact hconnects

/-- A new client tries no more connections than the script and the policy have for it. -/
theorem Run.IsCourse.connects_le_budget (h : IsCourse (.new options) t run) :
    connects run.actions ≤
      (v.see t).calls.length + (options.reconnect.limit?.getD 0).toNat + 1 := by
  cases houtcome : run.outcome with
  | reloaded =>
      have hconnects := h.connects_of_reloaded v houtcome
      omega
  | gaveUp =>
      have hconnects := (v.isCourse_see h).connects_le (Client.isGoingOn_new options)
      have hseen : (run.map v.see).outcome = .gaveUp := houtcome
      simp only [hseen] at hconnects
      exact hconnects

end Views

/-- The number of connections that a run over a script is given keeps none from ending,
whatever else there is to its outside. -/
theorem Run.of?_eq_some_iff {τ : Type} [Outside τ ScriptedConnection] (v : View τ Script)
    {options : Options} {t : τ} {run : Run τ} :
    of? (.new options) t = some run ↔ IsCourse (.new options) t run := by
  constructor
  · exact isCourse_of_within?
  · intro h
    apply within?_of_isCourse h
    rw [budget, ← v.stock]
    exact h.connects_le_budget v

end LiveReload
end LivePage
