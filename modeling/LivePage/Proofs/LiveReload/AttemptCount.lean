import LivePage.Proofs.LiveReload.Attempts

/-!
# The count of attempts

A client counts its attempts in 32 bits.  Most limited policies close it before the count is
full.  The others are those without a limit and the one whose limit is the greatest number of
32 bits: no count exceeds that one, so they never give up, and the count may start again from
zero.
-/

namespace LivePage
namespace LiveReload
namespace Client

variable {c : Client}

/-! ## What a client counts -/

/-- The events that come before a client is closed, with the one that closes it. -/
def untilClosed (c : Client) : List Event → List Event
  | [] => []
  | e :: events => if c.phase = .closed then [] else e :: (c.on e).2.untilClosed events

/-- The number of retryable faults that found the client not closed, since the last opening
that found it connecting, or among all events if there is none. -/
def faultsMet (c : Client) (events : List Event) : Nat :=
  c.faultsInARow (c.untilClosed events)

/-- The number of reconnections that the client asked for since the last opening that found it
connecting, or in all if there is none. -/
def reconnectsInARow (c : Client) (events : List Event) : Nat :=
  ((c.commands events).drop ((c.lastOpening? events).elim 0 (· + 1))).countP (·.isReconnect)

theorem untilClosed_of_closed (hc : c.phase = .closed) (events : List Event) :
    c.untilClosed events = [] := by
  cases events with
  | nil => rfl
  | cons e events => rw [untilClosed, if_pos hc]

theorem untilClosed_append (events later : List Event) :
    c.untilClosed (events ++ later) =
      c.untilClosed events ++ (c.onAll events).untilClosed later := by
  induction events generalizing c with
  | nil => rfl
  | cons e events ih =>
      by_cases hc : c.phase = .closed
      · rw [untilClosed_of_closed hc, untilClosed_of_closed hc,
          untilClosed_of_closed (phase_onAll_of_closed hc _)]
        rfl
      · rw [List.cons_append, untilClosed, untilClosed, if_neg hc, if_neg hc, ih]
        rfl

/-- A client that is not closed has met everything that it was told. -/
theorem untilClosed_of_open {events : List Event} (h : (c.onAll events).phase ≠ .closed) :
    c.untilClosed events = events := by
  induction events using List.reverseRecOn with
  | nil => rfl
  | append_singleton events e ih =>
      rw [onAll_concat] at h
      have hphase := (on_answers _ e).phase_ne_closed h
      rw [untilClosed_append, ih hphase, untilClosed, if_neg hphase, untilClosed]

theorem faultsMet_of_open {events : List Event} (h : (c.onAll events).phase ≠ .closed) :
    c.faultsMet events = c.faultsInARow events := by
  rw [faultsMet, untilClosed_of_open h]

theorem faultsMet_concat_of_closed {events : List Event}
    (h : (c.onAll events).phase = .closed) (e : Event) :
    c.faultsMet (events ++ [e]) = c.faultsMet events := by
  rw [faultsMet, untilClosed_append, untilClosed_of_closed h, List.append_nil]
  rfl

theorem faultsMet_concat_of_open {events : List Event}
    (h : (c.onAll events).phase ≠ .closed) (e : Event) :
    c.faultsMet (events ++ [e]) = c.faultsInARow (events ++ [e]) := by
  rw [faultsMet, untilClosed_append, untilClosed_of_open h, untilClosed, if_neg h, untilClosed]

theorem faultsMet_concat_of_opening {events : List Event}
    (h : (c.onAll events).phase = .connecting) :
    c.faultsMet (events ++ [.opened]) = 0 := by
  rw [faultsMet_concat_of_open (by simp [h]), faultsInARow_concat_of_opening h]

theorem faultsMet_concat {events : List Event} (h : (c.onAll events).phase ≠ .closed)
    {e : Event} (hopening : ¬(e = .opened ∧ (c.onAll events).phase = .connecting)) :
    c.faultsMet (events ++ [e]) =
      c.faultsMet events + [e].countP (·.isRetryableFault) := by
  rw [faultsMet_concat_of_open h, faultsInARow_concat hopening, faultsMet_of_open h]

/-! ## The count in 32 bits -/

/-- Whatever the policy is, the attempts are the last 32 bits of the count of faults. -/
theorem attempts_onAll_eq_ofNat (hc : c.attempts = 0) (events : List Event) :
    (c.onAll events).attempts = UInt32.ofNat (c.faultsMet events) := by
  induction events using List.reverseRecOn with
  | nil => exact hc
  | append_singleton events e ih =>
      rw [onAll_concat]
      by_cases hclosed : (c.onAll events).phase = .closed
      · obtain ⟨-, serverRetry, hlast⟩ := (on_answers _ e).of_closed hclosed
        rw [hlast, faultsMet_concat_of_closed hclosed, ← ih]
      · by_cases hopening : e = .opened ∧ (c.onAll events).phase = .connecting
        · obtain ⟨rfl, hconnecting⟩ := hopening
          rw [faultsMet_concat_of_opening hconnecting, on, onOpen_of_connecting hconnecting]
          rfl
        · rw [(on_answers _ e).attempts_eq hclosed hopening, faultsMet_concat hclosed hopening,
            ih, List.countP_singleton]
          split
          · exact (UInt32.ofNat_add _ 1).symm
          · rfl

theorem toNat_attempts_onAll (hc : c.attempts = 0) (events : List Event) :
    (c.onAll events).attempts.toNat = c.faultsMet events % UInt32.size := by
  rw [attempts_onAll_eq_ofNat hc, UInt32.toNat_ofNat']

/-- Under a limit below the greatest one, a client meets one fault more than the limit says, and
no more. -/
theorem IsGoingOn.faultsMet_le (hc : c.IsGoingOn) (hattempts : c.attempts = 0) {limit : UInt32}
    (hlimit : c.options.reconnect.limit? = some limit)
    (hlt : limit.toNat < UInt32.size - 1) (events : List Event) :
    c.faultsMet events ≤ limit.toNat + 1 := by
  induction events using List.reverseRecOn with
  | nil => exact Nat.zero_le _
  | append_singleton events e ih =>
      by_cases hclosed : (c.onAll events).phase = .closed
      · rwa [faultsMet_concat_of_closed hclosed]
      · by_cases hopening : e = .opened ∧ (c.onAll events).phase = .connecting
        · obtain ⟨rfl, hconnecting⟩ := hopening
          rw [faultsMet_concat_of_opening hconnecting]
          exact Nat.zero_le _
        · have hoptions : (c.onAll events).options.reconnect.limit? = some limit := by
            rw [c.onAll_options events, hlimit]
          have hle := (hc.onAll events hclosed).toNat_attempts_le hoptions
          have hcount := toNat_attempts_onAll hattempts events
          rw [Nat.mod_eq_of_lt (by omega)] at hcount
          have hone : [e].countP (·.isRetryableFault) ≤ 1 := List.countP_le_length
          rw [faultsMet_concat hclosed hopening]
          omega

/-! ## Reconnections -/

theorem commands_concat (events : List Event) (e : Event) :
    c.commands (events ++ [e]) = c.commands events ++ [((c.onAll events).on e).1] := by
  induction events generalizing c with
  | nil => rfl
  | cons d events ih => exact congrArg _ ih

theorem length_commands (events : List Event) : (c.commands events).length = events.length := by
  induction events generalizing c with
  | nil => rfl
  | cons e events ih => exact congrArg (· + 1) ih

/-- A client that is not closed has answered each retryable fault in a row with a
reconnection. -/
theorem reconnectsInARow_eq {events : List Event} (h : (c.onAll events).phase ≠ .closed) :
    c.reconnectsInARow events = c.faultsInARow events := by
  induction events using List.reverseRecOn with
  | nil => rfl
  | append_singleton events e ih =>
      rw [onAll_concat] at h
      have hanswers := (c.onAll events).on_answers e
      by_cases hopening : e = .opened ∧ (c.onAll events).phase = .connecting
      · obtain ⟨rfl, hconnecting⟩ := hopening
        rw [faultsInARow_concat_of_opening hconnecting, reconnectsInARow, lastOpening?_concat,
          if_pos ⟨rfl, hconnecting⟩]
        have hend : (c.commands (events ++ [.opened])).length = events.length + 1 := by
          rw [length_commands, List.length_append, List.length_singleton]
        rw [Option.elim_some, ← hend, List.drop_length]
        rfl
      · have hle : (c.lastOpening? events).elim 0 (· + 1) ≤ (c.commands events).length := by
          rw [length_commands]
          cases hlast : c.lastOpening? events with
          | none => exact Nat.zero_le _
          | some i => exact lastOpening?_lt hlast
        rw [faultsInARow_concat hopening, ← ih (hanswers.phase_ne_closed h), reconnectsInARow,
          lastOpening?_concat, if_neg hopening, commands_concat,
          List.drop_append_of_le_length hle, List.countP_append, hanswers.countP_isReconnect h]
        rfl

/-! ## Giving up -/

theorem onFault_eq_giveUp_iff (hc : c.phase ≠ .closed) {f : Fault} (hf : f.isRetryable = true) :
    (c.onFault f).1 = .giveUp ↔
      c.options.reconnect.delay? (c.attempts + 1) c.serverRetry = none := by
  cases hdelay : c.options.reconnect.delay? (c.attempts + 1) c.serverRetry with
  | none => simp [onFault_of_exhausted hc hf hdelay]
  | some delay => simp [onFault_of_delay hc hf hdelay]

/-- A client gives up where its attempts have come to the limit of its policy, but never at the
greatest limit. -/
theorem IsGoingOn.onFault_eq_giveUp_iff (hc : c.IsGoingOn) {f : Fault}
    (hf : f.isRetryable = true) :
    (c.onFault f).1 = .giveUp ↔
      c.options.reconnect.limit? = some c.attempts ∧
        c.attempts.toNat < UInt32.size - 1 := by
  rw [Client.onFault_eq_giveUp_iff hc.phase hf]
  constructor
  · intro hdelay
    obtain ⟨hlimit, hlt⟩ := ReconnectPolicy.limit?_of_delay?_eq_none hc.attempts hdelay
    exact ⟨hlimit, Nat.lt_sub_of_add_lt hlt⟩
  · rintro ⟨hlimit, hlt⟩
    rw [Option.eq_none_iff_forall_ne_some]
    intro delay hdelay
    have hle := ReconnectPolicy.le_limit_of_delay? hdelay hlimit
    rw [UInt32.le_iff_toNat_le, toNat_add_one (by omega)] at hle
    omega

/-- How a client that was told some events counts, and what it does at the next fault. -/
structure CountsAttempts (c : Client) (events : List Event) : Prop where
  attempts : (c.onAll events).attempts.toNat = c.faultsMet events % UInt32.size
  not_full : ∀ limit, c.options.reconnect.limit? = some limit →
    limit.toNat < UInt32.size - 1 → c.faultsMet events ≤ limit.toNat + 1
  reconnects : (c.onAll events).phase ≠ .closed →
    c.reconnectsInARow events = c.faultsMet events
  gives_up : (c.onAll events).phase ≠ .closed → ∀ f : Fault, f.isRetryable = true →
    (((c.onAll events).on (.fault f)).1 = .giveUp ↔
      ∃ limit, c.options.reconnect.limit? = some limit ∧ limit.toNat < UInt32.size - 1 ∧
        c.reconnectsInARow events = limit.toNat)
  goes_on : (c.onAll events).phase ≠ .closed → ∀ f : Fault, f.isRetryable = true →
    ((c.onAll events).on (.fault f)).1 ≠ .giveUp →
      ∃ delay, ((c.onAll events).on (.fault f)).1 = .reconnect delay

/-- The attempts of a new client are the number of retryable faults that it has met since the
last successful opening, as far as 32 bits can tell.  Under a policy that is limited to a number
below the greatest one of 32 bits they tell all, and it gives up after that many reconnections in
a row; under any other policy it never gives up at a retryable fault. -/
theorem countsAttempts_new (options : Options) (events : List Event) :
    (Client.new options).CountsAttempts events := by
  have hnew := isGoingOn_new options
  refine ⟨toNat_attempts_onAll rfl events, ?_, ?_, ?_, ?_⟩
  · intro limit hlimit hlt
    exact hnew.faultsMet_le rfl hlimit hlt events
  · intro hphase
    rw [reconnectsInARow_eq hphase, faultsMet_of_open hphase]
  · intro hphase f hf
    have hgoing := hnew.onAll events hphase
    have hcount := toNat_attempts_onAll (c := Client.new options) rfl events
    rw [on, hgoing.onFault_eq_giveUp_iff hf, onAll_options, reconnectsInARow_eq hphase,
      ← faultsMet_of_open hphase]
    constructor
    · rintro ⟨hlimit, hlt⟩
      have hle := hnew.faultsMet_le rfl hlimit hlt events
      rw [Nat.mod_eq_of_lt (by omega)] at hcount
      exact ⟨_, hlimit, hlt, hcount.symm⟩
    · rintro ⟨limit, hlimit, hlt, hmet⟩
      rw [hmet, Nat.mod_eq_of_lt (by omega)] at hcount
      rw [UInt32.toNat_inj.mp hcount]
      exact ⟨hlimit, hlt⟩
  · intro hphase f hf hcommand
    cases hdelay : ((Client.new options).onAll events).options.reconnect.delay?
        (((Client.new options).onAll events).attempts + 1)
        ((Client.new options).onAll events).serverRetry with
    | none => exact absurd ((onFault_eq_giveUp_iff hphase hf).mpr hdelay) hcommand
    | some delay => exact ⟨delay, congrArg Prod.fst (onFault_of_delay hphase hf hdelay)⟩

/-! ## Counts that start again -/

/-- Where no fault exceeds the limit, any number of faults leaves the client open. -/
theorem open_of_faults {options : Options}
    (hend : ∀ limit ∈ options.reconnect.limit?, UInt32.size - 1 ≤ limit.toNat) {f : Fault}
    (hf : f.isRetryable = true) (n : Nat) :
    ((Client.new options).onAll (List.replicate n (.fault f))).phase ≠ .closed ∧
      (Client.new options).faultsMet (List.replicate n (.fault f)) = n := by
  induction n with
  | zero => exact ⟨nofun, rfl⟩
  | succ n ih =>
      obtain ⟨hphase, hmet⟩ := ih
      have hgoing := (isGoingOn_new options).onAll _ hphase
      rw [List.replicate_succ', onAll_concat]
      constructor
      · intro hclosed
        rcases ((on_answers _ _).closes_iff.mp ⟨hphase, hclosed⟩) with hreload | hgiveUp
        · obtain ⟨-, m, hmessage, -⟩ := (on_answers _ _).eq_reload_iff.mp hreload
          cases hmessage
        · obtain ⟨hlimit, hlt⟩ := (hgoing.onFault_eq_giveUp_iff hf).mp hgiveUp
          rw [onAll_options] at hlimit
          have hle := hend _ hlimit
          omega
      · rw [faultsMet_concat hphase (by simp), hmet, List.countP_singleton]
        exact congrArg (n + ·) (if_pos hf)

/-- Under the greatest limit that 32 bits can hold, 4294967296 faults in a row are met with as
many reconnections, one more than the limit, and leave the attempts at zero. -/
theorem attempts_zero_at_greatest_limit :
    let client := Client.new { reconnect := .fixed ReconnectPolicy.defaultDelay (some 4294967295) }
    let events := List.replicate 4294967296 (Event.fault .endOfStream)
    client.faultsMet events = 4294967296 ∧ client.reconnectsInARow events = 4294967296 ∧
      (client.onAll events).phase ≠ .closed ∧ (client.onAll events).attempts = 0 := by
  intro client events
  have hend : ∀ limit ∈ client.options.reconnect.limit?, UInt32.size - 1 ≤ limit.toNat := by
    rintro limit ⟨⟩
    exact Nat.le_refl _
  obtain ⟨hphase, hmet⟩ :
      (client.onAll events).phase ≠ .closed ∧ client.faultsMet events = 4294967296 :=
    open_of_faults hend rfl 4294967296
  refine ⟨hmet, ?_, hphase, ?_⟩
  · rw [reconnectsInARow_eq hphase, ← faultsMet_of_open hphase, hmet]
  · rw [attempts_onAll_eq_ofNat rfl, hmet]
    rfl

end Client
end LiveReload
end LivePage
