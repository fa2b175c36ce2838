import Mathlib.Data.List.Find
import Mathlib.Data.List.Induction
import LivePage.Proofs.LiveReload.Lifetime
import LivePage.Proofs.LiveReload.ScriptedEnds

/-!
# Reconnections in a row

A client counts the retryable faults that it has heard of since an opening last found it
connecting, in whatever order it is told of openings, messages and faults.  Under a limited
policy it reconnects as long as this count is below the limit, and no longer.
-/

namespace LivePage
namespace LiveReload

/-- Whether an event is a fault after which another connection can help. -/
def Event.isRetryableFault : Event → Bool
  | .fault f => f.isRetryable
  | _ => false

/-- Whether a command asks for another connection. -/
def Command.isReconnect : Command → Bool
  | .reconnect _ => true
  | _ => false

namespace Client

variable {c : Client}

/-! ## Faults since the last opening -/

/-- An opening comes at some place, and finds the client connecting. -/
def OpensAt (c : Client) (events : List Event) (i : Nat) : Prop :=
  events[i]? = some .opened ∧ (c.onAll (events.take i)).phase = .connecting

instance (c : Client) (events : List Event) (i : Nat) : Decidable (c.OpensAt events i) :=
  inferInstanceAs (Decidable (_ ∧ _))

/-- The place of the last opening that finds the client connecting. -/
def lastOpening? (c : Client) (events : List Event) : Option Nat :=
  (List.range events.length).reverse.find? fun i => c.OpensAt events i

/-- The number of retryable faults since the last opening that finds the client connecting,
or among all events if there is none. -/
def faultsInARow (c : Client) (events : List Event) : Nat :=
  (events.drop ((c.lastOpening? events).elim 0 (· + 1))).countP (·.isRetryableFault)

theorem opensAt_succ (e : Event) (events : List Event) (i : Nat) :
    c.OpensAt (e :: events) (i + 1) ↔ (c.on e).2.OpensAt events i :=
  Iff.rfl

theorem opensAt_concat_of_lt (events : List Event) (e : Event) {i : Nat}
    (hi : i < events.length) : c.OpensAt (events ++ [e]) i ↔ c.OpensAt events i := by
  rw [OpensAt, OpensAt, List.getElem?_append_left hi,
    List.take_append_of_le_length (Nat.le_of_lt hi)]

theorem opensAt_concat_length (events : List Event) (e : Event) :
    c.OpensAt (events ++ [e]) events.length ↔
      e = .opened ∧ (c.onAll events).phase = .connecting := by
  simp [OpensAt]

theorem lastOpening?_concat (c : Client) (events : List Event) (e : Event) :
    c.lastOpening? (events ++ [e]) =
      if e = .opened ∧ (c.onAll events).phase = .connecting then some events.length
      else c.lastOpening? events := by
  have hearlier : (List.range events.length).reverse.find?
        (fun i => decide (c.OpensAt (events ++ [e]) i)) = c.lastOpening? events := by
    apply List.find?_congr
    intro i hi
    have hlt : i < events.length := by simpa using hi
    exact decide_eq_decide.mpr (opensAt_concat_of_lt events e hlt)
  rw [lastOpening?, List.length_append, List.length_singleton, List.range_succ,
    List.reverse_append, List.reverse_singleton, List.singleton_append, List.find?_cons,
    hearlier]
  by_cases h : e = .opened ∧ (c.onAll events).phase = .connecting
  · rw [decide_eq_true ((opensAt_concat_length events e).mpr h), if_pos h]
  · rw [decide_eq_false (mt (opensAt_concat_length events e).mp h), if_neg h]

theorem lastOpening?_lt {events : List Event} {i : Nat} (h : c.lastOpening? events = some i) :
    i < events.length := by
  have hmem := List.mem_of_find?_eq_some h
  simpa using hmem

theorem faultsInARow_concat_of_opening {events : List Event}
    (hphase : (c.onAll events).phase = .connecting) :
    c.faultsInARow (events ++ [.opened]) = 0 := by
  rw [faultsInARow, lastOpening?_concat, if_pos ⟨rfl, hphase⟩]
  simp

theorem faultsInARow_concat {events : List Event} {e : Event}
    (h : ¬(e = .opened ∧ (c.onAll events).phase = .connecting)) :
    c.faultsInARow (events ++ [e]) =
      c.faultsInARow events + [e].countP (·.isRetryableFault) := by
  have hle : (c.lastOpening? events).elim 0 (· + 1) ≤ events.length := by
    cases hlast : c.lastOpening? events with
    | none => exact Nat.zero_le _
    | some i => exact lastOpening?_lt hlast
  rw [faultsInARow, lastOpening?_concat, if_neg h, List.drop_append_of_le_length hle,
    List.countP_append]
  rfl

/-! ## One event -/

namespace Answers

variable {e : Event} {command : Command} {c' : Client}

theorem phase_ne_closed (h : c.Answers e command c') (hc' : c'.phase ≠ .closed) :
    c.phase ≠ .closed := by
  intro hc
  obtain ⟨-, serverRetry, rfl⟩ := h.of_closed hc
  exact hc' hc

theorem options_eq (h : c.Answers e command c') : c'.options = c.options := by
  cases h <;> rfl

theorem attempts_eq (h : c.Answers e command c') (hc : c.phase ≠ .closed)
    (hopening : ¬(e = .opened ∧ c.phase = .connecting)) :
    c'.attempts = if e.isRetryableFault then c.attempts + 1 else c.attempts := by
  cases h with
  | opened hconnecting => exact absurd ⟨rfl, hconnecting⟩ hopening
  | exhausted _ hf | reconnect _ hf => exact (if_pos hf).symm
  | final _ hf => exact (if_neg (Bool.eq_false_iff.mp hf)).symm
  | late hclosed => exact absurd hclosed hc
  | openedAgain | reload | ignored | noted => rfl

/-- A client that is not closed answers retryable faults with reconnections, and nothing
else. -/
theorem countP_isReconnect (h : c.Answers e command c') (hc' : c'.phase ≠ .closed) :
    [command].countP (·.isReconnect) = [e].countP (·.isRetryableFault) := by
  cases h with
  | reconnect hc hf => simp [Command.isReconnect, Event.isRetryableFault, hf]
  | late hc => exact absurd hc hc'
  | reload | final | exhausted => exact absurd rfl hc'
  | opened | openedAgain | ignored | noted => rfl

theorem countP_isReconnect_of_closed (h : c.Answers e command c') (hc' : c'.phase = .closed) :
    [command].countP (·.isReconnect) = 0 := by
  cases h with
  | reconnect => cases hc'
  | opened | openedAgain | reload | ignored | noted | late | final | exhausted => rfl

/-- What keeps a client going keeps it below the limit of its policy. -/
theorem isGoingOn (h : c.Answers e command c') (hc' : c'.phase ≠ .closed)
    (hc : c.IsGoingOn) : c'.IsGoingOn := by
  refine ⟨hc', ?_⟩
  cases h with
  | opened =>
      intro limit _
      exact UInt32.le_iff_toNat_le.mpr (Nat.zero_le limit.toNat)
  | reconnect hphase hf hdelay =>
      intro limit hlimit
      exact ReconnectPolicy.le_limit_of_delay? hdelay hlimit
  | reload | final | exhausted => exact absurd rfl hc'
  | openedAgain | ignored | noted | late => exact hc.attempts

end Answers

theorem IsGoingOn.on (hc : c.IsGoingOn) {e : Event} (h : (c.on e).2.phase ≠ .closed) :
    (c.on e).2.IsGoingOn :=
  (c.on_answers e).isGoingOn h hc

section Limited

variable {limit : UInt32}

theorem IsGoingOn.toNat_attempts_le (hc : c.IsGoingOn)
    (hlimit : c.options.reconnect.limit? = some limit) :
    c.attempts.toNat ≤ limit.toNat :=
  UInt32.le_iff_toNat_le.mp (hc.attempts limit hlimit)

theorem IsGoingOn.toNat_attempts_add_one (hc : c.IsGoingOn)
    (hlimit : c.options.reconnect.limit? = some limit)
    (hlt : limit.toNat < UInt32.size - 1) :
    (c.attempts + 1).toNat = c.attempts.toNat + 1 := by
  have hle := hc.toNat_attempts_le hlimit
  exact toNat_add_one (by omega)

/-- Below the limit a retryable fault is answered with another connection, and at the limit
the client gives up. -/
theorem IsGoingOn.onFault_retryable (hc : c.IsGoingOn)
    (hlimit : c.options.reconnect.limit? = some limit)
    (hlt : limit.toNat < UInt32.size - 1) {f : Fault} (hf : f.isRetryable = true) :
    if c.attempts < limit then ∃ delay, (c.onFault f).1 = .reconnect delay
    else (c.onFault f).1 = .giveUp := by
  have hsucc := hc.toNat_attempts_add_one hlimit hlt
  cases hdelay : c.options.reconnect.delay? (c.attempts + 1) c.serverRetry with
  | some delay =>
      have hle := ReconnectPolicy.le_limit_of_delay? hdelay hlimit
      have hbelow : c.attempts < limit := by
        rw [UInt32.le_iff_toNat_le, hsucc] at hle
        rw [UInt32.lt_iff_toNat_lt]
        omega
      rw [if_pos hbelow, onFault_of_delay hc.phase hf hdelay]
      exact ⟨delay, rfl⟩
  | none =>
      have hlast := (ReconnectPolicy.limit?_of_delay?_eq_none hc.attempts hdelay).1
      have heq : limit = c.attempts := by
        rw [hlimit] at hlast
        exact Option.some_inj.mp hlast
      have habove : ¬c.attempts < limit := by
        rw [heq]
        exact UInt32.lt_irrefl _
      rw [if_neg habove, onFault_of_exhausted hc.phase hf hdelay]

/-- An event that is no successful opening adds itself to the attempts if it is a retryable
fault. -/
theorem IsGoingOn.toNat_attempts_on (hc : c.IsGoingOn)
    (hlimit : c.options.reconnect.limit? = some limit)
    (hlt : limit.toNat < UInt32.size - 1) {e : Event}
    (hopening : ¬(e = .opened ∧ c.phase = .connecting)) :
    (c.on e).2.attempts.toNat =
      c.attempts.toNat + [e].countP (·.isRetryableFault) := by
  rw [(c.on_answers e).attempts_eq hc.phase hopening, List.countP_singleton]
  split
  · exact hc.toNat_attempts_add_one hlimit hlt
  · rfl

/-! ## All events -/

theorem onAll_concat (c : Client) (events : List Event) (e : Event) :
    c.onAll (events ++ [e]) = ((c.onAll events).on e).2 :=
  c.onAll_append events [e]

theorem IsGoingOn.onAll (hc : c.IsGoingOn) (events : List Event)
    (h : (c.onAll events).phase ≠ .closed) : (c.onAll events).IsGoingOn := by
  induction events using List.reverseRecOn with
  | nil => exact hc
  | append_singleton events e ih =>
      rw [onAll_concat] at h ⊢
      exact (ih ((on_answers _ e).phase_ne_closed h)).on h

/-- As long as a client is not closed, its attempts are the retryable faults in a row, and
those that it had before if no opening has come between. -/
theorem IsGoingOn.attempts_onAll (hc : c.IsGoingOn)
    (hlimit : c.options.reconnect.limit? = some limit)
    (hlt : limit.toNat < UInt32.size - 1) (events : List Event)
    (h : (c.onAll events).phase ≠ .closed) :
    (c.onAll events).attempts.toNat =
      (c.lastOpening? events).elim c.attempts.toNat (fun _ => 0) + c.faultsInARow events := by
  induction events using List.reverseRecOn with
  | nil => rfl
  | append_singleton events e ih =>
      rw [onAll_concat] at h ⊢
      have hphase := (on_answers _ e).phase_ne_closed h
      have hgoing := hc.onAll events hphase
      have hoptions : (c.onAll events).options.reconnect.limit? = some limit := by
        rw [c.onAll_options events, hlimit]
      rw [lastOpening?_concat]
      by_cases hopening : e = .opened ∧ (c.onAll events).phase = .connecting
      · obtain ⟨rfl, hconnecting⟩ := hopening
        rw [faultsInARow_concat_of_opening hconnecting, if_pos ⟨rfl, hconnecting⟩,
          Client.on, onOpen_of_connecting hconnecting]
        rfl
      · rw [faultsInARow_concat hopening, if_neg hopening,
          hgoing.toNat_attempts_on hoptions hlt hopening, ih hphase, Nat.add_assoc]

theorem lastOpening?_eq_none {events : List Event} (h : ∀ i, ¬c.OpensAt events i) :
    c.lastOpening? events = none := by
  rw [lastOpening?, List.find?_eq_none]
  intro i _
  simpa using h i

theorem faultsInARow_of_no_opening {events : List Event} (h : ∀ i, ¬c.OpensAt events i) :
    c.faultsInARow events = events.countP (·.isRetryableFault) := by
  rw [faultsInARow, lastOpening?_eq_none h]
  rfl

theorem countP_reconnect_of_closed (hc : c.phase = .closed) (events : List Event) :
    (c.commands events).countP (·.isReconnect) = 0 := by
  rw [List.countP_eq_zero]
  intro command hcommand
  rw [(commands_of_closed hc events).1 command hcommand]
  exact Bool.false_ne_true

theorem phase_onAll_of_closed (hc : c.phase = .closed) (events : List Event) :
    (c.onAll events).phase = .closed := by
  obtain ⟨-, serverRetry, hlast⟩ := commands_of_closed hc events
  rw [hlast]
  exact hc

/-- Without a successful opening, more retryable faults than the limit says close a client. -/
theorem IsGoingOn.closed_of_faults (hc : c.IsGoingOn)
    (hlimit : c.options.reconnect.limit? = some limit)
    (hlt : limit.toNat < UInt32.size - 1) {events : List Event}
    (hno : ∀ i, ¬c.OpensAt events i)
    (hmany : limit.toNat < events.countP (·.isRetryableFault)) :
    (c.onAll events).phase = .closed := by
  by_contra hopen
  have hattempts := hc.attempts_onAll hlimit hlt events hopen
  have hoptions : (c.onAll events).options.reconnect.limit? = some limit := by
    rw [c.onAll_options events, hlimit]
  have hle := (hc.onAll events hopen).toNat_attempts_le hoptions
  rw [faultsInARow_of_no_opening hno] at hattempts
  omega

/-- Without a successful opening, a client reconnects no more often than its policy still
allows. -/
theorem IsGoingOn.countP_reconnect_le (hc : c.IsGoingOn)
    (hlimit : c.options.reconnect.limit? = some limit)
    (hlt : limit.toNat < UInt32.size - 1) {events : List Event}
    (hno : ∀ i, ¬c.OpensAt events i) :
    c.attempts.toNat + (c.commands events).countP (·.isReconnect) ≤ limit.toNat := by
  induction events generalizing c with
  | nil => exact hc.toNat_attempts_le hlimit
  | cons e events ih =>
      have hanswers := c.on_answers e
      rw [commands, ← List.singleton_append, List.countP_append]
      by_cases hclosed : (c.on e).2.phase = .closed
      · rw [hanswers.countP_isReconnect_of_closed hclosed,
          countP_reconnect_of_closed hclosed]
        exact hc.toNat_attempts_le hlimit
      · have hopening : ¬(e = .opened ∧ c.phase = .connecting) := by
          rintro ⟨rfl, hconnecting⟩
          exact hno 0 ⟨rfl, hconnecting⟩
        have hattempts := hc.toNat_attempts_on hlimit hlt hopening
        have hlimit' : (c.on e).2.options.reconnect.limit? = some limit := by
          rw [hanswers.options_eq, hlimit]
        have hrest := ih (hc.on hclosed) hlimit' fun i hi =>
          hno (i + 1) ((opensAt_succ e events i).mpr hi)
        rw [hanswers.countP_isReconnect hclosed]
        omega

/-! ## Limits -/

/-- What a limit means for a client that was told some events, and for what it is told
next. -/
structure KeepsLimit (c : Client) (limit : UInt32) (events : List Event) : Prop where
  attempts : (c.onAll events).phase ≠ .closed →
    (c.onAll events).attempts.toNat = c.faultsInARow events ∧
      (c.onAll events).attempts ≤ limit
  retryable : (c.onAll events).phase ≠ .closed → ∀ f : Fault, f.isRetryable = true →
    if (c.onAll events).attempts < limit then
      ∃ delay, ((c.onAll events).on (.fault f)).1 = .reconnect delay
    else ((c.onAll events).on (.fault f)).1 = .giveUp
  final : (c.onAll events).phase ≠ .closed → ∀ f : Fault, f.isRetryable = false →
    ((c.onAll events).on (.fault f)).1 = .giveUp ∧
      ((c.onAll events).on (.fault f)).2.attempts = (c.onAll events).attempts
  /-- Giving up is for good. -/
  gives_up : ∀ e, ((c.onAll events).on e).1 = .giveUp → ∀ later,
    (c.onAll (events ++ e :: later)).phase = .closed ∧
      ∀ command ∈ ((c.onAll events).on e).2.commands later, command = .nothing
  /-- Up to the next opening that finds the client connecting, it reconnects no more often
  than the limit says, and more retryable faults than that end it. -/
  in_a_row : ∀ since, (∀ i, ¬(c.onAll events).OpensAt since i) →
    ((c.onAll events).commands since).countP (·.isReconnect) ≤ limit.toNat ∧
      (limit.toNat < since.countP (·.isRetryableFault) →
        (c.onAll (events ++ since)).phase = .closed)

end Limited

/-- A new client keeps the limit of its policy, whatever it is told. -/
theorem keepsLimit_new (options : Options) {limit : UInt32}
    (hlimit : options.reconnect.limit? = some limit) (hlt : limit.toNat < UInt32.size - 1)
    (events : List Event) : (Client.new options).KeepsLimit limit events := by
  have hnew := isGoingOn_new options
  have hoptions : ((Client.new options).onAll events).options.reconnect.limit? =
      some limit := by
    rw [(Client.new options).onAll_options events]
    exact hlimit
  refine ⟨?_, ?_, ?_, ?_, ?_⟩
  · intro hphase
    constructor
    · rw [hnew.attempts_onAll hlimit hlt events hphase]
      cases (Client.new options).lastOpening? events <;> exact Nat.zero_add _
    · exact (hnew.onAll events hphase).attempts limit hoptions
  · intro hphase f hf
    exact (hnew.onAll events hphase).onFault_retryable hoptions hlt hf
  · intro hphase f hf
    rw [on, onFault_of_final hphase hf]
    exact ⟨rfl, rfl⟩
  · intro e hcommand later
    have hclosed := ((on_answers _ e).closes_iff.mpr (Or.inr hcommand)).2
    obtain ⟨hcommands, serverRetry, hlast⟩ := commands_of_closed hclosed later
    constructor
    · rw [onAll_append, Client.onAll, hlast]
      exact hclosed
    · exact hcommands
  · intro since hno
    rw [onAll_append]
    by_cases hphase : ((Client.new options).onAll events).phase = .closed
    · constructor
      · rw [countP_reconnect_of_closed hphase]
        exact Nat.zero_le _
      · intro _
        exact phase_onAll_of_closed hphase since
    · have hgoing := hnew.onAll events hphase
      constructor
      · have hle := hgoing.countP_reconnect_le hoptions hlt hno
        omega
      · exact hgoing.closed_of_faults hoptions hlt hno

/-- A connection that fails, one reconnection, and then a refusal more than allowed. -/
theorem keepsLimit_new_one_attempt :
    let options : Options :=
      { reconnect := .backoff (.ofMillis 100) (.ofMillis 900) 1 (some 1) }
    let lost : Event := .fault .endOfStream
    let refused : Event := .fault ⟨.connect, "refused"⟩
    let events : List Event := [refused, .opened, .retry (.ofMillis 5), .opened, lost]
    options.reconnect.limit? = some 1 ∧ (1 : UInt32).toNat < UInt32.size - 1 ∧
      (Client.new options).KeepsLimit 1 events ∧
      (Client.new options).faultsInARow events = 1 ∧
      ((Client.new options).onAll events).phase = .connecting ∧
      ((Client.new options).onAll (events ++ [refused])).phase = .closed := by
  intro options lost refused events
  refine ⟨rfl, by decide, keepsLimit_new options rfl (by decide) events, ?_, ?_, ?_⟩
  · rfl
  · rfl
  · rfl

end Client
end LiveReload
end LivePage
