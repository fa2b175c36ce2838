import LivePage.Proofs.LiveReload.CallOrder

/-!
# The life of a client

A client may be told anything in any order, also what no connection would tell it.  It
asks for a reload at most once, when it first hears a plain message, and after it has
asked for a reload or given up it stays closed and asks for nothing.
-/

namespace LivePage
namespace LiveReload
namespace Client

open EventStream

variable {c : Client}

/-! ## One event -/

/-- All that an event can do to a client, and what the client asks for then. -/
inductive Answers (c : Client) : Event → Command → Client → Prop where
  | opened (hc : c.phase = .connecting) :
      Answers c .opened .nothing { c with phase := .connected, attempts := 0 }
  | openedAgain (hc : c.phase ≠ .connecting) : Answers c .opened .nothing c
  | reload (hc : c.phase ≠ .closed) {m : Message} (hm : m.isPlain = true) :
      Answers c (.message m) .closeAndReload
        { c with phase := .closed, reloads := c.reloads + 1 }
  | ignored {m : Message} (h : c.phase = .closed ∨ m.isPlain = false) :
      Answers c (.message m) .nothing c
  | noted (delay : Duration) :
      Answers c (.retry delay) .nothing { c with serverRetry := some delay }
  | late (hc : c.phase = .closed) (f : Fault) : Answers c (.fault f) .nothing c
  | final (hc : c.phase ≠ .closed) {f : Fault} (hf : f.isRetryable = false) :
      Answers c (.fault f) .giveUp { c with phase := .closed }
  | exhausted (hc : c.phase ≠ .closed) {f : Fault} (hf : f.isRetryable = true)
      (hdelay : c.options.reconnect.delay? (c.attempts + 1) c.serverRetry = none) :
      Answers c (.fault f) .giveUp
        { c with phase := .closed, attempts := c.attempts + 1 }
  | reconnect (hc : c.phase ≠ .closed) {f : Fault} (hf : f.isRetryable = true)
      {delay : Duration}
      (hdelay : c.options.reconnect.delay? (c.attempts + 1) c.serverRetry = some delay) :
      Answers c (.fault f) (.reconnect delay)
        { c with phase := .connecting, attempts := c.attempts + 1 }

theorem onFault_answers (c : Client) (f : Fault) :
    c.Answers (.fault f) (c.onFault f).1 (c.onFault f).2 := by
  by_cases hc : c.phase = .closed
  · rw [onFault_of_closed hc]
    exact .late hc f
  · cases hf : f.isRetryable with
    | false =>
        rw [onFault_of_final hc hf]
        exact .final hc hf
    | true =>
        cases hdelay : c.options.reconnect.delay? (c.attempts + 1) c.serverRetry with
        | none =>
            rw [onFault_of_exhausted hc hf hdelay]
            exact .exhausted hc hf hdelay
        | some delay =>
            rw [onFault_of_delay hc hf hdelay]
            exact .reconnect hc hf hdelay

theorem on_answers (c : Client) (e : Event) : c.Answers e (c.on e).1 (c.on e).2 := by
  cases e with
  | opened =>
      by_cases hc : c.phase = .connecting
      · rw [on, onOpen_of_connecting hc]
        exact .opened hc
      · rw [on, onOpen_of_ne_connecting hc]
        exact .openedAgain hc
  | message m =>
      by_cases h : c.phase = .closed ∨ m.isPlain = false
      · rw [on, onMessage_of_ignored h]
        exact .ignored h
      · rw [not_or, Bool.not_eq_false] at h
        rw [on, onMessage_of_plain h.1 h.2]
        exact .reload h.1 h.2
  | retry delay => exact .noted delay
  | fault f => exact c.onFault_answers f

namespace Answers

variable {e : Event} {command : Command} {c' : Client}

/-- A client asks for a reload where it hears a plain message while it is not closed. -/
theorem eq_reload_iff (h : c.Answers e command c') :
    command = .closeAndReload ↔
      c.phase ≠ .closed ∧ ∃ m, e = .message m ∧ m.isPlain = true := by
  cases h with
  | reload hc hm => simpa using ⟨hc, hm⟩
  | ignored h =>
      refine iff_of_false (by simp) ?_
      rintro ⟨hc, m, ⟨⟩, hm⟩
      rcases h with h | h
      · exact hc h
      · simp [h] at hm
  | opened | openedAgain | noted | late | final | exhausted | reconnect => simp

/-- A client is closed by the answers that ask for a reload or give up, and by no other. -/
theorem closes_iff (h : c.Answers e command c') :
    (c.phase ≠ .closed ∧ c'.phase = .closed) ↔
      command = .closeAndReload ∨ command = .giveUp := by
  cases h with
  | reload hc | final hc | exhausted hc => simpa using hc
  | opened | openedAgain | ignored | noted | late | reconnect => simp

theorem of_closed (h : c.Answers e command c') (hc : c.phase = .closed) :
    command = .nothing ∧ ∃ serverRetry, c' = { c with serverRetry } := by
  cases h with
  | noted delay => exact ⟨rfl, some delay, rfl⟩
  | openedAgain | ignored | late => exact ⟨rfl, c.serverRetry, rfl⟩
  | opened hconnecting => simp [hc] at hconnecting
  | reload hne | final hne | exhausted hne | reconnect hne => exact absurd hc hne

theorem attempts_of_connected (h : c.Answers e command c')
    (hc : c.phase = .connected → c.attempts = 0) (hc' : c'.phase = .connected) :
    c'.attempts = 0 := by
  cases h with
  | opened => rfl
  | openedAgain | ignored | noted | late => exact hc hc'
  | reload | final | exhausted | reconnect => cases hc'

/-- While there has been no reload, each command to reload adds one to the count. -/
theorem reloads (h : c.Answers e command c') (hc : c.ReloadsAtMostOnce) :
    c'.reloads.toNat = c.reloads.toNat + [command].count .closeAndReload := by
  cases h with
  | reload hne hm =>
      rw [hc.eq_zero hne]
      rfl
  | opened | openedAgain | ignored | noted | late | final | exhausted | reconnect => rfl

end Answers

/-! ## All events -/

theorem onAll_append (c : Client) (events later : List Event) :
    c.onAll (events ++ later) = (c.onAll events).onAll later := by
  induction events generalizing c with
  | nil => rfl
  | cons e events ih => exact ih (c.on e).2

/-- Each command answers the event in its place, as the client stood then. -/
theorem getElem?_commands (c : Client) (events : List Event) (i : Nat) :
    (c.commands events)[i]? =
      events[i]?.map fun e => ((c.onAll (events.take i)).on e).1 := by
  induction events generalizing c i with
  | nil => rfl
  | cons e events ih =>
      cases i with
      | zero => rfl
      | succ i => exact ih (c.on e).2 i

/-- A closed client asks for nothing, and at most notes what delay the server wants. -/
theorem commands_of_closed (hc : c.phase = .closed) (events : List Event) :
    (∀ command ∈ c.commands events, command = .nothing) ∧
      ∃ serverRetry, c.onAll events = { c with serverRetry } := by
  induction events generalizing c with
  | nil => exact ⟨nofun, c.serverRetry, rfl⟩
  | cons e events ih =>
      obtain ⟨hcommand, serverRetry, he⟩ := (c.on_answers e).of_closed hc
      have hphase : (c.on e).2.phase = .closed := by
        rw [he]
        exact hc
      obtain ⟨hcommands, lastRetry, hlast⟩ := ih hphase
      constructor
      · exact List.forall_mem_cons.mpr ⟨hcommand, hcommands⟩
      · refine ⟨lastRetry, ?_⟩
        rw [onAll, hlast, he]

theorem phase_onAll_take_of_le {events : List Event} {i j : Nat} (hij : i ≤ j)
    (hi : (c.onAll (events.take i)).phase = .closed) :
    (c.onAll (events.take j)).phase = .closed := by
  obtain ⟨k, rfl⟩ := Nat.exists_eq_add_of_le hij
  obtain ⟨-, serverRetry, hlast⟩ :=
    commands_of_closed hi ((events.drop i).take k)
  rw [List.take_add, onAll_append, hlast]
  exact hi

theorem ReloadsAtMostOnce.reloads_onAll (hc : c.ReloadsAtMostOnce)
    (events : List Event) :
    (c.onAll events).reloads.toNat =
      c.reloads.toNat + (c.commands events).count .closeAndReload := by
  induction events generalizing c with
  | nil => rfl
  | cons e events ih =>
      calc
        (c.onAll (e :: events)).reloads.toNat =
            (c.on e).2.reloads.toNat +
              ((c.on e).2.commands events).count .closeAndReload := ih (hc.on e)
        _ = c.reloads.toNat + ([(c.on e).1].count .closeAndReload +
              ((c.on e).2.commands events).count .closeAndReload) := by
          rw [(c.on_answers e).reloads hc, Nat.add_assoc]
        _ = c.reloads.toNat + (c.commands (e :: events)).count .closeAndReload := by
          rw [← List.count_append]
          rfl

theorem attempts_onAll_of_connected (hc : c.phase = .connected → c.attempts = 0)
    (events : List Event) (h : (c.onAll events).phase = .connected) :
    (c.onAll events).attempts = 0 := by
  induction events generalizing c with
  | nil => exact hc h
  | cons e events ih =>
      apply ih _ h
      intro he
      exact (c.on_answers e).attempts_of_connected hc he

/-! ## The first plain message -/

/-- A plain message comes at some place, and the client is not closed then. -/
def HearsPlainAt (c : Client) (events : List Event) (i : Nat) : Prop :=
  (c.onAll (events.take i)).phase ≠ .closed ∧
    ∃ m, events[i]? = some (.message m) ∧ m.isPlain = true

theorem getElem?_commands_eq_reload_iff (c : Client) (events : List Event) (i : Nat) :
    (c.commands events)[i]? = some .closeAndReload ↔ c.HearsPlainAt events i := by
  rw [getElem?_commands, Option.map_eq_some_iff]
  constructor
  · rintro ⟨e, he, hcommand⟩
    obtain ⟨hphase, m, rfl, hm⟩ := (on_answers _ e).eq_reload_iff.mp hcommand
    exact ⟨hphase, m, he, hm⟩
  · rintro ⟨hphase, m, he, hm⟩
    refine ⟨_, he, ?_⟩
    exact (on_answers _ _).eq_reload_iff.mpr ⟨hphase, m, rfl, hm⟩

/-- The message that is answered with a reload closes the client, so none before it was. -/
theorem HearsPlainAt.not_of_lt {events : List Event} {i j : Nat}
    (hi : c.HearsPlainAt events i) (hji : j < i) : ¬c.HearsPlainAt events j := by
  intro hj
  apply hi.1
  obtain ⟨hphase, m, he, hm⟩ := hj
  have hclosed : (c.onAll (events.take (j + 1))).phase = .closed := by
    rw [List.take_add_one, he, onAll_append]
    simp only [Option.toList_some, onAll, on, onMessage_of_plain hphase hm]
  exact phase_onAll_take_of_le hji hclosed

theorem reload_mem_commands_iff (c : Client) (events : List Event) :
    .closeAndReload ∈ c.commands events ↔ ∃ i, c.HearsPlainAt events i := by
  simp only [List.mem_iff_getElem?, getElem?_commands_eq_reload_iff]

/-! ## The whole life -/

/-- What holds of a client that was told some events, and of what it will do next. -/
structure LivesOnce (c : Client) (events : List Event) : Prop where
  reload_once : (c.commands events).count .closeAndReload ≤ 1
  reload_iff : .closeAndReload ∈ c.commands events ↔ ∃ i, c.HearsPlainAt events i
  reload_first : ∀ i, (c.commands events)[i]? = some .closeAndReload ↔
    c.HearsPlainAt events i ∧ ∀ j < i, ¬c.HearsPlainAt events j
  reloads : (c.onAll events).reloads.toNat = (c.commands events).count .closeAndReload
  attempts : (c.onAll events).phase = .connected → (c.onAll events).attempts = 0
  closes : ∀ e,
    ((c.onAll events).phase ≠ .closed ∧ ((c.onAll events).on e).2.phase = .closed) ↔
      ((c.onAll events).on e).1 = .closeAndReload ∨ ((c.onAll events).on e).1 = .giveUp
  /-- Once it is closed, nothing is asked for and nothing that can be seen changes. -/
  closed : (c.onAll events).phase = .closed → ∀ later,
    (∀ command ∈ (c.onAll events).commands later, command = .nothing) ∧
      (c.onAll (events ++ later)).phase = .closed ∧
      (c.onAll (events ++ later)).attempts = (c.onAll events).attempts ∧
      (c.onAll (events ++ later)).reloads = (c.onAll events).reloads
  named : ∀ m : Message, m.isPlain = false →
    (c.onAll events).on (.message m) = (.nothing, c.onAll events)
  retry : ∀ delay, ((c.onAll events).on (.retry delay)).1 = .nothing

/-- A new client lives once, whatever its policy and whatever it is told. -/
theorem livesOnce_new (options : Options) (events : List Event) :
    (Client.new options).LivesOnce events := by
  have honce := reloadsAtMostOnce_new options
  have hreloads : ((Client.new options).onAll events).reloads.toNat =
      ((Client.new options).commands events).count .closeAndReload := by
    rw [honce.reloads_onAll events]
    exact Nat.zero_add _
  refine ⟨?_, reload_mem_commands_iff _ events, ?_, hreloads, ?_, ?_, ?_, ?_, ?_⟩
  · rw [← hreloads]
    exact (honce.onAll events).le_one
  · intro i
    rw [getElem?_commands_eq_reload_iff]
    constructor
    · intro hi
      exact ⟨hi, fun j hji => hi.not_of_lt hji⟩
    · exact And.left
  · exact attempts_onAll_of_connected (fun _ => rfl) events
  · intro e
    exact (on_answers _ e).closes_iff
  · intro hclosed later
    obtain ⟨hcommands, serverRetry, hlast⟩ := commands_of_closed hclosed later
    rw [onAll_append, hlast]
    exact ⟨hcommands, hclosed, rfl, rfl⟩
  · intro m hm
    exact onMessage_of_ignored (Or.inr hm)
  · intro delay
    rfl

end Client
end LiveReload
end LivePage
