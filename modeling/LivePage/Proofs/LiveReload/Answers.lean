import LivePage.LiveReload.Client

/-!
# What a client answers

One equation to each way in which a client can answer what it is told.
-/

namespace LivePage
namespace LiveReload
namespace Client

open EventStream

variable {c : Client}

theorem onMessage_of_ignored {m : Message}
    (h : c.phase = .closed ∨ m.isPlain = false) : c.onMessage m = (.nothing, c) := by
  rw [onMessage, if_pos (by simpa using h)]

theorem onMessage_of_plain (hc : c.phase ≠ .closed) {m : Message}
    (hm : m.isPlain = true) :
    c.onMessage m =
      (.closeAndReload, { c with phase := .closed, reloads := c.reloads + 1 }) := by
  rw [onMessage, if_neg (by simp [hc, hm])]

/-- A message is either ignored or answered with a reload. -/
theorem onMessage_cases (c : Client) (m : Message) :
    c.onMessage m = (.nothing, c) ∨
      c.phase ≠ .closed ∧ m.isPlain = true ∧
        c.onMessage m =
          (.closeAndReload, { c with phase := .closed, reloads := c.reloads + 1 }) := by
  by_cases hc : c.phase = .closed
  · exact Or.inl (onMessage_of_ignored (Or.inl hc))
  · cases hm : m.isPlain with
    | false => exact Or.inl (onMessage_of_ignored (Or.inr hm))
    | true => exact Or.inr ⟨hc, rfl, onMessage_of_plain hc hm⟩

theorem onOpen_of_connecting (hc : c.phase = .connecting) :
    c.onOpen = { c with phase := .connected, attempts := 0 } := by
  rw [onOpen, hc]

theorem onOpen_of_ne_connecting (hc : c.phase ≠ .connecting) : c.onOpen = c := by
  unfold onOpen
  split
  · rename_i hphase
    exact absurd hphase hc
  · rfl

theorem onFault_of_closed (hc : c.phase = .closed) (fault : Fault) :
    c.onFault fault = (.nothing, c) := by
  rw [onFault, if_pos hc]

theorem onFault_of_final (hc : c.phase ≠ .closed) {fault : Fault}
    (hfault : fault.isRetryable = false) :
    c.onFault fault = (.giveUp, { c with phase := .closed }) := by
  rw [onFault, if_neg hc, hfault]
  rfl

theorem onFault_of_delay (hc : c.phase ≠ .closed) {fault : Fault}
    (hfault : fault.isRetryable = true) {delay : Duration}
    (hdelay : c.options.reconnect.delay? (c.attempts + 1) c.serverRetry = some delay) :
    c.onFault fault =
      (.reconnect delay, { c with phase := .connecting, attempts := c.attempts + 1 }) := by
  simp only [onFault, if_neg hc, hfault, if_true, hdelay]

theorem onFault_of_exhausted (hc : c.phase ≠ .closed) {fault : Fault}
    (hfault : fault.isRetryable = true)
    (hdelay : c.options.reconnect.delay? (c.attempts + 1) c.serverRetry = none) :
    c.onFault fault =
      (.giveUp, { c with phase := .closed, attempts := c.attempts + 1 }) := by
  simp only [onFault, if_neg hc, hfault, if_true, hdelay]

/-- All that a fault can do to a client. -/
theorem onFault_cases (c : Client) (fault : Fault) :
    c.phase = .closed ∧ c.onFault fault = (.nothing, c) ∨
      c.phase ≠ .closed ∧ ∃ command phase attempts,
        c.onFault fault = (command, { c with phase, attempts }) := by
  by_cases hc : c.phase = .closed
  · exact Or.inl ⟨hc, onFault_of_closed hc fault⟩
  · refine Or.inr ⟨hc, ?_⟩
    cases hfault : fault.isRetryable with
    | false => exact ⟨_, _, _, onFault_of_final hc hfault⟩
    | true =>
        cases hdelay : c.options.reconnect.delay? (c.attempts + 1) c.serverRetry with
        | none => exact ⟨_, _, _, onFault_of_exhausted hc hfault hdelay⟩
        | some delay => exact ⟨_, _, _, onFault_of_delay hc hfault hdelay⟩

theorem onFault_options (c : Client) (fault : Fault) :
    (c.onFault fault).2.options = c.options := by
  rcases c.onFault_cases fault with ⟨-, h⟩ | ⟨-, command, phase, attempts, h⟩ <;> rw [h]

theorem onFault_reloads (c : Client) (fault : Fault) :
    (c.onFault fault).2.reloads = c.reloads := by
  rcases c.onFault_cases fault with ⟨-, h⟩ | ⟨-, command, phase, attempts, h⟩ <;> rw [h]

end Client
end LiveReload
end LivePage
