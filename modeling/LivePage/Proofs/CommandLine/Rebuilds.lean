import LivePage.CommandLine.Listen
import LivePage.Proofs.LiveReload.PageLoads

/-!
# Following a script

Each reload of a visit is a rebuild, for which a command is run.  What following comes
to is told from the reloads of the visit and from how the command ended at each of them.
The command in turn has no say in the visit.
-/

namespace LivePage
namespace CommandLine

open LiveReload

/-! ## Rebuilds -/

/-- Whether a command does not do what it should at a rebuild. -/
def failsAt (run : Runner) (command : List String) (i : Nat) : Bool :=
  !command.isEmpty && !(run i command).ending.isSuccess

/-- The number of rebuilds, up to the given one, at which a command fails. -/
def failuresUpTo (run : Runner) (command : List String) (n : Nat) : Nat :=
  (List.range' 1 n).countP (failsAt run command)

theorem failuresUpTo_succ (run : Runner) (command : List String) (n : Nat) :
    failuresUpTo run command (n + 1) =
      failuresUpTo run command n + if failsAt run command (n + 1) then 1 else 0 := by
  rw [failuresUpTo, List.range'_concat, List.countP_append, List.countP_singleton,
    Nat.one_mul, Nat.add_comm 1 n]
  rfl

theorem failuresUpTo_nil (run : Runner) (n : Nat) : failuresUpTo run [] n = 0 :=
  List.countP_eq_zero.mpr fun _ _ => Bool.false_ne_true

theorem failuresUpTo_le (run : Runner) (command : List String) (n : Nat) :
    failuresUpTo run command n ≤ n := by
  have hle := List.countP_le_length (p := failsAt run command) (l := List.range' 1 n)
  rwa [List.length_range'] at hle

namespace Rebuilds

variable (run : Runner) (command : List String)

/-- The given number of rebuilds, one after another. -/
def after (run : Runner) (command : List String) : Nat → Rebuilds
  | 0 => {}
  | n + 1 => (after run command n).next (run (n + 1)) command

theorem next_count (run : List String → Execution) (r : Rebuilds) :
    (r.next run command).count = r.count + 1 := by
  unfold next
  cases command with
  | nil => rfl
  | cons program arguments =>
      simp only
      split <;> rfl

theorem next_failures (i : Nat) (r : Rebuilds) :
    (r.next (run i) command).failures =
      r.failures + if failsAt run command i then 1 else 0 := by
  unfold next
  cases command with
  | nil => exact (UInt32.add_zero _).symm
  | cons program arguments =>
      cases hsuccess : (run i (program :: arguments)).ending.isSuccess with
      | true => simp [failsAt, hsuccess]
      | false => simp [failsAt, hsuccess]

theorem after_count (n : Nat) : (after run command n).count = .ofNat n := by
  induction n with
  | zero => rfl
  | succ n ih =>
      rw [after, next_count, ih, UInt32.ofNat_add]
      rfl

/-- The failures of a command are counted as they happen. -/
theorem after_failures (n : Nat) :
    (after run command n).failures = .ofNat (failuresUpTo run command n) := by
  induction n with
  | zero => rfl
  | succ n ih =>
      rw [after, next_failures, ih, failuresUpTo_succ, UInt32.ofNat_add]
      split <;> rfl

end Rebuilds

/-! ## The navigator of a visit -/

/-- A navigator after some reloads. -/
def Navigator.after (run : Runner) (command : List String) (n : Nat) : Navigator where
  run := run
  command := command
  number := n
  rebuilds := .after run command n

section Navigators

variable {σ κ : Type} [Outside σ κ]

/-- A source that is followed without its navigator. -/
def Followed.view (σ : Type) {κ : Type} [Outside σ κ] : View (Followed σ) σ where
  see := Followed.source
  connect _ _ := rfl
  next _ _ := rfl
  close _ _ := rfl
  reload _ := rfl
  sleep _ _ := rfl
  stock _ := rfl

theorem navigator_connect {f f' : Followed σ} {endpoint : String}
    {result : Except LiveReload.Fault κ} (h : EventSource.connect f endpoint = (result, f')) :
    f'.navigator = f.navigator :=
  (congrArg (·.2.navigator) h).symm

theorem navigator_answerFault (actions : List Action) (fault : LiveReload.Fault) (c : Client)
    (f : Followed σ) :
    (answerFault actions fault c f).source.navigator = f.navigator ∧
      (answerFault actions fault c f).outcome ≠ some .reloaded := by
  unfold answerFault
  split
  · exact ⟨rfl, nofun⟩
  · exact ⟨rfl, nofun⟩

/-- A round is told to the navigator exactly if it reloads the page. -/
theorem navigator_playRound (c : Client) (f : Followed σ) :
    (playRound c f).source.navigator =
      if (playRound c f).outcome = some .reloaded then f.navigator.reload else f.navigator := by
  rcases hconnect : EventSource.connect f c.options.endpoint with ⟨fault | connection, f'⟩
  · rw [playRound_of_refused hconnect]
    obtain ⟨hnavigator, houtcome⟩ := navigator_answerFault
      (connectionCalls c.options.endpoint false) fault c f'
    rw [if_neg houtcome, hnavigator, navigator_connect hconnect]
  · have hkeeps : (readConnection c.onOpen f' connection).2.2.2.navigator = f'.navigator :=
      readConnection_keeps (fun _ _ => rfl) c.onOpen f' connection
    rw [navigator_connect hconnect] at hkeeps
    rcases hread : readConnection c.onOpen f' connection with
      ⟨_ | fault, c', connection', f''⟩
    · rw [hread] at hkeeps
      rw [playRound_of_reload hconnect hread, if_pos rfl]
      exact congrArg Navigator.reload hkeeps
    · rw [hread] at hkeeps
      rw [playRound_of_fault hconnect hread]
      obtain ⟨hnavigator, houtcome⟩ := navigator_answerFault
        (connectionCalls c.options.endpoint true) fault c'
        (EventSource.close f'' connection').2
      rw [if_neg houtcome, hnavigator]
      exact hkeeps

theorem navigator_of_runCourse {c : Client} {f : Followed σ} {run : Run (Followed σ)}
    (h : Run.IsCourse c f run) :
    run.source.navigator =
      if run.outcome = .reloaded then f.navigator.reload else f.navigator := by
  induction h with
  | @last c c' f f' outcome actions h =>
      have hround := navigator_playRound c f
      rw [h] at hround
      simpa using hround
  | @again c c' f f' actions run h rest ih =>
      have hround := navigator_playRound c f
      rw [h] at hround
      have hround : f'.navigator = f.navigator := hround
      rw [← hround]
      exact ih

/-- The navigator of a visit is told about each of its reloads. -/
theorem navigator_of_visitCourse {options : Options} {once : Bool} {f : Followed σ}
    {loads : List (Run (Followed σ))} {visit : Visit (Followed σ)}
    (h : Visit.IsCourse options once f loads visit) {run : Runner} {command : List String}
    {n : Nat} (hnavigator : f.navigator = .after run command n) :
    visit.source.navigator = .after run command (n + visit.actions.count .reload) := by
  induction h generalizing n with
  | last h hlast =>
      rw [navigator_of_runCourse h, h.count_reload, hnavigator]
      split <;> rfl
  | again h hreload honce rest ih =>
      have hnext := navigator_of_runCourse h
      rw [if_pos hreload, hnavigator] at hnext
      rw [ih (n := n + 1) hnext, List.count_append, h.count_reload, if_pos hreload,
        Nat.add_assoc]

end Navigators

/-! ## What following comes to -/

/-- What is always true of a visit with a command that is run at its reloads. -/
structure IsFollowed {σ : Type} (once : Bool) (visit : Visit (Followed σ)) (run : Runner)
    (url : String) (command : List String) : Prop where
  /-- The command is run once for each reload, and not otherwise. -/
  rebuilds : visit.source.navigator.rebuilds =
    .after run command (visit.actions.count .reload)
  /-- The two counts of reloads are both those of the reloads that were made. -/
  reloads : visit.reloads = .ofNat (visit.actions.count .reload) ∧
    visit.source.navigator.rebuilds.count = visit.reloads
  failures : visit.source.navigator.rebuilds.failures =
    .ofNat (failuresUpTo run command (visit.actions.count .reload))
  no_command : command = [] → visit.source.navigator.rebuilds.failures = 0
  /-- With `once`, the first reload is the only one and the last thing done. -/
  stops : once = true →
    visit.actions.count .reload = (if visit.outcome = .reloaded then 1 else 0) ∧
      (visit.outcome = .reloaded → visit.actions.getLast? = some .reload)
  goes_on : once = false → visit.outcome = .gaveUp
  result_of_gaveUp : visit.outcome = .gaveUp →
    visitResult url visit =
      .error (.gaveUp url visit.reloads visit.source.navigator.rebuilds.failures)
  result_of_reloaded : visit.outcome = .reloaded →
    visitResult url visit =
      if failuresUpTo run command 1 = 0 then .ok () else .error (.commandFailed 1)
  ok_iff : visitResult url visit = .ok () ↔
    once = true ∧ .reload ∈ visit.actions ∧
      failuresUpTo run command (visit.actions.count .reload) = 0

theorem visitResult_of_one_reload {σ : Type} {visit : Visit (Followed σ)} {run : Runner}
    {command : List String}
    (hrebuilds : visit.source.navigator.rebuilds = .after run command 1)
    (houtcome : visit.outcome = .reloaded) (url : String) :
    visitResult url visit =
      if failuresUpTo run command 1 = 0 then .ok () else .error (.commandFailed 1) := by
  have hle := failuresUpTo_le run command 1
  rw [visitResult, houtcome, hrebuilds, Rebuilds.after_failures]
  obtain hnone | hone : failuresUpTo run command 1 = 0 ∨ failuresUpTo run command 1 = 1 := by
    omega
  · rw [hnone]
    rfl
  · rw [hone]
    rfl

theorem isFollowed_of_isCourse {σ κ : Type} [Outside σ κ] {options : Options}
    {once : Bool} {source : σ} {loads : List (Run (Followed σ))} {visit : Visit (Followed σ)}
    {run : Runner} {command : List String}
    (h : Visit.IsCourse options once ⟨source, { run, command }⟩ loads visit) (url : String) :
    IsFollowed once visit run url command := by
  have hrebuilds : visit.source.navigator.rebuilds =
      .after run command (visit.actions.count .reload) := by
    rw [navigator_of_visitCourse h (n := 0) rfl, Nat.zero_add]
    rfl
  have hstops : once = true →
      visit.actions.count .reload = (if visit.outcome = .reloaded then 1 else 0) ∧
        (visit.outcome = .reloaded → visit.actions.getLast? = some .reload) := by
    rintro rfl
    exact h.of_once
  have hgaveUp (houtcome : visit.outcome = .gaveUp) :
      visitResult url visit =
        .error (.gaveUp url visit.reloads visit.source.navigator.rebuilds.failures) := by
    rw [visitResult, houtcome]
    rfl
  have honce (houtcome : visit.outcome = .reloaded) : once = true := by
    cases once with
    | true => rfl
    | false => exact absurd (h.of_not_once rfl) (by simp [houtcome])
  have hone (houtcome : visit.outcome = .reloaded) : visit.actions.count .reload = 1 := by
    rw [(hstops (honce houtcome)).1, if_pos houtcome]
  have hresult (houtcome : visit.outcome = .reloaded) :
      visitResult url visit =
        if failuresUpTo run command 1 = 0 then .ok () else .error (.commandFailed 1) := by
    rw [hone houtcome] at hrebuilds
    exact visitResult_of_one_reload hrebuilds houtcome url
  refine ⟨hrebuilds, ⟨h.reloads_eq, ?_⟩, ?_, ?_, hstops, h.of_not_once, hgaveUp, hresult, ?_⟩
  · rw [hrebuilds, Rebuilds.after_count, h.reloads_eq]
  · rw [hrebuilds, Rebuilds.after_failures]
  · rintro rfl
    rw [hrebuilds, Rebuilds.after_failures, failuresUpTo_nil]
    rfl
  · cases houtcome : visit.outcome with
    | reloaded =>
        have hmem : .reload ∈ visit.actions :=
          List.count_pos_iff.mp (Nat.lt_of_lt_of_eq Nat.one_pos (hone houtcome).symm)
        rw [hresult houtcome, hone houtcome]
        simp [honce houtcome, hmem]
    | gaveUp =>
        rw [hgaveUp houtcome]
        refine iff_of_false nofun ?_
        rintro ⟨rfl, hmem, -⟩
        have hcount := (hstops rfl).1
        rw [houtcome] at hcount
        exact List.count_eq_zero.mp hcount hmem

/-- Following a script plays page loads, each with a new client over what is left of the
script, whatever command is run at the reloads, and what is returned is told by them.  The
reloads and the failures are counted in 32 bits, so both counts are exact as long as they
fit into these.  If the policy is limited, following does return: no more than that many
connections are tried after those of the script. -/
theorem follow_script (options : Options) (once : Bool) (s : Script) (run : Runner)
    (command : List String) :
    let followed : Followed Script := ⟨s, { run, command }⟩
    (Visit.of? options once followed).map (·.map Followed.source) =
        Visit.of? options once s ∧
      (∀ visit, Visit.of? options once followed = some visit ↔
        ∃ loads, Visit.IsCourse options once followed loads visit) ∧
      (∀ visit, Visit.of? options once followed = some visit →
        visit.actions.count .reload ≤ s.calls.length ∧
        ∀ url, IsFollowed once visit run url command ∧
          (s.calls.length < UInt32.size →
            visit.reloads.toNat = visit.actions.count .reload ∧
              visit.source.navigator.rebuilds.failures.toNat =
                failuresUpTo run command (visit.actions.count .reload))) ∧
      ∀ limit, options.reconnect.limit? = some limit → limit.toNat < UInt32.size - 1 →
        ∃ visit, Visit.of? options once followed = some visit ∧
          connects visit.actions ≤ s.calls.length + limit.toNat + 1 := by
  intro followed
  have hsee := (Followed.view Script).visitOf?_see options once followed
  refine ⟨hsee.symm, fun visit => Visit.of?_eq_some_iff (Followed.view Script), ?_, ?_⟩
  · intro visit hvisit
    obtain ⟨loads, hloads⟩ := (Visit.of?_eq_some_iff (Followed.view Script)).mp hvisit
    have hcount : visit.actions.count .reload ≤ s.calls.length :=
      hloads.count_reload_le (Followed.view Script)
    refine ⟨hcount, fun url => ?_⟩
    have hfollowed := isFollowed_of_isCourse hloads url
    refine ⟨hfollowed, fun hlength => ?_⟩
    have hfailures := failuresUpTo_le run command (visit.actions.count .reload)
    constructor
    · rw [hfollowed.reloads.1]
      exact UInt32.toNat_ofNat_of_lt (Nat.lt_of_le_of_lt hcount hlength)
    · rw [hfollowed.failures]
      exact UInt32.toNat_ofNat_of_lt
        (Nat.lt_of_le_of_lt (Nat.le_trans hfailures hcount) hlength)
  · intro limit hlimit hlt
    obtain ⟨seen, hseen⟩ := Visit.exists_of?_eq_some hlimit (by omega) once s
    have hsource : Visit.of? options once ((Followed.view Script).see followed) = some seen :=
      hseen
    rw [hsee] at hsource
    obtain ⟨visit, hvisit, -⟩ := Option.map_eq_some_iff.mp hsource
    obtain ⟨loads, hloads⟩ := (Visit.of?_eq_some_iff (Followed.view Script)).mp hvisit
    have hconnects := hloads.connects_le (Followed.view Script)
    rw [hlimit] at hconnects
    exact ⟨visit, hvisit, hconnects⟩

/-- Two rebuilds, of which the second one's command fails, and then no more connection. -/
theorem follow_script_two_rebuilds :
    let options : Options := { reconnect := .never }
    let rebuilt : ScriptedCall := .ok [.ok (.message ⟨"message", "rebuilt", none⟩)]
    let s : Script := ⟨[rebuilt, rebuilt]⟩
    let run : Runner := fun i _ => { ending := .exited (if i = 2 then 1 else 0) }
    let followed : Followed Script := ⟨s, { run, command := ["make"] }⟩
    let visit : Visit (Followed Script) := ⟨2, .gaveUp,
      [.connect "/ss-events", .close, .reload, .connect "/ss-events", .close, .reload,
        .connect "/ss-events"], ⟨⟨[]⟩, .after run ["make"] 2⟩⟩
    Visit.of? options false followed = some visit ∧
      visitResult "http://docs/ss-events" visit =
        .error (.gaveUp "http://docs/ss-events" 2 1) ∧
      visit.actions.count .reload ≤ s.calls.length ∧
      IsFollowed false visit run "http://docs/ss-events" ["make"] ∧
      ∃ visit, Visit.of? options false followed = some visit ∧
        connects visit.actions ≤ s.calls.length + (0 : UInt32).toNat + 1 := by
  intro options rebuilt s run followed visit
  have h : Visit.of? options false followed = some visit := by
    simp [options, rebuilt, s, followed, visit, Visit.of?, Visit.within?, Run.of?,
      Run.budget, Run.within?, playRound, answerFault, readConnection, EventSource.connect,
      EventSource.next, EventSource.close, EventSource.stock, Outside.reload, Script.connect,
      ScriptedConnection.next, Client.new, Client.onOpen, Client.onMessage, Client.onFault,
      Fault.unscripted, Fault.isRetryable, ReconnectPolicy.delay?, ReconnectPolicy.limit?,
      EventStream.Message.isPlain, EventStream.defaultEvent, defaultEndpoint,
      Navigator.reload, Navigator.after, Rebuilds.after]
  obtain ⟨-, -, hall, hends⟩ := follow_script options false s run ["make"]
  obtain ⟨hcount, hfollowed⟩ := hall visit h
  exact ⟨h, rfl, hcount, (hfollowed _).1, hends 0 rfl (by decide)⟩

end CommandLine
end LivePage
