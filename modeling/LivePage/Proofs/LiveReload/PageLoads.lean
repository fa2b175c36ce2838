import LivePage.Proofs.LiveReload.CallOrder
import LivePage.Proofs.LiveReload.ScriptedEnds

/-!
# Page loads

A visit goes through page loads.  Each of them runs a new client, which knows nothing
of the clients before it, over what they have left of the source.  Over a script all
loads together try no more connections than one client could: a reload uses up the call
of the script that it came from, and only the last client can go on past the end.
-/

namespace LivePage
namespace LiveReload

variable {σ κ : Type} [Outside σ κ]

/-- The page loads that lead to a visit. -/
inductive Visit.IsCourse (options : Options) (once : Bool) :
    σ → List (Run σ) → Visit σ → Prop where
  | last {source : σ} {run : Run σ} (h : Run.IsCourse (.new options) source run)
      (hlast : once = true ∨ run.outcome = .gaveUp) :
      IsCourse options once source [run]
        ⟨if run.outcome = .reloaded then 1 else 0, run.outcome, run.actions, run.source⟩
  | again {source : σ} {run : Run σ} {loads : List (Run σ)} {visit : Visit σ}
      (h : Run.IsCourse (.new options) source run) (hreload : run.outcome = .reloaded)
      (honce : once = false) (rest : IsCourse options once run.source loads visit) :
      IsCourse options once source (run :: loads)
        { visit with
          reloads := visit.reloads + 1
          actions := run.actions ++ visit.actions }

theorem Outcome.eq_reloaded_of_ne {outcome : Outcome} (h : outcome ≠ .gaveUp) :
    outcome = .reloaded := by
  cases outcome with
  | reloaded => rfl
  | gaveUp => exact absurd rfl h

section Equations

variable {options : Options} {once : Bool} {source : σ} {run : Run σ}

theorem Visit.within?_succ_of_last (h : Run.of? (.new options) source = some run)
    (hlast : once = true ∨ run.outcome = .gaveUp) (limit : Nat) :
    within? options once (limit + 1) source =
      some ⟨if run.outcome = .reloaded then 1 else 0, run.outcome, run.actions,
        run.source⟩ := by
  obtain ⟨_ | _, actions, client, source'⟩ := run
  · have honce : once = true := by simpa using hlast
    rw [within?, h]
    exact if_pos honce
  · rw [within?, h]
    rfl

theorem Visit.within?_succ_of_again (h : Run.of? (.new options) source = some run)
    (hreload : run.outcome = .reloaded) (honce : once = false) (limit : Nat) :
    within? options once (limit + 1) source =
      (within? options once limit run.source).map fun visit =>
        { visit with
          reloads := visit.reloads + 1
          actions := run.actions ++ visit.actions } := by
  obtain ⟨outcome, actions, client, source'⟩ := run
  subst hreload honce
  rw [within?, h]
  rfl

end Equations

theorem Visit.exists_isCourse_of_within? {options : Options} {once : Bool} {limit : Nat}
    {source : σ} {visit : Visit σ}
    (h : within? options once limit source = some visit) :
    ∃ loads, IsCourse options once source loads visit := by
  induction limit generalizing source visit with
  | zero => cases h
  | succ limit ih =>
      cases hrun : Run.of? (.new options) source with
      | none =>
          rw [within?, hrun] at h
          cases h
      | some run =>
          have hcourse := Run.isCourse_of_within? hrun
          by_cases hlast : once = true ∨ run.outcome = .gaveUp
          · rw [within?_succ_of_last hrun hlast, Option.some_inj] at h
            subst h
            exact ⟨_, .last hcourse hlast⟩
          · rw [not_or, Bool.not_eq_true] at hlast
            have hreload := Outcome.eq_reloaded_of_ne hlast.2
            rw [within?_succ_of_again hrun hreload hlast.1, Option.map_eq_some_iff] at h
            obtain ⟨visit, hvisit, rfl⟩ := h
            obtain ⟨loads, hloads⟩ := ih hvisit
            exact ⟨_, .again hcourse hreload hlast.1 hloads⟩

/-! ## Reloads -/

theorem Run.IsCourse.count_reload {client : Client} {source : σ} {run : Run σ}
    (h : IsCourse client source run) :
    run.actions.count .reload = if run.outcome = .reloaded then 1 else 0 := by
  obtain ⟨record, -, -, horderly⟩ :=
    isOrderly_of_within? (within?_of_isCourse h (Nat.le_refl _))
  exact horderly.count_reload

theorem Run.IsCourse.getLast?_actions {client : Client} {source : σ} {run : Run σ}
    (h : IsCourse client source run) (houtcome : run.outcome = .reloaded) :
    run.actions.getLast? = some .reload := by
  induction h with
  | @last client client' source source' outcome actions h =>
      have hplays := playRound_playsTo client source
      rw [h] at hplays
      cases hplays with
      | reload => exact List.getLast?_concat
      | giveUp => cases houtcome
  | @again client client' source source' actions run h rest ih =>
      show (actions ++ run.actions).getLast? = some .reload
      rw [List.getLast?_append, ih houtcome]
      rfl

namespace Visit.IsCourse

variable {options : Options} {once : Bool} {source : σ} {loads : List (Run σ)}
  {visit : Visit σ}

/-- The reloads of a visit are counted as they are made. -/
theorem reloads_eq (h : IsCourse options once source loads visit) :
    visit.reloads = .ofNat (visit.actions.count .reload) := by
  induction h with
  | last h hlast =>
      simp only [h.count_reload]
      split <;> rfl
  | again h hreload honce rest ih =>
      rw [List.count_append, h.count_reload, if_pos hreload, ih, UInt32.ofNat_add,
        UInt32.add_comm]
      rfl

/-- A visit that is over at the first reload does nothing after it. -/
theorem of_once (h : IsCourse options true source loads visit) :
    visit.actions.count .reload = (if visit.outcome = .reloaded then 1 else 0) ∧
      (visit.outcome = .reloaded → visit.actions.getLast? = some .reload) := by
  cases h with
  | last h => exact ⟨h.count_reload, h.getLast?_actions⟩
  | again h hreload honce => cases honce

/-- Any other visit goes on until a client gives up. -/
theorem of_not_once (h : IsCourse options once source loads visit)
    (honce : once = false) : visit.outcome = .gaveUp := by
  induction h with
  | last h hlast => exact hlast.resolve_left (by simp [honce])
  | again h hreload honce' rest ih => exact ih

end Visit.IsCourse

/-! ## Visits over a script -/

section Scripts

variable {τ : Type} [Outside τ ScriptedConnection] (v : View τ Script) {options : Options}
  {once : Bool} {t : τ} {loads : List (Run τ)} {visit : Visit τ}

/-- A reload uses up all calls of the script that were tried before it, of which there
is one at least. -/
theorem Run.IsCourse.connects_add_length {run : Run τ}
    (h : IsCourse (.new options) t run) (houtcome : run.outcome = .reloaded) :
    connects run.actions + (v.see run.source).calls.length = (v.see t).calls.length ∧
      0 < connects run.actions := by
  refine ⟨h.connects_of_reloaded v houtcome, ?_⟩
  cases h with
  | last h => exact Nat.lt_of_lt_of_eq Nat.one_pos (connects_of_playRound h).symm
  | again h rest =>
      rw [connects_append, connects_of_playRound h]
      omega

theorem Visit.IsCourse.count_reload_le (h : IsCourse options once t loads visit) :
    visit.actions.count .reload ≤ (v.see t).calls.length := by
  induction h with
  | @last t run h hlast =>
      rw [h.count_reload]
      split
      · rename_i houtcome
        obtain ⟨hlength, hpos⟩ := h.connects_add_length v houtcome
        omega
      · exact Nat.zero_le _
  | @again t run loads visit h hreload honce rest ih =>
      obtain ⟨hlength, hpos⟩ := h.connects_add_length v hreload
      rw [List.count_append, h.count_reload, if_pos hreload]
      omega

theorem Visit.IsCourse.connects_le (h : IsCourse options once t loads visit) :
    connects visit.actions ≤
      (v.see t).calls.length + (options.reconnect.limit?.getD 0).toNat + 1 := by
  induction h with
  | @last t run h hlast => exact h.connects_le_budget v
  | @again t run loads visit h hreload honce rest ih =>
      obtain ⟨hlength, hpos⟩ := h.connects_add_length v hreload
      rw [connects_append]
      omega

theorem Visit.IsCourse.within?_eq (h : IsCourse options once t loads visit) {limit : Nat}
    (hlimit : (v.see t).calls.length < limit) :
    within? options once limit t = some visit := by
  induction h generalizing limit with
  | @last t run h hlast =>
      obtain ⟨limit, rfl⟩ := Nat.exists_eq_add_of_lt hlimit
      exact within?_succ_of_last ((Run.of?_eq_some_iff v).mpr h) hlast _
  | @again t run loads visit h hreload honce rest ih =>
      obtain ⟨hlength, hpos⟩ := h.connects_add_length v hreload
      obtain ⟨limit, rfl⟩ := Nat.exists_eq_add_of_lt hlimit
      have hrest : (v.see run.source).calls.length < (v.see t).calls.length + limit := by omega
      rw [within?_succ_of_again ((Run.of?_eq_some_iff v).mpr h) hreload honce, ih hrest]
      rfl

/-- The number of page loads that a visit over a script is given keeps none from
ending. -/
theorem Visit.of?_eq_some_iff (v : View τ Script) :
    of? options once t = some visit ↔ ∃ loads, IsCourse options once t loads visit := by
  constructor
  · exact exists_isCourse_of_within?
  · rintro ⟨loads, h⟩
    apply h.within?_eq v
    rw [← v.stock]
    exact Nat.lt_succ_self (v.see t).calls.length

/-- A visit over a script ends if its policy is limited. -/
theorem Visit.exists_of?_eq_some {limit : UInt32}
    (hlimit : options.reconnect.limit? = some limit) (hlt : limit.toNat + 1 < UInt32.size)
    (once : Bool) (s : Script) : ∃ visit, of? options once s = some visit := by
  suffices h : ∃ loads visit, IsCourse options once s loads visit by
    obtain ⟨loads, visit, h⟩ := h
    exact ⟨visit, (of?_eq_some_iff (.refl Script)).mpr ⟨loads, h⟩⟩
  induction hn : s.calls.length using Nat.strongRecOn generalizing s with
  | ind n ih =>
      obtain ⟨run, hrun⟩ :=
        Run.exists_isCourse hlt hlimit (Client.isGoingOn_new options) s
      by_cases hlast : once = true ∨ run.outcome = .gaveUp
      · exact ⟨_, _, .last hrun hlast⟩
      · rw [not_or, Bool.not_eq_true] at hlast
        have hreload := Outcome.eq_reloaded_of_ne hlast.2
        obtain ⟨hlength, hpos⟩ := hrun.connects_add_length (.refl Script) hreload
        have hfewer : run.source.calls.length < n := by
          have hlength : connects run.actions + run.source.calls.length = s.calls.length :=
            hlength
          omega
        obtain ⟨loads, visit, hvisit⟩ := ih _ hfewer run.source rfl
        exact ⟨_, _, .again hrun hreload hlast.1 hvisit⟩

end Scripts

end LiveReload
end LivePage
