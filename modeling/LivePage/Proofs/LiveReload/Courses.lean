import LivePage.LiveReload.Run

/-!
# Courses of a run

A run that ends has gone through some rounds, all but the last of which left it open
how it ends.  The number of rounds that it was given plays no part.
-/

namespace LivePage
namespace LiveReload

variable {σ κ : Type} [Outside σ κ]

/-- The rounds that lead to a run. -/
inductive Run.IsCourse : Client → σ → Run σ → Prop where
  | last {client client' : Client} {source source' : σ} {outcome : Outcome}
      {actions : List Action}
      (h : playRound client source = ⟨some outcome, actions, client', source'⟩) :
      IsCourse client source ⟨outcome, actions, client', source'⟩
  | again {client client' : Client} {source source' : σ} {actions : List Action}
      {run : Run σ}
      (h : playRound client source = ⟨none, actions, client', source'⟩)
      (rest : IsCourse client' source' run) :
      IsCourse client source { run with actions := actions ++ run.actions }

theorem Run.within?_succ_of_some {client client' : Client} {source source' : σ}
    {outcome : Outcome} {actions : List Action}
    (h : playRound client source = ⟨some outcome, actions, client', source'⟩)
    (limit : Nat) :
    within? (limit + 1) client source = some ⟨outcome, actions, client', source'⟩ := by
  rw [within?, h]

theorem Run.within?_succ_of_none {client client' : Client} {source source' : σ}
    {actions : List Action}
    (h : playRound client source = ⟨none, actions, client', source'⟩) (limit : Nat) :
    within? (limit + 1) client source =
      (within? limit client' source').map fun run =>
        { run with actions := actions ++ run.actions } := by
  rw [within?, h]

theorem Run.isCourse_of_within? {limit : Nat} {client : Client} {source : σ}
    {run : Run σ} (h : within? limit client source = some run) :
    IsCourse client source run := by
  induction limit generalizing client source run with
  | zero => cases h
  | succ limit ih =>
      rcases hround : playRound client source with
        ⟨_ | outcome, actions, client', source'⟩
      · rw [within?_succ_of_none hround, Option.map_eq_some_iff] at h
        obtain ⟨run, hrest, rfl⟩ := h
        exact .again hround (ih hrest)
      · rw [within?_succ_of_some hround, Option.some_inj] at h
        subst h
        exact .last hround

end LiveReload
end LivePage
