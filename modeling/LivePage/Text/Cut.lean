/-!
# Cutting text

A text is cut at every separator.  The parts are what is between two separators,
so that there is one more of them than there are separators.
-/

namespace LivePage
namespace Text

/-- Cuts a text at every separator. -/
def cutAll (separator : Char → Bool) : List Char → List (List Char)
  | [] => [[]]
  | c :: cs =>
    if separator c then [] :: cutAll separator cs
    else
      match cutAll separator cs with
      | [] => [[c]]
      | part :: parts => (c :: part) :: parts

theorem cutAll_ne_nil (separator : Char → Bool) (cs : List Char) :
    cutAll separator cs ≠ [] := by
  cases cs with
  | nil => simp [cutAll]
  | cons c cs =>
    unfold cutAll
    split
    · simp
    · split <;> simp

theorem length_cutAll (separator : Char → Bool) (cs : List Char) :
    (cutAll separator cs).length = cs.countP separator + 1 := by
  induction cs with
  | nil => rfl
  | cons c cs ih =>
    unfold cutAll
    by_cases hc : separator c
    · simp [hc, ih]
    · rw [List.countP_cons_of_neg hc, ← ih]
      cases h : cutAll separator cs with
      | nil => exact absurd h (cutAll_ne_nil separator cs)
      | cons part parts => simp [hc]

/-- A text is cut where its first part ends. -/
theorem cut_append {keeps : Char → Bool} {body after : List Char}
    (hbody : ∀ c ∈ body, keeps c = true) (hafter : ∀ c ∈ after.head?, keeps c = false) :
    (body ++ after).takeWhile keeps = body ∧ (body ++ after).dropWhile keeps = after := by
  rw [List.takeWhile_append_of_pos hbody, List.dropWhile_append_of_pos hbody]
  cases after with
  | nil => simp
  | cons c after => simp [hafter c rfl]

/-- A text is cut at the first of its marks. -/
theorem cut_at_mark {mark : Char} {body : List Char} (h : mark ∉ body) (after : List Char) :
    (body ++ mark :: after).takeWhile (· ≠ mark) = body ∧
      (body ++ mark :: after).dropWhile (· ≠ mark) = mark :: after := by
  refine cut_append ?_ ?_
  · intro c hc
    refine decide_eq_true fun heq => ?_
    exact h (heq ▸ hc)
  · rintro _ ⟨⟩
    exact decide_eq_false fun hne => hne rfl

end Text
end LivePage
