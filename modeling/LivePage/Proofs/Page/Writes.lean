import LivePage.Page.Document

/-!
# What a write changes

A style or a class of an element that exists is as it was written last, and everything
else about a document stays as it was.
-/

namespace LivePage
namespace Page

@[simp] theorem assign_self {α β : Type} [DecidableEq α] (f : α → β) (a : α) (b : β) :
    assign f a b a = b :=
  if_pos rfl

/-- A value at two keys is replaced there only. -/
theorem assign_assign_of_ne {α β γ : Type} [DecidableEq α] [DecidableEq β]
    (f : α → β → γ) {a x : α} {b y : β} (h : ¬(x = a ∧ y = b)) (c : γ) :
    assign f a (assign (f a) b c) x y = f x y := by
  by_cases hx : x = a
  · subst hx
    have hy : y ≠ b := fun hy => h ⟨rfl, hy⟩
    rw [assign_self, assign, if_neg hy]
  · rw [assign, if_neg hx]

/-- Where each step of a fold may write a value, the fold leaves the one written last. -/
theorem foldl_last_write {σ α β : Type} {step : σ → α → σ} {write? : α → Option β}
    {IsKept : σ → Prop} (read : σ → β) (hkept : ∀ s a, IsKept s → IsKept (step s a))
    (hread : ∀ s a, IsKept s → read (step s a) = (write? a).getD (read s)) {s : σ}
    (hs : IsKept s) (l : List α) :
    read (l.foldl step s) = (l.filterMap write?).getLast?.getD (read s) := by
  induction l generalizing s with
  | nil => rfl
  | cons a l ih =>
      rw [List.foldl_cons, ih (hkept s a hs), hread s a hs]
      cases hwrite : write? a with
      | none => rw [List.filterMap_cons_none hwrite, Option.getD_none]
      | some b => simp [List.filterMap_cons_some hwrite, List.getLast?_cons]

namespace Document

variable (d : Document) {id : String}

/-! ## What is written -/

theorem style_setStyle (h : d.hasElement id = true) (property value : String) :
    (d.setStyle id property value).style id property = some value := by
  rw [setStyle, if_pos h]
  simp only [assign_self]

theorem hasClass_setClass (h : d.hasElement id = true) (name : String) (present : Bool) :
    (d.setClass id name present).hasClass id name = present := by
  rw [setClass, if_pos h]
  simp only [assign_self]

@[simp] theorem listeners_addListener (l : Listener) :
    (d.addListener l).listeners = d.listeners ++ [l] :=
  rfl

@[simp] theorem listeners_removeListener (l : Listener) :
    (d.removeListener l).listeners = d.listeners.erase l :=
  rfl

/-! ## What is not written -/

theorem style_setStyle_of_ne {other name property : String}
    (h : ¬(other = id ∧ name = property)) (value : String) :
    (d.setStyle id property value).style other name = d.style other name := by
  unfold setStyle
  split
  · exact assign_assign_of_ne d.style h (some value)
  · rfl

theorem hasClass_setClass_of_ne {other name written : String}
    (h : ¬(other = id ∧ name = written)) (present : Bool) :
    (d.setClass id written present).hasClass other name = d.hasClass other name := by
  unfold setClass
  split
  · exact assign_assign_of_ne d.hasClass h present
  · rfl

@[simp] theorem hasElement_setStyle (id property value : String) :
    (d.setStyle id property value).hasElement = d.hasElement := by
  unfold setStyle
  split <;> rfl

@[simp] theorem hasClass_setStyle (id property value : String) :
    (d.setStyle id property value).hasClass = d.hasClass := by
  unfold setStyle
  split <;> rfl

@[simp] theorem hasElement_setClass (id name : String) (present : Bool) :
    (d.setClass id name present).hasElement = d.hasElement := by
  unfold setClass
  split <;> rfl

@[simp] theorem style_setClass (id name : String) (present : Bool) :
    (d.setClass id name present).style = d.style := by
  unfold setClass
  split <;> rfl

@[simp] theorem hasElement_addListener (l : Listener) :
    (d.addListener l).hasElement = d.hasElement :=
  rfl

@[simp] theorem style_addListener (l : Listener) : (d.addListener l).style = d.style :=
  rfl

@[simp] theorem hasClass_addListener (l : Listener) :
    (d.addListener l).hasClass = d.hasClass :=
  rfl

@[simp] theorem hasElement_removeListener (l : Listener) :
    (d.removeListener l).hasElement = d.hasElement :=
  rfl

@[simp] theorem style_removeListener (l : Listener) :
    (d.removeListener l).style = d.style :=
  rfl

@[simp] theorem hasClass_removeListener (l : Listener) :
    (d.removeListener l).hasClass = d.hasClass :=
  rfl

@[simp] theorem rootAttribute_setStyle (id property value : String) :
    (d.setStyle id property value).rootAttribute = d.rootAttribute := by
  unfold setStyle
  split <;> rfl

@[simp] theorem rootAttribute_setClass (id name : String) (present : Bool) :
    (d.setClass id name present).rootAttribute = d.rootAttribute := by
  unfold setClass
  split <;> rfl

@[simp] theorem rootAttribute_addListener (l : Listener) :
    (d.addListener l).rootAttribute = d.rootAttribute :=
  rfl

@[simp] theorem rootAttribute_removeListener (l : Listener) :
    (d.removeListener l).rootAttribute = d.rootAttribute :=
  rfl

@[simp] theorem listeners_setStyle (id property value : String) :
    (d.setStyle id property value).listeners = d.listeners := by
  unfold setStyle
  split <;> rfl

@[simp] theorem listeners_setClass (id name : String) (present : Bool) :
    (d.setClass id name present).listeners = d.listeners := by
  unfold setClass
  split <;> rfl

@[simp] theorem viewportWidth_setStyle (id property value : String) :
    (d.setStyle id property value).viewportWidth = d.viewportWidth := by
  unfold setStyle
  split <;> rfl

@[simp] theorem viewportWidth_setClass (id name : String) (present : Bool) :
    (d.setClass id name present).viewportWidth = d.viewportWidth := by
  unfold setClass
  split <;> rfl

@[simp] theorem viewportWidth_addListener (l : Listener) :
    (d.addListener l).viewportWidth = d.viewportWidth :=
  rfl

@[simp] theorem viewportWidth_removeListener (l : Listener) :
    (d.removeListener l).viewportWidth = d.viewportWidth :=
  rfl

end Document
end Page
end LivePage
