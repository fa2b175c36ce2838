import Mathlib.Data.List.DropRight
import LivePage.Proofs.EventStream.Decoding

/-!
# Event ids

Lines set the id buffer of a stream, and a blank line puts it in force.  Both ids
follow from the lines alone, whatever else the stream holds.
-/

namespace LivePage
namespace EventStream

/-! ## What lines do to the id buffer -/

/-- The id buffer after a line.  Only an `id` field changes it, and not with a value
that holds NUL; an empty value clears it. -/
def idAfterLine (id : Option String) (line : List Char) : Option String :=
  let field := Field.ofLine line
  if field.name = "id".toList ∧ '\x00' ∉ field.value then
    if field.value = [] then none else some (String.ofList field.value)
  else id

/-- The id buffer after some lines. -/
def idBuffer (id : Option String) (lines : List (List Char)) : Option String :=
  lines.foldl idAfterLine id

/-- Some lines up to the last blank one. -/
def endedLines (lines : List (List Char)) : List (List Char) :=
  lines.rdropWhile (· ≠ [])

/-- The id in force after some lines: the id buffer as it stood at the last blank
line, or the id before all lines where none is blank. -/
def committedId (id : Option String) (lines : List (List Char)) : Option String :=
  idBuffer id (endedLines lines)

theorem idBuffer_append (id : Option String) (lines more : List (List Char)) :
    idBuffer id (lines ++ more) = idBuffer (idBuffer id lines) more :=
  List.foldl_append

theorem committedId_concat_blank (id : Option String) (lines : List (List Char)) :
    committedId id (lines ++ [[]]) = idBuffer id lines := by
  rw [committedId, endedLines, List.rdropWhile_concat_neg _ _ _ (by simp),
    idBuffer_append]
  rfl

theorem committedId_concat_of_ne_nil (id : Option String) (lines : List (List Char))
    {line : List Char} (hline : line ≠ []) :
    committedId id (lines ++ [line]) = committedId id lines := by
  rw [committedId, endedLines, List.rdropWhile_concat_pos _ _ _ (by simpa using hline)]
  rfl

theorem ofList_ne_empty {cs : List Char} (h : cs ≠ []) : String.ofList cs ≠ "" := by
  simpa [← String.toList_inj] using h

/-- A line leaves the buffer as it is, or puts its own value there whatever it held. -/
theorem idAfterLine_eq_some {id : Option String} {line : List Char} {value : String}
    (h : idAfterLine id line = some value) :
    id = some value ∨ idAfterLine none line = some value := by
  unfold idAfterLine at h ⊢
  dsimp only at h ⊢
  split_ifs at h ⊢
  · exact Or.inr h
  · exact Or.inl h

/-- What a buffer holds was there before the lines, or one of them has put it there. -/
theorem idBuffer_eq_some {id : Option String} {lines : List (List Char)} {value : String}
    (h : idBuffer id lines = some value) :
    id = some value ∨ ∃ line ∈ lines, idAfterLine none line = some value := by
  induction lines generalizing id with
  | nil => exact Or.inl h
  | cons line lines ih =>
      rcases ih h with hline | ⟨later, hmem, hlater⟩
      · rcases idAfterLine_eq_some hline with hid | hset
        · exact Or.inl hid
        · exact Or.inr ⟨line, List.mem_cons_self, hset⟩
      · exact Or.inr ⟨later, List.mem_cons_of_mem line hmem, hlater⟩

theorem committedId_eq_some {id : Option String} {lines : List (List Char)} {value : String}
    (h : committedId id lines = some value) :
    id = some value ∨ ∃ line ∈ lines, idAfterLine none line = some value := by
  have hended : endedLines lines <+: lines := List.rdropWhile_prefix _ lines
  rcases idBuffer_eq_some h with hid | ⟨line, hmem, hset⟩
  · exact Or.inl hid
  · exact Or.inr ⟨line, hended.mem hmem, hset⟩

/-! ## Decoders -/

namespace Decoder

/-- A line that is not blank is a field.  A comment is one too, without a name. -/
theorem line_of_ne_nil (d : Decoder) {line : List Char} (hline : line ≠ []) :
    d.line line = d.field (Field.ofLine line) := by
  match line, hline with
  | c :: cs, _ =>
      by_cases hc : c = ':'
      · subst hc
        simp [Decoder.line, field, Field.ofLine]
      · unfold Decoder.line
        split <;> simp_all

theorem lastEventId_field (d : Decoder) (f : Field) :
    (d.field f).2.lastEventId = d.lastEventId := by
  unfold field
  split_ifs <;> rfl

theorem pendingId_field (d : Decoder) (f : Field) :
    (d.field f).2.pendingId =
      if f.name = "id".toList ∧ '\x00' ∉ f.value then
        if f.value = [] then none else some (String.ofList f.value)
      else d.pendingId := by
  by_cases hid : f.name = "id".toList
  · by_cases hnul : '\x00' ∈ f.value
    · simp [field, hid, hnul]
    · by_cases hvalue : f.value = [] <;> simp [field, hid, hnul, hvalue]
  · simp only [field, hid, if_false, false_and]
    split_ifs <;> rfl

theorem takeEvent_left (d : Decoder) : d.takeEvent.2 = [] := by
  unfold takeEvent
  split_ifs with hevent
  · exact hevent
  · rfl

theorem dispatch_of_data_nil {d : Decoder} (hdata : d.data = []) :
    d.dispatch = (none, { d with event := [], lastEventId := d.pendingId }) := by
  rw [dispatch, if_pos hdata]

theorem dispatch_of_data_ne_nil {d : Decoder} (hdata : d.data ≠ []) :
    d.dispatch =
      (some (.message ⟨d.takeEvent.1, String.ofList (chomp d.data), d.pendingId⟩),
        { d with data := [], event := d.takeEvent.2, lastEventId := d.pendingId }) := by
  rw [dispatch, if_neg hdata]
  rfl

/-- Each way through a blank line leaves the three buffers of an event empty: what the one does
not clear was found empty. -/
theorem line_blank (d : Decoder) : (d.line []).2 = resume d.pendingId := by
  show d.dispatch.2 = resume d.pendingId
  by_cases hdata : d.data = []
  · rw [dispatch_of_data_nil hdata, hdata]
    rfl
  · rw [dispatch_of_data_ne_nil hdata, takeEvent_left]
    rfl

/-- Only a blank line puts an id in force. -/
theorem lastEventId_line (d : Decoder) {line : List Char} (hline : line ≠ []) :
    (d.line line).2.lastEventId = d.lastEventId := by
  rw [line_of_ne_nil d hline, lastEventId_field]

/-- Every line takes the id buffer where `idAfterLine` says. -/
theorem pendingId_line (d : Decoder) (line : List Char) :
    (d.line line).2.pendingId = idAfterLine d.pendingId line := by
  by_cases hline : line = []
  · subst hline
    rw [line_blank]
    rfl
  · rw [line_of_ne_nil d hline, pendingId_field]
    rfl

theorem pendingId_feed (d : Decoder) (lines : List (List Char)) :
    (d.feed lines).pendingId = idBuffer d.pendingId lines := by
  induction lines generalizing d with
  | nil => rfl
  | cons line lines ih =>
      rw [feed_cons, ih, pendingId_line]
      rfl

/-- The id in force is the id buffer as it stood at the last blank line. -/
theorem lastEventId_feed_resume (id : Option String) (lines : List (List Char)) :
    ((resume id).feed lines).lastEventId = committedId id lines := by
  induction lines using List.reverseRecOn with
  | nil => rfl
  | append_singleton lines line ih =>
      rw [feed_append, feed_cons, feed_nil]
      by_cases hline : line = []
      · subst hline
        rw [line_blank, committedId_concat_blank]
        exact pendingId_feed _ _
      · rw [lastEventId_line _ hline, ih, committedId_concat_of_ne_nil _ _ hline]

/-- An id that no blank line ends is not in force. -/
example : committedId none ["id: 4".toList, [], "id".toList] = some "4" := by
  decide

end Decoder
end EventStream
end LivePage
