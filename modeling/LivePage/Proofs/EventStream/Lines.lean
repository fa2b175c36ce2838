import LivePage.EventStream.Whole
import LivePage.Proofs.Text.LossyDecoding

/-!
# Lines of octets and lines of text

Octets are cut into lines with a flag that says whether a line feed is to be
skipped; a text is cut by looking at two characters at once.  Both are one way of
cutting, and it does not matter whether a stream is cut before it is decoded or
after it.
-/

namespace LivePage
namespace EventStream

/-! ## Cutting at two terminators -/

section Cutting

variable {α : Type} [DecidableEq α] {lf cr : α}

/-- The complete lines of a sequence, after the symbols of a line that has begun,
latest first.  With `skip`, a line feed that comes first is no terminator. -/
def cutLines (lf cr : α) (skip : Bool) (begun : List α) : List α → List (List α)
  | [] => []
  | a :: as =>
    if a = lf then
      if skip then cutLines lf cr false begun as
      else begun.reverse :: cutLines lf cr false [] as
    else if a = cr then begun.reverse :: cutLines lf cr true [] as
    else cutLines lf cr false (a :: begun) as

/-- No terminator occurs. -/
def IsUnterminated (lf cr : α) (l : List α) : Prop :=
  ∀ a ∈ l, a ≠ lf ∧ a ≠ cr

theorem exists_terminator (lf cr : α) (l : List α) :
    IsUnterminated lf cr l ∨
      ∃ line t rest, l = line ++ t :: rest ∧ IsUnterminated lf cr line ∧
        (t = lf ∨ t = cr) := by
  induction l with
  | nil => exact Or.inl (by simp [IsUnterminated])
  | cons a l ih =>
      by_cases ha : a = lf ∨ a = cr
      · exact Or.inr ⟨[], a, l, rfl, by simp [IsUnterminated], ha⟩
      · rw [not_or] at ha
        rcases ih with h | ⟨line, t, rest, rfl, hline, ht⟩
        · exact Or.inl (List.forall_mem_cons.mpr ⟨ha, h⟩)
        · exact Or.inr ⟨a :: line, t, rest, rfl,
            List.forall_mem_cons.mpr ⟨ha, hline⟩, ht⟩

theorem cutLines_append {line : List α} (hline : IsUnterminated lf cr line)
    (skip : Bool) (begun rest : List α) :
    cutLines lf cr skip begun (line ++ rest) =
      cutLines lf cr (skip && line.isEmpty) (line.reverse ++ begun) rest := by
  induction line generalizing skip begun with
  | nil => simp
  | cons a line ih =>
      obtain ⟨ha, hline⟩ := List.forall_mem_cons.mp hline
      rw [List.cons_append, cutLines, if_neg ha.1, if_neg ha.2, ih hline]
      simp

theorem cutLines_of_isUnterminated {line : List α}
    (hline : IsUnterminated lf cr line) (skip : Bool) (begun : List α) :
    cutLines lf cr skip begun line = [] := by
  rw [← List.append_nil line, cutLines_append hline]
  rfl

theorem cutLines_append_lf {line : List α} (hline : IsUnterminated lf cr line)
    {skip : Bool} (hskip : (skip && line.isEmpty) = false) (rest : List α) :
    cutLines lf cr skip [] (line ++ lf :: rest) =
      line :: cutLines lf cr false [] rest := by
  rw [cutLines_append hline, hskip, cutLines, if_pos rfl]
  simp

theorem cutLines_append_cr (hne : cr ≠ lf) {line : List α}
    (hline : IsUnterminated lf cr line) (skip : Bool) (rest : List α) :
    cutLines lf cr skip [] (line ++ cr :: rest) =
      line :: cutLines lf cr true [] rest := by
  rw [cutLines_append hline, cutLines, if_neg hne, if_pos rfl]
  simp

@[simp] theorem cutLines_skip_lf (begun rest : List α) :
    cutLines lf cr true begun (lf :: rest) = cutLines lf cr false begun rest := by
  rw [cutLines, if_pos rfl, if_pos rfl]

/-- The flag matters only where a line feed comes first. -/
theorem cutLines_skip_of_ne {l : List α} (hl : ∀ rest, l ≠ lf :: rest)
    (begun : List α) :
    cutLines lf cr true begun l = cutLines lf cr false begun l := by
  cases l with
  | nil => rfl
  | cons a l =>
      have ha : a ≠ lf := fun h => hl l (h ▸ rfl)
      rw [cutLines, cutLines, if_neg ha, if_neg ha]

/-- Symbols that were read earlier come in front of the first line. -/
theorem cutLines_append_begun (skip : Bool) (begun earlier l : List α) :
    cutLines lf cr skip (begun ++ earlier) l =
      (cutLines lf cr skip begun l).modifyHead (earlier.reverse ++ ·) := by
  induction l generalizing skip begun with
  | nil => rfl
  | cons a l ih =>
      simp only [cutLines]
      split_ifs
      · exact ih false begun
      · simp
      · simp
      · exact ih false (a :: begun)

theorem cutLines_cons_of_ne {a : α} (hlf : a ≠ lf) (hcr : a ≠ cr) (skip : Bool)
    (l : List α) :
    cutLines lf cr skip [] (a :: l) =
      (cutLines lf cr false [] l).modifyHead (a :: ·) := by
  rw [cutLines, if_neg hlf, if_neg hcr]
  exact cutLines_append_begun false [] [a] l

/-- What is cut at terminators holds none. -/
theorem isUnterminated_of_mem_cutLines {begun : List α}
    (hbegun : IsUnterminated lf cr begun) {skip : Bool} {l line : List α}
    (h : line ∈ cutLines lf cr skip begun l) : IsUnterminated lf cr line := by
  induction l generalizing skip begun with
  | nil => cases h
  | cons a l ih =>
      have hreverse : IsUnterminated lf cr begun.reverse := by
        intro b hb
        exact hbegun b (List.mem_reverse.mp hb)
      have hnil : IsUnterminated lf cr ([] : List α) := List.forall_mem_nil _
      unfold cutLines at h
      split_ifs at h with hlf hskip hcr
      · exact ih hbegun h
      · rcases List.mem_cons.mp h with rfl | h
        · exact hreverse
        · exact ih hnil h
      · rcases List.mem_cons.mp h with rfl | h
        · exact hreverse
        · exact ih hnil h
      · exact ih (List.forall_mem_cons.mpr ⟨⟨hlf, hcr⟩, hbegun⟩) h

end Cutting

/-! ## Lines of a text -/

theorem linesAfter_eq_cutLines (begun cs : List Char) :
    linesAfter begun cs = cutLines '\n' '\r' false begun cs := by
  fun_induction linesAfter begun cs with
  | case1 => rfl
  | case2 begun cs ih => simp [cutLines, ih]
  | case3 begun cs hcs ih =>
      have hskip : cutLines '\n' '\r' true [] cs = cutLines '\n' '\r' false [] cs :=
        cutLines_skip_of_ne hcs []
      simp [cutLines, ih, hskip]
  | case4 begun cs ih => simp [cutLines, ih]
  | case5 begun c cs hcrlf hcr hlf ih =>
      rw [cutLines, if_neg hlf, if_neg hcr, ih]

theorem dropMark_cons (c : Char) (cs : List Char) :
    dropMark (c :: cs) = if c = byteOrderMark then cs else c :: cs :=
  rfl

/-- The mark in front of a text is in front of its first line. -/
theorem completeLines_dropMark (cs : List Char) :
    completeLines (dropMark cs) = (completeLines cs).modifyHead dropMark := by
  simp only [completeLines, linesAfter_eq_cutLines]
  cases cs with
  | nil => rfl
  | cons c cs =>
      by_cases hend : c = '\n' ∨ c = '\r'
      · rcases hend with rfl | rfl <;> rfl
      · rw [not_or] at hend
        rw [cutLines_cons_of_ne hend.1 hend.2, List.modifyHead_modifyHead,
          dropMark_cons]
        split_ifs with hmark
        · cases cutLines '\n' '\r' false [] cs with
          | nil => rfl
          | cons line lines => simp [dropMark_cons, hmark]
        · rw [cutLines_cons_of_ne hend.1 hend.2]
          cases cutLines '\n' '\r' false [] cs with
          | nil => rfl
          | cons line lines => simp [dropMark_cons, hmark]

theorem isUnterminated_of_mem_streamLines {octets : List UInt8} {line : List Char}
    (h : line ∈ streamLines octets) : IsUnterminated '\n' '\r' line := by
  rw [streamLines, completeLines, linesAfter_eq_cutLines] at h
  exact isUnterminated_of_mem_cutLines (List.forall_mem_nil _) h

/-! ## Lines of octets -/

/-- The complete lines of octets. -/
def octetLines (skip : Bool) (octets : List UInt8) : List (List UInt8) :=
  cutLines lineFeed carriageReturn skip [] octets

/-- Octets without a line end are text without one. -/
theorem isUnterminated_decodeLossy {line : List UInt8}
    (hline : IsUnterminated lineFeed carriageReturn line) :
    IsUnterminated '\n' '\r' (Utf8.decodeLossy line) := by
  intro c hc
  constructor
  · rintro rfl
    obtain ⟨b, hb, hvalue⟩ := Utf8.exists_toNat_of_mem_decodeLossy hc
      (by decide) (by decide)
    exact (hline b hb).1 (UInt8.toNat_inj.mp hvalue)
  · rintro rfl
    obtain ⟨b, hb, hvalue⟩ := Utf8.exists_toNat_of_mem_decodeLossy hc
      (by decide) (by decide)
    exact (hline b hb).2 (UInt8.toNat_inj.mp hvalue)

/-- Lines can be decoded one by one. -/
theorem map_decodeLossy_octetLines (skip : Bool) (octets : List UInt8) :
    (octetLines skip octets).map Utf8.decodeLossy =
      cutLines '\n' '\r' skip [] (Utf8.decodeLossy octets) := by
  induction hn : octets.length using Nat.strongRecOn generalizing skip octets with
  | ind n ih =>
      rcases exists_terminator lineFeed carriageReturn octets with
        h | ⟨line, t, rest, rfl, hline, ht⟩
      · rw [octetLines, cutLines_of_isUnterminated h,
          cutLines_of_isUnterminated (isUnterminated_decodeLossy h)]
        rfl
      · have hrest : rest.length < n := by
          rw [← hn, List.length_append, List.length_cons]
          omega
        have ih := fun skip => ih rest.length hrest skip rest rfl
        have htext := isUnterminated_decodeLossy hline
        have hempty : (Utf8.decodeLossy line).isEmpty = line.isEmpty := by
          rw [Bool.eq_iff_iff, List.isEmpty_iff, List.isEmpty_iff,
            Utf8.decodeLossy_eq_nil_iff]
        simp only [octetLines] at ih ⊢
        rcases ht with rfl | rfl
        · rw [Utf8.decodeLossy_append_cons line rest (by decide)]
          by_cases hskip : (skip && line.isEmpty) = false
          · rw [cutLines_append_lf hline hskip, List.map_cons, ih]
            exact (cutLines_append_lf htext (hempty ▸ hskip) _).symm
          · rw [Bool.not_eq_false, Bool.and_eq_true, List.isEmpty_iff] at hskip
            obtain ⟨rfl, rfl⟩ := hskip
            rw [List.nil_append, cutLines_skip_lf, ih]
            exact (cutLines_skip_lf [] _).symm
        · rw [Utf8.decodeLossy_append_cons line rest (by decide),
            cutLines_append_cr (by decide) hline, List.map_cons, ih]
          exact (cutLines_append_cr (by decide) htext _ _).symm

/-- The lines of a stream, told from the lines of its octets. -/
theorem streamLines_eq_octetLines (octets : List UInt8) :
    streamLines octets =
      ((octetLines false octets).map Utf8.decodeLossy).modifyHead dropMark := by
  rw [streamLines, completeLines_dropMark, completeLines, linesAfter_eq_cutLines,
    map_decodeLossy_octetLines]

end EventStream
end LivePage
