import LivePage.Text.Blank
import Mathlib.Data.List.DropRight

/-!
# Trimming

A text is what trimming leaves of it, with white space around that.
-/

namespace LivePage
namespace Text

/-- A visible character of ASCII is no white space. -/
theorem isBlank_of_bounds {c : Char} (hlow : 0x21 ≤ c.toNat) (hhigh : c.toNat ≤ 0x7e) :
    isBlank c = false := by
  simp [isBlank, inRanges, blankRanges]
  omega

theorem trim_eq_rdropWhile (cs : List Char) :
    trim cs = (cs.dropWhile isBlank).rdropWhile isBlank :=
  rfl

theorem exists_append_trim (cs : List Char) :
    ∃ before after, cs = before ++ trim cs ++ after ∧
      ∀ c ∈ before ++ after, isBlank c = true := by
  refine ⟨cs.takeWhile isBlank, (cs.dropWhile isBlank).rtakeWhile isBlank, ?_, ?_⟩
  · rw [List.append_assoc, trim_eq_rdropWhile, List.rdropWhile_append_rtakeWhile,
      List.takeWhile_append_dropWhile]
  · rw [List.forall_mem_append]
    exact ⟨fun c => List.mem_takeWhile_imp, fun c => List.mem_rtakeWhile_imp⟩

theorem trim_cons {c : Char} (hc : isBlank c = false) (cs : List Char) :
    trim (c :: cs) = c :: cs.rdropWhile isBlank := by
  have hkeeps : ([c] : List Char).dropWhile isBlank = [c] := by simp [hc]
  rw [trim, List.dropWhile_cons_of_neg (by simp [hc]), dropEndWhile, List.reverse_cons,
    List.dropWhile_append, hkeeps]
  split
  · rename_i hempty
    rw [List.rdropWhile, List.isEmpty_iff.mp hempty]
    rfl
  · rw [List.reverse_append]
    rfl

theorem rdropWhile_append_blanks (cs : List Char) {after : List Char}
    (hafter : ∀ c ∈ after, isBlank c = true) :
    (cs ++ after).rdropWhile isBlank = cs.rdropWhile isBlank := by
  have hreverse : ∀ c ∈ after.reverse, isBlank c = true :=
    fun c hc => hafter c (List.mem_reverse.mp hc)
  rw [List.rdropWhile, List.reverse_append, List.dropWhile_append_of_pos hreverse]
  rfl

/-- White space around a text makes no difference. -/
theorem trim_append_blanks (cs : List Char) {before after : List Char}
    (hblanks : ∀ c ∈ before ++ after, isBlank c = true) :
    trim (before ++ cs ++ after) = trim cs := by
  obtain ⟨hbefore, hafter⟩ := List.forall_mem_append.mp hblanks
  rw [trim_eq_rdropWhile, trim_eq_rdropWhile, List.append_assoc,
    List.dropWhile_append_of_pos hbefore, List.dropWhile_append]
  split
  · rename_i hempty
    rw [List.isEmpty_iff.mp hempty, List.dropWhile_eq_nil_iff.mpr hafter]
  · exact rdropWhile_append_blanks _ hafter

theorem trim_trim (cs : List Char) : trim (trim cs) = trim cs := by
  obtain ⟨before, after, hcs, hblanks⟩ := exists_append_trim cs
  have htrim := trim_append_blanks (trim cs) hblanks
  rw [← hcs] at htrim
  exact htrim.symm

theorem trim_eq_self_of_forall {cs : List Char} (h : ∀ c ∈ cs, isBlank c = false) :
    trim cs = cs := by
  cases cs with
  | nil => rfl
  | cons c cs =>
      rw [trim_cons (h c List.mem_cons_self), List.cons_inj_right,
        List.rdropWhile_eq_self_iff]
      intro hne
      rw [h _ (List.mem_cons_of_mem c (List.getLast_mem hne))]
      exact Bool.false_ne_true

/-- White space around a text without any is trimmed off. -/
theorem trim_append {before body after : List Char} (hbody : ∀ c ∈ body, isBlank c = false)
    (hblanks : ∀ c ∈ before ++ after, isBlank c = true) :
    trim (before ++ body ++ after) = body := by
  rw [trim_append_blanks body hblanks, trim_eq_self_of_forall hbody]

/-- Trimming leaves a text as it is, once its beginning is no white space, just if its
end is none. -/
theorem trim_cons_eq_self_iff {c : Char} (hc : isBlank c = false) (cs : List Char) :
    trim (c :: cs) = c :: cs ↔ ∀ last ∈ (c :: cs).getLast?, isBlank last = false := by
  rw [trim_cons hc, List.cons_inj_right, List.rdropWhile_eq_self_iff]
  cases cs with
  | nil => simpa using hc
  | cons d ds =>
      rw [List.getLast?_cons_cons, List.getLast?_eq_some_getLast (List.cons_ne_nil d ds)]
      simp

end Text
end LivePage
