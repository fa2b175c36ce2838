import LivePage.Text.Utf8
import Mathlib.Tactic.SplitIfs

/-!
# Lossy decoding and ASCII octets

An ASCII octet is never part of a longer character.  It ends whatever was begun
before it, and the octets after it are read as if they came first.  So octets can
be cut at ASCII octets before they are decoded or after it, with the same parts.
-/

namespace LivePage
namespace Utf8

/-! ## States that can be reached -/

/-- The next octet of a character that has begun is no ASCII octet, and what has
been read already makes the character no ASCII character. -/
def State.IsProper : State → Prop
  | .between => True
  | .inside missing least _ bits =>
      0x80 ≤ least.toNat ∧ 2 ≤ bits * 64 + (least.toNat - 0x80) ∧
        (missing ≤ 1 → 2 ≤ bits)

/-- What can come of an octet between two characters. -/
inductive Started (b : UInt8) : Marks × State → Prop
  | ascii (hb : b.toNat < 0x80) : Started b ([some (Char.ofNat b.toNat)], .between)
  | malformed : Started b ([none], .between)
  | begun {missing : Nat} {least greatest : UInt8} {bits : Nat}
      (h : (State.inside missing least greatest bits).IsProper) :
      Started b ([], .inside missing least greatest bits)

theorem started (b : UInt8) : Started b (start b) := by
  unfold start
  simp only [UInt8.lt_iff_toNat_lt, ← UInt8.toNat_inj, UInt8.reduceToNat]
  split
  · exact .ascii ‹_›
  repeat' split
  all_goals first
    | exact .malformed
    | exact .begun (by simp only [State.IsProper, UInt8.reduceToNat]; omega)

theorem start_isProper (b : UInt8) : (start b).2.IsProper := by
  have h := started b
  generalize start b = outcome at h ⊢
  cases h with
  | ascii | malformed => trivial
  | begun h => exact h

theorem read_isProper {s : State} (hs : s.IsProper) (b : UInt8) :
    (s.read b).2.IsProper := by
  cases s with
  | between => exact start_isProper b
  | inside missing least greatest bits =>
      obtain ⟨_, hbits, _⟩ := hs
      simp only [State.read, UInt8.le_iff_toNat_le]
      split_ifs with hb hmissing
      · trivial
      · simp only [State.IsProper, UInt8.reduceToNat]
        omega
      · exact start_isProper b

/-! ## Reading an ASCII octet -/

theorem start_of_ascii {b : UInt8} (hb : b.toNat < 0x80) :
    start b = ([some (Char.ofNat b.toNat)], .between) := by
  rw [start, if_pos (UInt8.lt_iff_toNat_lt.mpr hb)]

/-- An ASCII octet ends the character begun before it. -/
theorem read_of_ascii {s : State} (hs : s.IsProper) {b : UInt8}
    (hb : b.toNat < 0x80) :
    s.read b = (s.finish ++ [some (Char.ofNat b.toNat)], .between) := by
  cases s with
  | between => exact start_of_ascii hb
  | inside missing least greatest bits =>
      have hrange : ¬(least ≤ b ∧ b ≤ greatest) := by
        intro h
        have := UInt8.le_iff_toNat_le.mp h.1
        have := hs.1
        omega
      rw [State.read, if_neg hrange, start_of_ascii hb]
      rfl

theorem marks_append_cons {s : State} (hs : s.IsProper) (l rest : List UInt8)
    {b : UInt8} (hb : b.toNat < 0x80) :
    s.marks (l ++ b :: rest) =
      s.marks l ++ some (Char.ofNat b.toNat) :: State.between.marks rest := by
  induction l generalizing s with
  | nil =>
      have hnil : s.marks [] = s.finish := by cases s <;> rfl
      rw [List.nil_append, State.marks.eq_2, read_of_ascii hs hb, hnil]
      simp
  | cons a l ih =>
      rw [List.cons_append, State.marks, State.marks, ih (read_isProper hs a),
        List.append_assoc]

/-- Decoding can be done on both sides of an ASCII octet apart. -/
theorem decodeLossy_append_cons (l rest : List UInt8) {b : UInt8}
    (hb : b.toNat < 0x80) :
    decodeLossy (l ++ b :: rest) =
      decodeLossy l ++ Char.ofNat b.toNat :: decodeLossy rest := by
  rw [decodeLossy, marks_append_cons (s := .between) trivial l rest hb]
  simp [decodeLossy]

/-! ## Where ASCII characters come from -/

theorem toNat_ofNat_eq_zero_or (n : Nat) :
    (Char.ofNat n).toNat = 0 ∨ (Char.ofNat n).toNat = n := by
  by_cases hn : n.isValidChar
  · right
    rw [Char.ofNat, dif_pos hn]
    rfl
  · left
    rw [Char.ofNat, dif_neg hn]
    rfl

theorem toNat_of_mem_start {b : UInt8} {c : Char} (hc : some c ∈ (start b).1)
    (hpos : 0 < c.toNat) : b.toNat = c.toNat := by
  have h := started b
  generalize start b = outcome at h hc
  cases h with
  | ascii hb =>
      rw [List.mem_singleton, Option.some_inj] at hc
      subst hc
      have := toNat_ofNat_eq_zero_or b.toNat
      omega
  | malformed => simp at hc
  | begun => simp at hc

theorem toNat_of_mem_read {s : State} (hs : s.IsProper) {b : UInt8} {c : Char}
    (hc : some c ∈ (s.read b).1) (hpos : 0 < c.toNat) (hascii : c.toNat < 0x80) :
    b.toNat = c.toNat := by
  cases s with
  | between => exact toNat_of_mem_start hc hpos
  | inside missing least greatest bits =>
      simp only [State.read] at hc
      split_ifs at hc with hb hmissing
      · have hbits := hs.2.2 hmissing
        rw [List.mem_singleton, Option.some_inj] at hc
        have hvalue := toNat_ofNat_eq_zero_or (bits * 64 + (b.toNat - 0x80))
        rw [← hc] at hvalue
        omega
      · simp at hc
      · simp only [List.mem_cons, reduceCtorEq, false_or] at hc
        exact toNat_of_mem_start hc hpos

theorem exists_toNat_of_mem_marks {s : State} (hs : s.IsProper) {l : List UInt8}
    {c : Char} (hc : some c ∈ s.marks l) (hpos : 0 < c.toNat)
    (hascii : c.toNat < 0x80) : ∃ b ∈ l, b.toNat = c.toNat := by
  induction l generalizing s with
  | nil => cases s <;> simp [State.marks, State.finish] at hc
  | cons a l ih =>
      rw [State.marks, List.mem_append] at hc
      rcases hc with hc | hc
      · exact ⟨a, List.mem_cons_self, toNat_of_mem_read hs hc hpos hascii⟩
      · obtain ⟨b, hb, hbc⟩ := ih (read_isProper hs a) hc
        exact ⟨b, List.mem_cons_of_mem a hb, hbc⟩

/-- An ASCII character other than NUL stands for an octet of its own. -/
theorem exists_toNat_of_mem_decodeLossy {l : List UInt8} {c : Char}
    (hc : c ∈ decodeLossy l) (hpos : 0 < c.toNat) (hascii : c.toNat < 0x80) :
    ∃ b ∈ l, b.toNat = c.toNat := by
  simp only [decodeLossy, List.mem_map] at hc
  obtain ⟨mark, hmark, rfl⟩ := hc
  cases mark with
  | none => exact absurd hascii (by decide)
  | some c => exact exists_toNat_of_mem_marks (s := .between) trivial hmark hpos hascii

/-! ## Texts without characters -/

theorem marks_inside_ne_nil (missing : Nat) (least greatest : UInt8) (bits : Nat)
    (l : List UInt8) : (State.inside missing least greatest bits).marks l ≠ [] := by
  induction l generalizing missing least greatest bits with
  | nil => simp [State.marks, State.finish]
  | cons b l ih =>
      simp only [State.marks, State.read]
      split_ifs
      · simp
      · simpa using ih _ _ _ _
      · simp

theorem marks_between_cons_ne_nil (b : UInt8) (l : List UInt8) :
    State.between.marks (b :: l) ≠ [] := by
  have h := started b
  rw [State.marks, State.read]
  generalize start b = outcome at h
  cases h with
  | ascii | malformed => simp
  | begun => simpa using marks_inside_ne_nil _ _ _ _ _

theorem decodeLossy_eq_nil_iff {l : List UInt8} : decodeLossy l = [] ↔ l = [] := by
  cases l with
  | nil => simp [decodeLossy, State.marks, State.finish]
  | cons b l => simp [decodeLossy, marks_between_cons_ne_nil]

end Utf8
end LivePage
