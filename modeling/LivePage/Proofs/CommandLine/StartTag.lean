import Mathlib.Data.List.Basic
import LivePage.CommandLine.Attributes
import LivePage.Text.Cut

/-!
# Attributes read back from a start tag

Three replacements escape a value.  The ampersand comes first, so that none of them meets a
reference that another one has put in: each character is written by itself, three of them as
references.  What is written holds no quote, hence the quotes around it are the ends of the
value, and one pass over it puts the characters back.
-/

namespace LivePage
namespace CommandLine

variable {a : String × String} {as : List (String × String)} {cs rest : List Char}

/-! ## Values -/

/-- The characters that are written as references. -/
def references : List (Char × List Char) :=
  [('&', "&amp;".toList), ('\x22', "&quot;".toList), ('<', "&lt;".toList)]

/-- A character of a value as it is written. -/
def escapeChar (c : Char) : List Char :=
  (references.lookup c).getD [c]

/-- A reference is an ampersand and characters that need none. -/
theorem exists_name_of_mem_references : ∀ reference ∈ references, ∃ name,
    reference.2 = '&' :: name ∧ '&' ∉ name ∧ '\x22' ∉ name ∧ '<' ∉ name := by
  simp only [references, List.forall_mem_cons]
  exact ⟨⟨"amp;".toList, by decide⟩, ⟨"quot;".toList, by decide⟩, ⟨"lt;".toList, by decide⟩,
    List.forall_mem_nil _⟩

theorem escapeChar_cases (c : Char) :
    (c, escapeChar c) ∈ references ∨
      (c ≠ '&' ∧ c ≠ '\x22' ∧ c ≠ '<') ∧ escapeChar c = [c] := by
  by_cases hamp : c = '&'
  · subst hamp
    exact Or.inl (by decide)
  by_cases hquote : c = '\x22'
  · subst hquote
    exact Or.inl (by decide)
  by_cases hangle : c = '<'
  · subst hangle
    exact Or.inl (by decide)
  refine Or.inr ⟨⟨hamp, hquote, hangle⟩, ?_⟩
  have hnone : references.lookup c = none := by
    simp [references, List.lookup_eq_none_iff, hamp, hquote, hangle]
  rw [escapeChar, hnone, Option.getD_none]

theorem replaceChar_of_ne {c d : Char} (h : d ≠ c) (text : List Char) :
    replaceChar c text [d] = [d] := by
  rw [replaceChar, List.flatMap_singleton, if_neg h]

theorem escape_singleton (c : Char) : escape [c] = escapeChar c := by
  have hreferences : ∀ reference ∈ references, escape [reference.1] = reference.2 := by decide
  rcases escapeChar_cases c with hmem | ⟨⟨hamp, hquote, hangle⟩, hplain⟩
  · exact hreferences _ hmem
  · rw [hplain, escape, replaceChar_of_ne hamp, replaceChar_of_ne hquote,
      replaceChar_of_ne hangle]

theorem escape_cons (c : Char) (cs : List Char) :
    escape (c :: cs) = escapeChar c ++ escape cs := by
  rw [← escape_singleton, ← List.singleton_append]
  simp only [escape, replaceChar, List.flatMap_append]

/-- The replacements write every character by itself. -/
theorem escape_eq_flatMap (value : List Char) : escape value = value.flatMap escapeChar := by
  induction value with
  | nil => rfl
  | cons c cs ih => rw [escape_cons, ih, List.flatMap_cons]

theorem unescape_cons {c : Char} (hc : c ≠ '&') (cs : List Char) :
    unescape (c :: cs) = c :: unescape cs := by
  rw [unescape.eq_def]
  split <;> rename_i heq <;> cases heq
  · exact absurd rfl hc
  · exact absurd rfl hc
  · exact absurd rfl hc
  · rfl

theorem unescape_reference_append (cs : List Char) : ∀ reference ∈ references,
    unescape (reference.2 ++ cs) = reference.1 :: unescape cs := by
  simp only [references, List.forall_mem_cons]
  exact ⟨rfl, rfl, rfl, List.forall_mem_nil _⟩

theorem unescape_escapeChar_append (c : Char) (cs : List Char) :
    unescape (escapeChar c ++ cs) = c :: unescape cs := by
  rcases escapeChar_cases c with hmem | ⟨⟨hamp, -, -⟩, hplain⟩
  · exact unescape_reference_append cs _ hmem
  · rw [hplain, List.singleton_append, unescape_cons hamp]

theorem unescape_escape (value : List Char) : unescape (escape value) = value := by
  induction value with
  | nil => rfl
  | cons c cs ih => rw [escape_cons, unescape_escapeChar_append, ih]

theorem escape_injective : Function.Injective escape :=
  Function.LeftInverse.injective unescape_escape

/-- What may stand between the quotes of a value: no quote and no angle bracket, and every
ampersand begins a reference. -/
structure IsValueText (text : List Char) : Prop where
  quote : '\x22' ∉ text
  angle : '<' ∉ text
  ampersand : ∀ before after, text = before ++ '&' :: after →
    ∃ reference ∈ references, reference.2 <+: '&' :: after

theorem isValueText_nil : IsValueText [] where
  quote := List.not_mem_nil
  angle := List.not_mem_nil
  ampersand before after h := by simp at h

/-- What follows a part without a mark holds all marks. -/
theorem exists_eq_append_of_append_eq {mark : Char} {part text before after : List Char}
    (hpart : mark ∉ part) (h : part ++ text = before ++ mark :: after) :
    ∃ middle, text = middle ++ mark :: after := by
  rcases List.append_eq_append_iff.mp h with ⟨middle, -, htext⟩ | ⟨middle, rfl, hmark⟩
  · exact ⟨middle, htext⟩
  · cases middle with
    | nil => exact ⟨[], hmark.symm⟩
    | cons c middle =>
        obtain ⟨rfl, -⟩ := List.cons.inj hmark
        simp at hpart

theorem IsValueText.escapeChar_append {text : List Char} (h : IsValueText text) (c : Char) :
    IsValueText (escapeChar c ++ text) := by
  rcases escapeChar_cases c with hmem | ⟨⟨hamp, hquote, hangle⟩, hplain⟩
  · obtain ⟨name, hname, hamp, hquote, hangle⟩ := exists_name_of_mem_references _ hmem
    dsimp only at hname
    rw [hname] at hmem ⊢
    refine ⟨by simp [hquote, h.quote], by simp [hangle, h.angle], ?_⟩
    intro before after htext
    cases before with
    | nil =>
        refine ⟨_, hmem, ?_⟩
        rw [← List.nil_append ('&' :: after), ← htext]
        exact List.prefix_append _ _
    | cons d before =>
        obtain ⟨-, htail⟩ := List.cons.inj htext
        obtain ⟨middle, hmiddle⟩ := exists_eq_append_of_append_eq hamp htail
        exact h.ampersand middle after hmiddle
  · rw [hplain, List.singleton_append]
    refine ⟨by simp [Ne.symm hquote, h.quote], by simp [Ne.symm hangle, h.angle], ?_⟩
    intro before after htext
    cases before with
    | nil => exact absurd (List.cons.inj htext).1 hamp
    | cons d before => exact h.ampersand before after (List.cons.inj htext).2

theorem isValueText_escape (value : List Char) : IsValueText (escape value) := by
  induction value with
  | nil => exact isValueText_nil
  | cons c cs ih =>
      rw [escape_cons]
      exact ih.escapeChar_append c

/-! ## Attributes -/

/-- The first attribute is read up to its closing quote. -/
theorem readAttribute?_attributeText_append (ha : '=' ∉ a.1.toList) (rest : List Char) :
    readAttribute? (attributeText a ++ rest) = some (a, rest) := by
  have htext : attributeText a ++ rest =
      a.1.toList ++ '=' :: '\x22' :: (escape a.2.toList ++ '\x22' :: rest) := by
    simp [attributeText]
  obtain ⟨hname, hafter⟩ :=
    Text.cut_at_mark ha ('\x22' :: (escape a.2.toList ++ '\x22' :: rest))
  obtain ⟨hvalue, hrest⟩ := Text.cut_at_mark (isValueText_escape a.2.toList).quote rest
  rw [htext, readAttribute?, hname, hafter]
  simp only [hvalue, hrest, unescape_escape, String.ofList_toList]

theorem readSomeAttributes?_nil : readSomeAttributes? [] = none := by
  have hnone : readAttribute? [] = none := rfl
  rw [readSomeAttributes?]
  split <;> rename_i heq <;> cases hnone.symm.trans heq
  rfl

theorem readSomeAttributes?_of_last (h : readAttribute? cs = some (a, [])) :
    readSomeAttributes? cs = some [a] := by
  rw [readSomeAttributes?]
  split <;> rename_i heq <;> cases h.symm.trans heq
  rfl

theorem readSomeAttributes?_of_space (h : readAttribute? cs = some (a, ' ' :: rest)) :
    readSomeAttributes? cs = (readSomeAttributes? rest).map (a :: ·) := by
  rw [readSomeAttributes?]
  split <;> rename_i heq <;> cases h.symm.trans heq
  rw [if_pos rfl]

theorem attributesText_cons_cons (a b : String × String) (as : List (String × String)) :
    attributesText (a :: b :: as) = attributeText a ++ ' ' :: attributesText (b :: as) := by
  simp [attributesText, List.intercalate_cons_cons]

theorem readSomeAttributes?_attributesText (has : ∀ b ∈ a :: as, '=' ∉ b.1.toList) :
    readSomeAttributes? (attributesText (a :: as)) = some (a :: as) := by
  induction as generalizing a with
  | nil =>
      have hread := readAttribute?_attributeText_append (has a List.mem_cons_self) []
      rw [List.append_nil] at hread
      exact readSomeAttributes?_of_last (by simpa [attributesText] using hread)
  | cons b as ih =>
      obtain ⟨ha, has⟩ := List.forall_mem_cons.mp has
      rw [attributesText_cons_cons,
        readSomeAttributes?_of_space (readAttribute?_attributeText_append ha _), ih has]
      rfl

theorem readAttributes?_attributesText (has : ∀ a ∈ as, '=' ∉ a.1.toList) :
    readAttributes? (attributesText as) = some as := by
  cases as with
  | nil => rfl
  | cons a as =>
      have hne : attributesText (a :: as) ≠ [] := by
        intro hnil
        have hread := readSomeAttributes?_attributesText has
        rw [hnil, readSomeAttributes?_nil] at hread
        cases hread
      rw [readAttributes?, if_neg hne]
      exact readSomeAttributes?_attributesText has

/-- What is printed for a configuration is read back as its attributes. -/
theorem readAttributes?_of_attributes {s : Config.Surroundings} {config : Option String}
    {l : Config.Loaded} (h : s.load config {} = .ok l) (server : Http.Server) :
    ∃ text, (attributes s server config).transcript.output = String.ofList text ++ "\n" ∧
      readAttributes? text = some l.config.attributes := by
  refine ⟨attributesText l.config.attributes, ?_, ?_⟩
  · simp only [attributes, h]
  · apply readAttributes?_attributesText
    simp only [Config.attributes, List.mem_cons, List.not_mem_nil, or_false, forall_eq_or_imp,
      forall_eq]
    decide

/-- Attributes are read back from a start tag as long as no name holds the sign that ends it.
Their values may be any: they are escaped character by character, different values differently,
and no part of what is written can be taken for the end of a value or for another reference. -/
theorem attributes_read_back (as : List (String × String))
    (has : ∀ a ∈ as, '=' ∉ a.1.toList) :
    readAttributes? (attributesText as) = some as ∧
      (∀ value, escape value = value.flatMap escapeChar ∧ IsValueText (escape value) ∧
        unescape (escape value) = value) ∧
      Function.Injective escape := by
  refine ⟨readAttributes?_attributesText has, fun value => ?_, escape_injective⟩
  exact ⟨escape_eq_flatMap value, isValueText_escape value, unescape_escape value⟩

/-- Values that look like references, like the end of a value and like another attribute. -/
def intricateAttributes : List (String × String) :=
  [("data-a", "&quot;&amp;lt;"), ("", "\" data-b=\"<&"), ("data c", "")]

theorem attributes_read_back_intricate :
    (∀ a ∈ intricateAttributes, '=' ∉ a.1.toList) ∧
      readAttributes? (attributesText intricateAttributes) = some intricateAttributes ∧
      (∀ value, escape value = value.flatMap escapeChar ∧ IsValueText (escape value) ∧
        unescape (escape value) = value) ∧
      Function.Injective escape := by
  have hnames : ∀ a ∈ intricateAttributes, '=' ∉ a.1.toList := by decide
  exact ⟨hnames, attributes_read_back intricateAttributes hnames⟩

example :
    String.ofList (attributesText [("data-a", "&quot;"), ("data-b", "<\"")]) =
      "data-a=\"&amp;quot;\" data-b=\"&lt;&quot;\"" := by
  decide

end CommandLine
end LivePage
