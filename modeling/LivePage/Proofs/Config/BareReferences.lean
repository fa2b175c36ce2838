import LivePage.Proofs.Config.References
import Mathlib.Data.List.Chain

/-!
# Dollar signs without braces

A dollar sign that no brace follows is meant to be left alone.  It is, in a setting without
any reference in braces, and wherever neither another dollar sign nor a name comes after it.
In a setting that has a reference in braces somewhere, a name after a dollar sign is a
reference as well, and of two dollar signs one is dropped.
-/

namespace LivePage
namespace Reference

variable {e e' : Environment} {ps : List Piece} {name body cs : List Char}

/-! ## Braces alone -/

/-- The pieces of a text where only braces make a reference. -/
def bracedPieces (cs : List Char) : List Piece :=
  match cs with
  | [] => []
  | '$' :: '\x7b' :: rest =>
    match _h : rest.dropWhile (· ≠ '\x7d') with
    | [] => .plain ['$', '\x7b'] :: bracedPieces rest
    | _ :: after => .ofBraces (rest.takeWhile (· ≠ '\x7d')) :: bracedPieces after
  | c :: rest => .plain [c] :: bracedPieces rest
termination_by cs.length
decreasing_by
  · simp only [List.length_cons]
    omega
  · have := (List.dropWhile_suffix (l := rest) (· ≠ '\x7d')).length_le
    rw [_h] at this
    simp only [List.length_cons] at this ⊢
    omega
  · simp

/-- Puts in what the references in braces refer to, and leaves everything else alone. -/
def expandBraced (e : Environment) (cs : List Char) : Except (List Char) (List Char) :=
  resolveAll e (bracedPieces cs)

theorem splitMark_text (cs : List Char) :
    (splitMark cs).1 ++ ((splitMark cs).2.elim [] fun standIn => ':' :: '-' :: standIn) = cs := by
  fun_induction splitMark cs with
  | case1 standIn => rfl
  | case2 => rfl
  | case3 c cs hmark name standIn hsplit ih =>
      rw [hsplit] at ih
      exact congrArg (c :: ·) ih

/-- A reference is written as it was read. -/
theorem Piece.text_ofBraces (body : List Char) :
    (Piece.ofBraces body).text = '$' :: '\x7b' :: (body ++ ['\x7d']) := by
  have htext := splitMark_text body
  rw [ofBraces]
  split
  · rfl
  · rename_i name standIn _ hsplit
    rw [hsplit] at htext
    cases standIn <;> simp [Piece.text, ← htext]

/-- No character of a text is lost. -/
theorem written_bracedPieces (cs : List Char) : written (bracedPieces cs) = cs := by
  fun_induction bracedPieces cs with
  | case1 => rfl
  | case2 rest hafter ih => exact congrArg (['$', '\x7b'] ++ ·) ih
  | case3 rest c after hafter ih =>
      have hsplit := List.takeWhile_append_dropWhile (p := (· ≠ '\x7d')) (l := rest)
      have hc : c = '\x7d' := by
        have hhead := List.head?_dropWhile_not (· ≠ '\x7d') rest
        rw [hafter] at hhead
        simpa using hhead
      rw [hafter, hc] at hsplit
      rw [written, List.flatMap_cons, Piece.text_ofBraces, ← written, ih]
      simpa using congrArg ('$' :: '\x7b' :: ·) hsplit
  | case4 c rest hbrace ih => exact congrArg (c :: ·) ih

/-- A piece begins as the text does that it is read from. -/
theorem head?_text_of_bracedPieces {p : Piece} (h : p ∈ (bracedPieces cs).head?) :
    p.text.head? = cs.head? := by
  revert h
  fun_cases bracedPieces cs with
  | case1 => simp
  | case2 rest hafter =>
      rintro ⟨⟩
      rfl
  | case3 rest c after hafter =>
      rintro ⟨⟩
      rw [Piece.text_ofBraces]
      rfl
  | case4 c rest hbrace =>
      rintro ⟨⟩
      rfl

/-! ## Dollar signs that are left alone -/

/-- A plain dollar sign comes neither before another one nor before a name. -/
def NotBare (p q : Piece) : Prop :=
  p = .plain ['$'] → ∀ c ∈ q.text.head?, c ≠ '$' ∧ isNameChar c = false

/-- Outside of braces, no dollar sign comes before another one or before a name. -/
def NoBareReference (cs : List Char) : Prop :=
  (bracedPieces cs).IsChain NotBare

theorem after_dollar (h : (.plain ['$'] :: bracedPieces cs : List Piece).IsChain NotBare) :
    ∀ c ∈ cs.head?, c ≠ '$' ∧ isNameChar c = false := by
  intro c hc
  cases hps : bracedPieces cs with
  | nil =>
      have hcs := written_bracedPieces cs
      rw [hps] at hcs
      simp [← hcs, written] at hc
  | cons p ps =>
      have hp : p.text.head? = cs.head? := head?_text_of_bracedPieces (by simp [hps])
      rw [hps, List.isChain_cons_cons] at h
      exact h.1 rfl c (hp ▸ hc)

theorem pieces_dollar (h : ∀ c ∈ cs.head?, c ≠ '$' ∧ isNameChar c = false)
    (hbrace : ∀ rest, cs ≠ '\x7b' :: rest) :
    pieces ('$' :: cs) = .plain ['$'] :: pieces cs := by
  rw [pieces.eq_4 cs hbrace, if_pos]
  · cases cs with
    | nil => rfl
    | cons c cs => simp [(h c rfl).2]
  · rintro rest rfl
    exact (h '$' rfl).1 rfl

theorem pieces_eq_bracedPieces (h : NoBareReference cs) : pieces cs = bracedPieces cs := by
  rw [NoBareReference] at h
  fun_induction bracedPieces cs with
  | case1 => simp [pieces]
  | case2 rest hafter ih =>
      rw [pieces_unclosed hafter, ih h.tail]
  | case3 rest c after hafter ih =>
      rw [pieces_closed hafter, ih h.tail]
  | case4 c rest hbrace ih =>
      by_cases hc : c = '$'
      · subst hc
        rw [pieces_dollar (after_dollar h) fun tail htail => hbrace tail rfl htail, ih h.tail]
      · rw [pieces_plain hc, ih h.tail]

theorem expand_eq_expandBraced (h : hasBrace cs = false ∨ NoBareReference cs) :
    expand e cs = expandBraced e cs := by
  cases hbrace : hasBrace cs with
  | true =>
      have hpieces := pieces_eq_bracedPieces (h.resolve_left (by simp [hbrace]))
      rw [expand_of_hasBrace hbrace, hpieces, expandBraced]
  | false =>
      have hplain : resolveAll e (bracedPieces cs) = .ok (written (bracedPieces cs)) :=
        resolveAll_of_not_hasBrace (by rw [written_bracedPieces, hbrace])
      rw [expand_of_not_hasBrace hbrace, expandBraced, hplain, written_bracedPieces]

/-- Only the variables that pieces refer to matter. -/
theorem resolveAll_congr
    (h : ∀ name standIn, .variable name standIn ∈ ps → e'.value? name = e.value? name) :
    resolveAll e' ps = resolveAll e ps := by
  induction ps with
  | nil => rfl
  | cons p ps ih =>
      have hps := ih fun name standIn hmem => h name standIn (List.mem_cons_of_mem p hmem)
      rw [resolveAll_cons, resolveAll_cons, hps]
      cases p with
      | plain text => rfl
      | «variable» name standIn =>
          rw [Piece.resolve, Piece.resolve, h name standIn List.mem_cons_self]

/-! ## Dollar signs that are not -/

theorem not_mem_of_isNameChar {c : Char} (hc : isNameChar c = false)
    (hchars : ∀ c ∈ name, isNameChar c = true) : c ∉ name := by
  intro hmem
  simpa [hc] using hchars c hmem

theorem isNameChar_dollar : isNameChar '$' = false := by decide +kernel

theorem isNameChar_opening : isNameChar '\x7b' = false := by decide +kernel

theorem isNameChar_closing : isNameChar '\x7d' = false := by decide +kernel

theorem isNameChar_colon : isNameChar ':' = false := by decide +kernel

theorem isWritten_name (hname : name ≠ []) (hchars : ∀ c ∈ name, isNameChar c = true) :
    Piece.IsWritten (.variable name none) := by
  refine ⟨hname, not_mem_of_isNameChar isNameChar_closing hchars, ?_, ?_⟩
  · intro hmark
    exact not_mem_of_isNameChar isNameChar_colon hchars (hmark.subset List.mem_cons_self)
  · rintro _ ⟨⟩

theorem pieces_name (hname : name ≠ []) (hchars : ∀ c ∈ name, isNameChar c = true)
    (hafter : ∀ c ∈ cs.head?, isNameChar c = false) :
    pieces ('$' :: (name ++ cs)) = .variable name none :: pieces cs := by
  obtain ⟨htake, hdrop⟩ := Text.cut_append hchars hafter
  have hhead : ∀ c rest, name ++ cs = c :: rest → c ∈ name := by
    intro c rest hcons
    obtain ⟨c', name, rfl⟩ := List.exists_cons_of_ne_nil hname
    obtain ⟨rfl, -⟩ := List.cons.inj hcons
    exact List.mem_cons_self
  rw [pieces.eq_4, htake, if_neg hname, hdrop]
  · intro rest hrest
    exact not_mem_of_isNameChar isNameChar_opening hchars (hhead _ rest hrest)
  · intro rest hrest
    exact not_mem_of_isNameChar isNameChar_dollar hchars (hhead _ rest hrest)

theorem resolveAll_name (hps : ∀ p ∈ ps, p.IsWritten) (hname : name ≠ [])
    (hchars : ∀ c ∈ name, isNameChar c = true)
    (hafter : ∀ c ∈ cs.head?, isNameChar c = false) :
    resolveAll e (pieces (written ps ++ '$' :: (name ++ cs))) =
      resolveAll e (ps ++ .variable name none :: pieces cs) := by
  rw [resolveAll_written_append hps, pieces_name hname hchars hafter]

/-- Where a text has a brace, a name after a dollar sign is expanded like one in braces. -/
theorem expand_name (hps : ∀ p ∈ ps, p.IsWritten) (hname : name ≠ [])
    (hchars : ∀ c ∈ name, isNameChar c = true) (hafter : ∀ c ∈ cs.head?, isNameChar c = false)
    (hbrace : hasBrace (written ps ++ '$' :: (name ++ cs)) = true) :
    expand e (written ps ++ '$' :: (name ++ cs)) =
      expand e (written (ps ++ [.variable name none]) ++ cs) := by
  have hbraced : hasBrace (written (ps ++ [.variable name none]) ++ cs) = true := by
    have hmem : .variable name none ∈ ps ++ [.variable name none] :=
      List.mem_append_right ps List.mem_cons_self
    exact hasBrace_iff.mpr
      ((isInfix_written_of_variable hmem).trans (List.prefix_append _ cs).isInfix)
  have hall : ∀ p ∈ ps ++ [.variable name none], p.IsWritten := by
    intro p hp
    rcases List.mem_append.mp hp with hp | hp
    · exact hps p hp
    · exact List.mem_singleton.mp hp ▸ isWritten_name hname hchars
  rw [expand_of_hasBrace hbrace, expand_of_hasBrace hbraced,
    resolveAll_name hps hname hchars hafter, resolveAll_written_append hall, List.append_assoc,
    List.singleton_append]

/-- Where a text has a brace, a variable can be missing that no braces name. -/
theorem expand_name_of_missing (hps : ∀ p ∈ ps, p.IsWritten) (hgiven : AllGiven e ps)
    (hname : name ≠ []) (hchars : ∀ c ∈ name, isNameChar c = true)
    (hafter : ∀ c ∈ cs.head?, isNameChar c = false) (hmissing : e.value? name = none)
    (hbrace : hasBrace (written ps ++ '$' :: (name ++ cs)) = true) :
    expand e (written ps ++ '$' :: (name ++ cs)) = .error name := by
  rw [expand_of_hasBrace hbrace, resolveAll_name hps hname hchars hafter,
    resolveAll_of_missing hgiven hmissing]

/-- Where a text has a brace, one of two dollar signs is dropped. -/
theorem expand_dollars (hps : ∀ p ∈ ps, p.IsWritten)
    (hbrace : hasBrace (written ps ++ '$' :: '$' :: cs) = true) :
    expand e (written ps ++ '$' :: '$' :: cs) =
      resolveAll e (ps ++ .plain ['$'] :: pieces cs) := by
  rw [expand_of_hasBrace hbrace, resolveAll_written_append hps, pieces_dollars]

end Reference

namespace Config

open Reference

/-- Expands a setting where only braces make a reference. -/
def expandBracedSetting (e : Environment) (setting value : String) : Except LoadFault String :=
  match Reference.expandBraced e value.toList with
  | .ok cs => .ok (String.ofList cs)
  | .error name => .error (.missingVariable setting (String.ofList name))

/-- A setting where no dollar sign is taken for a reference without braces is expanded as
if there were only references in braces, and no other variable matters. -/
theorem expandSetting_eq_expandBracedSetting {value : String}
    (h : hasBrace value.toList = false ∨ NoBareReference value.toList) (e e' : Environment)
    (setting : String) :
    expandSetting e setting value = expandBracedSetting e setting value ∧
      ((∀ name standIn, .variable name standIn ∈ bracedPieces value.toList →
          e'.value? name = e.value? name) →
        expandSetting e' setting value = expandSetting e setting value) := by
  have hbraced : ∀ e, expandSetting e setting value = expandBracedSetting e setting value := by
    intro e
    cases hexpand : Reference.expandBraced e value.toList <;>
      simp [expandSetting, expandBracedSetting, expand_eq_expandBraced h, hexpand]
  refine ⟨hbraced e, ?_⟩
  intro hsame
  rw [hbraced e', hbraced e, expandBracedSetting, expandBracedSetting, expandBraced, expandBraced,
    resolveAll_congr hsame]

/-- A dollar sign before a slash, and one before a name in a stand-in. -/
theorem expandSetting_eq_expandBracedSetting_slash :
    (hasBrace "$/$\x7bA:-$B\x7d".toList = false ∨ NoBareReference "$/$\x7bA:-$B\x7d".toList) ∧
      expandSetting ⟨[]⟩ "server.host" "$/$\x7bA:-$B\x7d" =
        expandBracedSetting ⟨[]⟩ "server.host" "$/$\x7bA:-$B\x7d" ∧
      expandSetting ⟨[("B", [98])]⟩ "server.host" "$/$\x7bA:-$B\x7d" =
        expandSetting ⟨[]⟩ "server.host" "$/$\x7bA:-$B\x7d" := by
  have hpieces : bracedPieces "$/$\x7bA:-$B\x7d".toList =
      [.plain ['$'], .plain ['/'], .variable ['A'] (some ['$', 'B'])] := by decide +kernel
  have hslash : isNameChar '/' = false := by decide +kernel
  have hbare : NoBareReference "$/$\x7bA:-$B\x7d".toList := by
    rw [NoBareReference, hpieces]
    simp [NotBare, Piece.text, hslash]
  obtain ⟨hbraced, hsame⟩ :=
    expandSetting_eq_expandBracedSetting (.inr hbare) ⟨[]⟩ ⟨[("B", [98])]⟩ "server.host"
  refine ⟨.inr hbare, hbraced, hsame ?_⟩
  intro name standIn hmem
  rw [hpieces] at hmem
  obtain ⟨rfl, -⟩ : name = ['A'] ∧ standIn = some ['$', 'B'] := by simpa using hmem
  decide +kernel

/-- A name after a dollar sign is taken for a reference because there are braces before it. -/
theorem not_expandSetting_eq_of_name_after_brace :
    ¬ ∀ (e : Environment) (setting value : String),
      expandSetting e setting value = expandBracedSetting e setting value := by
  intro h
  have hok := congrArg Except.isOk
    (h ⟨[("DZ_A", [118, 97])]⟩ "server.host" "$\x7bDZ_A\x7d$DZ_B")
  revert hok
  decide +kernel

end Config
end LivePage
