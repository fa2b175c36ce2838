import LivePage.Config.Load
import LivePage.Proofs.Text.Encoding
import LivePage.Text.Cut

/-!
# Settings with references in braces

A setting that is put together from plain text and from references in braces is expanded
piece by piece.  What is put in is not looked at again, and the first variable that is
missing is the one that is reported.  A variable that is set to octets which are no text is
taken for one that is not set.
-/

namespace LivePage

/-! ## Variables -/

namespace Environment

theorem takeWhile_entry {name : List Char} (h : '=' ∉ name) (octets : List UInt8) :
    (entry name octets).takeWhile (· ≠ 61) = Utf8.encode name := by
  have hname : ∀ b ∈ Utf8.encode name, decide (b ≠ 61) = true := by
    rintro b hb
    refine decide_eq_true ?_
    rintro rfl
    exact Utf8.equals_not_mem_encode h hb
  rw [entry, Utf8.encode_append, List.append_assoc, List.takeWhile_append_of_pos hname]
  simp [Utf8.encode, Utf8.encodeChar]

theorem entry_isPrefix_iff {name other : List Char} (hname : '=' ∉ name) (hother : '=' ∉ other)
    (octets : List UInt8) : entry name [] <+: entry other octets ↔ name = other := by
  constructor
  · rintro ⟨rest, hrest⟩
    have hentry : entry name rest = entry other octets := by
      rw [← hrest]
      simp [entry]
    have hnames := congrArg (List.takeWhile (· ≠ 61)) hentry
    rw [takeWhile_entry hname, takeWhile_entry hother] at hnames
    exact Utf8.encode_injective hnames
  · rintro rfl
    exact ⟨octets, by simp [entry]⟩

/-- Where no equals sign stands in a name, a variable is looked up by its name. -/
theorem octets?_eq_lookup {e : Environment} (he : ∀ b ∈ e.bindings, '=' ∉ b.1.toList)
    {name : List Char} (hname : name ≠ []) (hnul : '\x00' ∉ name) (hequals : '=' ∉ name) :
    e.octets? name = e.bindings.lookup (String.ofList name) := by
  obtain ⟨bindings⟩ := e
  rw [octets?, if_neg (by simp [hname, hnul])]
  induction bindings with
  | nil => rfl
  | cons b bindings ih =>
      obtain ⟨other, octets⟩ := b
      obtain ⟨hother, hrest⟩ := List.forall_mem_cons.mp he
      have hfront : (entry name []).isPrefixOf (entry other.toList octets) =
          (String.ofList name == other) := by
        rw [Bool.eq_iff_iff, List.isPrefixOf_iff_prefix, entry_isPrefix_iff hequals hother,
          beq_iff_eq, ← String.toList_inj, String.toList_ofList]
      rw [List.lookup_cons, ← hfront]
      simp only [List.map_cons, List.find?_cons]
      cases hfits : (entry name []).isPrefixOf (entry other.toList octets) with
      | false => exact ih hrest
      | true =>
          rw [hfits] at hfront
          obtain rfl : String.ofList name = other := by simpa using hfront.symm
          simp [entry]

end Environment

namespace Reference

variable {e : Environment} {p : Piece} {ps : List Piece} {name body after cs : List Char}

/-! ## Putting in -/

/-- What pieces stand for, one after the other, or the first variable that is missing. -/
def resolveAll (e : Environment) (ps : List Piece) : Except (List Char) (List Char) :=
  (ps.mapM (Piece.resolve e)).map List.flatten

theorem expand_of_hasBrace (h : hasBrace cs = true) :
    expand e cs = resolveAll e (pieces cs) := by
  rw [expand, if_pos h, resolveAll]

theorem expand_of_not_hasBrace (h : hasBrace cs = false) : expand e cs = .ok cs := by
  simp [expand, h]

theorem resolveAll_cons (e : Environment) (p : Piece) (ps : List Piece) :
    resolveAll e (p :: ps) =
      (p.resolve e).bind fun value => (resolveAll e ps).map (value ++ ·) := by
  simp only [resolveAll, List.mapM_cons]
  cases p.resolve e with
  | error name => rfl
  | ok value => cases ps.mapM (Piece.resolve e) <;> rfl

theorem resolveAll_cons_congr {ps qs : List Piece} (h : resolveAll e ps = resolveAll e qs) :
    resolveAll e (p :: ps) = resolveAll e (p :: qs) := by
  rw [resolveAll_cons, resolveAll_cons, h]

theorem resolveAll_plain_plain (s t : List Char) :
    resolveAll e (.plain s :: .plain t :: ps) = resolveAll e (.plain (s ++ t) :: ps) := by
  simp only [resolveAll_cons, Piece.resolve, Except.bind]
  cases resolveAll e ps with
  | error name => rfl
  | ok value => simp [Except.map]

theorem resolveAll_plain_nil : resolveAll e (.plain [] :: ps) = resolveAll e ps := by
  rw [resolveAll_cons]
  cases h : resolveAll e ps <;> simp [Piece.resolve, Except.bind, Except.map]

/-! ## Pieces that are all there -/

/-- What is put in for a piece where no text is missing. -/
def Piece.given (e : Environment) : Piece → List Char
  | .plain text => text
  | .variable name standIn => (e.value? name).getD (standIn.getD [])

/-- Whether every variable without a stand-in has a text. -/
def AllGiven (e : Environment) (ps : List Piece) : Prop :=
  ∀ name, .variable name none ∈ ps → (e.value? name).isSome = true

theorem AllGiven.tail (h : AllGiven e (p :: ps)) : AllGiven e ps := by
  intro name hname
  exact h name (List.mem_cons_of_mem p hname)

theorem Piece.resolve_of_allGiven (h : AllGiven e (p :: ps)) : p.resolve e = .ok (p.given e) := by
  cases p with
  | plain text => rfl
  | «variable» name standIn =>
      rw [resolve, given]
      cases hvalue : e.value? name with
      | some value => rfl
      | none =>
          cases standIn with
          | some standIn => rfl
          | none => simpa [hvalue] using h name List.mem_cons_self

theorem resolveAll_of_allGiven (h : AllGiven e ps) :
    resolveAll e ps = .ok (ps.flatMap (Piece.given e)) := by
  induction ps with
  | nil => rfl
  | cons p ps ih =>
      rw [resolveAll_cons, Piece.resolve_of_allGiven h, ih h.tail]
      rfl

theorem resolveAll_of_missing {before rest : List Piece} (hbefore : AllGiven e before)
    (hmissing : e.value? name = none) :
    resolveAll e (before ++ .variable name none :: rest) = .error name := by
  induction before with
  | nil => simp [resolveAll_cons, Piece.resolve, hmissing, Except.bind]
  | cons p before ih =>
      rw [List.cons_append, resolveAll_cons, Piece.resolve_of_allGiven hbefore, ih hbefore.tail]
      rfl

theorem allGiven_nil (e : Environment) : AllGiven e [] := by
  intro name hname
  cases hname

theorem AllGiven.cons (hp : ∀ name, p = .variable name none → e.value? name ≠ none)
    (h : AllGiven e ps) : AllGiven e (p :: ps) := by
  intro name hname
  rcases List.mem_cons.mp hname with hhead | htail
  · exact Option.isSome_iff_ne_none.mpr (hp name hhead.symm)
  · exact h name htail

/-- Either nothing is missing, or there is a first variable that is. -/
theorem allGiven_or_missing (e : Environment) (ps : List Piece) :
    AllGiven e ps ∨ ∃ before name rest, ps = before ++ .variable name none :: rest ∧
      AllGiven e before ∧ e.value? name = none := by
  induction ps with
  | nil => exact .inl (allGiven_nil e)
  | cons p ps ih =>
      by_cases hp : ∃ name, p = .variable name none ∧ e.value? name = none
      · obtain ⟨name, rfl, hmissing⟩ := hp
        exact .inr ⟨[], name, ps, rfl, allGiven_nil e, hmissing⟩
      · have hset : ∀ name, p = .variable name none → e.value? name ≠ none := by
          intro name hname hmissing
          exact hp ⟨name, hname, hmissing⟩
        rcases ih with hall | ⟨before, name, rest, rfl, hbefore, hmissing⟩
        · exact .inl (hall.cons hset)
        · exact .inr ⟨p :: before, name, rest, rfl, hbefore.cons hset, hmissing⟩

theorem resolveAll_eq_ok_iff {value : List Char} :
    resolveAll e ps = .ok value ↔ AllGiven e ps ∧ value = ps.flatMap (Piece.given e) := by
  constructor
  · intro hok
    rcases allGiven_or_missing e ps with hall | ⟨before, name, rest, rfl, hbefore, hmissing⟩
    · rw [resolveAll_of_allGiven hall] at hok
      exact ⟨hall, (Except.ok.inj hok).symm⟩
    · rw [resolveAll_of_missing hbefore hmissing] at hok
      cases hok
  · rintro ⟨hall, rfl⟩
    exact resolveAll_of_allGiven hall

theorem resolveAll_eq_error_iff :
    resolveAll e ps = .error name ↔
      ∃ before rest, ps = before ++ .variable name none :: rest ∧
        AllGiven e before ∧ e.value? name = none := by
  constructor
  · intro herror
    rcases allGiven_or_missing e ps with hall | ⟨before, other, rest, rfl, hbefore, hmissing⟩
    · rw [resolveAll_of_allGiven hall] at herror
      cases herror
    · rw [resolveAll_of_missing hbefore hmissing] at herror
      cases herror
      exact ⟨before, rest, rfl, hbefore, hmissing⟩
  · rintro ⟨before, rest, rfl, hbefore, hmissing⟩
    exact resolveAll_of_missing hbefore hmissing

/-! ## How references are read

The rules that `pieces_closed` and the lemmas beside it state are assumed of the expansion.
-/

theorem splitMark_of_no_mark (h : ¬ [':', '-'] <:+: name) : splitMark name = (name, none) := by
  fun_induction splitMark name with
  | case1 standIn => exact absurd (List.prefix_append [':', '-'] standIn).isInfix h
  | case2 => rfl
  | case3 c cs hmark name standIn hsplit ih =>
      have hcs : ¬ [':', '-'] <:+: cs := fun hcs => h (hcs.trans (List.suffix_cons c cs).isInfix)
      cases hsplit.symm.trans (ih hcs)
      rfl

theorem splitMark_mark (h : ¬ [':', '-'] <:+: name) (standIn : List Char) :
    splitMark (name ++ ':' :: '-' :: standIn) = (name, some standIn) := by
  induction name with
  | nil => rfl
  | cons c cs ih =>
      have hcs : ¬ [':', '-'] <:+: cs := fun hcs => h (hcs.trans (List.suffix_cons c cs).isInfix)
      rw [List.cons_append, splitMark.eq_3, ih hcs]
      intro tail hcolon hdash
      cases cs with
      | nil => simp at hdash
      | cons c' cs =>
          obtain ⟨rfl, -⟩ := List.cons.inj hdash
          subst hcolon
          exact h (List.prefix_append [':', '-'] cs).isInfix

/-- Anything but a dollar sign is plain. -/
theorem pieces_plain {c : Char} (hc : c ≠ '$') (cs : List Char) :
    pieces (c :: cs) = .plain [c] :: pieces cs :=
  pieces.eq_5 c cs (fun _ h _ => hc h) (fun _ h _ => hc h) hc

/-- An opening brace that is not closed is plain. -/
theorem pieces_unclosed (h : cs.dropWhile (· ≠ '\x7d') = []) :
    pieces ('$' :: '\x7b' :: cs) = .plain ['$', '\x7b'] :: pieces cs := by
  rw [pieces.eq_2]
  split
  case h_1 => rfl
  case h_2 hsome => cases h.symm.trans hsome

/-- A reference in braces ends at the first closing brace. -/
theorem pieces_closed {c : Char} (h : cs.dropWhile (· ≠ '\x7d') = c :: after) :
    pieces ('$' :: '\x7b' :: cs) = .ofBraces (cs.takeWhile (· ≠ '\x7d')) :: pieces after := by
  rw [pieces.eq_2]
  split
  case h_1 hnone => cases h.symm.trans hnone
  case h_2 hsome =>
    cases h.symm.trans hsome
    rfl

/-- Of two dollar signs, one is plain and the other is dropped. -/
theorem pieces_dollars (cs : List Char) :
    pieces ('$' :: '$' :: cs) = .plain ['$'] :: pieces cs :=
  pieces.eq_3 cs

theorem pieces_braces (hbody : '\x7d' ∉ body) (cs : List Char) :
    pieces ('$' :: '\x7b' :: (body ++ '\x7d' :: cs)) = .ofBraces body :: pieces cs := by
  obtain ⟨hbefore, hafter⟩ := Text.cut_at_mark hbody cs
  rw [pieces_closed hafter, hbefore]

/-! ## Reading what is written -/

/-- Pieces as they may be written: plain text without a dollar sign, and names and stand-ins
that end where they should. -/
def Piece.IsWritten : Piece → Prop
  | .plain text => '$' ∉ text
  | .variable name standIn =>
      name ≠ [] ∧ '\x7d' ∉ name ∧ ¬ [':', '-'] <:+: name ∧ ∀ text ∈ standIn, '\x7d' ∉ text

instance : DecidablePred Piece.IsWritten
  | .plain text => inferInstanceAs (Decidable ('$' ∉ text))
  | .variable name standIn => inferInstanceAs (Decidable
      (name ≠ [] ∧ '\x7d' ∉ name ∧ ¬ [':', '-'] <:+: name ∧ ∀ text ∈ standIn, '\x7d' ∉ text))

/-- The text of pieces. -/
def written (ps : List Piece) : List Char :=
  ps.flatMap Piece.text

/-- A piece that is written in front of a text is read first. -/
theorem resolveAll_pieces_append (hp : p.IsWritten) (cs : List Char) :
    resolveAll e (pieces (p.text ++ cs)) = resolveAll e (p :: pieces cs) := by
  cases p with
  | plain text =>
      induction text with
      | nil => exact resolveAll_plain_nil.symm
      | cons c text ih =>
          obtain ⟨hc, htext⟩ := not_or.mp (mt List.mem_cons.mpr hp)
          rw [Piece.text, List.cons_append, pieces_plain (Ne.symm hc)]
          exact (resolveAll_cons_congr (ih htext)).trans (resolveAll_plain_plain [c] text)
  | «variable» name standIn =>
      obtain ⟨hname, hbrace, hmark, hstandIn⟩ := hp
      obtain ⟨c, name, rfl⟩ := List.exists_cons_of_ne_nil hname
      cases standIn with
      | none =>
          have hbody := pieces_braces hbrace cs
          rw [Piece.ofBraces, splitMark_of_no_mark hmark] at hbody
          simpa [Piece.text] using congrArg (resolveAll e) hbody
      | some standIn =>
          have hclosing : '\x7d' ∉ c :: name ++ ':' :: '-' :: standIn := by
            simpa [hstandIn] using hbrace
          have hbody := pieces_braces hclosing cs
          rw [Piece.ofBraces, splitMark_mark hmark] at hbody
          simpa [Piece.text] using congrArg (resolveAll e) hbody

theorem resolveAll_written_append (hps : ∀ p ∈ ps, p.IsWritten) (cs : List Char) :
    resolveAll e (pieces (written ps ++ cs)) = resolveAll e (ps ++ pieces cs) := by
  induction ps with
  | nil => rfl
  | cons p ps ih =>
      obtain ⟨hp, hps⟩ := List.forall_mem_cons.mp hps
      rw [written, List.flatMap_cons, List.append_assoc, resolveAll_pieces_append hp]
      exact resolveAll_cons_congr (ih hps)

theorem hasBrace_iff : hasBrace cs = true ↔ ['$', '\x7b'] <:+: cs := by
  fun_induction hasBrace cs with
  | case1 cs => simpa using (List.prefix_append ['$', '\x7b'] cs).isInfix
  | case2 c cs hbrace ih =>
      rw [ih, List.infix_cons_iff]
      refine (or_iff_right ?_).symm
      rintro ⟨rest, hrest⟩
      obtain ⟨rfl, rfl⟩ := List.cons.inj hrest
      exact hbrace rest rfl rfl
  | case3 => simp

theorem isInfix_written_of_variable {standIn : Option (List Char)}
    (h : .variable name standIn ∈ ps) : ['$', '\x7b'] <:+: written ps := by
  have htext : Piece.text (.variable name standIn) <:+: written ps := by
    obtain ⟨before, rest, rfl⟩ := List.append_of_mem h
    exact ⟨written before, written rest, by simp [written]⟩
  refine List.IsInfix.trans ?_ htext
  cases standIn with
  | none => exact ⟨[], name ++ ['\x7d'], by simp [Piece.text]⟩
  | some standIn => exact ⟨[], name ++ ':' :: '-' :: standIn ++ ['\x7d'], by simp [Piece.text]⟩

/-- Without a brace there is only plain text, and it is its own value. -/
theorem resolveAll_of_not_hasBrace (h : hasBrace (written ps) = false) :
    resolveAll e ps = .ok (written ps) := by
  have hplain : ∀ name standIn, .variable name standIn ∉ ps := by
    intro name standIn hmem
    rw [hasBrace_iff.mpr (isInfix_written_of_variable hmem)] at h
    cases h
  refine resolveAll_eq_ok_iff.mpr ⟨fun name hname => absurd hname (hplain name none), ?_⟩
  rw [written, List.flatMap_def, List.flatMap_def]
  refine congrArg List.flatten (List.map_congr_left fun p hp => ?_)
  cases p with
  | plain text => rfl
  | «variable» name standIn => exact absurd hp (hplain name standIn)

theorem expand_written (hps : ∀ p ∈ ps, p.IsWritten) :
    expand e (written ps) = resolveAll e ps := by
  cases hbrace : hasBrace (written ps) with
  | true =>
      have hread := resolveAll_written_append (e := e) hps []
      rw [List.append_nil] at hread
      rw [expand_of_hasBrace hbrace, hread]
      simp [pieces]
  | false => rw [expand_of_not_hasBrace hbrace, resolveAll_of_not_hasBrace hbrace]

/-! ## Variables that are set -/

/-- What a piece stands for: what its variable is set to, read as text, or its stand-in if the
variable is not set. -/
def Piece.value (e : Environment) : Piece → List Char
  | .plain text => text
  | .variable name standIn =>
      match e.octets? name with
      | some octets => Utf8.decodeLossy octets
      | none => standIn.getD []

/-- Whether every variable without a stand-in is set. -/
def AllSet (e : Environment) (ps : List Piece) : Prop :=
  ∀ name, .variable name none ∈ ps → (e.octets? name).isSome = true

/-- Whether the variable of a piece, if it is set at all, is set to text. -/
def Piece.HoldsText (e : Environment) : Piece → Prop
  | .plain _ => True
  | .variable name _ => ∀ octets ∈ e.octets? name, (Utf8.decode? octets).isSome = true

instance (e : Environment) : DecidablePred (Piece.HoldsText e)
  | .plain _ => instDecidableTrue
  | .variable name _ => inferInstanceAs (Decidable
      (∀ octets ∈ e.octets? name, (Utf8.decode? octets).isSome = true))

theorem value?_eq_octets? {standIn : Option (List Char)}
    (h : Piece.HoldsText e (.variable name standIn)) :
    e.value? name = (e.octets? name).map Utf8.decodeLossy := by
  rw [Environment.value?]
  cases hoctets : e.octets? name with
  | none => rfl
  | some octets =>
      obtain ⟨text, htext⟩ := Option.isSome_iff_exists.mp (h octets hoctets)
      rw [Option.bind_some, Option.map_some, htext, Utf8.decodeLossy_of_decode? htext]

theorem value?_eq_none_iff {standIn : Option (List Char)}
    (h : Piece.HoldsText e (.variable name standIn)) :
    e.value? name = none ↔ e.octets? name = none := by
  rw [value?_eq_octets? h, Option.map_eq_none_iff]

theorem allGiven_iff_allSet (h : ∀ p ∈ ps, p.HoldsText e) : AllGiven e ps ↔ AllSet e ps := by
  refine forall_congr' fun name => forall_congr' fun hname => ?_
  rw [value?_eq_octets? (h _ hname), Option.isSome_map]

theorem Piece.given_eq_value (h : p.HoldsText e) : p.given e = p.value e := by
  cases p with
  | plain text => rfl
  | «variable» name standIn =>
      rw [given, value, value?_eq_octets? h]
      cases e.octets? name <;> rfl

theorem holdsText_before {before rest : List Piece}
    (h : ∀ q ∈ before ++ p :: rest, q.HoldsText e) :
    (∀ q ∈ before, q.HoldsText e) ∧ p.HoldsText e := by
  obtain ⟨hbefore, hrest⟩ := List.forall_mem_append.mp h
  exact ⟨hbefore, (List.forall_mem_cons.mp hrest).1⟩

theorem flatMap_given (h : ∀ p ∈ ps, p.HoldsText e) :
    ps.flatMap (Piece.given e) = ps.flatMap (Piece.value e) := by
  rw [List.flatMap_def, List.flatMap_def]
  refine congrArg List.flatten (List.map_congr_left fun p hp => ?_)
  exact Piece.given_eq_value (h p hp)

end Reference

namespace Config

open Reference

theorem expandSetting_eq_ok_iff {e : Environment} {setting value expanded : String} :
    expandSetting e setting value = .ok expanded ↔
      ∃ cs, Reference.expand e value.toList = .ok cs ∧ expanded = String.ofList cs := by
  rw [expandSetting]
  cases Reference.expand e value.toList with
  | ok cs => simp [eq_comm]
  | error name => simp

theorem expandSetting_eq_error_iff {e : Environment} {setting value : String}
    {fault : LoadFault} :
    expandSetting e setting value = .error fault ↔
      ∃ name, Reference.expand e value.toList = .error name ∧
        fault = .missingVariable setting (String.ofList name) := by
  rw [expandSetting]
  cases Reference.expand e value.toList with
  | ok cs => simp
  | error name => simp [eq_comm]

/-- What a setting that is put together from pieces is expanded to, and when it is not.  A variable
is set if it is there at all, whatever its octets are. -/
structure ReplacesReferences (e : Environment) (setting : String) (ps : List Piece) : Prop where
  ok_iff : ∀ expanded, expandSetting e setting (String.ofList (written ps)) = .ok expanded ↔
    AllSet e ps ∧ expanded = String.ofList (ps.flatMap (Piece.value e))
  error_iff : ∀ fault, expandSetting e setting (String.ofList (written ps)) = .error fault ↔
    ∃ before name rest, ps = before ++ .variable name none :: rest ∧ AllSet e before ∧
      e.octets? name = none ∧ fault = .missingVariable setting (String.ofList name)

/-- Where each variable that is referred to is not set or set to text, the references are
replaced. -/
theorem replacesReferences_of_written (e : Environment) (setting : String) {ps : List Piece}
    (hps : ∀ p ∈ ps, p.IsWritten) (htext : ∀ p ∈ ps, p.HoldsText e) :
    ReplacesReferences e setting ps where
  ok_iff := by
    intro expanded
    rw [expandSetting_eq_ok_iff, String.toList_ofList, expand_written hps,
      ← allGiven_iff_allSet htext, ← flatMap_given htext]
    constructor
    · rintro ⟨cs, hok, rfl⟩
      obtain ⟨hall, rfl⟩ := resolveAll_eq_ok_iff.mp hok
      exact ⟨hall, rfl⟩
    · rintro ⟨hall, rfl⟩
      exact ⟨_, resolveAll_of_allGiven hall, rfl⟩
  error_iff := by
    intro fault
    rw [expandSetting_eq_error_iff, String.toList_ofList, expand_written hps]
    constructor
    · rintro ⟨name, herror, rfl⟩
      obtain ⟨before, rest, rfl, hbefore, hmissing⟩ := resolveAll_eq_error_iff.mp herror
      obtain ⟨htext, hname⟩ := holdsText_before htext
      exact ⟨before, name, rest, rfl, (allGiven_iff_allSet htext).mp hbefore,
        (value?_eq_none_iff hname).mp hmissing, rfl⟩
    · rintro ⟨before, name, rest, rfl, hbefore, hmissing, rfl⟩
      obtain ⟨htext, hname⟩ := holdsText_before htext
      exact ⟨name, resolveAll_of_missing ((allGiven_iff_allSet htext).mpr hbefore)
        ((value?_eq_none_iff hname).mpr hmissing), rfl⟩

def nestedPieces : List Piece :=
  [.variable ['A'] none, .plain ['/'], .variable ['B'] (some ['$', '\x7b', 'C']),
    .variable ['D'] none]

/-- The value and the stand-in look like references. -/
def nestedEnvironment : Environment :=
  ⟨[("A", [36, 123, 66, 125])]⟩

theorem replacesReferences_of_written_nested :
    (∀ p ∈ nestedPieces, p.IsWritten) ∧ (∀ p ∈ nestedPieces, p.HoldsText nestedEnvironment) ∧
      ReplacesReferences nestedEnvironment "server.host" nestedPieces := by
  have hpieces : ∀ p ∈ nestedPieces, p.IsWritten := by decide
  have htext : ∀ p ∈ nestedPieces, p.HoldsText nestedEnvironment := by decide +kernel
  exact ⟨hpieces, htext,
    replacesReferences_of_written nestedEnvironment "server.host" hpieces htext⟩

example :
    (expandSetting nestedEnvironment "server.host" "$\x7bA\x7d/$\x7bB:-$\x7bC\x7d").toOption =
      some "$\x7bB\x7d/$\x7bC" := by
  decide +kernel

/-- A variable that is set to an octet which is no text is reported as missing, and its stand-in
is put in for it. -/
theorem not_replacesReferences_of_no_text :
    let e : Environment := ⟨[("A", [0xFF])]⟩
    let alone : List Piece := [.variable ['A'] none]
    let withStandIn : List Piece := [.variable ['A'] (some ['d'])]
    e.octets? ['A'] = some [0xFF] ∧ (∀ p ∈ alone ++ withStandIn, p.IsWritten) ∧
      ¬ ReplacesReferences e "server.host" alone ∧
      ¬ ReplacesReferences e "server.host" withStandIn := by
  intro e alone withStandIn
  refine ⟨by decide +kernel, by decide, ?_, ?_⟩
  · intro h
    have hset : AllSet e alone := by
      rintro name hname
      obtain ⟨rfl⟩ : name = ['A'] := by simpa [alone] using hname
      decide +kernel
    have hok := (h.ok_iff _).mpr ⟨hset, rfl⟩
    have hfailed : (expandSetting e "server.host" (String.ofList (written alone))).isOk = false := by
      decide +kernel
    rw [hok] at hfailed
    cases hfailed
  · intro h
    have hstandIn : (expandSetting e "server.host" (String.ofList (written withStandIn))).toOption =
        some "d" := by
      decide +kernel
    cases hexpand : expandSetting e "server.host" (String.ofList (written withStandIn)) with
    | error fault =>
        rw [hexpand] at hstandIn
        cases hstandIn
    | ok expanded =>
        rw [hexpand] at hstandIn
        cases hstandIn
        have hvalue := ((h.ok_iff "d").mp hexpand).2
        revert hvalue
        decide +kernel

end Config
end LivePage
