import LivePage.Toml.Blank

/-!
# Quoted strings

A string stands between quotes on one line, or between triple quotes on several.
Double quotes allow escapes; single quotes take every character as it is.  Each
reader starts after the opening quotes and gives the string and what is left
after the closing ones.
-/

namespace LivePage
namespace Toml

/-- The value of a digit in base sixteen. -/
def hexDigit? (c : Char) : Option Nat :=
  if c.isDigit then some (c.toNat - '0'.toNat)
  else if 'a' ≤ c ∧ c ≤ 'f' then some (c.toNat - 'a'.toNat + 10)
  else if 'A' ≤ c ∧ c ≤ 'F' then some (c.toNat - 'A'.toNat + 10)
  else none

/-- The number that digits in base sixteen denote. -/
def hexValue? (cs : List Char) : Option Nat :=
  cs.foldlM (fun n c => (hexDigit? c).map (n * 16 + ·)) 0

/-- The character with the given code point, written in base sixteen. -/
def codePoint? (digits : List Char) : Option Char :=
  (hexValue? digits).bind fun n =>
    if h : n.isValidChar then some (Char.ofNatAux n h) else none

/-- Reads an escape after its backslash: the character that it stands for, and
what is left. -/
def readEscape? : List Char → Option (Char × List Char)
  | 'b' :: cs => some ('\x08', cs)
  | 't' :: cs => some ('\t', cs)
  | 'n' :: cs => some ('\n', cs)
  | 'f' :: cs => some ('\x0C', cs)
  | 'r' :: cs => some ('\r', cs)
  | 'e' :: cs => some ('\x1B', cs)
  | '\x22' :: cs => some ('\x22', cs)
  | '\\' :: cs => some ('\\', cs)
  | 'x' :: a :: b :: cs => (codePoint? [a, b]).map (·, cs)
  | 'u' :: a :: b :: c :: d :: cs => (codePoint? [a, b, c, d]).map (·, cs)
  | 'U' :: a :: b :: c :: d :: e :: f :: g :: h :: cs =>
    (codePoint? [a, b, c, d, e, f, g, h]).map (·, cs)
  | _ => none

theorem length_lt_of_readEscape? {cs rest : List Char} {c : Char}
    (h : readEscape? cs = some (c, rest)) : rest.length < cs.length := by
  unfold readEscape? at h
  split at h
  all_goals
    first
    | simp only [Option.some.injEq, Prod.mk.injEq] at h
      rw [← h.2]
      simp
    | obtain ⟨_, _, h⟩ := Option.map_eq_some_iff.mp h
      rw [← (Prod.mk.inj h).2]
      simp only [List.length_cons]
      omega
    | simp at h

def readBasic? (cs : List Char) : Option (List Char × List Char) :=
  match cs with
  | [] => none
  | '\x22' :: rest => some ([], rest)
  | '\\' :: rest =>
    match _h : readEscape? rest with
    | none => none
    | some (c, rest) => (readBasic? rest).map fun (text, rest) => (c :: text, rest)
  | c :: rest =>
    if isTextChar c then (readBasic? rest).map fun (text, rest) => (c :: text, rest) else none
termination_by cs.length
decreasing_by
  · have := length_lt_of_readEscape? _h
    simp only [List.length_cons]
    omega
  · simp

def readLiteral? : List Char → Option (List Char × List Char)
  | [] => none
  | c :: rest =>
    if c = '\x27' then some ([], rest)
    else if isTextChar c then
      (readLiteral? rest).map fun (text, rest) => (c :: text, rest)
    else none

def skipNewline : List Char → List Char
  | '\n' :: cs => cs
  | '\r' :: '\n' :: cs => cs
  | cs => cs

def skipBlankLines : List Char → List Char
  | '\n' :: cs => skipBlankLines cs
  | '\r' :: '\n' :: cs => skipBlankLines cs
  | c :: cs => if isBlank c then skipBlankLines cs else c :: cs
  | [] => []

theorem length_skipBlankLines_le (cs : List Char) :
    (skipBlankLines cs).length ≤ cs.length := by
  fun_induction skipBlankLines cs with
  | case1 cs ih => exact Nat.le_succ_of_le ih
  | case2 cs ih => exact Nat.le_succ_of_le (Nat.le_succ_of_le ih)
  | case3 c cs _ _ _ ih => exact Nat.le_succ_of_le ih
  | case4 => exact Nat.le_refl _
  | case5 => exact Nat.le_refl _

/-- Skips a line end after a backslash, with the blanks before it and all blanks
and line ends after it. -/
def skipFoldedLine? (cs : List Char) : Option (List Char) :=
  match skipBlanks cs with
  | '\n' :: cs => some (skipBlankLines cs)
  | '\r' :: '\n' :: cs => some (skipBlankLines cs)
  | _ => none

theorem length_le_of_skipFoldedLine? {cs rest : List Char}
    (h : skipFoldedLine? cs = some rest) : rest.length ≤ cs.length := by
  have hblank : (skipBlanks cs).length ≤ cs.length :=
    (List.dropWhile_suffix isBlank).length_le
  unfold skipFoldedLine? at h
  split at h
  · rename_i tail heq
    rw [heq] at hblank
    rw [← Option.some.inj h]
    have := length_skipBlankLines_le tail
    simp only [List.length_cons] at hblank
    omega
  · rename_i tail heq
    rw [heq] at hblank
    rw [← Option.some.inj h]
    have := length_skipBlankLines_le tail
    simp only [List.length_cons] at hblank
    omega
  · simp at h

/-- Reads a string in triple double quotes.  Up to two quotes may stand right
before the closing ones. -/
def readLongBasic? (cs : List Char) : Option (List Char × List Char) :=
  match cs with
  | [] => none
  | '\x22' :: '\x22' :: '\x22' :: '\x22' :: '\x22' :: rest => some (['\x22', '\x22'], rest)
  | '\x22' :: '\x22' :: '\x22' :: '\x22' :: rest => some (['\x22'], rest)
  | '\x22' :: '\x22' :: '\x22' :: rest => some ([], rest)
  | '\\' :: rest =>
    match _h₁ : skipFoldedLine? rest with
    | some rest => readLongBasic? rest
    | none =>
      match _h₂ : readEscape? rest with
      | none => none
      | some (c, rest) => (readLongBasic? rest).map fun (text, rest) => (c :: text, rest)
  | '\r' :: '\n' :: rest =>
    (readLongBasic? rest).map fun (text, rest) => ('\r' :: '\n' :: text, rest)
  | c :: rest =>
    if c = '\n' || isTextChar c then
      (readLongBasic? rest).map fun (text, rest) => (c :: text, rest)
    else none
termination_by cs.length
decreasing_by
  · have := length_le_of_skipFoldedLine? _h₁
    simp only [List.length_cons]
    omega
  · have := length_lt_of_readEscape? _h₂
    simp only [List.length_cons]
    omega
  · simp only [List.length_cons]
    omega
  · simp

/-- Reads a string in triple single quotes.  Up to two quotes may stand right
before the closing ones. -/
def readLongLiteral? : List Char → Option (List Char × List Char)
  | [] => none
  | '\x27' :: '\x27' :: '\x27' :: '\x27' :: '\x27' :: rest => some (['\x27', '\x27'], rest)
  | '\x27' :: '\x27' :: '\x27' :: '\x27' :: rest => some (['\x27'], rest)
  | '\x27' :: '\x27' :: '\x27' :: rest => some ([], rest)
  | '\r' :: '\n' :: rest =>
    (readLongLiteral? rest).map fun (text, rest) => ('\r' :: '\n' :: text, rest)
  | c :: rest =>
    if c = '\n' || isTextChar c then
      (readLongLiteral? rest).map fun (text, rest) => (c :: text, rest)
    else none

/-- Reads a string from its opening quotes on. -/
def readString? : List Char → Option (List Char × List Char)
  | '\x22' :: '\x22' :: '\x22' :: rest => readLongBasic? (skipNewline rest)
  | '\x27' :: '\x27' :: '\x27' :: rest => readLongLiteral? (skipNewline rest)
  | '\x22' :: rest => readBasic? rest
  | '\x27' :: rest => readLiteral? rest
  | _ => none

end Toml
end LivePage
