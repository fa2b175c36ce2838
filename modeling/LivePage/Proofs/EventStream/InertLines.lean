import LivePage.Proofs.EventStream.Ids

/-!
# Lines that take no part in events

Comments, fields of other names, ids that hold NUL and requests for a delay leave a decoder
as it is.  So they can be put into a stream or taken out of it anywhere, in the middle of an
event too, and all other lines give what they gave before.
-/

namespace LivePage
namespace EventStream

/-! ## Inert lines -/

/-- The field names with a meaning. -/
def fieldNames : List (List Char) :=
  ["event".toList, "data".toList, "id".toList, "retry".toList]

/-- Whether a line takes no part in an event: it is a comment, a field without a meaning, an
id that holds NUL, or a request for a delay. -/
def isInert (line : List Char) : Bool :=
  let field := Field.ofLine line
  line ≠ [] ∧ (line.head? = some ':' ∨ field.name ∉ fieldNames ∨
    field.name = "id".toList ∧ '\x00' ∈ field.value ∨ field.name = "retry".toList)

theorem name_ofLine_of_comment {line : List Char} (h : line.head? = some ':') :
    (Field.ofLine line).name = [] := by
  obtain ⟨cs, rfl⟩ := List.head?_eq_some_iff.mp h
  rfl

/-- A line that requests a delay with the given digits. -/
def RequestsDelay (line digits : List Char) : Prop :=
  (line = "retry:".toList ++ digits ∨ line = "retry: ".toList ++ digits) ∧
    digits ≠ [] ∧ ∀ c ∈ digits, c.isDigit = true

/-- The lines that request a delay are those whose field has the name and digits. -/
theorem requestsDelay_iff {line digits : List Char} :
    RequestsDelay line digits ↔
      Field.ofLine line = ⟨"retry".toList, digits⟩ ∧ Digits.isNumeral digits = true := by
  rw [RequestsDelay, ← Digits.isNumeral_iff]
  refine and_congr_left fun hdigits => ⟨?_, fun hfield => ?_⟩
  · rintro (rfl | rfl)
    · obtain ⟨hne, hdigits⟩ := Digits.isNumeral_iff.mp hdigits
      obtain ⟨c, digits, rfl⟩ := List.exists_cons_of_ne_nil hne
      have hc : c ≠ ' ' := by
        rintro rfl
        exact absurd (hdigits ' ' List.mem_cons_self) (by decide)
      simp [Field.ofLine, hc]
    · rfl
  · have hline := List.takeWhile_append_dropWhile (p := (· ≠ ':')) (l := line)
    obtain ⟨hname, hvalue⟩ := Field.mk.injEq .. ▸ hfield
    rw [hname] at hline
    split at hvalue
    case h_1 value hrest =>
      rw [hrest, hvalue] at hline
      exact Or.inr hline.symm
    case h_2 value _ hrest =>
      rw [hrest, hvalue] at hline
      exact Or.inl hline.symm
    case h_3 =>
      rw [← hvalue] at hdigits
      cases hdigits

theorem nanoseconds_ofMillis (n : UInt64) :
    (Duration.ofMillis n).nanoseconds = n.toNat * 1000000 :=
  rfl

/-- Digits ask for as many milliseconds as they denote, or for the greatest number of 64
bits. -/
theorem retryDelay?_eq_some_iff {digits : List Char} {delay : Duration} :
    retryDelay? digits = some delay ↔
      Digits.isNumeral digits = true ∧
        delay.nanoseconds = min (Nat.ofDigitChars 10 digits 0) (UInt64.size - 1) * 1000000 := by
  have hmillis : (UInt64.ofNat (min (Digits.value digits) (UInt64.size - 1))).toNat =
      min (Nat.ofDigitChars 10 digits 0) (UInt64.size - 1) := by
    rw [Digits.value_eq_ofDigitChars]
    exact UInt64.toNat_ofNat_of_lt' (Nat.lt_of_le_of_lt (Nat.min_le_right _ _) (by decide))
  rw [retryDelay?, Option.ite_none_right_eq_some, Option.some_inj, eq_comm, ← hmillis,
    ← nanoseconds_ofMillis]
  exact and_congr_right fun _ => (Duration.nanoseconds_inj.trans eq_comm).symm

namespace Decoder

theorem field_of_name_retry (d : Decoder) {f : Field} (h : f.name = "retry".toList) :
    d.field f = ((retryDelay? f.value).map .retry, d) := by
  simp [field, h]

theorem field_of_name_not_mem (d : Decoder) {f : Field} (h : f.name ∉ fieldNames) :
    d.field f = (none, d) := by
  simp only [fieldNames, List.mem_cons, List.not_mem_nil, or_false, not_or] at h
  obtain ⟨hevent, hdata, hid, hretry⟩ := h
  rw [field, if_neg hevent, if_neg hdata, if_neg hid, if_neg hretry]

theorem field_of_nul (d : Decoder) {f : Field} (hname : f.name = "id".toList)
    (hvalue : '\x00' ∈ f.value) : d.field f = (none, d) := by
  simp [field, hname, hvalue]

/-- An inert line changes nothing.  It gives a frame just if it requests a delay. -/
theorem line_of_isInert (d : Decoder) {line : List Char} (h : isInert line = true) :
    (d.line line).2 = d ∧ ∀ frame, (d.line line).1 = some frame ↔
      ∃ digits delay, RequestsDelay line digits ∧ frame = .retry delay ∧
        delay.nanoseconds = min (Nat.ofDigitChars 10 digits 0) (UInt64.size - 1) * 1000000 := by
  obtain ⟨hne, hkind⟩ := of_decide_eq_true h
  rw [line_of_ne_nil d hne]
  by_cases hname : (Field.ofLine line).name = "retry".toList
  · rw [field_of_name_retry d hname]
    refine ⟨rfl, fun frame => ?_⟩
    simp only [Option.map_eq_some_iff, retryDelay?_eq_some_iff, requestsDelay_iff]
    constructor
    · rintro ⟨delay, ⟨hdigits, hdelay⟩, rfl⟩
      exact ⟨_, delay, ⟨by rw [← hname], hdigits⟩, rfl, hdelay⟩
    · rintro ⟨digits, delay, ⟨hfield, hdigits⟩, rfl, hdelay⟩
      rw [hfield]
      exact ⟨delay, ⟨hdigits, hdelay⟩, rfl⟩
  · have hfield : d.field (Field.ofLine line) = (none, d) := by
      rcases hkind with hcomment | hother | ⟨hid, hnul⟩ | hretry
      · refine field_of_name_not_mem d ?_
        rw [name_ofLine_of_comment hcomment]
        decide
      · exact field_of_name_not_mem d hother
      · exact field_of_nul d hid hnul
      · exact absurd hretry hname
    rw [hfield]
    refine ⟨rfl, fun frame => ⟨nofun, ?_⟩⟩
    rintro ⟨digits, delay, hrequest, -⟩
    rw [(requestsDelay_iff.mp hrequest).1] at hname
    exact absurd rfl hname

end Decoder

/-! ## Streams with inert lines -/

/-- A line of a stream, and whether it was put in between the others. -/
structure PlacedLine where
  text : List Char
  isAdded : Bool

/-- All lines of a stream. -/
def allLines (ls : List PlacedLine) : List (List Char) :=
  ls.map (·.text)

/-- The lines of a stream that were not put in. -/
def ownLines (ls : List PlacedLine) : List (List Char) :=
  allLines (ls.filter (!·.isAdded))

/-- The message in a frame. -/
def Frame.message? : Frame → Option Message
  | .message m => some m
  | .retry _ => none

namespace Decoder

/-- The messages that some lines give. -/
def messages (d : Decoder) (lines : List (List Char)) : List Message :=
  (d.lines lines).filterMap fun answer => answer.1.bind Frame.message?

/-- What the lines that were not put in give among all lines: each its frame and the event
id in force after it. -/
def ownAnswers (d : Decoder) (ls : List PlacedLine) : List (Option Frame × Option String) :=
  ((ls.zip (d.lines (allLines ls))).filter (!·.1.isAdded)).map (·.2)

variable {d : Decoder} {l : PlacedLine} {ls : List PlacedLine}

theorem ownAnswers_cons_own (h : l.isAdded = false) :
    d.ownAnswers (l :: ls) =
      ((d.line l.text).1, (d.line l.text).2.lastEventId) ::
        (d.line l.text).2.ownAnswers ls := by
  simp [ownAnswers, allLines, Decoder.lines, h]

theorem ownAnswers_cons_added (h : l.isAdded = true) :
    d.ownAnswers (l :: ls) = (d.line l.text).2.ownAnswers ls := by
  simp [ownAnswers, allLines, Decoder.lines, h]

theorem messages_cons (d : Decoder) (line : List Char) (lines : List (List Char)) :
    d.messages (line :: lines) =
      ((d.line line).1.bind Frame.message?).toList ++ (d.line line).2.messages lines := by
  rw [messages, Decoder.lines, List.filterMap_cons]
  cases (d.line line).1.bind Frame.message? <;> rfl

/-- An inert line gives no message. -/
theorem messages_cons_of_isInert {line : List Char} (h : isInert line = true)
    (lines : List (List Char)) : d.messages (line :: lines) = d.messages lines := by
  obtain ⟨hstate, hframe⟩ := d.line_of_isInert h
  have hnone : (d.line line).1.bind Frame.message? = none := by
    cases hline : (d.line line).1 with
    | none => rfl
    | some frame =>
        obtain ⟨-, delay, -, rfl, -⟩ := (hframe frame).mp hline
        rfl
  rw [messages_cons, hstate, hnone]
  rfl

/-- Wherever inert lines are put in, the other lines give what they give without them. -/
theorem ownAnswers_eq (d : Decoder)
    (h : ∀ l ∈ ls, l.isAdded = true → isInert l.text = true) :
    d.ownAnswers ls = d.lines (ownLines ls) ∧
      d.messages (allLines ls) = d.messages (ownLines ls) ∧
      d.feed (allLines ls) = d.feed (ownLines ls) := by
  induction ls generalizing d with
  | nil => exact ⟨rfl, rfl, rfl⟩
  | cons l ls ih =>
      obtain ⟨hl, hls⟩ := List.forall_mem_cons.mp h
      obtain ⟨hanswers, hmessages, hfeed⟩ := ih (d.line l.text).2 hls
      have hall : allLines (l :: ls) = l.text :: allLines ls := rfl
      cases hadded : l.isAdded with
      | false =>
          have hown : ownLines (l :: ls) = l.text :: ownLines ls := by
            simp [ownLines, allLines, hadded]
          rw [hall, hown]
          refine ⟨?_, ?_, hfeed⟩
          · rw [ownAnswers_cons_own hadded, hanswers, Decoder.lines]
          · rw [messages_cons, messages_cons, hmessages]
      | true =>
          have hinert := hl hadded
          have hown : ownLines (l :: ls) = ownLines ls := by
            simp [ownLines, hadded]
          rw [(d.line_of_isInert hinert).1] at hanswers hmessages hfeed
          rw [hall, hown]
          refine ⟨?_, ?_, ?_⟩
          · rw [ownAnswers_cons_added hadded, (d.line_of_isInert hinert).1, hanswers]
          · rw [messages_cons_of_isInert hinert, hmessages]
          · rw [feed_cons, (d.line_of_isInert hinert).1, hfeed]

/-- Inert lines may be put into a stream or taken out of it anywhere: all messages, and what
every other line gives, are the same, the event id in force after it included.  An inert line
gives a frame of its own just if it requests a delay, and then that delay in milliseconds, or
the greatest one of 64 bits. -/
theorem inert_lines_ignored (d : Decoder) (ls : List PlacedLine)
    (h : ∀ l ∈ ls, l.isAdded = true → isInert l.text = true) :
    d.ownAnswers ls = d.lines (ownLines ls) ∧
      d.messages (allLines ls) = d.messages (ownLines ls) ∧
      d.feed (allLines ls) = d.feed (ownLines ls) ∧
      ∀ line, isInert line = true → ∀ frame, (d.line line).1 = some frame ↔
        ∃ digits delay, RequestsDelay line digits ∧ frame = .retry delay ∧
          delay.nanoseconds =
            min (Nat.ofDigitChars 10 digits 0) (UInt64.size - 1) * 1000000 := by
  obtain ⟨hanswers, hmessages, hfeed⟩ := d.ownAnswers_eq h
  exact ⟨hanswers, hmessages, hfeed, fun line hline => (d.line_of_isInert hline).2⟩

/-- Inert lines of every kind, in the middle of an event. -/
def mixedLines : List PlacedLine :=
  [⟨"data: a".toList, false⟩, ⟨": data: b".toList, true⟩, ⟨"Data: c".toList, true⟩,
    ⟨"id: 7".toList, false⟩, ⟨"id: 8\x00".toList, true⟩,
    ⟨"retry: 018446744073709551616".toList, true⟩, ⟨"retry: 1s".toList, true⟩,
    ⟨": own".toList, false⟩, ⟨[], false⟩]

theorem inert_lines_ignored_mixed :
    (∀ l ∈ mixedLines, l.isAdded = true → isInert l.text = true) ∧
      initial.ownAnswers mixedLines = initial.lines (ownLines mixedLines) ∧
      initial.messages (allLines mixedLines) = initial.messages (ownLines mixedLines) ∧
      initial.feed (allLines mixedLines) = initial.feed (ownLines mixedLines) ∧
      ∀ line, isInert line = true → ∀ frame, (initial.line line).1 = some frame ↔
        ∃ digits delay, RequestsDelay line digits ∧ frame = .retry delay ∧
          delay.nanoseconds =
            min (Nat.ofDigitChars 10 digits 0) (UInt64.size - 1) * 1000000 := by
  have h : ∀ l ∈ mixedLines, l.isAdded = true → isInert l.text = true := by decide
  exact ⟨h, inert_lines_ignored initial mixedLines h⟩

example : initial.messages (allLines mixedLines) = [⟨"message", "a", some "7"⟩] := by
  decide

end Decoder
end EventStream
end LivePage
