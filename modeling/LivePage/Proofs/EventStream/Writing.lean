import LivePage.EventStream.Writer
import LivePage.Proofs.EventStream.Boundaries
import LivePage.Proofs.EventStream.Lines
import LivePage.Proofs.Text.Encoding

/-!
# Written messages

The lines of a message that can be written take a decoder from one event boundary to the
next and give that message.  Their octets, however the lines end, are cut into the same
lines again.
-/

namespace LivePage

/-! ## The parts of a text -/

namespace Text

theorem flatMap_cutAll (a : Char) (cs : List Char) :
    (cutAll (· = a) cs).flatMap (· ++ [a]) = cs ++ [a] := by
  induction cs with
  | nil => rfl
  | cons c cs ih =>
      rw [cutAll]
      split
      · rename_i hc
        rw [decide_eq_true_eq] at hc
        rw [List.flatMap_cons, ih, hc]
        rfl
      · cases hparts : cutAll (· = a) cs with
        | nil => exact absurd hparts (cutAll_ne_nil _ cs)
        | cons part parts =>
            rw [hparts] at ih
            rw [List.cons_append, ← ih]
            rfl

theorem mem_of_mem_cutAll {separator : Char → Bool} {cs part : List Char}
    (hpart : part ∈ cutAll separator cs) {c : Char} (hc : c ∈ part) :
    c ∈ cs ∧ separator c = false := by
  induction cs generalizing part with
  | nil =>
      rw [cutAll, List.mem_singleton] at hpart
      simp [hpart] at hc
  | cons a cs ih =>
      have hlater {part : List Char} (hpart : part ∈ cutAll separator cs) (hc : c ∈ part) :
          c ∈ a :: cs ∧ separator c = false := by
        obtain ⟨hcs, hsep⟩ := ih hpart hc
        exact ⟨List.mem_cons_of_mem a hcs, hsep⟩
      rw [cutAll] at hpart
      split at hpart
      · rcases List.mem_cons.mp hpart with rfl | hpart
        · cases hc
        · exact hlater hpart hc
      · rename_i ha
        rw [Bool.not_eq_true] at ha
        cases hparts : cutAll separator cs with
        | nil => exact absurd hparts (cutAll_ne_nil separator cs)
        | cons first parts =>
            rw [hparts] at hpart hlater
            rcases List.mem_cons.mp hpart with rfl | hpart
            · rcases List.mem_cons.mp hc with rfl | hc
              · exact ⟨List.mem_cons_self, ha⟩
              · exact hlater List.mem_cons_self hc
            · exact hlater (List.mem_cons_of_mem first hpart) hc

end Text

namespace EventStream

/-! ## What can be written -/

theorem isLineEnd_eq_false_iff {c : Char} :
    isLineEnd c = false ↔ c ≠ '\n' ∧ c ≠ '\r' := by
  simp [isLineEnd]

theorem isEventName_iff {s : String} :
    isEventName s = true ↔ s ≠ "" ∧ IsUnterminated '\n' '\r' s.toList := by
  simp [isEventName, IsUnterminated, isLineEnd]

theorem isEventId_iff {s : String} :
    isEventId s = true ↔
      s ≠ "" ∧ '\x00' ∉ s.toList ∧ IsUnterminated '\n' '\r' s.toList := by
  simp only [isEventId, IsUnterminated, Bool.and_eq_true, Bool.not_eq_true',
    String.isEmpty_eq_false_iff, List.any_eq_false, Bool.or_eq_true, not_or,
    decide_eq_true_eq, Bool.not_eq_true, isLineEnd_eq_false_iff]
  refine and_congr_right fun _ => ⟨fun h => ?_, fun h c hc => ?_⟩
  · exact ⟨fun hnul => (h _ hnul).1 rfl, fun c hc => (h c hc).2⟩
  · refine ⟨?_, h.2 c hc⟩
    rintro rfl
    exact h.1 hc

namespace Message

theorem isWritable_iff {m : Message} :
    m.isWritable = true ↔
      isEventName m.event = true ∧ m.lastEventId.all isEventId = true ∧
        '\r' ∉ m.data.toList := by
  simp [isWritable, and_assoc]

/-- The line for an event id. -/
def idLine : Option String → List Char
  | none => "id".toList
  | some id => "id: ".toList ++ id.toList

/-- The lines for a payload. -/
def dataLines (data : List Char) : List (List Char) :=
  (Text.cutAll (· = '\n') data).map ("data: ".toList ++ ·)

theorem lines_eq (m : Message) :
    m.lines =
      ("event: ".toList ++ m.event.toList) :: idLine m.lastEventId ::
        (dataLines m.data.toList ++ [[]]) :=
  rfl

end Message

/-! ## Decoding written lines -/

namespace Decoder

theorem line_event (d : Decoder) (name : List Char) :
    d.line ("event: ".toList ++ name) = (none, { d with event := name }) :=
  rfl

theorem line_data (d : Decoder) (value : List Char) :
    d.line ("data: ".toList ++ value) =
      (none, { d with data := d.data ++ value ++ ['\n'] }) :=
  rfl

theorem line_idLine (d : Decoder) {id : Option String} (hid : id.all isEventId = true) :
    d.line (Message.idLine id) = (none, { d with pendingId := id }) := by
  cases id with
  | none => rfl
  | some id =>
      obtain ⟨hempty, hnul, -⟩ := isEventId_iff.mp hid
      have hne : id.toList ≠ [] := by simpa using hempty
      calc
        d.line (Message.idLine (some id)) = d.field ⟨"id".toList, id.toList⟩ := rfl
        _ = (none, { d with pendingId := some id }) := by
          simp [field, hnul, hne]

/-- The lines for parts of a payload put them into the data buffer, a newline after each. -/
theorem frames_dataLines (d : Decoder) (parts rest : List (List Char)) :
    d.frames (parts.map ("data: ".toList ++ ·) ++ rest) =
      ({ d with data := d.data ++ parts.flatMap (· ++ ['\n']) } : Decoder).frames rest := by
  induction parts generalizing d with
  | nil => simp
  | cons part parts ih =>
      have hline := d.line_data part
      rw [List.map_cons, List.cons_append, frames_cons_of_none (by rw [hline]), hline, ih]
      simp

/-- A blank line gives the message that its fields have put into the buffers. -/
theorem line_blank_of_fields {m : Message} (hevent : m.event ≠ "") (id : Option String) :
    line ⟨m.data.toList ++ ['\n'], m.event.toList, m.lastEventId, id⟩ [] =
      (some (.message m), resume m.lastEventId) := by
  have hdata : m.data.toList ++ ['\n'] ≠ [] := by simp
  have hname : m.event.toList ≠ [] := by simpa using hevent
  rw [Decoder.line, dispatch_of_data_ne_nil hdata]
  simp [chomp, takeEvent, hname, resume]

/-- A written message is read back at any event boundary. -/
theorem frames_message {m : Message} (hm : m.isWritable = true) (id : Option String)
    (rest : List (List Char)) :
    (resume id).frames (m.lines ++ rest) =
      (.message m, m.lastEventId) :: (resume m.lastEventId).frames rest := by
  obtain ⟨hevent, hid, -⟩ := Message.isWritable_iff.mp hm
  have hblank := line_blank_of_fields (isEventName_iff.mp hevent).1 id
  calc
    (resume id).frames (m.lines ++ rest)
    _ = ({ resume id with event := m.event.toList } : Decoder).frames
          (Message.idLine m.lastEventId ::
            (Message.dataLines m.data.toList ++ ([] :: rest))) := by
      rw [Message.lines_eq, List.cons_append, frames_cons_of_none (by rw [line_event]),
        line_event]
      simp
    _ = ({ resume id with event := m.event.toList, pendingId := m.lastEventId } :
          Decoder).frames (Message.dataLines m.data.toList ++ ([] :: rest)) := by
      rw [frames_cons_of_none (by rw [line_idLine _ hid]), line_idLine _ hid]
    _ = frames ⟨m.data.toList ++ ['\n'], m.event.toList, m.lastEventId, id⟩ ([] :: rest) := by
      rw [Message.dataLines, frames_dataLines, Text.flatMap_cutAll]
      rfl
    _ = (.message m, m.lastEventId) :: (resume m.lastEventId).frames rest := by
      rw [frames_cons_of_some (by rw [hblank]), hblank]
      rfl

theorem frames_messages {ms : List Message} (hms : ∀ m ∈ ms, m.isWritable = true)
    (id : Option String) :
    (resume id).frames (ms.flatMap Message.lines) =
      ms.map fun m => (.message m, m.lastEventId) := by
  induction ms generalizing id with
  | nil => rfl
  | cons m ms ih =>
      obtain ⟨hm, hms⟩ := List.forall_mem_cons.mp hms
      rw [List.flatMap_cons, frames_message hm, ih hms, List.map_cons]

end Decoder

/-! ## Cutting written lines -/

theorem IsUnterminated.append {l more : List Char} (hl : IsUnterminated '\n' '\r' l)
    (hmore : IsUnterminated '\n' '\r' more) : IsUnterminated '\n' '\r' (l ++ more) := by
  intro c hc
  rcases List.mem_append.mp hc with hc | hc
  · exact hl c hc
  · exact hmore c hc

namespace Message

theorem isUnterminated_idLine {id : Option String} (hid : id.all isEventId = true) :
    IsUnterminated '\n' '\r' (idLine id) := by
  cases id with
  | none => simp [IsUnterminated, idLine]
  | some id =>
      obtain ⟨-, -, hid⟩ := isEventId_iff.mp hid
      exact IsUnterminated.append (by simp [IsUnterminated]) hid

theorem isUnterminated_of_mem_dataLines {data : List Char} (hdata : '\r' ∉ data)
    {line : List Char} (hline : line ∈ dataLines data) : IsUnterminated '\n' '\r' line := by
  obtain ⟨part, hpart, rfl⟩ := List.mem_map.mp hline
  refine IsUnterminated.append (by simp [IsUnterminated]) fun c hc => ?_
  obtain ⟨hmem, hlf⟩ := Text.mem_of_mem_cutAll hpart hc
  refine ⟨by simpa using hlf, ?_⟩
  rintro rfl
  exact hdata hmem

theorem isUnterminated_of_mem_lines {m : Message} (hm : m.isWritable = true)
    {line : List Char} (hline : line ∈ m.lines) : IsUnterminated '\n' '\r' line := by
  obtain ⟨hevent, hid, hdata⟩ := isWritable_iff.mp hm
  rw [lines_eq, List.mem_cons, List.mem_cons, List.mem_append, List.mem_singleton] at hline
  rcases hline with rfl | rfl | hline | rfl
  · exact IsUnterminated.append (by simp [IsUnterminated]) (isEventName_iff.mp hevent).2
  · exact isUnterminated_idLine hid
  · exact isUnterminated_of_mem_dataLines hdata hline
  · exact List.forall_mem_nil _

end Message

/-- After a carriage return alone no line feed comes, so the flag makes no difference. -/
theorem cutLines_flatMap_lineEnd (e : LineEnd) (skip : Bool)
    (hskip : skip = true → e = .carriageReturn) {lines : List (List Char)}
    (hlines : ∀ line ∈ lines, IsUnterminated '\n' '\r' line) :
    cutLines '\n' '\r' skip [] (lines.flatMap (· ++ e.text)) = lines := by
  induction lines generalizing skip with
  | nil => rfl
  | cons line lines ih =>
      obtain ⟨hline, hlines⟩ := List.forall_mem_cons.mp hlines
      rw [List.flatMap_cons, List.append_assoc]
      cases e with
      | lineFeed =>
          have hskip : skip = false := by simpa using hskip
          rw [LineEnd.text, List.singleton_append,
            cutLines_append_lf hline (by rw [hskip]; rfl)]
          exact congrArg _ (ih false (by simp) hlines)
      | carriageReturn =>
          rw [LineEnd.text, List.singleton_append, cutLines_append_cr (by decide) hline]
          exact congrArg _ (ih true (fun _ => rfl) hlines)
      | both =>
          rw [LineEnd.text, List.cons_append, List.singleton_append,
            cutLines_append_cr (by decide) hline, cutLines_skip_lf]
          exact congrArg _ (ih false (by simp) hlines)

theorem completeLines_flatMap_lineEnd (e : LineEnd) {lines : List (List Char)}
    (hlines : ∀ line ∈ lines, IsUnterminated '\n' '\r' line) :
    completeLines (lines.flatMap (· ++ e.text)) = lines := by
  rw [completeLines, linesAfter_eq_cutLines]
  exact cutLines_flatMap_lineEnd e false (by simp) hlines

/-- Written messages open with the name of a field, and not with a mark. -/
theorem dropMark_flatMap_lines (e : LineEnd) (ms : List Message) :
    dropMark ((ms.flatMap Message.lines).flatMap (· ++ e.text)) =
      (ms.flatMap Message.lines).flatMap (· ++ e.text) := by
  cases ms with
  | nil => rfl
  | cons m ms => rfl

/-- The octets of messages hold their lines. -/
theorem streamLines_encodeAll (e : LineEnd) {ms : List Message}
    (hms : ∀ m ∈ ms, m.isWritable = true) :
    streamLines (Message.encodeAll e ms) = ms.flatMap Message.lines := by
  have hlines : ∀ line ∈ ms.flatMap Message.lines, IsUnterminated '\n' '\r' line := by
    intro line hline
    obtain ⟨m, hm, hline⟩ := List.mem_flatMap.mp hline
    exact Message.isUnterminated_of_mem_lines (hms m hm) hline
  rw [streamLines, Message.encodeAll, Utf8.decodeLossy_encode, dropMark_flatMap_lines,
    completeLines_flatMap_lineEnd e hlines]

end EventStream
end LivePage
