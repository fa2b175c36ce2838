import LivePage.Proofs.EventStream.Chunking
import LivePage.Proofs.EventStream.Writing

/-!
# Writing and reading undo each other

What is written is read back, however its octets come.  And whatever octets a reader is
given, each message that it delivers can be written: its buffers never hold what a line
cannot.
-/

namespace LivePage
namespace EventStream

/-! ## Decoders -/

namespace Decoder

/-- A decoder holds nothing that could not have come from lines. -/
structure IsClean (d : Decoder) : Prop where
  event : IsUnterminated '\n' '\r' d.event
  data : '\r' ∉ d.data
  pendingId : d.pendingId.all isEventId = true

theorem isClean_resume {id : Option String} (hid : id.all isEventId = true) :
    (resume id).IsClean :=
  ⟨List.forall_mem_nil _, List.not_mem_nil, hid⟩

theorem value_suffix_line (line : List Char) : (Field.ofLine line).value <:+ line := by
  unfold Field.ofLine
  have hsuffix := List.dropWhile_suffix (l := line) (· ≠ ':')
  dsimp only
  split
  · rename_i value hdrop
    rw [hdrop] at hsuffix
    exact ((List.suffix_cons ' ' value).trans (List.suffix_cons ':' _)).trans hsuffix
  · rename_i value _ hdrop
    rw [hdrop] at hsuffix
    exact (List.suffix_cons ':' value).trans hsuffix
  · exact List.nil_suffix

theorem IsClean.field {d : Decoder} (hd : d.IsClean) {f : Field}
    (hf : IsUnterminated '\n' '\r' f.value) : (d.field f).2.IsClean := by
  unfold Decoder.field
  split_ifs with hevent hdata hid hnul hempty hretry
  · exact ⟨hf, hd.data, hd.pendingId⟩
  · refine ⟨hd.event, ?_, hd.pendingId⟩
    have hvalue : '\r' ∉ f.value := by
      intro hmem
      exact (hf _ hmem).2 rfl
    simp [hd.data, hvalue]
  · exact hd
  · exact ⟨hd.event, hd.data, rfl⟩
  · refine ⟨hd.event, hd.data, isEventId_iff.mpr ⟨ofList_ne_empty hempty, ?_⟩⟩
    rw [String.toList_ofList]
    exact ⟨hnul, hf⟩
  · exact hd
  · exact hd

theorem field_ne_message (d : Decoder) (f : Field) (m : Message) :
    (d.field f).1 ≠ some (.message m) := by
  unfold Decoder.field
  split_ifs <;> simp

theorem isEventName_defaultEvent : isEventName defaultEvent = true := by
  decide

theorem chomp_isPrefix (data : List Char) : chomp data <+: data := by
  unfold chomp
  split_ifs
  · exact List.dropLast_prefix data
  · exact List.prefix_refl data

theorem IsClean.isEventName_takeEvent {d : Decoder} (hd : d.IsClean) :
    isEventName d.takeEvent.1 = true := by
  unfold takeEvent
  split_ifs with hevent
  · exact isEventName_defaultEvent
  · rw [isEventName_iff, String.toList_ofList]
    exact ⟨ofList_ne_empty hevent, hd.event⟩

/-- What a clean decoder dispatches can be written. -/
theorem IsClean.isWritable {d : Decoder} (hd : d.IsClean) {m : Message}
    (hm : d.dispatch.1 = some (.message m)) : m.isWritable = true := by
  by_cases hdata : d.data = []
  · rw [dispatch_of_data_nil hdata] at hm
    cases hm
  · rw [dispatch_of_data_ne_nil hdata] at hm
    cases hm
    have hpayload : '\r' ∉ (String.ofList (chomp d.data)).toList := by
      rw [String.toList_ofList]
      intro hmem
      exact hd.data ((chomp_isPrefix d.data).mem hmem)
    exact Message.isWritable_iff.mpr ⟨hd.isEventName_takeEvent, hd.pendingId, hpayload⟩

theorem IsClean.line {d : Decoder} (hd : d.IsClean) {line : List Char}
    (hline : IsUnterminated '\n' '\r' line) :
    (d.line line).2.IsClean ∧
      ∀ m, (d.line line).1 = some (.message m) → m.isWritable = true := by
  by_cases hblank : line = []
  · subst hblank
    rw [line_blank]
    constructor
    · exact isClean_resume hd.pendingId
    · intro m hm
      exact hd.isWritable hm
  · rw [line_of_ne_nil d hblank]
    have hvalue : IsUnterminated '\n' '\r' (Field.ofLine line).value := by
      intro c hc
      exact hline c ((value_suffix_line line).mem hc)
    constructor
    · exact hd.field hvalue
    · intro m hm
      exact absurd hm (d.field_ne_message _ m)

end Decoder

/-! ## Readers -/

theorem scanLine_isUnterminated {pending : List UInt8}
    (hpending : IsUnterminated lineFeed carriageReturn pending) (skip : Bool)
    (octets : List UInt8) :
    match scanLine skip pending octets with
    | .unfinished _ pending => IsUnterminated lineFeed carriageReturn pending
    | .complete line _ _ => IsUnterminated lineFeed carriageReturn line := by
  induction octets generalizing skip pending with
  | nil => exact hpending
  | cons b octets ih =>
      have hreverse : IsUnterminated lineFeed carriageReturn pending.reverse := by
        intro a ha
        exact hpending a (List.mem_reverse.mp ha)
      simp only [scanLine]
      split_ifs with hlf hskip hcr
      · exact ih hpending false
      · exact hreverse
      · exact hreverse
      · exact ih (List.forall_mem_cons.mpr ⟨⟨hlf, hcr⟩, hpending⟩) false

theorem isUnterminated_of_readLine {skip : Bool} {pending : List UInt8} {input : List Fill}
    (hpending : IsUnterminated lineFeed carriageReturn pending) {octets : List UInt8}
    {skip' : Bool} {rest : List Fill}
    (h : readLine skip pending input = (.line octets, skip', rest)) :
    IsUnterminated lineFeed carriageReturn octets := by
  fun_induction readLine skip pending input with
  | case1 | case2 | case3 => cases h
  | case4 skip pending b bs input skip₁ pending₁ hscan ih =>
      have hline := scanLine_isUnterminated hpending skip (b :: bs)
      rw [hscan] at hline
      exact ih hline h
  | case5 skip pending b bs input line skip₁ rest₁ hscan =>
      have hline := scanLine_isUnterminated hpending skip (b :: bs)
      rw [hscan] at hline
      cases h
      exact hline

namespace Reader

theorem isUnterminated_lineText {octets : List UInt8}
    (h : IsUnterminated lineFeed carriageReturn octets) (atStart : Bool) :
    IsUnterminated '\n' '\r' (lineText atStart octets) := by
  have htext := isUnterminated_decodeLossy h
  cases atStart with
  | false => exact htext
  | true =>
      rw [lineText_true]
      cases hcs : Utf8.decodeLossy octets with
      | nil => exact List.forall_mem_nil _
      | cons c cs =>
          rw [hcs] at htext
          rw [dropMark_cons]
          split_ifs
          · exact (List.forall_mem_cons.mp htext).2
          · exact htext

/-- One call keeps the decoder clean, and its message can be written. -/
theorem isClean_next (r : Reader) (hr : r.decoder.IsClean) :
    r.next.2.decoder.IsClean ∧
      ∀ m, r.next.1 = .frame (.message m) → m.isWritable = true := by
  fun_induction next r with
  | case1 | case2 =>
      refine ⟨hr, ?_⟩
      rintro m ⟨⟩
  | case3 r octets skip input hread step after frame hstep =>
      have hline := isUnterminated_of_readLine (List.forall_mem_nil _) hread
      obtain ⟨hclean, hwritable⟩ := hr.line (isUnterminated_lineText hline r.atStart)
      refine ⟨hclean, ?_⟩
      rintro m ⟨⟩
      exact hwritable m hstep
  | case4 r octets skip input hread step after hstep ih =>
      have hline := isUnterminated_of_readLine (List.forall_mem_nil _) hread
      exact ih (hr.line (isUnterminated_lineText hline r.atStart)).1

theorem isClean_after {r : Reader} (hr : r.decoder.IsClean) (n : Nat) :
    (r.after n).decoder.IsClean := by
  induction n generalizing r with
  | zero => exact hr
  | succ n ih => exact ih (isClean_next r hr).1

/-- What calls give up to the first one that gives no frame, without the event ids. -/
def pulls (r : Reader) : List (Pull String) :=
  r.calls.map Prod.fst

end Reader

/-! ## Both ways -/

/-- Messages are read back from their octets, however these come and from whatever event
id, and then the stream ends. -/
def AreReadBack (e : LineEnd) (ms : List Message) : Prop :=
  ∀ (lastEventId : Option String) (cuts : List (List UInt8)), AreChunks cuts →
    cuts.flatten = Message.encodeAll e ms →
      (Reader.resume lastEventId (chunkFills cuts)).pulls =
        ms.map (fun m => .frame (.message m)) ++ [.finished]

theorem areReadBack_of_isWritable (e : LineEnd) {ms : List Message}
    (hms : ∀ m ∈ ms, m.isWritable = true) : AreReadBack e ms := by
  intro lastEventId cuts hcuts hoctets
  have hlines := Reader.hasLines_resume hcuts lastEventId []
  rw [List.append_nil, hoctets, streamLines_encodeAll e hms] at hlines
  rw [Reader.pulls, hlines.calls_eq, Decoder.calls]
  simp only [Reader.resume, Decoder.frames_messages hms, List.map_append, List.map_map]
  rfl

/-- Messages that can be written are read back.  And whatever a reader is given, octets or
failures, each message that it delivers can be written, and so is read back. -/
theorem messages_read_back (e : LineEnd) :
    (∀ ms : List Message, (∀ m ∈ ms, m.isWritable = true) → AreReadBack e ms) ∧
      ∀ lastEventId : Option String, lastEventId.all isEventId = true →
        ∀ (input : List Fill) (n : Nat) (m : Message),
          ((Reader.resume lastEventId input).after n).next.1 = .frame (.message m) →
            m.isWritable = true ∧ AreReadBack e [m] := by
  constructor
  · intro ms hms
    exact areReadBack_of_isWritable e hms
  · intro lastEventId hid input n m hm
    have hstart : (Reader.resume lastEventId input).decoder.IsClean :=
      Decoder.isClean_resume hid
    have hclean := Reader.isClean_after hstart n
    have hwritable : m.isWritable = true := (Reader.isClean_next _ hclean).2 m hm
    exact ⟨hwritable, areReadBack_of_isWritable e (List.forall_mem_singleton.mpr hwritable)⟩

/-- A payload with blank lines and a colon, and a message out of malformed octets that come
in pieces. -/
theorem messages_read_back_crlf :
    let ms : List Message :=
      [⟨"message", " a\n\n:b\n", none⟩, ⟨"é: x", "", some " 7"⟩]
    let input : List Fill :=
      [.chunk (Utf8.encode "data:x\r\n\r\nid:5\revent:é".toList ++ [0xFF]),
        .chunk (Utf8.encode "\rdata\r\rdata: lost".toList)]
    let m : Message := ⟨"é\uFFFD", "", some "5"⟩
    (∀ m ∈ ms, m.isWritable = true) ∧ AreReadBack .both ms ∧
      (some "4").all isEventId = true ∧
      ((Reader.resume (some "4") input).after 1).next.1 = .frame (.message m) ∧
      m.isWritable = true ∧ AreReadBack .both [m] := by
  intro ms input m
  have hms : ∀ m ∈ ms, m.isWritable = true := by decide +kernel
  have hid : (some "4").all isEventId = true := by decide +kernel
  have hm : ((Reader.resume (some "4") input).after 1).next.1 =
      .frame (.message m) := by
    decide +kernel
  exact ⟨hms, (messages_read_back .both).1 ms hms, hid, hm,
    (messages_read_back .both).2 (some "4") hid input 1 m hm⟩

end EventStream
end LivePage
