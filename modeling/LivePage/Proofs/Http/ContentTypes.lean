import LivePage.Proofs.Http.Resumption
import LivePage.Proofs.Text.Trimming
import LivePage.Text.Cut

/-!
# Content types

A response is an event stream if its status tells success and its content type, without its
parameters, is that of an event stream.  Otherwise it is refused, and the status comes first.
-/

namespace LivePage
namespace Http

open EventStream

/-- A content type names event streams: so does what comes before the first semicolon, but for
white space around it and the case of letters. -/
def NamesEventStream (value : List Char) : Prop :=
  ∃ before name after parameters, value = before ++ name ++ after ++ parameters ∧
    (∀ c ∈ before ++ after, Text.isBlank c = true) ∧
    name.map Char.toLower = eventStreamType.toList ∧ ∀ c ∈ parameters.head?, c = ';'

theorem isBlank_of_isUpper {c : Char} (hc : c.isUpper = true) : Text.isBlank c = false := by
  obtain ⟨hge, hle⟩ := of_decide_eq_true hc
  refine Text.isBlank_of_bounds (Nat.le_trans ?_ hge) (Nat.le_trans hle ?_)
  · decide
  · decide

theorem toLower_of_not_isUpper {c : Char} (hc : c.isUpper = false) : c.toLower = c :=
  dif_neg (of_decide_eq_false hc)

theorem isBlank_of_mem_name {name : List Char} {c : Char}
    (hname : name.map Char.toLower = eventStreamType.toList) (hc : c ∈ name) :
    Text.isBlank c = false ∧ c ≠ ';' := by
  cases hupper : c.isUpper with
  | true =>
      refine ⟨isBlank_of_isUpper hupper, ?_⟩
      rintro rfl
      cases hupper
  | false =>
      have hall : (eventStreamType.toList.all fun d => !Text.isBlank d && d ≠ ';') = true := by
        decide
      have hmem : c.toLower ∈ eventStreamType.toList := hname ▸ List.mem_map_of_mem hc
      rw [toLower_of_not_isUpper hupper] at hmem
      simpa using List.all_eq_true.mp hall c hmem

theorem isEventStream_iff {value : List Char} :
    isEventStream value = true ↔ NamesEventStream value := by
  rw [isEventStream, decide_eq_true_iff]
  constructor
  · intro hname
    obtain ⟨before, after, hmedia, hblanks⟩ :=
      Text.exists_append_trim (value.takeWhile (· ≠ ';'))
    refine ⟨before, _, after, value.dropWhile (· ≠ ';'), ?_, hblanks, hname, ?_⟩
    · rw [← hmedia, List.takeWhile_append_dropWhile]
    · intro c hc
      have hhead := List.head?_dropWhile_not (fun c => decide (c ≠ ';')) value
      rw [hc] at hhead
      simpa using hhead
  · rintro ⟨before, name, after, parameters, rfl, hblanks, hname, hparameters⟩
    obtain ⟨hbefore, hafter⟩ := List.forall_mem_append.mp hblanks
    have hsemicolon : Text.isBlank ';' = false := by decide
    have hmedia : ∀ c ∈ before ++ name ++ after, decide (c ≠ ';') = true := by
      simp only [List.mem_append, decide_eq_true_eq]
      rintro c ((hc | hc) | hc) rfl
      · exact Bool.false_ne_true (hsemicolon.symm.trans (hbefore _ hc))
      · exact (isBlank_of_mem_name hname hc).2 rfl
      · exact Bool.false_ne_true (hsemicolon.symm.trans (hafter _ hc))
    have hmark : ∀ c ∈ parameters.head?, decide (c ≠ ';') = false := by
      intro c hc
      simp [hparameters c hc]
    have hplain : ∀ c ∈ name, Text.isBlank c = false :=
      fun c hc => (isBlank_of_mem_name hname hc).1
    rw [(Text.cut_append hmedia hmark).1, Text.trim_append hplain hblanks, hname]

/-! ## Refused responses -/

/-- Why a response is refused: for its status, or else for its content type, which may be
missing or no text. -/
inductive Response.IsRefused (r : Response) : StreamFault → Prop where
  | status (hstatus : ¬ (200 ≤ r.status ∧ r.status < 300)) :
      IsRefused r (.status (UInt16.ofNat r.status) (reason r.status))
  | unknownType (hstatus : 200 ≤ r.status ∧ r.status < 300)
      (htype : (header? r.headers "content-type").bind headerText? = none) :
      IsRefused r (.contentType "")
  | otherType (hstatus : 200 ≤ r.status ∧ r.status < 300) {value : List Char}
      (htype : (header? r.headers "content-type").bind headerText? = some value)
      (hvalue : ¬ NamesEventStream value) :
      IsRefused r (.contentType (String.ofList value))

theorem isSuccess_iff {status : Nat} :
    isSuccess status = true ↔ 200 ≤ status ∧ status < 300 := by
  simp [isSuccess]

namespace Source

variable {id : Option String} {r : Response}

theorem openResponse_of_isRefused {fault : StreamFault} (h : r.IsRefused fault) :
    openResponse id r = .error fault := by
  cases h with
  | status hstatus =>
      rw [← isSuccess_iff, Bool.not_eq_true] at hstatus
      simp [openResponse, hstatus]
  | unknownType hstatus htype =>
      have hsuccess := isSuccess_iff.mpr hstatus
      have hvalue : isEventStream [] = false := by decide
      simp [openResponse, contentType, htype, hsuccess, hvalue]
  | otherType hstatus htype hvalue =>
      have hsuccess := isSuccess_iff.mpr hstatus
      rw [← isEventStream_iff, Bool.not_eq_true] at hvalue
      simp [openResponse, contentType, htype, hsuccess, hvalue]

/-- Each response is opened as a stream or refused. -/
theorem openResponse_isOk_or_isRefused (id : Option String) (r : Response) :
    (∃ connection, openResponse id r = .ok connection) ∨ ∃ fault, r.IsRefused fault := by
  by_cases hstatus : 200 ≤ r.status ∧ r.status < 300
  · cases htype : (header? r.headers "content-type").bind headerText? with
    | none => exact .inr ⟨_, .unknownType hstatus htype⟩
    | some value =>
        by_cases hvalue : NamesEventStream value
        · have hsuccess := isSuccess_iff.mpr hstatus
          have hstream := isEventStream_iff.mpr hvalue
          refine .inl ⟨_, openResponse_of_isStream id ?_⟩
          simp [Response.isStream, contentType, htype, hsuccess, hstream]
        · exact .inr ⟨_, .otherType hstatus htype hvalue⟩
  · exact .inr ⟨_, .status hstatus⟩

end Source

end Http
end LivePage
