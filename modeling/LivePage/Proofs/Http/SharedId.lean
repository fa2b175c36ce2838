import LivePage.Proofs.Http.Resumption

/-!
# Connections side by side

Several connections of one source may be open at once, and they share its event id.  Every read
on one of them, whatever it gives, leaves its own id in force there.  So the source has the id of
the connection that was read last, and that is the id put in force last only where no connection
was read in between that knows of an older one.
-/

namespace LivePage
namespace EventStream

theorem committedId_append_of_no_blank (id : Option String) (lines : List (List Char))
    {more : List (List Char)} (hmore : [] ∉ more) :
    committedId id (lines ++ more) = committedId id lines := by
  induction more using List.reverseRecOn with
  | nil => rw [List.append_nil]
  | append_singleton more line ih =>
      rw [List.mem_append, not_or, List.mem_singleton] at hmore
      rw [← List.append_assoc, committedId_concat_of_ne_nil _ _ (Ne.symm hmore.2), ih hmore.1]

end EventStream

namespace Http

open EventStream LiveReload

namespace Ledger

/-- The lines that the next call reads. -/
def called (l : Ledger) : List (List Char) :=
  l.unread.take (l.decoder.callLength l.unread)

theorem lastId_next_of_no_blank {l : Ledger} (h : [] ∉ l.called) :
    l.next.lastId = l.lastId :=
  committedId_append_of_no_blank l.startId l.read h

end Ledger

/-! ## One connection among others -/

/-- A connection with a ledger of what is read on it, and before on those that it continues. -/
structure Lane where
  connection : Connection
  ledger : Ledger

namespace Lane

def isOpen (lane : Lane) : Bool :=
  lane.connection.reader.isSome

/-- Asks the connection for a frame. -/
def next (lane : Lane) (s : Source) : Lane where
  connection := (s.next lane.connection).2.1
  ledger := lane.ledger.next

def close (lane : Lane) (s : Source) : Lane where
  connection := (s.close lane.connection).1
  ledger := lane.ledger.close

/-- The connection is where its ledger says. -/
structure IsFaithful (lane : Lane) : Prop where
  unread : lane.connection.reader = none → lane.ledger.unread = []
  reader : ∀ reader, lane.connection.reader = some reader →
    reader.decoder = lane.ledger.decoder ∧ reader.HasLinesThenFailures lane.ledger.unread

variable {lane : Lane}

theorem IsFaithful.close (lane : Lane) (s : Source) : (lane.close s).IsFaithful where
  unread _ := rfl
  reader _ h := by cases h

/-- A closed connection leaves the source as it is, and reads nothing. -/
theorem IsFaithful.next_of_closed (h : lane.IsFaithful) (s : Source)
    (hclosed : lane.isOpen = false) :
    lane.next s = lane ∧ (s.next lane.connection).2.2 = s ∧ lane.ledger.called = [] := by
  have hreader : lane.connection.reader = none := by simpa [isOpen] using hclosed
  have hunread := h.unread hreader
  refine ⟨?_, ?_, ?_⟩
  · simp only [next, Source.next, hreader, Ledger.next_of_unread_nil hunread]
  · simp only [Source.next, hreader]
  · rw [Ledger.called, hunread, List.take_nil]

/-- An open connection takes in the lines that it reads, and leaves its id in force at the
source. -/
theorem IsFaithful.next_of_open (h : lane.IsFaithful) (s : Source)
    (hopen : lane.isOpen = true) :
    (lane.next s).IsFaithful ∧
      (s.next lane.connection).2.2.lastEventId = lane.ledger.next.lastId := by
  obtain ⟨reader, hreader⟩ := Option.isSome_iff_exists.mp hopen
  obtain ⟨hdecoder, hlines⟩ := h.reader reader hreader
  obtain ⟨hdecoder', hleft⟩ := Ledger.next_of_reader hdecoder hlines
  have hconnection : (lane.next s).connection.reader = some reader.next.2 := by
    simp only [next, Source.next, hreader]
  refine ⟨⟨?_, ?_⟩, ?_⟩
  · rw [hconnection]
    nofun
  · rw [hconnection]
    rintro _ ⟨⟩
    exact ⟨hdecoder', hleft⟩
  · simp only [Source.next, hreader]
    rw [Reader.lastEventId, hdecoder']
    exact Ledger.lastEventId_decoder _

theorem IsFaithful.next (h : lane.IsFaithful) (s : Source) : (lane.next s).IsFaithful := by
  cases hopen : lane.isOpen with
  | false =>
      rw [(h.next_of_closed s hopen).1]
      exact h
  | true => exact (h.next_of_open s hopen).1

end Lane

/-! ## All connections of a source -/

/-- What may be done with the connections of a source, which are numbered as they are opened. -/
inductive Call where
  | connect (endpoint : String)
  | next (i : Nat)
  | close (i : Nat)
  deriving DecidableEq, Repr

/-- A source and its connections. -/
structure Shared where
  source : Source
  lanes : List Lane := []
  /-- The ledger of the connection that was read last, as it was then. -/
  latest : Ledger := {}
  /-- The id that the last blank line read on any connection has put in force. -/
  committed : Option String := none

namespace Shared

def start (base : List Char) (server : Server) : Shared where
  source := .new base server

def step (s : Shared) : Call → Shared
  | .connect endpoint =>
    match s.source.connect endpoint with
    | (.error _, source) => { s with source }
    | (.ok connection, source) =>
      let octets := (s.source.stream? endpoint).getD []
      { s with source, lanes := s.lanes ++ [⟨connection, s.latest.accept octets⟩] }
  | .next i =>
    match s.lanes[i]? with
    | none => s
    | some lane =>
      { source := (s.source.next lane.connection).2.2
        lanes := s.lanes.set i (lane.next s.source)
        latest := if lane.isOpen then lane.ledger.next else s.latest
        committed :=
          if lane.ledger.called.contains [] then lane.ledger.next.lastId else s.committed }
  | .close i =>
    match s.lanes[i]? with
    | none => s
    | some lane =>
      { s with
        source := (s.source.close lane.connection).2
        lanes := s.lanes.set i (lane.close s.source) }

def run (s : Shared) (calls : List Call) : Shared :=
  calls.foldl step s

/-- The source has the id of the connection read last, and the connections are where their
ledgers say. -/
structure IsFaithful (s : Shared) : Prop where
  lastEventId : s.source.lastEventId = s.latest.lastId
  lanes : ∀ lane ∈ s.lanes, lane.IsFaithful

variable {s : Shared}

theorem lastEventId_connect (s : Shared) (endpoint : String) :
    (s.step (.connect endpoint)).source.lastEventId = s.source.lastEventId := by
  have hid := s.source.lastEventId_connect endpoint
  simp only [step]
  split <;> rename_i hconnect <;> rwa [hconnect] at hid

theorem isFaithful_connect (h : s.IsFaithful) (endpoint : String) :
    (s.step (.connect endpoint)).IsFaithful := by
  have hid := s.lastEventId_connect endpoint
  cases hstream : s.source.stream? endpoint with
  | none =>
      obtain ⟨fault, hfault⟩ := Source.connect_of_stream?_none hstream
      rcases hconnect : s.source.connect endpoint with ⟨result, source⟩
      rw [hconnect] at hfault
      subst hfault
      simp only [step, hconnect] at hid ⊢
      exact ⟨hid.trans h.lastEventId, h.lanes⟩
  | some octets =>
      obtain ⟨reader, lasting, hopened, hdecoder, hlines⟩ :=
        Source.connect_of_stream?_some hstream
      rcases hconnect : s.source.connect endpoint with ⟨result, source⟩
      rw [hconnect] at hopened
      subst hopened
      simp only [step, hconnect, hstream, Option.getD_some] at hid ⊢
      refine ⟨hid.trans h.lastEventId, List.forall_mem_append.mpr ⟨h.lanes, ?_⟩⟩
      refine List.forall_mem_singleton.mpr ⟨nofun, ?_⟩
      rintro _ ⟨⟩
      rw [Ledger.decoder_accept, ← h.lastEventId]
      exact ⟨hdecoder, hlines⟩

theorem source_close (s : Shared) (i : Nat) : (s.step (.close i)).source = s.source := by
  simp only [step]
  split <;> rfl

theorem isFaithful_close (h : s.IsFaithful) (i : Nat) : (s.step (.close i)).IsFaithful := by
  simp only [step]
  split
  · exact h
  · refine ⟨h.lastEventId, ?_⟩
    intro lane hlane
    rcases List.mem_or_eq_of_mem_set hlane with hold | rfl
    · exact h.lanes lane hold
    · exact Lane.IsFaithful.close ..

section Next

variable {i : Nat} {lane : Lane}

theorem IsFaithful.of_lane (h : s.IsFaithful) (hlane : s.lanes[i]? = some lane) :
    lane.IsFaithful :=
  h.lanes lane (List.mem_of_getElem? hlane)

theorem IsFaithful.next_of_closed (h : s.IsFaithful) (hlane : s.lanes[i]? = some lane)
    (hclosed : lane.isOpen = false) :
    (s.step (.next i)).source = s.source ∧ (s.step (.next i)).latest = s.latest ∧
      (s.step (.next i)).committed = s.committed := by
  obtain ⟨-, hsource, hcalled⟩ := (h.of_lane hlane).next_of_closed s.source hclosed
  simp [step, hlane, hclosed, hsource, hcalled]

/-- An open connection leaves its id in force at the source.  That is the id put in force last
if the call has read a blank line, or else the id that the connection has had before. -/
theorem IsFaithful.next_of_open (h : s.IsFaithful) (hlane : s.lanes[i]? = some lane)
    (hopen : lane.isOpen = true) :
    (s.step (.next i)).source.lastEventId = lane.ledger.next.lastId ∧
      (s.step (.next i)).latest = lane.ledger.next ∧
      ([] ∈ lane.ledger.called →
        (s.step (.next i)).committed = lane.ledger.next.lastId) ∧
      ([] ∉ lane.ledger.called →
        (s.step (.next i)).committed = s.committed ∧
          lane.ledger.next.lastId = lane.ledger.lastId) := by
  obtain ⟨-, hid⟩ := (h.of_lane hlane).next_of_open s.source hopen
  simp only [step, hlane, hopen, if_true, List.contains_iff_mem]
  refine ⟨hid, trivial, ?_, ?_⟩
  · intro hblank
    rw [if_pos hblank]
  · intro hblank
    exact ⟨if_neg hblank, Ledger.lastId_next_of_no_blank hblank⟩

theorem isFaithful_next (h : s.IsFaithful) (i : Nat) : (s.step (.next i)).IsFaithful := by
  cases hlane : s.lanes[i]? with
  | none => simpa only [step, hlane] using h
  | some lane =>
      refine ⟨?_, ?_⟩
      · cases hopen : lane.isOpen with
        | false =>
            obtain ⟨hsource, hlatest, -⟩ := h.next_of_closed hlane hopen
            rw [hsource, hlatest, h.lastEventId]
        | true =>
            obtain ⟨hid, hlatest, -⟩ := h.next_of_open hlane hopen
            rw [hid, hlatest]
      · simp only [step, hlane]
        intro lane' hlane'
        rcases List.mem_or_eq_of_mem_set hlane' with hold | rfl
        · exact h.lanes lane' hold
        · exact (h.of_lane hlane).next s.source

end Next

theorem isFaithful_step (h : s.IsFaithful) (call : Call) : (s.step call).IsFaithful := by
  cases call with
  | connect endpoint => exact isFaithful_connect h endpoint
  | next i => exact isFaithful_next h i
  | close i => exact isFaithful_close h i

theorem isFaithful_run (base : List Char) (server : Server) (calls : List Call) :
    ((start base server).run calls).IsFaithful := by
  induction calls using List.reverseRecOn with
  | nil => exact ⟨rfl, List.forall_mem_nil _⟩
  | append_singleton calls call ih =>
      rw [run, List.foldl_append]
      exact isFaithful_step ih call

/-! ## The id put in force last -/

/-- Whether a call is made to an open connection and reads no blank line, although another id
than the one that the connection has in force was put in force last. -/
def Disturbs (s : Shared) : Call → Prop
  | .next i => ∃ lane : Lane, lane ∈ s.lanes[i]? ∧ lane.isOpen = true ∧
      [] ∉ lane.ledger.called ∧ lane.ledger.lastId ≠ s.committed
  | _ => False

/-- Whether none of some calls disturbs. -/
def Undisturbed (s : Shared) : List Call → Prop
  | [] => True
  | call :: calls => ¬s.Disturbs call ∧ (s.step call).Undisturbed calls

instance (s : Shared) : (call : Call) → Decidable (s.Disturbs call)
  | .next i => inferInstanceAs (Decidable (∃ lane : Lane, lane ∈ s.lanes[i]? ∧ _))
  | .connect _ | .close _ => instDecidableFalse

instance decidableUndisturbed (s : Shared) :
    (calls : List Call) → Decidable (s.Undisturbed calls)
  | [] => instDecidableTrue
  | call :: calls =>
    have := (s.step call).decidableUndisturbed calls
    inferInstanceAs (Decidable (_ ∧ _))

theorem committed_connect (s : Shared) (endpoint : String) :
    (s.step (.connect endpoint)).committed = s.committed := by
  simp only [step]
  split <;> rfl

theorem committed_close (s : Shared) (i : Nat) :
    (s.step (.close i)).committed = s.committed := by
  simp only [step]
  split <;> rfl

/-- A call that does not disturb leaves the source with the id put in force last. -/
theorem IsFaithful.lastEventId_step (h : s.IsFaithful)
    (hid : s.source.lastEventId = s.committed) {call : Call} (hcall : ¬s.Disturbs call) :
    (s.step call).source.lastEventId = (s.step call).committed := by
  cases call with
  | connect endpoint => rw [lastEventId_connect, committed_connect, hid]
  | close i => rw [source_close, committed_close, hid]
  | next i =>
      cases hlane : s.lanes[i]? with
      | none => simpa only [step, hlane] using hid
      | some lane =>
          cases hopen : lane.isOpen with
          | false =>
              obtain ⟨hsource, -, hcommitted⟩ := h.next_of_closed hlane hopen
              rw [hsource, hcommitted, hid]
          | true =>
              obtain ⟨hafter, -, hblank, hnone⟩ := h.next_of_open hlane hopen
              rw [hafter]
              by_cases hmem : [] ∈ lane.ledger.called
              · exact (hblank hmem).symm
              · obtain ⟨hcommitted, hlast⟩ := hnone hmem
                rw [hcommitted, hlast]
                by_contra hne
                exact hcall ⟨lane, hlane, hopen, hmem, hne⟩

/-- A call that disturbs puts another id back. -/
theorem IsFaithful.lastEventId_step_of_disturbs (h : s.IsFaithful) {call : Call}
    (hcall : s.Disturbs call) :
    (s.step call).source.lastEventId ≠ (s.step call).committed := by
  cases call with
  | connect | close => exact hcall.elim
  | next i =>
      obtain ⟨lane, hlane, hopen, hmem, hne⟩ := hcall
      obtain ⟨hafter, -, -, hnone⟩ := h.next_of_open hlane hopen
      obtain ⟨hcommitted, hlast⟩ := hnone hmem
      rwa [hafter, hcommitted, hlast]

theorem IsFaithful.lastEventId_run (h : s.IsFaithful)
    (hid : s.source.lastEventId = s.committed) {calls : List Call}
    (hcalls : s.Undisturbed calls) :
    (s.run calls).source.lastEventId = (s.run calls).committed := by
  induction calls generalizing s with
  | nil => exact hid
  | cons call calls ih =>
      obtain ⟨hcall, hrest⟩ := hcalls
      exact ih (isFaithful_step h call) (h.lastEventId_step hid hcall) hrest

/-- However the calls on several connections are mixed, the source has the id in force on the
open connection that was asked for a frame last.  A call that reads no blank line leaves there
the id which its connection has had before.  So the source has the id put in force last as long
as no such call is made to a connection that knows of another one, and where one is made, it has
the other one. -/
theorem lastEventId_of_connections (base : List Char) (server : Server) (calls : List Call) :
    let s := (start base server).run calls
    s.source.lastEventId = s.latest.lastId ∧
      (∀ endpoint,
        (s.step (.connect endpoint)).source.lastEventId = s.source.lastEventId) ∧
      (∀ i, (s.step (.close i)).source = s.source) ∧
      (∀ (i : Nat) (lane : Lane), s.lanes[i]? = some lane →
        if lane.isOpen then
          (s.step (.next i)).source.lastEventId = lane.ledger.next.lastId ∧
            ([] ∉ lane.ledger.called → lane.ledger.next.lastId = lane.ledger.lastId)
        else (s.step (.next i)).source = s.source) ∧
      ((start base server).Undisturbed calls → s.source.lastEventId = s.committed) ∧
      (∀ call, s.Disturbs call →
        (s.step call).source.lastEventId ≠ (s.step call).committed) := by
  intro s
  have h : s.IsFaithful := isFaithful_run base server calls
  refine ⟨h.lastEventId, s.lastEventId_connect, s.source_close, ?_, ?_, ?_⟩
  · intro i lane hlane
    cases hopen : lane.isOpen with
    | false =>
        rw [if_neg Bool.false_ne_true]
        exact (h.next_of_closed hlane hopen).1
    | true =>
        rw [if_pos rfl]
        obtain ⟨hafter, -, -, hnone⟩ := h.next_of_open hlane hopen
        exact ⟨hafter, fun hmem => (hnone hmem).2⟩
  · exact (isFaithful_run base server []).lastEventId_run rfl
  · intro call hcall
    exact h.lastEventId_step_of_disturbs hcall

/-- A server with two streams.  Each sets an id and ends its event, or is empty. -/
def twoStreams (first second : Option String) : Server where
  host := "docs".toList
  port := 80
  replies := [first, second].map fun id =>
    Utf8.encode ("HTTP/1.1 200 OK\r\nContent-Type: text/event-stream\r\n\r\n".toList ++
      id.elim [] fun id => "id: ".toList ++ id.toList ++ "\n\n".toList)

/-- Each of two connections puts an id in force.  Then the end of the first one is read, and its
id is back. -/
theorem lastEventId_of_two_connections :
    let base := "http://docs".toList
    let server := twoStreams (some "1") (some "2")
    let calls : List Call := [.connect "/ss-events", .connect "/ss-events", .next 0, .next 1]
    let s := (start base server).run calls
    (start base server).Undisturbed calls ∧ s.committed = some "2" ∧ s.Disturbs (.next 0) ∧
      (s.step (.next 0)).source.lastEventId = some "1" ∧
      s.source.lastEventId = s.committed ∧
      (s.step (.next 0)).source.lastEventId ≠ (s.step (.next 0)).committed := by
  intro base server calls
  have hundisturbed : (start base server).Undisturbed calls := by decide +kernel
  have hdisturbs : ((start base server).run calls).Disturbs (.next 0) := by decide +kernel
  obtain ⟨-, -, -, -, hsame, hother⟩ := lastEventId_of_connections base server calls
  exact ⟨hundisturbed, by decide +kernel, hdisturbs, by decide +kernel, hsame hundisturbed,
    hother _ hdisturbs⟩

/-- A call that reads nothing but the end of a stream takes away the id that another connection
has put in force. -/
theorem id_lost_at_end_of_other_stream :
    let calls : List Call := [.connect "/ss-events", .connect "/ss-events", .next 0]
    let s := (start "http://docs".toList (twoStreams (some "1") none)).run calls
    s.source.lastEventId = some "1" ∧ s.committed = some "1" ∧
      (s.step (.next 1)).committed = some "1" ∧
      (s.step (.next 1)).source.lastEventId = none := by
  decide +kernel

end Shared
end Http
end LivePage
