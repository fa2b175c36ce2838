import LivePage.Proofs.LiveReload.Views

/-!
# Metered runs

A metered outside passes every call on to another one and records it.  A run over it is the
run over the other one, so that what a run asks of its outside can be told from the record.
The record is all that the run says it has done, and the reading besides.
-/

namespace LivePage
namespace LiveReload

open EventStream

variable {σ κ : Type} [Outside σ κ]

/-- A call that the outside of a client receives. -/
inductive OutsideCall where
  | connect (endpoint : String) (accepted : Bool)
  | next
  | close
  | reload
  | sleep (delay : Duration)
  deriving DecidableEq, Repr

/-- The action that a call was made for.  Reading is none. -/
def OutsideCall.action? : OutsideCall → Option Action
  | .connect endpoint _ => some (.connect endpoint)
  | .next => none
  | .close => some .close
  | .reload => some .reload
  | .sleep delay => some (.sleep delay)

/-- Whether the connection that was asked for was accepted. -/
def OutsideCall.accepted? : OutsideCall → Option Bool
  | .connect _ accepted => some accepted
  | _ => none

/-- The record of one connection: an accepted one is read and closed. -/
def connectionRecord (endpoint : String) (accepted : Bool) (reads : Nat) :
    List OutsideCall :=
  .connect endpoint accepted ::
    (List.replicate reads .next ++ if accepted then [.close] else [])

theorem filterMap_action?_replicate_next (reads : Nat) :
    (List.replicate reads OutsideCall.next).filterMap OutsideCall.action? = [] := by
  simp [OutsideCall.action?]

theorem filterMap_accepted?_replicate_next (reads : Nat) :
    (List.replicate reads OutsideCall.next).filterMap OutsideCall.accepted? = [] := by
  simp [OutsideCall.accepted?]

theorem filterMap_action?_connectionRecord (endpoint : String) (accepted : Bool)
    (reads : Nat) :
    (connectionRecord endpoint accepted reads).filterMap OutsideCall.action? =
      connectionCalls endpoint accepted := by
  rw [connectionRecord, List.filterMap_cons, List.filterMap_append,
    filterMap_action?_replicate_next]
  cases accepted <;> rfl

theorem filterMap_accepted?_connectionRecord (endpoint : String) (accepted : Bool)
    (reads : Nat) :
    (connectionRecord endpoint accepted reads).filterMap OutsideCall.accepted? =
      [accepted] := by
  rw [connectionRecord, List.filterMap_cons, List.filterMap_append,
    filterMap_accepted?_replicate_next]
  cases accepted <;> rfl

/-- An outside and the calls that it received. -/
structure Metered (σ : Type) where
  source : σ
  record : List OutsideCall := []
  deriving Repr

instance : Outside (Metered σ) κ where
  connect m endpoint :=
    let (result, source) := EventSource.connect m.source endpoint
    (result, { source, record := m.record ++ [.connect endpoint (isAccepted result)] })
  next m connection :=
    let (pull, connection, source) := EventSource.next m.source connection
    (pull, connection, { source, record := m.record ++ [.next] })
  close m connection :=
    let (connection, source) := EventSource.close m.source connection
    (connection, { source, record := m.record ++ [.close] })
  backlog connection := EventSource.backlog σ connection
  stock m := EventSource.stock m.source
  backlog_lt m connection frame h := EventSource.backlog_lt m.source connection frame h
  reload m := ⟨Outside.reload m.source, m.record ++ [.reload]⟩
  sleep m delay := ⟨Outside.sleep m.source delay, m.record ++ [.sleep delay]⟩

/-- A metered outside without its record. -/
def Metered.view (σ : Type) {κ : Type} [Outside σ κ] : View (Metered σ) σ where
  see := Metered.source
  connect _ _ := rfl
  next _ _ := rfl
  close _ _ := rfl
  reload _ := rfl
  sleep _ _ := rfl
  stock _ := rfl

/-- A run over an outside, with a record of calls beside it. -/
def Run.metered (r : Run σ) (record : List OutsideCall) : Run (Metered σ) :=
  ⟨r.outcome, r.actions, r.client, ⟨r.source, record⟩⟩

/-- A run over a metered outside is the run over what is metered, with a record beside it. -/
theorem within?_metered {limit : Nat} {client : Client} {source : σ} {run : Run σ}
    (h : Run.within? limit client source = some run) (record : List OutsideCall) :
    ∃ record',
      Run.within? limit client (Metered.mk source record) = some (run.metered record') := by
  have hsee := (Metered.view σ).within?_see limit client ⟨source, record⟩
  have hsource : (Metered.view σ).see ⟨source, record⟩ = source := rfl
  rw [hsource, h] at hsee
  obtain ⟨run', hrun', rfl⟩ := Option.map_eq_some_iff.mp hsee.symm
  exact ⟨run'.source.record, hrun'⟩

/-! ## What is recorded -/

theorem connect_metered {source source' : σ} {endpoint : String}
    {result : Except Fault κ}
    (h : EventSource.connect source endpoint = (result, source'))
    (record : List OutsideCall) :
    EventSource.connect (Metered.mk source record) endpoint =
      (result, ⟨source', record ++ [.connect endpoint (isAccepted result)]⟩) := by
  simp only [EventSource.connect, h]

/-- What reading a connection adds to the record. -/
theorem record_readConnection (client : Client) (m : Metered σ) (connection : κ) :
    ∃ reads,
      (readConnection client m connection).2.2.2.record =
        m.record ++ List.replicate reads .next := by
  have hnext {m m' : Metered σ} {connection connection' : κ} {pull : Pull Fault}
      (h : EventSource.next m connection = (pull, connection', m')) :
      m'.record = m.record ++ [.next] :=
    (congrArg (·.2.2.record) h).symm
  fun_induction readConnection client m connection with
  | case1 client m connection message connection' m' h client' hm => exact ⟨1, hnext h⟩
  | case2 client m connection message connection' m' h command client' hc hm ih =>
      obtain ⟨reads, ih⟩ := ih
      refine ⟨reads + 1, ?_⟩
      rw [ih, hnext h, List.append_assoc]
      rfl
  | case3 client m connection delay connection' m' h ih =>
      obtain ⟨reads, ih⟩ := ih
      refine ⟨reads + 1, ?_⟩
      rw [ih, hnext h, List.append_assoc]
      rfl
  | case4 client m connection fault connection' m' h => exact ⟨1, hnext h⟩
  | case5 client m connection connection' m' h => exact ⟨1, hnext h⟩

/-- Closing completes the record of a connection that was read. -/
theorem close_metered {m : Metered σ} {record : List OutsideCall} {endpoint : String}
    {reads : Nat}
    (h : m.record = record ++ [.connect endpoint true] ++ List.replicate reads .next)
    (connection : κ) :
    (EventSource.close m connection).2 =
      ⟨(EventSource.close m.source connection).2,
        record ++ connectionRecord endpoint true reads⟩ := by
  show Metered.mk _ (m.record ++ [.close]) = _
  rw [h]
  simp [connectionRecord]

/-- Some calls are what one connection takes, and what was done then. -/
structure IsRoundRecord (endpoint : String) (accepted : Bool) (actions : List Action)
    (calls : List OutsideCall) : Prop where
  actions : calls.filterMap OutsideCall.action? = actions
  accepted : calls.filterMap OutsideCall.accepted? = [accepted]

theorem IsRoundRecord.concat {endpoint : String} {accepted : Bool} {actions : List Action}
    {calls : List OutsideCall} (h : IsRoundRecord endpoint accepted actions calls)
    {call : OutsideCall} {action : Action} (haction : call.action? = some action)
    (hcall : call.accepted? = none) :
    IsRoundRecord endpoint accepted (actions ++ [action]) (calls ++ [call]) where
  actions := by simp [h.actions, haction]
  accepted := by simp [h.accepted, hcall]

theorem isRoundRecord_connectionRecord (endpoint : String) (accepted : Bool) (reads : Nat) :
    IsRoundRecord endpoint accepted (connectionCalls endpoint accepted)
      (connectionRecord endpoint accepted reads) :=
  ⟨filterMap_action?_connectionRecord .., filterMap_accepted?_connectionRecord ..⟩

theorem record_answerFault {endpoint : String} {accepted : Bool} {actions : List Action}
    {calls : List OutsideCall} (h : IsRoundRecord endpoint accepted actions calls)
    (fault : Fault) (client : Client) (source : σ) (record : List OutsideCall) :
    ∃ calls',
      (answerFault actions fault client (Metered.mk source (record ++ calls))).source.record =
          record ++ calls' ∧
        IsRoundRecord endpoint accepted
          (answerFault actions fault client (Metered.mk source (record ++ calls))).actions
          calls' := by
  unfold answerFault
  split
  · exact ⟨_, List.append_assoc .., h.concat rfl rfl⟩
  · exact ⟨calls, rfl, h⟩

/-- What a round adds to the record: one connection, and what was done then. -/
theorem record_playRound (client : Client) (m : Metered σ) :
    ∃ calls,
      (playRound client m).source.record = m.record ++ calls ∧
        IsRoundRecord client.options.endpoint
          (isAccepted (EventSource.connect m client.options.endpoint).1)
          (playRound client m).actions calls := by
  obtain ⟨source, record⟩ := m
  rcases hconnect : EventSource.connect source client.options.endpoint with
    ⟨fault | connection, source'⟩
  · rw [connect_metered hconnect, playRound_of_refused (connect_metered hconnect record)]
    exact record_answerFault (isRoundRecord_connectionRecord _ false 0) ..
  · have hmetered := connect_metered hconnect record
    obtain ⟨reads, hreads⟩ := record_readConnection client.onOpen
      ⟨source', record ++ [.connect client.options.endpoint true]⟩ connection
    have hrecord := isRoundRecord_connectionRecord client.options.endpoint true reads
    rw [hmetered]
    rcases hread : readConnection client.onOpen
        (Metered.mk source' (record ++ [.connect client.options.endpoint true])) connection with
      ⟨_ | fault, client', connection', m'⟩
    · rw [hread] at hreads
      rw [playRound_of_reload hmetered hread, close_metered hreads]
      exact ⟨_, List.append_assoc .., hrecord.concat rfl rfl⟩
    · rw [hread] at hreads
      rw [playRound_of_fault hmetered hread, close_metered hreads]
      exact record_answerFault hrecord ..

end LiveReload
end LivePage
