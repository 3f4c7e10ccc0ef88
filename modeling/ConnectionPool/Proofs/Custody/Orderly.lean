import ConnectionPool.Proofs.Custody.Ledger
import ConnectionPool.Proofs.Driver.Acting

/-!
# Orderly logs

A log says of every event what came before it. A log is well formed (`DriverLog.WellFormed`) if
connections and statements are numbered in the order in which they come into being, and if every
other event is one that the events before it allow (`DriverLog.Allows`): nothing is used or closed
before there is such a thing or after it was closed, and a result set is closed only if there was
an execution that gave one, and it is not closed yet.

The state of the driver says no more than the log does (`Driver.Orderly`). Every act of the driver
keeps it so and adds an event that the log allows (`Act.orderly`).
-/

set_option autoImplicit false

namespace ConnectionPool

/-- The statement that an event uses. -/
def DriverEvent.used? : DriverEvent → Option StatementId
  | executed id => some id
  | parametersCleared id => some id
  | resultSetClosed id => some id
  | _ => none

/-! ## Well-formed logs -/

namespace DriverLog

/-- The statements that were made, in the order of making. -/
def makings (log : DriverLog) : List StatementId := log.filterMap DriverEvent.made?

/-- **A statement is in service**: it was made, and it was not closed. -/
def InService (log : DriverLog) (id : StatementId) : Prop :=
  id ∈ log.makings ∧ id ∉ log.closings

/-- **A statement yields a result set**: it was executed, and no result set of it was closed since
then. -/
def Yields (log : DriverLog) (id : StatementId) : Prop :=
  ∃ earlier between, log = earlier ++ .executed id :: between ∧ .resultSetClosed id ∉ between

/-- **What may come after a log**, apart from what comes into being. -/
def Allows (log : DriverLog) : DriverEvent → Prop
  | .connectionClosed line => line ∈ log.openings ∧ line ∉ log.hangUps
  | .statementClosed id => log.InService id
  | .executed id => log.InService id
  | .parametersCleared id => log.InService id
  | .resultSetClosed id => log.InService id ∧ log.Yields id
  | _ => True

/-- **A well-formed log.** -/
structure WellFormed (log : DriverLog) : Prop where
  connections : log.openings = List.range' 1 log.openings.length
  statements : log.makings = List.range' 1 log.makings.length
  allowed : ∀ before event after, log = before ++ event :: after → Allows before event

variable {log : DriverLog} {event : DriverEvent}

/-- What one more event adds to what is told of a log. -/
theorem filterMap_concat {β : Type} (f : DriverEvent → Option β) (log : DriverLog)
    (event : DriverEvent) : (log ++ [event]).filterMap f = log.filterMap f ++ (f event).toList := by
  rw [List.filterMap_append]
  cases hf : f event <;> simp [hf]

/-- The last event is allowed by all the others, and each of them by those before it. -/
theorem allowed_append (h : ∀ before event after, log = before ++ event :: after →
      Allows before event) (he : log.Allows event) :
    ∀ before other after, log ++ [event] = before ++ other :: after → Allows before other := by
  intro before other after heq
  rcases List.eq_nil_or_concat after with rfl | ⟨rest, last, rfl⟩
  · obtain ⟨rfl, hlast⟩ := List.append_inj' heq rfl
    rw [List.cons.injEq] at hlast
    rw [← hlast.1]
    exact he
  · rw [List.concat_eq_append, ← List.cons_append, ← List.append_assoc] at heq
    exact h before other rest (List.append_inj' heq rfl).1

/-- An execution yields a result set. -/
theorem yields_executed (log : DriverLog) (id : StatementId) :
    Yields (log ++ [.executed id]) id :=
  ⟨log, [], rfl, List.not_mem_nil⟩

/-- A result set stays until it is closed. -/
theorem Yields.append {id : StatementId} (h : log.Yields id) (he : event ≠ .resultSetClosed id) :
    Yields (log ++ [event]) id := by
  obtain ⟨earlier, between, rfl, hb⟩ := h
  refine ⟨earlier, between ++ [event], by simp, fun hm => ?_⟩
  rcases List.mem_append.mp hm with hm | hm
  · exact hb hm
  · exact he (List.mem_singleton.mp hm).symm

end DriverLog

/-! ## The driver -/

namespace Driver

/-- **The driver is orderly**: its state is what its log says, and every event in the log was
allowed by those before it. -/
structure Orderly (driver : Driver) : Prop where
  lines : driver.Faithful
  makings : driver.log.makings = List.range' 1 driver.statements.size
  closings : ∀ id, id ∈ driver.log.closings
    ↔ driver.statements.Known id ∧ (driver.statement id).closed = true
  results : ∀ id, (driver.statement id).resultSet = some .opened → driver.log.Yields id
  settled : driver.Settled
  allowed : ∀ before event after, driver.log = before ++ event :: after →
    DriverLog.Allows before event

variable {driver driver' : Driver} {id : StatementId} {event : DriverEvent}

theorem Orderly.wellFormed (h : driver.Orderly) : driver.log.WellFormed where
  connections := by
    rw [h.lines.openings, List.length_range']
  statements := by
    rw [h.makings, List.length_range']
  allowed := h.allowed

theorem Orderly.mem_makings (h : driver.Orderly) (id : StatementId) :
    id ∈ driver.log.makings ↔ driver.statements.Known id := by
  rw [h.makings, List.mem_range'_1, Registry.Known]
  omega

/-- A statement that is open is in service. -/
theorem Orderly.inService (h : driver.Orderly) (ho : (driver.statement id).closed = false) :
    driver.log.InService id := by
  refine ⟨(h.mem_makings id).mpr (driver.known_of_open ho), fun hm => ?_⟩
  have hclosed := ((h.closings id).mp hm).2
  rw [ho] at hclosed
  cases hclosed

/-- What is open yields what it says, for it is not closed. -/
theorem Orderly.open_of_result (h : driver.Orderly)
    (hr : (driver.statement id).resultSet = some .opened) :
    (driver.statement id).closed = false := by
  by_contra hc
  rw [Bool.not_eq_false] at hc
  rw [h.settled id hc] at hr
  cases hr

/-! ## One event -/

/-- **One more event**, which is allowed, leaves the driver orderly if the state says no more than
the event does. -/
theorem Orderly.step (h : driver.Orderly) (hlog : driver'.log = driver.log ++ [event])
    (ha : driver.log.Allows event) (hl : driver'.Faithful)
    (hm : List.range' 1 driver'.statements.size
      = List.range' 1 driver.statements.size ++ event.made?.toList)
    (hc : ∀ id, driver'.statements.Known id ∧ (driver'.statement id).closed = true
      ↔ (driver.statements.Known id ∧ (driver.statement id).closed = true)
        ∨ event.closedStatement? = some id)
    (hr : ∀ id, (driver'.statement id).resultSet = some .opened → event = .executed id
      ∨ (driver.statement id).resultSet = some .opened ∧ event ≠ .resultSetClosed id)
    (hs : driver'.Settled) : driver'.Orderly where
  lines := hl
  makings := by
    rw [DriverLog.makings, hlog, DriverLog.filterMap_concat, hm, ← h.makings, DriverLog.makings]
  closings id := by
    rw [hc, ← h.closings, DriverLog.closings, hlog, DriverLog.filterMap_concat, List.mem_append,
      Option.mem_toList]
    exact Iff.rfl
  results id hres := by
    rw [hlog]
    rcases hr id hres with rfl | ⟨hold, hne⟩
    · exact driver.log.yields_executed id
    · exact (h.results id hold).append hne
  settled := hs
  allowed := by
    rw [hlog]
    exact DriverLog.allowed_append h.allowed ha

/-- **No event** leaves the driver orderly if nothing is opened or closed. -/
theorem Orderly.silent (h : driver.Orderly) (hlog : driver'.log = driver.log)
    (hl : driver'.connections = driver.connections)
    (hsize : driver'.statements.size = driver.statements.size)
    (hc : ∀ id, (driver'.statement id).closed = (driver.statement id).closed)
    (hr : ∀ id, (driver'.statement id).resultSet = (driver.statement id).resultSet) :
    driver'.Orderly where
  lines := h.lines.same hl (by rw [hlog]) (by rw [hlog])
  makings := by
    rw [hlog, hsize, h.makings]
  closings id := by
    rw [hlog, hc, Registry.Known, hsize]
    exact h.closings id
  results id hres := by
    rw [hr] at hres
    rw [hlog]
    exact h.results id hres
  settled id hclosed := by
    rw [hc] at hclosed
    rw [hr]
    exact h.settled id hclosed
  allowed := by
    rw [hlog]
    exact h.allowed

/-- What does not concern lines leaves their ledger as it is. -/
theorem Orderly.sameLines (h : driver.Orderly) (hc : driver'.connections = driver.connections)
    (hlog : driver'.log = driver.log ++ [event]) (ho : event.openedConnection? = none)
    (hh : event.closedConnection? = none) : driver'.Faithful := by
  refine h.lines.same hc ?_ ?_
  · rw [DriverLog.openings, hlog, DriverLog.filterMap_concat, ho]
    exact List.append_nil _
  · rw [DriverLog.hangUps, hlog, DriverLog.filterMap_concat, hh]
    exact List.append_nil _

/-! ## Statements are used -/

/-- **A statement in service is used**, and stays in service. -/
theorem Orderly.used (h : driver.Orderly) {f : PhysicalStatement → PhysicalStatement}
    (hu : event.used? = some id) (ha : driver.log.Allows event)
    (hf : ∀ statement, (f statement).closed = statement.closed)
    (hr : (f (driver.statement id)).resultSet = some .opened → event = .executed id
      ∨ (driver.statement id).resultSet = some .opened ∧ event ≠ .resultSetClosed id)
    (hs : ((driver.updateStatement id f).record event).Settled) :
    ((driver.updateStatement id f).record event).Orderly := by
  have hmade : event.made? = none := by
    cases event <;> first | rfl | cases hu
  have hclosed : event.closedStatement? = none := by
    cases event <;> first | rfl | cases hu
  have hlog : ((driver.updateStatement id f).record event).log = driver.log ++ [event] := rfl
  have hlines : ((driver.updateStatement id f).record event).Faithful := by
    refine h.sameLines rfl hlog ?_ ?_
    all_goals cases event <;> first | rfl | cases hu
  have hknown : ∀ other, ((driver.updateStatement id f).record event).statements.Known other
      ↔ driver.statements.Known other := Registry.known_modify _ _ _
  have hstate : ∀ other, ((driver.updateStatement id f).statement other).closed
      = (driver.statement other).closed := by
    intro other
    rw [statement_updateStatement]
    split
    · exact hf _
    · rfl
  refine h.step hlog ha hlines ?_ (fun other => ?_) (fun other hres => ?_) hs
  · have hsize : ((driver.updateStatement id f).record event).statements.size
        = driver.statements.size := Registry.size_modify _ _ _
    rw [hmade, Option.toList_none, List.append_nil, hsize]
  · rw [hknown, hclosed]
    show _ ∧ ((driver.updateStatement id f).statement other).closed = true ↔ _
    rw [hstate]
    simp
  · change ((driver.updateStatement id f).statement other).resultSet = some .opened at hres
    rw [statement_updateStatement] at hres
    split at hres
    · next hother =>
        rw [← hother.1] at hres ⊢
        exact hr hres
    · next hother =>
        refine Or.inr ⟨hres, ?_⟩
        rintro rfl
        -- an unknown statement has no result set
        have hknown := driver.known_of_open (h.open_of_result hres)
        exact hother ⟨(Option.some.inj hu).symm, hknown⟩

/-- **Every use of a statement leaves the driver orderly.** -/
theorem Orderly.use (h : driver.Orderly) (usage : Usage) (id : StatementId) :
    (driver.use usage id).Orderly := by
  have hsettled := h.settled.use usage id
  by_cases hc : (driver.statement id).closed = true
  · rw [h.settled.use_of_closed hc]
    exact h
  rw [Bool.not_eq_true] at hc
  have hservice := h.inService hc
  cases usage with
  | bind position value =>
      simp only [Driver.use, Driver.bind, hc, Bool.false_eq_true, if_false]
      cases position with
      | zero => exact h
      | succ index =>
          refine h.silent rfl rfl (Registry.size_modify _ _ _) (fun other => ?_) fun other => ?_
          all_goals
            show _ = _
            rw [statement_updateStatement]
            split <;> rfl
  | execute =>
      simp only [Driver.use, execute, hc, Bool.false_eq_true, if_false] at hsettled ⊢
      exact h.used rfl hservice (fun _ => rfl) (fun _ => Or.inl rfl) hsettled
  | clearParameters =>
      simp only [Driver.use, clearParameters, hc, Bool.false_eq_true, if_false] at hsettled ⊢
      split at hsettled
      · next hfault =>
          rw [if_pos hfault]
          exact h
      · next hfault =>
          rw [if_neg hfault]
          exact h.used rfl hservice (fun _ => rfl) (fun hr => Or.inr ⟨hr, by simp⟩) hsettled
  | closeResultSet =>
      simp only [Driver.use, closeResultSet] at hsettled ⊢
      split at hsettled
      · next hfault =>
          rw [if_pos hfault]
          exact h
      · next hfault =>
          rw [if_neg hfault]
          split at hsettled
          · next hr =>
              rw [if_pos hr]
              exact h.used rfl ⟨hservice, h.results id hr⟩ (fun _ => rfl) (by simp) hsettled
          · next hr =>
              rw [if_neg hr]
              exact h

/-! ## Statements are closed and made -/

theorem Orderly.closeStatement (h : driver.Orderly) (id : StatementId) :
    (driver.closeStatement id).1.Orderly := by
  have hsettled := h.settled.closeStatement id
  by_cases hc : (driver.statement id).closed = true
  · rw [closeStatement_of_closed driver hc]
    exact h
  rw [Bool.not_eq_true] at hc
  have hstate := driver.closed_closeStatement id
  have hother := fun other (hne : id ≠ other) => driver.statement_closeStatement_of_ne hne
  have hknown := driver.known_closeStatement id
  rw [closeStatement_of_open driver hc] at hsettled hstate hother hknown ⊢
  have hlog : ((driver.updateStatement id shut).record (.statementClosed id)).log
      = driver.log ++ [.statementClosed id] := rfl
  refine h.step hlog (h.inService hc) (h.sameLines rfl hlog rfl rfl) ?_ (fun other => ?_)
    (fun other hres => ?_) hsettled
  · have hsize : ((driver.updateStatement id shut).record (.statementClosed id)).statements.size
        = driver.statements.size := Registry.size_modify _ _ _
    rw [hsize]
    exact (List.append_nil _).symm
  · rw [hknown, hstate, Bool.or_eq_true, decide_eq_true_eq]
    have hself := driver.known_of_open hc
    constructor
    · rintro ⟨hk, rfl | hclosed⟩
      · exact Or.inr rfl
      · exact Or.inl ⟨hk, hclosed⟩
    · rintro (⟨hk, hclosed⟩ | hclosed)
      · exact ⟨hk, Or.inr hclosed⟩
      · obtain rfl := Option.some.inj hclosed
        exact ⟨hself, Or.inl rfl⟩
  · by_cases hne : id = other
    · -- a closed statement has no result set
      rw [hsettled other (by rw [hstate]; simp [hne])] at hres
      cases hres
    · rw [hother other hne] at hres
      exact Or.inr ⟨hres, by simp⟩

theorem Orderly.issue (h : driver.Orderly) {statement : PhysicalStatement}
    {made : StatementId → DriverEvent} (hr : statement.Rested)
    (he : ∀ id, (made id).made? = some id) : (driver.issue statement made).1.Orderly := by
  obtain ⟨event, hevent⟩ : ∃ event, made driver.statements.next = event := ⟨_, rfl⟩
  have hmade : event.made? = some driver.statements.next := by
    rw [← hevent, he]
  have hclosed : event.closedStatement? = none := DriverEvent.closedStatement?_of_made hmade
  have hallowed : driver.log.Allows event := by
    cases event <;> trivial
  have hlog : (driver.issue statement made).1.log = driver.log ++ [event] := by
    rw [← hevent]
    rfl
  have hlines : (driver.issue statement made).1.Faithful := by
    refine h.sameLines rfl hlog ?_ ?_
    all_goals cases event <;> first | rfl | cases hmade
  refine h.step hlog hallowed hlines ?_ (fun other => ?_) (fun other hres => ?_)
    (h.settled.issue hr made)
  · have hsize : (driver.issue statement made).1.statements.size = driver.statements.size + 1 :=
      Registry.size_register _ _
    rw [hsize, hmade, List.range'_1_concat, Registry.next, Nat.add_comm]
    rfl
  · rw [hclosed, known_issue, statement_issue]
    split
    · next hnew =>
        subst hnew
        simp [hr.1, driver.statements.not_known_next]
    · next hnew => simp [hnew]
  · rw [statement_issue] at hres
    split at hres
    · exact absurd hres hr.2.2
    · refine Or.inr ⟨hres, ?_⟩
      rintro rfl
      cases hmade

/-! ## Lines -/

theorem Orderly.openConnection (h : driver.Orderly) : driver.openConnection.1.Orderly := by
  have hlines : driver.openConnection.1.Faithful :=
    h.lines.opened rfl driver.openings_openConnection driver.hangUps_openConnection
  have hlog : driver.openConnection.1.log = driver.log ++ [.connected driver.connections.next] :=
    rfl
  refine h.step hlog trivial hlines ?_ (fun id => ?_) (fun id hres => Or.inr ⟨hres, by simp⟩)
    h.settled
  · exact (List.append_nil _).symm
  · simp only [DriverEvent.closedStatement?, reduceCtorEq, or_false]
    exact Iff.rfl

theorem Orderly.closeConnection (h : driver.Orderly) (line : PhysicalConnectionId) :
    (driver.closeConnection line).Orderly := by
  by_cases hc : (driver.connection line).closed = true
  · rw [Driver.closeConnection, if_pos hc]
    exact h
  have hlog : (driver.closeConnection line).log = driver.log ++ [.connectionClosed line] := by
    rw [Driver.closeConnection, if_neg hc]
    rfl
  have hstatements := driver.statements_closeConnection line
  have hresult : ∀ id, (driver.closeConnection line).statement id = driver.statement id := by
    intro id
    rw [statement, hstatements, statement]
  rw [Bool.not_eq_true] at hc
  have hallowed : driver.log.Allows (.connectionClosed line) := by
    have hknown : driver.connections.Known line := World.known_line hc
    constructor
    · rw [h.lines.openings, List.mem_range'_1]
      rw [Registry.Known] at hknown
      omega
    · rw [h.lines.mem_hangUps, hc]
      rintro ⟨-, hclosed⟩
      cases hclosed
  have hlines : (driver.closeConnection line).Faithful := by
    refine h.lines.hungUp hc rfl ?_ ?_
    · rw [DriverLog.openings, hlog, DriverLog.filterMap_concat]
      exact List.append_nil _
    · rw [DriverLog.hangUps, hlog, DriverLog.filterMap_concat]
      rfl
  refine h.step hlog hallowed hlines ?_ (fun id => ?_) (fun id hres => ?_) fun id hclosed => ?_
  · rw [hstatements]
    exact (List.append_nil _).symm
  · rw [hstatements, hresult]
    simp [DriverEvent.closedStatement?]
  · rw [hresult] at hres
    exact Or.inr ⟨hres, by simp⟩
  · rw [hresult] at hclosed ⊢
    exact h.settled id hclosed

/-- **Every act leaves the driver orderly.** -/
theorem Act.orderly (h : Act driver driver') (ho : driver.Orderly) : driver'.Orderly := by
  cases h with
  | use usage id => exact ho.use usage id
  | closeStatement id => exact ho.closeStatement id
  | issue hr he => exact ho.issue hr he
  | openConnection => exact ho.openConnection
  | closeConnection line => exact ho.closeConnection line
  | switch faults => exact ho.silent rfl rfl rfl (fun _ => rfl) fun _ => rfl

/-- **So does whatever the driver does.** -/
theorem Acts.orderly (h : Acts driver driver') (ho : driver.Orderly) : driver'.Orderly :=
  h.keep Act.orderly ho

end Driver

end ConnectionPool
