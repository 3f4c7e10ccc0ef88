import ConnectionPool.Proofs.Driver.Rows
import ConnectionPool.Proofs.World.Fields

/-!
# The signals of a world

Of all that happens, some is seen of the life of pools and connections: the driver opens and
closes its connections, here called lines, and interceptors receive hooks. These happenings are
the signals of a world, in the order in which log and journal are woven together.

`World.Emits` says which signals a change of the world adds. Log and journal of two changes in a
row are woven one after the other (`weave_append`), because every notice knows how long the log
was; so the signals of the second follow those of the first (`Emits.trans`).
-/

set_option autoImplicit false

namespace ConnectionPool

/-- **A signal**: a line of the driver was opened or closed, or an interceptor received a hook and
saw this of the connection that the hook is about. -/
inductive Signal
  | opened (line : PhysicalConnectionId)
  | hungUp (line : PhysicalConnectionId)
  | hook (receiver : Receiver) (interceptor : Interceptor) (hook : Hook)
      (seen : Option ConnectionSight)
  deriving DecidableEq, Repr

/-- The signal that an event of the driver is. -/
def DriverEvent.signal? : DriverEvent → Option Signal
  | connected line => some (.opened line)
  | connectionClosed line => some (.hungUp line)
  | _ => none

/-- The signal that a notice is. -/
def Notice.signal? (notice : Notice) : Option Signal :=
  match notice.content with
  | .hook hook sight => some (.hook notice.receiver notice.interceptor hook sight.connection)
  | _ => none

/-- The signal that a happening is. -/
def Happening.signal? : Happening → Option Signal
  | .driver event => event.signal?
  | .notice told => told.signal?

/-! ## Weaving -/

/-- **Notices are timed** if the log grew from `start` events to `stop` while they were made. -/
structure Journal.Timed (start stop : Nat) (notices : Journal) : Prop where
  sorted : notices.Pairwise fun earlier later => earlier.logged ≤ later.logged
  start_le : ∀ notice ∈ notices, start ≤ notice.logged
  le_stop : ∀ notice ∈ notices, notice.logged ≤ stop

theorem Journal.Timed.nil (start stop : Nat) : Journal.Timed start stop [] :=
  ⟨List.Pairwise.nil, (fun _ h => nomatch h), fun _ h => nomatch h⟩

theorem Journal.Timed.append {start middle stop : Nat} {notices notices' : Journal}
    (h : Journal.Timed start middle notices) (h' : Journal.Timed middle stop notices')
    (hstart : start ≤ middle) (hstop : middle ≤ stop) :
    Journal.Timed start stop (notices ++ notices') where
  sorted := by
    rw [List.pairwise_append]
    exact ⟨h.sorted, h'.sorted, fun earlier he later hl =>
      Nat.le_trans (h.le_stop earlier he) (h'.start_le later hl)⟩
  start_le notice hm := by
    rcases List.mem_append.mp hm with hm | hm
    · exact h.start_le notice hm
    · exact Nat.le_trans hstart (h'.start_le notice hm)
  le_stop notice hm := by
    rcases List.mem_append.mp hm with hm | hm
    · exact Nat.le_trans (h.le_stop notice hm) hstop
    · exact h'.le_stop notice hm

/-- Events before the first notice come first. -/
theorem weave_skip {start : Nat} (log log' : DriverLog) {journal : Journal}
    (h : ∀ notice ∈ journal, start + log.length ≤ notice.logged) :
    weave start (log ++ log') journal
      = log.map .driver ++ weave (start + log.length) log' journal := by
  cases journal with
  | nil => simp [weave]
  | cons notice rest =>
      have hlogged := h notice List.mem_cons_self
      have hbefore : notice.logged - start
          = log.length + (notice.logged - (start + log.length)) := by
        omega
      simp only [weave]
      rw [hbefore, List.take_length_add_append, List.drop_length_add_append, List.map_append,
        List.append_assoc]

/-- **Log and journal of two stretches** are woven one after the other. The induction is on the
notices of the first. -/
theorem weave_append {notices : Journal} : ∀ {start : Nat} {log : DriverLog} (log' : DriverLog)
    (notices' : Journal), Journal.Timed start (start + log.length) notices →
    (∀ notice ∈ notices', start + log.length ≤ notice.logged) →
    weave start (log ++ log') (notices ++ notices')
      = weave start log notices ++ weave (start + log.length) log' notices' := by
  induction notices with
  | nil =>
      intro start log log' notices' _ hlater
      exact weave_skip log log' hlater
  | cons notice rest ih =>
      intro start log log' notices' htimed hlater
      have hstart := htimed.start_le notice List.mem_cons_self
      have hstop := htimed.le_stop notice List.mem_cons_self
      have hbefore : notice.logged - start ≤ log.length := by omega
      have hlength : notice.logged + (log.drop (notice.logged - start)).length
          = start + log.length := by
        rw [List.length_drop]
        omega
      obtain ⟨hfirst, hsorted⟩ := List.pairwise_cons.mp htimed.sorted
      have hrest : Journal.Timed notice.logged
          (notice.logged + (log.drop (notice.logged - start)).length) rest := by
        rw [hlength]
        exact ⟨hsorted, hfirst, fun later hm => htimed.le_stop later (List.mem_cons_of_mem _ hm)⟩
      have hih := ih log' notices' hrest (by rw [hlength]; exact hlater)
      rw [hlength] at hih
      simp only [List.cons_append, weave]
      rw [List.take_append_of_le_length hbefore, List.drop_append_of_le_length hbefore, hih,
        List.append_assoc, List.cons_append]

theorem mem_weave_of_notice {notice : Notice} {journal : Journal} :
    ∀ {start : Nat} {log : DriverLog}, notice ∈ journal →
      Happening.notice notice ∈ weave start log journal := by
  induction journal with
  | nil => exact nofun
  | cons first rest ih =>
      intro start log hm
      simp only [weave, List.mem_append, List.mem_cons]
      rcases List.mem_cons.mp hm with rfl | hm
      · exact Or.inr (Or.inl rfl)
      · exact Or.inr (Or.inr (ih hm))

namespace World

/-! ## What a change adds -/

/-- **All signals** so far. -/
def signals (w : World) : List Signal := w.happenings.filterMap Happening.signal?

/-- The signals since an earlier state of the world. -/
def signalsSince (earlier w : World) : List Signal :=
  (earlier.happeningsSince w).filterMap Happening.signal?

/-- No notice of the journal is ahead of the log. -/
def Timely (w : World) : Prop := Journal.Timed 0 w.driver.log.length w.journal

/-- **The signals that a change of the world adds.** -/
def Emits (signals : List Signal) (w w' : World) : Prop :=
  ∃ (events : DriverLog) (notices : Journal), w'.driver.log = w.driver.log ++ events
    ∧ w'.journal = w.journal ++ notices
    ∧ Journal.Timed w.driver.log.length w'.driver.log.length notices
    ∧ (weave w.driver.log.length events notices).filterMap Happening.signal? = signals

section Emits

variable {w w' w'' : World} {l l' : List Signal}

/-- Events of the driver without notices. -/
theorem emits_events (events : DriverLog) (hl : w'.driver.log = w.driver.log ++ events)
    (hj : w'.journal = w.journal) : Emits (events.filterMap DriverEvent.signal?) w w' := by
  refine ⟨events, [], hl, by rw [hj, List.append_nil], .nil _ _, ?_⟩
  exact List.filterMap_map

theorem emits_none (hl : w'.driver.log = w.driver.log) (hj : w'.journal = w.journal) :
    Emits [] w w' := by
  have hlog : w'.driver.log = w.driver.log ++ [] := by rw [hl, List.append_nil]
  exact emits_events [] hlog hj

theorem Emits.refl (w : World) : Emits [] w w := emits_none rfl rfl

/-- A notice is the signal that its content is. -/
theorem emits_note (w : World) (receiver : Receiver) (interceptor : Interceptor)
    (content : NoticeContent) :
    Emits (Notice.signal? ⟨receiver, interceptor, content, w.driver.log.length⟩).toList w
      (w.note receiver interceptor content) := by
  refine ⟨[], [⟨receiver, interceptor, content, w.driver.log.length⟩],
    (List.append_nil _).symm, rfl, ⟨List.pairwise_singleton _ _, ?_, ?_⟩, ?_⟩
  · intro notice hm
    obtain rfl := List.mem_singleton.mp hm
    exact Nat.le_refl _
  · intro notice hm
    obtain rfl := List.mem_singleton.mp hm
    exact Nat.le_refl _
  · obtain ⟨told, htold⟩ : ∃ told : Notice,
        told = ⟨receiver, interceptor, content, w.driver.log.length⟩ := ⟨_, rfl⟩
    rw [← htold]
    simp only [weave, List.take_nil, List.drop_nil, List.map_nil, List.nil_append]
    cases hs : told.signal? with
    | none => exact List.filterMap_cons_none hs
    | some signal => exact List.filterMap_cons_some hs

theorem Emits.trans (h : Emits l w w') (h' : Emits l' w' w'') : Emits (l ++ l') w w'' := by
  obtain ⟨events, notices, hlog, hjournal, htimed, rfl⟩ := h
  obtain ⟨events', notices', hlog', hjournal', htimed', rfl⟩ := h'
  have hlength : w'.driver.log.length = w.driver.log.length + events.length := by
    rw [hlog, List.length_append]
  have hlength' : w'.driver.log.length ≤ w''.driver.log.length := by
    rw [hlog', List.length_append]
    exact Nat.le_add_right _ _
  refine ⟨events ++ events', notices ++ notices', ?_, ?_,
    htimed.append htimed' (by omega) hlength', ?_⟩
  · rw [hlog', hlog, List.append_assoc]
  · rw [hjournal', hjournal, List.append_assoc]
  · rw [hlength] at htimed htimed' ⊢
    rw [weave_append events' notices' htimed htimed'.start_le, List.filterMap_append]

theorem Emits.timely (h : Emits l w w') (hw : w.Timely) : w'.Timely := by
  obtain ⟨events, notices, hlog, hjournal, htimed, -⟩ := h
  have hlength : w.driver.log.length ≤ w'.driver.log.length := by
    rw [hlog, List.length_append]
    exact Nat.le_add_right _ _
  rw [Timely, hjournal]
  exact hw.append htimed (Nat.zero_le _) hlength

/-- **The signals of a change come after those before.** -/
theorem Emits.signals (h : Emits l w w') (hw : w.Timely) : w'.signals = w.signals ++ l := by
  obtain ⟨events, notices, hlog, hjournal, htimed, rfl⟩ := h
  have hw' : Journal.Timed 0 (0 + w.driver.log.length) w.journal := by
    rw [Nat.zero_add]
    exact hw
  have hlater : ∀ notice ∈ notices, 0 + w.driver.log.length ≤ notice.logged := by
    rw [Nat.zero_add]
    exact htimed.start_le
  rw [World.signals, happenings, hlog, hjournal, weave_append events notices hw' hlater,
    List.filterMap_append, Nat.zero_add]
  rfl

/-- **The signals of a change are those since it began.** -/
theorem Emits.since (h : Emits l w w') : w.signalsSince w' = l := by
  obtain ⟨events, notices, hlog, hjournal, -, rfl⟩ := h
  rw [signalsSince, happeningsSince, hlog, hjournal, List.drop_left, List.drop_left]

end Emits

end World

/-! ## The driver -/

namespace Driver

/-- **The driver serves statements**: what it does concerns none of its lines. -/
structure Serves (driver driver' : Driver) : Prop where
  connections : driver'.connections = driver.connections
  faults : driver'.faults = driver.faults
  log : ∃ events : DriverLog, driver'.log = driver.log ++ events
    ∧ ∀ event ∈ events, event.signal? = none

theorem Serves.refl (driver : Driver) : driver.Serves driver :=
  ⟨rfl, rfl, [], (List.append_nil _).symm, nofun⟩

/-- One event about a statement. -/
theorem Serves.of_event {driver driver' : Driver} (hc : driver'.connections = driver.connections)
    (hf : driver'.faults = driver.faults) (event : DriverEvent)
    (hl : driver'.log = driver.log ++ [event]) (he : event.signal? = none) :
    driver.Serves driver' := by
  refine ⟨hc, hf, [event], hl, fun e hm => ?_⟩
  rw [List.mem_singleton.mp hm]
  exact he

variable (driver : Driver)

theorem serves_use (usage : Usage) (id : StatementId) : driver.Serves (driver.use usage id) := by
  cases usage with
  | bind position value =>
      simp only [use, bind]
      split
      · exact .refl driver
      · cases position with
        | zero => exact .refl driver
        | succ index => exact ⟨rfl, rfl, [], (List.append_nil _).symm,
            fun _ h => absurd h List.not_mem_nil⟩
  | execute =>
      simp only [use, execute]
      split
      · exact .refl driver
      · exact .of_event rfl rfl (.executed id) rfl rfl
  | clearParameters =>
      simp only [use, clearParameters]
      split
      · exact .refl driver
      · split
        · exact .refl driver
        · exact .of_event rfl rfl (.parametersCleared id) rfl rfl
  | closeResultSet =>
      simp only [use, closeResultSet]
      split
      · exact .refl driver
      · split
        · exact .of_event rfl rfl (.resultSetClosed id) rfl rfl
        · exact .refl driver

theorem serves_closeStatement (id : StatementId) :
    driver.Serves (driver.closeStatement id).1 := by
  cases hc : (driver.statement id).closed with
  | true =>
      rw [closeStatement_of_closed driver hc]
      exact .refl driver
  | false =>
      rw [closeStatement_of_open driver hc]
      exact .of_event rfl rfl (.statementClosed id) rfl rfl

theorem serves_issue (statement : PhysicalStatement) {event : StatementId → DriverEvent}
    (he : ∀ id, (event id).made? = some id) : driver.Serves (driver.issue statement event).1 := by
  refine .of_event rfl rfl (event driver.statements.next) rfl ?_
  have hmade := he driver.statements.next
  generalize event driver.statements.next = made at hmade ⊢
  cases made <;> first | rfl | exact nomatch hmade

theorem Serves.emits {w : World} {driver' : Driver} (h : w.driver.Serves driver') :
    World.Emits [] w { w with driver := driver' } := by
  obtain ⟨-, -, events, hlog, hnone⟩ := h
  have hsilent : events.filterMap DriverEvent.signal? = [] :=
    List.filterMap_eq_nil_iff.mpr hnone
  exact hsilent ▸ World.emits_events events hlog rfl

end Driver

end ConnectionPool
