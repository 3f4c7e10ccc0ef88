import ConnectionPool.Proofs.Custody.Placement

/-!
# The ledger of lines

The driver logs every line that it opens and every line that it closes. Its log is a faithful
ledger (`Driver.Faithful`): the lines it has opened are those it has numbers for, each opened once,
and the lines it has closed are those that are closed now, each closed once. Every move of the
custody of connections keeps it so (`Move.faithful`).
-/

set_option autoImplicit false

namespace ConnectionPool

/-- The line that the event opens. -/
def DriverEvent.openedConnection? : DriverEvent → Option PhysicalConnectionId
  | connected line => some line
  | _ => none

namespace Signal

/-- The line that was opened. -/
def opened? : Signal → Option PhysicalConnectionId
  | opened line => some line
  | _ => none

/-- The line that was closed. -/
def hungUp? : Signal → Option PhysicalConnectionId
  | hungUp line => some line
  | _ => none

end Signal

namespace DriverLog

/-- The lines that were opened, in the order of opening. -/
def openings (log : DriverLog) : List PhysicalConnectionId :=
  log.filterMap DriverEvent.openedConnection?

/-- The lines that were closed, in the order of closing. -/
def hangUps (log : DriverLog) : List PhysicalConnectionId :=
  log.filterMap DriverEvent.closedConnection?

end DriverLog

/-! ## Signals and the log -/

/-- The event that a happening is. -/
def Happening.event? : Happening → Option DriverEvent
  | .driver event => some event
  | .notice _ => none

/-- Weaving keeps all events. -/
theorem filterMap_event?_weave (journal : Journal) : ∀ (start : Nat) (log : DriverLog),
    (weave start log journal).filterMap Happening.event? = log := by
  have hevents : ∀ log : DriverLog, (log.map .driver).filterMap Happening.event? = log := by
    intro log
    rw [List.filterMap_map]
    exact List.filterMap_some
  induction journal with
  | nil => exact fun _ log => hevents log
  | cons notice rest ih =>
      intro start log
      simp only [weave, List.filterMap_append, hevents]
      rw [List.filterMap_cons_none rfl, ih, List.take_append_drop]

namespace World

variable {w w' : World} {l : List Signal}

/-- What can be told of the events can be told of the signals. -/
theorem Emits.filterMap_log {β : Type} (h : Emits l w w') {ofEvent : DriverEvent → Option β}
    {ofSignal : Signal → Option β}
    (hevent : ∀ event : DriverEvent, event.signal?.bind ofSignal = ofEvent event)
    (hhook : ∀ receiver interceptor hook seen,
      ofSignal (.hook receiver interceptor hook seen) = none) :
    w'.driver.log.filterMap ofEvent = w.driver.log.filterMap ofEvent ++ l.filterMap ofSignal := by
  obtain ⟨events, notices, hlog, -, -, rfl⟩ := h
  rw [hlog, List.filterMap_append]
  conv => lhs; rw [← filterMap_event?_weave notices w.driver.log.length events]
  rw [List.filterMap_filterMap, List.filterMap_filterMap]
  congr 2
  funext happening
  cases happening with
  | driver event => exact (hevent event).symm
  | notice told =>
      show none = told.signal?.bind ofSignal
      cases hs : told.signal? with
      | none => rfl
      | some signal =>
          unfold Notice.signal? at hs
          split at hs
          · cases hs
            exact (hhook _ _ _ _).symm
          · exact nomatch hs

theorem Emits.openings (h : Emits l w w') :
    w'.driver.log.openings = w.driver.log.openings ++ l.filterMap Signal.opened? := by
  refine h.filterMap_log (fun event => ?_) fun _ _ _ _ => rfl
  cases event <;> rfl

theorem Emits.hangUps (h : Emits l w w') :
    w'.driver.log.hangUps = w.driver.log.hangUps ++ l.filterMap Signal.hungUp? := by
  refine h.filterMap_log (fun event => ?_) fun _ _ _ _ => rfl
  cases event <;> rfl

end World

namespace Driver

/-- **The log is a faithful ledger of lines.** -/
structure Faithful (driver : Driver) : Prop where
  openings : driver.log.openings = List.range' 1 driver.connections.size
  hangUps_nodup : driver.log.hangUps.Nodup
  mem_hangUps : ∀ line, line ∈ driver.log.hangUps
    ↔ driver.connections.Known line ∧ (driver.connection line).closed = true

variable {driver driver' : Driver}

theorem openings_openConnection (driver : Driver) :
    driver.openConnection.1.log.openings = driver.log.openings ++ [driver.connections.next] :=
  List.filterMap_append ..

theorem hangUps_openConnection (driver : Driver) :
    driver.openConnection.1.log.hangUps = driver.log.hangUps :=
  (List.filterMap_append ..).trans (List.append_nil _)

/-- No line is opened or closed. -/
theorem Faithful.same (h : driver.Faithful) (hc : driver'.connections = driver.connections)
    (ho : driver'.log.openings = driver.log.openings)
    (hh : driver'.log.hangUps = driver.log.hangUps) : driver'.Faithful := by
  refine ⟨by rw [ho, hc]; exact h.openings, by rw [hh]; exact h.hangUps_nodup, fun line => ?_⟩
  rw [hh, connection, hc]
  exact h.mem_hangUps line

/-- A line is opened. -/
theorem Faithful.opened (h : driver.Faithful)
    (hc : driver'.connections = driver.connections.register {})
    (ho : driver'.log.openings = driver.log.openings ++ [driver.connections.next])
    (hh : driver'.log.hangUps = driver.log.hangUps) : driver'.Faithful := by
  refine ⟨?_, by rw [hh]; exact h.hangUps_nodup, fun line => ?_⟩
  · rw [ho, h.openings, hc, Registry.size_register, List.range'_1_concat]
    rw [Registry.next, Nat.add_comm]
  · rw [hh, h.mem_hangUps, connection, connection, hc, Registry.known_register,
      Registry.get_register]
    split
    · next hnew =>
        rw [hnew]
        exact ⟨fun hk => absurd hk.1 driver.connections.not_known_next,
          fun hk => absurd hk.2 Bool.false_ne_true⟩
    · next hnew => exact and_congr_left fun _ => (or_iff_left hnew).symm

/-- A line that is open is closed. -/
theorem Faithful.hungUp (h : driver.Faithful) {line : PhysicalConnectionId}
    (hopen : (driver.connection line).closed = false)
    (hc : driver'.connections = (driver.closeConnection line).connections)
    (ho : driver'.log.openings = driver.log.openings)
    (hh : driver'.log.hangUps = driver.log.hangUps ++ [line]) : driver'.Faithful := by
  have hsize : driver'.connections.size = driver.connections.size := by
    rw [hc, size_connections_closeConnection]
  have hclosed : ∀ other, (driver'.connection other).closed
      = (decide (line = other) || (driver.connection other).closed) := by
    intro other
    rw [← closed_closeConnection, connection, hc]
    rfl
  have hnew : line ∉ driver.log.hangUps := by
    rw [h.mem_hangUps, hopen]
    exact fun hk => Bool.false_ne_true hk.2
  refine ⟨by rw [ho, hsize]; exact h.openings, ?_, fun other => ?_⟩
  · rw [hh]
    exact List.nodup_append.mpr ⟨h.hangUps_nodup, List.nodup_singleton line, by
      rintro other hm _ hs rfl
      exact hnew (List.mem_singleton.mp hs ▸ hm)⟩
  · rw [hh, List.mem_append, List.mem_singleton, h.mem_hangUps, hclosed, Bool.or_eq_true,
      decide_eq_true_iff]
    unfold Registry.Known
    rw [hsize]
    have hknown : driver.connections.Known line := World.known_line hopen
    constructor
    · rintro (⟨hk, hcl⟩ | rfl)
      · exact ⟨hk, Or.inr hcl⟩
      · exact ⟨hknown, Or.inl rfl⟩
    · rintro ⟨hk, rfl | hcl⟩
      · exact Or.inr rfl
      · exact Or.inl ⟨hk, hcl⟩

end Driver

namespace Custody

variable {K K' : Custody} {l : List Signal}

/-! ## Rounds are no lines -/

section Rounds

variable {β : Type} {f : Signal → Option β} {connection : Connection} {c : ConnectionId}

theorem filterMap_round (hf : ∀ receiver interceptor hook seen,
      f (.hook receiver interceptor hook seen) = none) (hook : Hook) (seen : ConnectionSight) :
    (connection.round c hook seen).filterMap f = [] := by
  rw [Connection.round, List.filterMap_map, List.filterMap_eq_nil_iff]
  exact fun _ _ => hf _ _ _ _

theorem filterMap_poolRound (hf : ∀ receiver interceptor hook seen,
      f (.hook receiver interceptor hook seen) = none) (pool : Pool) (p : PoolId) (hook : Hook) :
    (pool.round p hook).filterMap f = [] := by
  rw [Pool.round, List.filterMap_map, List.filterMap_eq_nil_iff]
  exact fun _ _ => hf _ _ _ _

/-- The line of a connection is closed between the rounds of its farewell. -/
theorem filterMap_farewell (hf : ∀ receiver interceptor hook seen,
      f (.hook receiver interceptor hook seen) = none) (finalizing : Bool) :
    (connection.farewell c finalizing).filterMap f = (f (.hungUp connection.physical)).toList := by
  rw [Connection.farewell, List.filterMap_append, filterMap_round hf, List.nil_append]
  cases hs : f (.hungUp connection.physical) with
  | none => exact (List.filterMap_cons_none hs).trans (filterMap_round hf _ _)
  | some b => exact (List.filterMap_cons_some hs).trans (by rw [filterMap_round hf]; rfl)

end Rounds

/-! ## The law of one move -/

/-- The lines are as they were, if none is signalled. -/
theorem faithful_of_silent {w w' : World} (h : World.Emits l w w') (hw : w.driver.Faithful)
    (hc : w'.driver.connections = w.driver.connections) (ho : l.filterMap Signal.opened? = [])
    (hh : l.filterMap Signal.hungUp? = []) : w'.driver.Faithful := by
  refine hw.same hc ?_ ?_
  · rw [h.openings, ho, List.append_nil]
  · rw [h.hangUps, hh, List.append_nil]

/-- **Every move keeps the ledger.** -/
theorem Move.faithful (h : Move K l K') (hK : K.world.driver.Faithful) :
    K'.world.driver.Faithful := by
  have hemits := h.emits
  cases h with
  | still h => exact faithful_of_silent hemits hK h.lines rfl rfl
  | write | strike | shut | putBack => exact faithful_of_silent hemits hK rfl rfl rfl
  | dismiss =>
      exact faithful_of_silent hemits hK (World.unseen_tellListeners _ _ _).lines
        (filterMap_poolRound (fun _ _ _ _ => rfl) _ _ _)
        (filterMap_poolRound (fun _ _ _ _ => rfl) _ _ _)
  | found =>
      exact faithful_of_silent hemits hK (World.unseen_tellListeners _ _ _).lines
        (filterMap_poolRound (fun _ _ _ _ => rfl) _ _ _)
        (filterMap_poolRound (fun _ _ _ _ => rfl) _ _ _)
  | handOut =>
      exact faithful_of_silent hemits hK (World.unseen_tellChain _ _ _).lines
        (filterMap_round (fun _ _ _ _ => rfl) _ _) (filterMap_round (fun _ _ _ _ => rfl) _ _)
  | tearDown finalizing hh hl =>
      refine hK.hungUp hl.line (World.tornDown_teardown hl finalizing).lines ?_ ?_
      · rw [hemits.openings, filterMap_farewell fun _ _ _ _ => rfl]
        exact List.append_nil _
      · rw [hemits.hangUps, filterMap_farewell fun _ _ _ _ => rfl]
        rfl
  | enlist | dial => exact hK.opened rfl hemits.openings (hemits.hangUps.trans (List.append_nil _))
  | misdial =>
      have hopened : K.world.driver.openConnection.1.Faithful :=
        hK.opened rfl K.world.driver.openings_openConnection
          K.world.driver.hangUps_openConnection
      have hline : (K.world.driver.openConnection.1.connection
          K.world.driver.connections.next).closed = false :=
        congrArg PhysicalConnection.closed (Registry.get_register_next _ _)
      refine hopened.hungUp hline rfl ?_ ?_
      · rw [hemits.openings, Driver.openings_openConnection]
        rfl
      · rw [hemits.hangUps, Driver.hangUps_openConnection]
        rfl
  | @cut line hl =>
      cases hc : (K.world.driver.connection line).closed with
      | true =>
          have hsame : K.world.driver.closeConnection line = K.world.driver := if_pos hc
          show (K.world.driver.closeConnection line).Faithful
          rw [hsame]
          exact hK
      | false =>
          rw [hc] at hemits
          exact hK.hungUp hc rfl (hemits.openings.trans (List.append_nil _)) hemits.hangUps

theorem Moves.faithful (h : Moves K l K') (hK : K.world.driver.Faithful) :
    K'.world.driver.Faithful := by
  induction h with
  | refl => exact hK
  | tail _ hm ih => exact hm.faithful ih

end Custody

end ConnectionPool
