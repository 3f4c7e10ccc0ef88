import ConnectionPool.Proofs.Closing.Sealed
import ConnectionPool.Proofs.Region.Runs
import ConnectionPool.Proofs.Session.Exclusive

/-!
# The decision at closing

Closing a handle whose facade holds an open statement of the driver has one of two outcomes, and
which one is decided by the state at the time (`close_decision`). If everything that is asked for
holds (`World.Parkable`), the statement is reset and parked, and takes a slot (`World.Parked`).
If anything is missing, the driver closes the statement, once, and beside the driver nothing has
changed (`World.ClosedOnce`), though the reset may have been tried and a slot been free.
-/

set_option autoImplicit false

namespace ConnectionPool

/-! ## Resetting one statement -/

/-- A statement after a reset that succeeds. -/
def PhysicalStatement.afterReset (statement : PhysicalStatement) : PhysicalStatement :=
  { statement with parameters := [], resultSet := statement.resultSet.map fun _ => .closed }

/-- What is logged of a reset that succeeds. -/
def PhysicalStatement.resetEvents (statement : PhysicalStatement) (id : StatementId) : DriverLog :=
  (if statement.resultSet = some .opened then [.resultSetClosed id] else [])
    ++ [.parametersCleared id]

namespace Driver

/-- **A statement can be reset**: its result set is not open or can be closed, and its parameters
can be cleared. -/
structure Resettable (driver : Driver) (id : StatementId) : Prop where
  resultSet : (driver.statement id).resultSet = some .opened →
    driver.faults.resultSetClosing = false
  clearing : driver.faults.clearing = false

/-- **The driver does something with one statement only.** -/
structure KeepsTo (id : StatementId) (driver driver' : Driver) : Prop where
  touches : driver.Touches (· = id) driver'
  connections : driver'.connections = driver.connections
  faults : driver'.faults = driver.faults

/-- **A statement is reset**, and nothing else is done. -/
structure Resets (id : StatementId) (driver driver' : Driver) : Prop where
  keeps : driver.KeepsTo id driver'
  statement : driver'.statement id = (driver.statement id).afterReset
  log : driver'.log = driver.log ++ (driver.statement id).resetEvents id

variable {id : StatementId} {driver driver' driver'' : Driver}

theorem KeepsTo.refl (id : StatementId) (driver : Driver) : driver.KeepsTo id driver :=
  ⟨.refl _ driver, rfl, rfl⟩

theorem KeepsTo.trans (h : driver.KeepsTo id driver') (h' : driver'.KeepsTo id driver'') :
    driver.KeepsTo id driver'' :=
  ⟨h.touches.trans h'.touches, h'.connections.trans h.connections, h'.faults.trans h.faults⟩

theorem keepsTo_use (driver : Driver) (usage : Usage) (id : StatementId) :
    driver.KeepsTo id (driver.use usage id) where
  touches := driver.touches_use usage id
  connections := driver.connections_use usage id
  faults := by
    rcases driver.use_cases usage id with he | ⟨f, events, he, -, -⟩ <;> rw [he]
    rfl

theorem keepsTo_closeStatement (driver : Driver) (id : StatementId) :
    driver.KeepsTo id (driver.closeStatement id).1 where
  touches := driver.touches_closeStatement id
  connections := driver.connections_closeStatement id
  faults := by
    cases hc : (driver.statement id).closed with
    | true => rw [closeStatement_of_closed driver hc]
    | false =>
        rw [closeStatement_of_open driver hc]
        rfl

/-- The parameters of an open statement are cleared. -/
theorem clearParameters_of_open (hopen : (driver.statement id).closed = false)
    (hf : driver.faults.clearing = false) :
    driver.clearParameters id = ((driver.updateStatement id fun s =>
      { s with parameters := [] }).record (.parametersCleared id), .ok ()) := by
  simp [clearParameters, hopen, hf]

/-- An open result set is closed. -/
theorem closeResultSet_of_opened (hr : (driver.statement id).resultSet = some .opened)
    (hf : driver.faults.resultSetClosing = false) :
    driver.closeResultSet id = ((driver.updateStatement id fun s =>
      { s with resultSet := some .closed }).record (.resultSetClosed id), .ok ()) := by
  simp [closeResultSet, hr, hf]

end Driver

namespace World

variable {w w' : World} {tracked : Tracked} {id : StatementId}

/-- A reset keeps to the statement and closes nothing. -/
theorem reset_keepsTo (w : World) (id : StatementId) :
    ∃ driver, (w.reset (.physical id)).1 = { w with driver } ∧ w.driver.KeepsTo id driver
      ∧ (driver.statement id).closed = (w.driver.statement id).closed
      ∧ DriverLog.closings driver.log = DriverLog.closings w.driver.log := by
  rcases (w.reset_cases (show (Statement.physical id).target? = some id from rfl)).1 with
    h | h | h
  · exact ⟨_, h, w.driver.keepsTo_use _ id, by simp, by simp⟩
  · exact ⟨_, h, w.driver.keepsTo_use _ id, by simp, by simp⟩
  · exact ⟨_, h, (w.driver.keepsTo_use _ id).trans (Driver.keepsTo_use _ _ id), by simp, by simp⟩

/-- Where the result set is open, it is closed first. -/
theorem reset_of_opened (hopen : (w.driver.statement id).closed = false)
    (h : w.driver.Resettable id) (hr : (w.driver.statement id).resultSet = some .opened) :
    ∃ driver, w.reset (.physical id) = ({ w with driver }, .ok ()) ∧ w.driver.Resets id driver := by
  have hset : w.resultSet? (.physical id) = (w.driver.statement id).resultSet := rfl
  obtain ⟨driver, hd⟩ : ∃ driver, (w.driver.updateStatement id fun s =>
    { s with resultSet := some .closed }).record (.resultSetClosed id) = driver := ⟨_, rfl⟩
  have hclosed := Driver.closeResultSet_of_opened hr (h.resultSet hr)
  rw [hd] at hclosed
  have hrow : driver.statement id
      = { w.driver.statement id with resultSet := some .closed } := by
    rw [← hd]
    exact (w.driver.statement_updateStatement id _ id).trans
      (if_pos ⟨rfl, w.driver.known_of_open hopen⟩)
  have hunclosed : (driver.statement id).closed = false := by
    rw [hrow]
    exact hopen
  have hcleared := Driver.clearParameters_of_open hunclosed
    (by rw [← hd]; exact h.clearing : driver.faults.clearing = false)
  refine ⟨(driver.updateStatement id fun s => { s with parameters := [] }).record
    (.parametersCleared id), ?_, ?_, ?_, ?_⟩
  · simp [reset, hset, hr, closeResultSet, clearParameters, onTarget, Statement.target?,
      onDriver, hclosed, hcleared]
  · have hfirst := w.driver.keepsTo_use .closeResultSet id
    have hsecond := driver.keepsTo_use .clearParameters id
    rw [Driver.use, hclosed] at hfirst
    rw [Driver.use, hcleared] at hsecond
    exact hfirst.trans hsecond
  · refine ((driver.statement_updateStatement id _ id).trans
      (if_pos ⟨rfl, driver.known_of_open hunclosed⟩)).trans ?_
    rw [hrow, PhysicalStatement.afterReset, hr]
    rfl
  · show driver.log ++ [.parametersCleared id] = _
    rw [← hd, PhysicalStatement.resetEvents, if_pos hr]
    exact List.append_assoc _ _ _

/-- Where there is none, or it is closed, only the parameters are cleared. -/
theorem reset_of_unopened (hopen : (w.driver.statement id).closed = false)
    (h : w.driver.Resettable id) (hr : (w.driver.statement id).resultSet ≠ some .opened) :
    ∃ driver, w.reset (.physical id) = ({ w with driver }, .ok ()) ∧ w.driver.Resets id driver := by
  have hset : w.resultSet? (.physical id) = (w.driver.statement id).resultSet := rfl
  have hcleared := Driver.clearParameters_of_open hopen h.clearing
  have hsame : (w.driver.statement id).resultSet.map (fun _ => ResultSet.closed)
      = (w.driver.statement id).resultSet := by
    cases hs : (w.driver.statement id).resultSet with
    | none => rfl
    | some state =>
        cases state with
        | opened => exact absurd hs hr
        | closed => rfl
  refine ⟨(w.driver.updateStatement id fun s => { s with parameters := [] }).record
    (.parametersCleared id), ?_, ?_, ?_, ?_⟩
  · unfold reset
    rw [hset]
    split
    · next h => exact absurd h hr
    · simp [clearParameters, onTarget, Statement.target?, onDriver, hcleared]
  · have hkeeps := w.driver.keepsTo_use .clearParameters id
    rwa [Driver.use, hcleared] at hkeeps
  · refine ((w.driver.statement_updateStatement id _ id).trans
      (if_pos ⟨rfl, w.driver.known_of_open hopen⟩)).trans ?_
    rw [PhysicalStatement.afterReset, hsame]
  · rw [PhysicalStatement.resetEvents, if_neg hr]
    rfl

/-- **A reset succeeds** if the statement can be reset, and then this is what it does. -/
theorem reset_of_resettable (hopen : (w.driver.statement id).closed = false)
    (h : w.driver.Resettable id) :
    ∃ driver, w.reset (.physical id) = ({ w with driver }, .ok ()) ∧ w.driver.Resets id driver := by
  by_cases hr : (w.driver.statement id).resultSet = some .opened
  · exact reset_of_opened hopen h hr
  · exact reset_of_unopened hopen h hr

/-- A reset succeeds only if the statement can be reset. -/
theorem resettable_of_reset (h : (w.reset (.physical id)).2 = .ok ()) :
    w.driver.Resettable id := by
  have hset : w.resultSet? (.physical id) = (w.driver.statement id).resultSet := rfl
  have hclearing : ∀ v : World, (v.clearParameters (.physical id)).2 = .ok () →
      v.driver.faults.clearing = false := by
    intro v hv
    cases hf : v.driver.faults.clearing with
    | false => rfl
    | true =>
        cases hc : (v.driver.statement id).closed <;>
          simp [clearParameters, onTarget, Statement.target?, onDriver, Driver.clearParameters, hf,
            hc] at hv
  by_cases hr : (w.driver.statement id).resultSet = some .opened
  · have hclose : w.closeResultSet (.physical id)
        = ({ w with driver := (w.driver.closeResultSet id).1 },
          some (w.driver.closeResultSet id).2) := by
      simp [closeResultSet, hset, hr, Statement.target?, onDriver]
    have hopened : w.driver.faults.resultSetClosing = false := by
      cases hf : w.driver.faults.resultSetClosing with
      | false => rfl
      | true => simp [reset, hset, hr, hclose, Driver.closeResultSet, hf] at h
    have hresult : (w.driver.closeResultSet id).2 = .ok () := by
      rw [Driver.closeResultSet_of_opened hr hopened]
    refine ⟨fun _ => hopened, ?_⟩
    simp only [reset, hset, hr, hclose, hresult] at h
    have hf := hclearing _ h
    rwa [show (w.driver.closeResultSet id).1.faults = w.driver.faults from
      (w.driver.keepsTo_use .closeResultSet id).faults] at hf
  · refine ⟨fun hopened => absurd hopened hr, hclearing w ?_⟩
    unfold reset at h
    rw [hset] at h
    split at h
    · next hopened => exact absurd hopened hr
    · exact h

/-! ## The decision -/

/-- **A statement can be parked**: it has a key, its cache is attached to a store and a counter,
fewer slots are taken than the cache allows, the statement can be reset, and the store is open and
has nothing under the key. -/
structure Parkable (w : World) (tracked : Tracked) (id : StatementId) (key : CacheKey)
    (c : ConnectionId) (n : CounterId) : Prop where
  keyed : tracked.key = some key
  bound : (w.cache tracked.cache).binding = some ⟨c, some n⟩
  room : (w.counter n).count < (w.cache tracked.cache).policy.limit
  reset : w.driver.Resettable id
  unclosed : (w.store c).closed = false
  free : (w.store c).entries.get? key = none

/-- **A statement was parked**: the store that its cache is attached to has one more entry, the
counter one more slot taken, and the statement was reset. Nothing was closed, and everything else
is as it was. -/
structure Parked (w w' : World) (tracked : Tracked) (id : StatementId) (key : CacheKey)
    (c : ConnectionId) (n : CounterId) : Prop where
  keyed : tracked.key = some key
  bound : (w.cache tracked.cache).binding = some ⟨c, some n⟩
  store : w'.store c = (w.store c).park key tracked
  count : (w'.counter n).count = (w.counter n).count + 1
  statement : w'.driver.statement id = (w.driver.statement id).afterReset
  log : w'.driver.log = w.driver.log ++ (w.driver.statement id).resetEvents id
  driver : w.driver.KeepsTo id w'.driver
  rest : w' = (({ w with driver := w'.driver } : World).updateCounter n fun _ =>
    ⟨(w.counter n).count + 1⟩).setStore c ((w.store c).park key tracked)

/-- **A statement was disposed of**: the driver has closed it once, and nothing else, and beside
the driver everything is as it was. -/
structure ClosedOnce (w w' : World) (id : StatementId) : Prop where
  closed : (w'.driver.statement id).closed = true
  closings : DriverLog.closings w'.driver.log = DriverLog.closings w.driver.log ++ [id]
  driver : w.driver.KeepsTo id w'.driver
  rest : w' = { w with driver := w'.driver }

/-- What can be parked is taken back. -/
theorem Parkable.takeBack {key : CacheKey} {c : ConnectionId} {n : CounterId}
    (h : w.Parkable tracked id key c n) (ht : tracked.delegate = .physical id)
    (hopen : (w.driver.statement id).closed = false) :
    ∃ driver, w.takeBack tracked = ((({ w with driver } : World).updateCounter n fun _ =>
        ⟨(w.counter n).count + 1⟩).setStore c ((w.store c).park key tracked), true)
      ∧ w.driver.Resets id driver := by
  obtain ⟨driver, hreset, hresets⟩ := reset_of_resettable hopen h.reset
  refine ⟨driver, ?_, hresets⟩
  have hroom : w.hasRoom (w.cache tracked.cache).policy ⟨c, some n⟩ = true := by
    simpa [hasRoom] using h.room
  have hacquire : (({ w with driver } : World).counter n).acquire?
      (w.cache tracked.cache).policy.limit = some ⟨(w.counter n).count + 1⟩ :=
    if_pos h.room
  have hstore : ({ w with driver } : World).store c = w.store c := rfl
  have hfree : (w.store c).entries.contains key = false :=
    (Table.contains_eq_false_iff _ _).mpr h.free
  simp [World.takeBack, h.keyed, h.bound, hroom, ht, hreset, offerTo, hstore, hfree, hacquire,
    h.unclosed]

/-- What is taken back could be parked; otherwise the driver at most tried the reset. -/
theorem takeBack_of_not_parkable (ht : tracked.delegate = .physical id)
    (h : ∀ key c n, ¬ w.Parkable tracked id key c n) :
    ∃ driver, w.takeBack tracked = ({ w with driver }, false) ∧ w.driver.KeepsTo id driver
      ∧ (driver.statement id).closed = (w.driver.statement id).closed
      ∧ DriverLog.closings driver.log = DriverLog.closings w.driver.log := by
  obtain ⟨driver, hreset, hkeeps⟩ := w.reset_keepsTo id
  obtain ⟨key, k, delegate⟩ := tracked
  obtain rfl : delegate = .physical id := ht
  obtain ⟨key, id', c, n, w', rfl, hb, -, hr, hn, hopen, hfree, -⟩ | hback | hback :=
    w.takeBack_cases key k (.physical id)
  · rw [hr] at hreset
    obtain rfl : w' = { w with driver } := hreset
    exact absurd ⟨rfl, hb, hn, resettable_of_reset (by rw [hr]), hopen, hfree⟩ (h key c n)
  · rw [hreset] at hback
    exact ⟨driver, hback, hkeeps⟩
  · exact ⟨w.driver, hback, .refl id _, rfl, rfl⟩

section Close

variable {key : CacheKey} {c : ConnectionId} {n : CounterId}

/-- What can be parked is parked. -/
theorem Parkable.close (h : w.Parkable tracked id key c n) (ht : tracked.delegate = .physical id)
    (hopen : (w.driver.statement id).closed = false) (hc : w.connections.Known c)
    (hn : w.counters.Known n) : w.Parked (World.close tracked.facade w).1 tracked id key c n := by
  obtain ⟨driver, hback, hresets⟩ := h.takeBack ht hopen
  have hclose : (World.close tracked.facade w).1
      = (({ w with driver } : World).updateCounter n fun _ =>
        ⟨(w.counter n).count + 1⟩).setStore c ((w.store c).park key tracked) := by
    rw [Tracked.facade, World.close, hback]
  rw [hclose]
  refine ⟨h.keyed, h.bound, World.store_setStore_self _ hc _, ?_, hresets.statement, hresets.log,
    hresets.keeps, rfl⟩
  exact congrArg Counter.count
    ((({ w with driver } : World).counter_updateCounter n _ n).trans (if_pos ⟨rfl, hn⟩))

/-- What cannot be parked is disposed of. -/
theorem closedOnce_close (ht : tracked.delegate = .physical id)
    (hopen : (w.driver.statement id).closed = false)
    (h : ∀ key c n, ¬ w.Parkable tracked id key c n) :
    w.ClosedOnce (World.close tracked.facade w).1 id := by
  obtain ⟨driver, hback, hkeeps, hrow, hclosings⟩ := takeBack_of_not_parkable ht h
  have hclose : (World.close tracked.facade w).1
      = { w with driver := (driver.closeStatement id).1 } := by
    rw [Tracked.facade, World.close, hback, ht]
    rfl
  rw [hclose]
  refine ⟨?_, ?_, hkeeps.trans (driver.keepsTo_closeStatement id), rfl⟩
  · show ((driver.closeStatement id).1.statement id).closed = true
    rw [Driver.closed_closeStatement, decide_eq_true rfl, Bool.true_or]
  · show DriverLog.closings (driver.closeStatement id).1.log = _
    rw [Driver.closings_closeStatement, hrow, hopen, if_neg (by decide), hclosings]

/-- A statement is not both parked and disposed of. -/
theorem Parked.not_closedOnce (h : w.Parked w' tracked id key c n)
    (hopen : (w.driver.statement id).closed = false) : ¬ w.ClosedOnce w' id := by
  intro hd
  have hclosed := hd.closed
  rw [h.statement, PhysicalStatement.afterReset, hopen] at hclosed
  cases hclosed

end Close

end World

namespace Session

/-- **The decision at closing.** In any state that a client comes to, take a statement with its
cache and key whose handle is an open statement of the driver. If a facade is closed that holds it,
the statement is parked if and only if it can be, and otherwise it is disposed of; the facade
reports no failure. The client closes or drops a facade, or closes a statement that it tracks:
nothing else happens then, the reply is always the same, and a facade that was closed is spent. -/
theorem close_decision (commands : List Command) {tracked : Tracked} {id : StatementId}
    (ht : tracked.delegate = .physical id)
    (hopen : ((empty.runAll commands).world.driver.statement id).closed = false) :
    ((∃ key c n, (empty.runAll commands).world.Parkable tracked id key c n)
        ↔ ∃ key c n, (empty.runAll commands).world.Parked
          (World.close tracked.facade (empty.runAll commands).world).1 tracked id key c n)
    ∧ ((¬ ∃ key c n, (empty.runAll commands).world.Parkable tracked id key c n)
        ↔ (empty.runAll commands).world.ClosedOnce
          (World.close tracked.facade (empty.runAll commands).world).1 id)
    ∧ (World.close tracked.facade (empty.runAll commands).world).2 = .ok ()
    ∧ (∀ name held, (empty.runAll commands).statements.get? name = some held →
        held.statement = tracked.facade →
        (empty.runAll commands).run (.statement (.close name))
          = (((empty.runAll commands).inWorld
              (World.close tracked.facade (empty.runAll commands).world).1).putStatement name
                { held with statement := .spent }, .done)
        ∧ (World.close tracked.facade (empty.runAll commands).world).1.isClosed .spent = true
        ∧ (empty.runAll commands).run (.statement (.drop name))
          = (((empty.runAll commands).inWorld
              (World.close tracked.facade (empty.runAll commands).world).1).takeStatement name,
            .done))
    ∧ ∀ name, (empty.runAll commands).tracked.get? name = some tracked →
        (empty.runAll commands).run (.tracked (.close name))
          = (((empty.runAll commands).inWorld
              (World.close tracked.facade (empty.runAll commands).world).1).takeTracked name,
            .done) := by
  have hclosed := (Region.everything_embraces commands).closed
  generalize empty.runAll commands = s at hopen hclosed ⊢
  have hparks : ∀ {key c n}, s.world.Parkable tracked id key c n →
      s.world.Parked (World.close tracked.facade s.world).1 tracked id key c n := fun h =>
    have hallowed := hclosed.bound tracked.cache _ trivial h.bound
    h.close ht hopen hallowed.known (hallowed.counter _ rfl).2
  have hdisposes : (¬ ∃ key c n, s.world.Parkable tracked id key c n) →
      s.world.ClosedOnce (World.close tracked.facade s.world).1 id := fun h =>
    World.closedOnce_close ht hopen fun key c n hp => h ⟨key, c, n, hp⟩
  have hresult : (World.close tracked.facade s.world).2 = .ok () := by
    rw [Tracked.facade, World.close]
    split <;> rfl
  refine ⟨⟨?_, ?_⟩, ⟨hdisposes, ?_⟩, hresult, ?_, ?_⟩
  · rintro ⟨key, c, n, h⟩
    exact ⟨key, c, n, hparks h⟩
  · rintro ⟨key, c, n, h⟩
    by_contra hne
    exact h.not_closedOnce hopen (hdisposes hne)
  · rintro hd ⟨key, c, n, h⟩
    exact (hparks h).not_closedOnce hopen hd
  · intro name held hn hf
    refine ⟨?_, rfl, ?_⟩
    · simp only [run, runStatement, withStatement, hn, hf]
      rw [hresult]
      rfl
    · simp only [run, runStatement, withStatement, hn, hf]
      rfl
  · intro name hn
    simp only [run, runTracked, withTracked, hn]
    rfl

/-- A statement that could be parked is disposed of once its parameters cannot be cleared. -/
theorem close_decision_recycling :
    (((empty.runAll (recycling.take 3)).world.driver.statement 1).closed = false
      ∧ ∃ key c n, (empty.runAll (recycling.take 3)).world.Parked
        (World.close (.facade (some ⟨.prepared, selection.args⟩) 2 (.physical 1))
          (empty.runAll (recycling.take 3)).world).1
        ⟨some ⟨.prepared, selection.args⟩, 2, .physical 1⟩ 1 key c n)
    ∧ (empty.runAll (recycling.take 3 ++ [.switch (.clearing true)])).world.ClosedOnce
        (World.close (.facade (some ⟨.prepared, selection.args⟩) 2 (.physical 1))
          (empty.runAll (recycling.take 3 ++ [.switch (.clearing true)])).world).1 1 := by
  obtain ⟨hparks, -⟩ := @close_decision (recycling.take 3)
    ⟨some ⟨.prepared, selection.args⟩, 2, .physical 1⟩ 1 rfl (by rfl)
  obtain ⟨-, hdisposes, -⟩ := @close_decision (recycling.take 3 ++ [.switch (.clearing true)])
    ⟨some ⟨.prepared, selection.args⟩, 2, .physical 1⟩ 1 rfl (by rfl)
  refine ⟨⟨by rfl, hparks.mp ⟨⟨.prepared, selection.args⟩, 1, 1, by rfl, by rfl, by decide,
    ⟨by decide, by rfl⟩, by rfl, by rfl⟩⟩, hdisposes.mp ?_⟩
  rintro ⟨key, c, n, h⟩
  have hclearing := h.reset.clearing
  cases hclearing

end Session

end ConnectionPool
