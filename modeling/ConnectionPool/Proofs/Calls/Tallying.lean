import ConnectionPool.Proofs.Client.Unseen

/-!
# What is tallied

A store tallies the look-ups of its connection, and the log of the driver shows how many statements
were prepared on each line (`Driver.preparationsOn`). `World.Tame` says that a change of the world
leaves the tallies of all stores and the preparations on all lines as they are, except for one
connection; a change is `World.Calm` if it leaves the caches alone as well.

Whatever is done with statements is calm: only a look-up is tallied, and only a call prepares
anything. A call is calm apart from the connection on which it is made (`calm_perform`).
-/

set_option autoImplicit false

namespace ConnectionPool

/-- The tallies of a store: of look-ups that found a statement, and of those that found none. -/
def Store.tally (store : Store) : UInt64 × UInt64 := (store.hits, store.misses)

/-! ## Preparations -/

namespace Driver

/-- Every statement of which the log says that it was made is there. -/
def Recorded (driver : Driver) : Prop :=
  ∀ event ∈ driver.log, ∀ id, event.made? = some id → driver.statements.Known id

/-- An event is the preparation of a statement on a line. -/
def preparesOn (driver : Driver) (line : PhysicalConnectionId) (event : DriverEvent) : Bool :=
  event.isPreparation
    && event.made?.any fun id => (driver.statement id).origin.any fun made => made.1 == line

/-- **How many statements were prepared on a line.** -/
def preparationsOn (driver : Driver) (line : PhysicalConnectionId) : Nat :=
  driver.log.countP (driver.preparesOn line)

/-- The driver prepares statements, so many on each line. -/
structure Prepares (more : PhysicalConnectionId → Nat) (driver driver' : Driver) : Prop where
  recorded : driver.Recorded → driver'.Recorded
  count : driver.Recorded → ∀ line,
    driver'.preparationsOn line = driver.preparationsOn line + more line

variable {driver driver' : Driver}

theorem Prepares.refl (driver : Driver) : driver.Prepares (fun _ => 0) driver :=
  ⟨id, fun _ _ => rfl⟩

theorem Prepares.trans {more more' : PhysicalConnectionId → Nat} {driver'' : Driver}
    (h : driver.Prepares more driver') (h' : driver'.Prepares more' driver'') :
    driver.Prepares (fun line => more line + more' line) driver'' where
  recorded hr := h'.recorded (h.recorded hr)
  count hr line := by rw [h'.count (h.recorded hr), h.count hr, Nat.add_assoc]

/-- Nothing is prepared where nothing is logged, and statements keep their origins. -/
theorem Prepares.of_origins (hlog : driver'.log = driver.log)
    (hknown : ∀ id, driver.statements.Known id → driver'.statements.Known id)
    (horigin : ∀ id, (driver'.statement id).origin = (driver.statement id).origin) :
    driver.Prepares (fun _ => 0) driver' where
  recorded h event hm id hmade := hknown id (h event (hlog ▸ hm) id hmade)
  count _ line := by
    have hsame : driver'.preparesOn line = driver.preparesOn line := by
      funext event
      simp only [preparesOn, horigin]
    rw [preparationsOn, preparationsOn, hlog, hsame, Nat.add_zero]

/-- An event that makes nothing prepares nothing. -/
theorem prepares_record (driver : Driver) (event : DriverEvent) (hnone : event.made? = none) :
    driver.Prepares (fun _ => 0) (driver.record event) where
  recorded h made hm id hmade := by
    rcases List.mem_append.mp hm with hm | hm
    · exact h made hm id hmade
    · rw [List.mem_singleton.mp hm, hnone] at hmade
      cases hmade
  count _ line := by
    have hself : driver.preparesOn line event = false := by
      rw [preparesOn, hnone, Option.any_none, Bool.and_false]
    show (driver.log ++ [event]).countP (driver.preparesOn line) = _
    rw [List.countP_append, List.countP_singleton, hself]
    rfl

/-- A statement that is changed keeps its origin. -/
theorem prepares_updateStatement (driver : Driver) (id : StatementId)
    {f : PhysicalStatement → PhysicalStatement} (hf : ∀ a, (f a).origin = a.origin) :
    driver.Prepares (fun _ => 0) (driver.updateStatement id f) :=
  .of_origins rfl (fun other => (Registry.known_modify _ _ _ other).mpr)
    (driver.statements.get_modify_congr id f PhysicalStatement.origin hf)

theorem prepares_mark (driver : Driver) (id : StatementId)
    {f : PhysicalStatement → PhysicalStatement} (event : DriverEvent)
    (hf : ∀ a, (f a).origin = a.origin) (hnone : event.made? = none) :
    driver.Prepares (fun _ => 0) ((driver.updateStatement id f).record event) :=
  (driver.prepares_updateStatement id hf).trans (prepares_record _ event hnone)

theorem prepares_use (driver : Driver) (usage : Usage) (id : StatementId) :
    driver.Prepares (fun _ => 0) (driver.use usage id) := by
  cases usage with
  | bind position value =>
      simp only [use, bind]
      split
      · exact .refl driver
      · cases position with
        | zero => exact .refl driver
        | succ index => exact driver.prepares_updateStatement id fun _ => rfl
  | execute =>
      simp only [use, execute]
      split
      · exact .refl driver
      · exact driver.prepares_mark id (.executed id) (fun _ => rfl) rfl
  | clearParameters =>
      simp only [use, clearParameters]
      split
      · exact .refl driver
      · split
        · exact .refl driver
        · exact driver.prepares_mark id (.parametersCleared id) (fun _ => rfl) rfl
  | closeResultSet =>
      simp only [use, closeResultSet]
      split
      · exact .refl driver
      · split
        · exact driver.prepares_mark id (.resultSetClosed id) (fun _ => rfl) rfl
        · exact .refl driver

theorem prepares_closeStatement (driver : Driver) (id : StatementId) :
    driver.Prepares (fun _ => 0) (driver.closeStatement id).1 := by
  cases hc : (driver.statement id).closed with
  | true =>
      rw [closeStatement_of_closed driver hc]
      exact .refl driver
  | false =>
      rw [closeStatement_of_open driver hc]
      exact driver.prepares_mark id (.statementClosed id) (fun _ => rfl) rfl

/-- Lines are no statements. -/
theorem prepares_connections (driver : Driver) (connections : Registry PhysicalConnection) :
    driver.Prepares (fun _ => 0) { driver with connections } :=
  .of_origins rfl (fun _ => id) fun _ => rfl

theorem prepares_openConnection (driver : Driver) :
    driver.Prepares (fun _ => 0) driver.openConnection.1 :=
  (driver.prepares_connections _).trans
    (prepares_record _ (.connected driver.connections.next) rfl)

theorem prepares_closeConnection (driver : Driver) (line : PhysicalConnectionId) :
    driver.Prepares (fun _ => 0) (driver.closeConnection line) := by
  unfold closeConnection
  split
  · exact .refl driver
  · exact (driver.prepares_connections _).trans
      (prepares_record _ (.connectionClosed line) rfl)

/-- A statement that is made on a line is prepared there, unless it is made without a text. -/
theorem prepares_issue (driver : Driver) (statement : PhysicalStatement)
    (event : StatementId → DriverEvent) (he : ∀ id, (event id).made? = some id) :
    driver.Prepares (fun line => if (event driver.statements.next).isPreparation
        && statement.origin.any (fun made => made.1 == line) then 1 else 0)
      (driver.issue statement event).1 where
  recorded h made hm id hmade := by
    rw [known_issue]
    rcases List.mem_append.mp hm with hm | hm
    · exact Or.inl (h made hm id hmade)
    · rw [List.mem_singleton.mp hm, he] at hmade
      exact Or.inr (Option.some.inj hmade).symm
  count h line := by
    -- the statements that were made before have their origins still
    have hbefore : driver.log.countP ((driver.issue statement event).1.preparesOn line)
        = driver.preparationsOn line := by
      refine List.countP_congr fun made hm => ?_
      rw [preparesOn, preparesOn]
      cases hmade : made.made? with
      | none => rfl
      | some id =>
          rw [Option.any_some, Option.any_some,
            statement_issue_of_known driver _ _ (h made hm id hmade)]
    have hself : (driver.issue statement event).1.preparesOn line (event driver.statements.next)
        = ((event driver.statements.next).isPreparation
          && statement.origin.any fun made => made.1 == line) := by
      rw [preparesOn, he, Option.any_some, statement_issue, if_pos rfl]
    show (driver.log ++ [event driver.statements.next]).countP _ = _
    rw [List.countP_append, hbefore, List.countP_singleton, hself]

/-- A call prepares a statement on an open line if it has a text. -/
theorem prepares_prepareBy (driver : Driver) (line : PhysicalConnectionId) (call : Call)
    {event : StatementId → String → DriverEvent} (he : ∀ id sql, (event id sql).made? = some id)
    (hp : ∀ id sql, (event id sql).isPreparation = true) :
    driver.Prepares (fun l => if !(driver.connection line).closed && call.sql?.isSome && line == l
        then 1 else 0) (driver.prepareBy line call event).1 := by
  unfold prepareBy
  cases (driver.connection line).closed with
  | true => exact .refl driver
  | false =>
      cases call.sql? with
      | none => exact .refl driver
      | some sql =>
          have hissue := driver.prepares_issue { sql, origin := some (line, call) }
            (fun id => event id sql) fun id => he id sql
          rw [hp] at hissue
          exact hissue

/-- A statement without a text is not prepared. -/
theorem prepares_createStatement (driver : Driver) (line : PhysicalConnectionId) :
    driver.Prepares (fun _ => 0) (driver.createStatement line).1 := by
  unfold createStatement
  split
  · exact .refl driver
  · exact driver.prepares_issue { sql := "", origin := some (line, ⟨.createStatement, []⟩) }
      .created fun _ => rfl

end Driver

namespace World

variable {touched : Option ConnectionId} {w w' w'' : World} {c : ConnectionId}

/-! ## Changes that tally nothing -/

/-- **A change that tallies nothing and prepares nothing**, except for a connection that may be
touched. -/
structure Tame (touched : Option ConnectionId) (w w' : World) : Prop where
  physical : ∀ c, (w'.connection c).physical = (w.connection c).physical
  tally : ∀ c, touched ≠ some c → (w'.store c).tally = (w.store c).tally
  recorded : w.driver.Recorded → w'.driver.Recorded
  prepared : w.driver.Recorded → ∀ line,
    (∀ c, touched = some c → (w.connection c).physical ≠ line) →
    w'.driver.preparationsOn line = w.driver.preparationsOn line

/-- **A tame change that leaves the caches alone.** -/
structure Calm (touched : Option ConnectionId) (w w' : World) : Prop extends Tame touched w w' where
  caches : w'.caches = w.caches

theorem Tame.trans (h : Tame touched w w') (h' : Tame touched w' w'') : Tame touched w w'' where
  physical c := (h'.physical c).trans (h.physical c)
  tally c hc := (h'.tally c hc).trans (h.tally c hc)
  recorded hr := h'.recorded (h.recorded hr)
  prepared hr line hline := by
    refine (h'.prepared (h.recorded hr) line fun c hc => ?_).trans (h.prepared hr line hline)
    rw [h.physical]
    exact hline c hc

/-- A change that touches no connection tallies nothing at all. -/
theorem Tame.tally_of_none (h : Tame none w w') (c : ConnectionId) :
    (w'.store c).tally = (w.store c).tally :=
  h.tally c (Option.some_ne_none c).symm

theorem Tame.prepared_of_none (h : Tame none w w') (hr : w.driver.Recorded)
    (line : PhysicalConnectionId) :
    w'.driver.preparationsOn line = w.driver.preparationsOn line :=
  h.prepared hr line fun c hc => absurd hc (Option.some_ne_none c).symm

theorem Calm.trans (h : Calm touched w w') (h' : Calm touched w' w'') : Calm touched w w'' :=
  ⟨h.toTame.trans h'.toTame, h'.caches.trans h.caches⟩

/-- What connections and driver have nothing to do with is tame. -/
theorem tame_of_same (hconnections : w'.connections = w.connections)
    (hdriver : w'.driver = w.driver) :
    Tame touched w w' := by
  have hread : ∀ c, w'.connection c = w.connection c := fun c => by
    rw [connection, hconnections, connection]
  refine ⟨fun c => by rw [hread], fun c _ => by rw [store, hread, store], ?_, fun _ _ _ => ?_⟩
  · rw [hdriver]
    exact id
  · rw [hdriver]

theorem calm_of_same (hconnections : w'.connections = w.connections)
    (hdriver : w'.driver = w.driver)
    (hcaches : w'.caches = w.caches) : Calm touched w w' :=
  ⟨tame_of_same hconnections hdriver, hcaches⟩

theorem Calm.refl (w : World) : Calm touched w w := calm_of_same rfl rfl rfl

/-- The driver does something that prepares nothing. -/
theorem calm_driver {driver : Driver} (h : w.driver.Prepares (fun _ => 0) driver) :
    Calm touched w { w with driver } :=
  ⟨⟨fun _ => rfl, fun _ _ => rfl, h.recorded, fun hr line _ => h.count hr line⟩, rfl⟩

/-- A store is written without a new tally. -/
theorem calm_setStore (w : World) (c : ConnectionId) (store : Store)
    (h : touched ≠ some c → store.tally = (w.store c).tally) :
    Calm touched w (w.setStore c store) where
  physical := w.connection_updateConnection_congr c _ Connection.physical fun _ => rfl
  tally d hd := by
    rw [store_setStore]
    split
    · next hcd =>
        obtain ⟨rfl, -⟩ := hcd
        exact h hd
    · rfl
  recorded := id
  prepared _ _ _ := rfl
  caches := rfl

theorem calm_releaseSlot (w : World) (n : Option CounterId) : Calm touched w (w.releaseSlot n) := by
  cases n with
  | none => exact .refl w
  | some n => exact calm_of_same rfl rfl rfl

/-! ## Statements -/

theorem calm_use (w : World) (usage : Usage) (id : StatementId) :
    Calm touched w { w with driver := w.driver.use usage id } :=
  calm_driver (w.driver.prepares_use usage id)

theorem calm_onTarget {α : Type} (w : World) (handle : Statement)
    {action : StatementId → Driver → Driver × Except DriverError α} (usage : Usage)
    (h : ∀ id driver, (action id driver).1 = driver.use usage id) :
    Calm touched w (w.onTarget handle action).1 := by
  unfold onTarget
  split
  · exact .refl w
  · next id _ =>
      have huse : Calm touched w { w with driver := w.driver.use usage id } := w.calm_use usage id
      rw [← h id w.driver] at huse
      exact huse

theorem calm_closeResultSet (w : World) (handle : Statement) :
    Calm touched w (w.closeResultSet handle).1 := by
  unfold closeResultSet
  split
  · next id _ _ _ => exact w.calm_use .closeResultSet id
  · exact .refl w

theorem calm_reset (w : World) (handle : Statement) : Calm touched w (w.reset handle).1 := by
  cases ht : handle.target? with
  | none =>
      rw [w.reset_of_spent ht]
      exact .refl w
  | some id =>
      obtain ⟨hw | hw | hw, -⟩ := w.reset_cases ht
      · rw [hw]
        exact w.calm_use .clearParameters id
      · rw [hw]
        exact w.calm_use .closeResultSet id
      · rw [hw]
        exact (w.calm_use .closeResultSet id).trans (calm_use _ .clearParameters id)

/-- A statement is parked, and a slot taken for it. -/
theorem calm_park (w : World) (c : ConnectionId) (n : CounterId) (change : Counter → Counter)
    (key : CacheKey) (tracked : Tracked) :
    Calm touched w ((w.updateCounter n change).setStore c ((w.store c).park key tracked)) := by
  have hcounted : Calm touched w (w.updateCounter n change) := calm_of_same rfl rfl rfl
  exact hcounted.trans (calm_setStore _ c _ fun _ => rfl)

theorem calm_takeBack (w : World) (tracked : Tracked) : Calm touched w (w.takeBack tracked).1 := by
  obtain ⟨key, k, inner⟩ := tracked
  obtain ⟨key', id, c, n, w', -, -, -, hr, -, -, -, h⟩ | h | h := w.takeBack_cases key k inner
  · have hreset : Calm touched w (w.reset inner).1 := w.calm_reset inner
    rw [hr] at hreset
    rw [h]
    exact hreset.trans (w'.calm_park c n _ key' _)
  · rw [h]
    exact w.calm_reset inner
  · rw [h]
    exact .refl w

/-- **Closing a handle tallies nothing.** -/
theorem calm_close (handle : Statement) : ∀ w : World, Calm touched w (close handle w).1 := by
  induction handle with
  | physical id => exact fun w => calm_driver (w.driver.prepares_closeStatement id)
  | spent => exact fun w => .refl w
  | facade key k inner ih =>
      intro w
      have hback : Calm touched w (w.takeBack ⟨key, k, inner⟩).1 := w.calm_takeBack ⟨key, k, inner⟩
      unfold close
      split
      · next hw =>
          rw [hw] at hback
          exact hback
      · next hw =>
          rw [hw] at hback
          exact hback.trans (ih _)

theorem calm_dropTracked (w : World) (tracked : Tracked) :
    Calm touched w (w.dropTracked tracked) :=
  calm_close tracked.delegate w

theorem calm_dropHandle (w : World) (handle : Statement) :
    Calm touched w (w.dropHandle handle) := by
  unfold dropHandle
  split
  · exact .refl w
  · exact calm_close _ w

theorem calm_forceCloseFacade (w : World) (handle : Statement) :
    Calm touched w (w.forceCloseFacade handle).1 := by
  unfold forceCloseFacade
  split
  · exact .refl w
  · exact calm_close _ w

theorem calm_offer (w : World) (k : CacheId) (tracked : Tracked) :
    Calm touched w (w.offer k tracked).1 := by
  unfold offer
  split
  · exact .refl w
  · next binding _ =>
      obtain ⟨key, n, -, -, -, -, -, h⟩ | ⟨reason, h⟩ :=
        w.offerTo_cases (w.cache k).policy binding tracked
      · rw [h]
        exact w.calm_park _ n _ key tracked
      · rw [h]
        exact .refl w

theorem calm_withdraw (w : World) (k : CacheId) (key : CacheKey) :
    Calm touched w (w.withdraw k key).1 := by
  unfold withdraw
  split
  · exact .refl w
  · next binding _ =>
      simp only
      split
      · exact .refl w
      · exact (w.calm_setStore binding.connection ((w.store binding.connection).remove key)
          fun _ => rfl).trans (calm_releaseSlot _ _)

theorem calm_wrap (w : World) (k : CacheId) (tracked : Tracked) :
    Calm touched w (w.wrap k tracked).1 := by
  rcases w.wrap_cases k tracked with h | ⟨due, h⟩
  · rw [h]
    exact .refl w
  · have hspent : Calm touched w { w with wrapFaults := due } := calm_of_same rfl rfl rfl
    rw [h]
    exact hspent.trans (calm_dropTracked _ tracked)

theorem calm_wrapPrepared (w : World) (k : CacheId) (handle : Statement) (call : Call) :
    Calm touched w (w.wrapPrepared k handle call).1 :=
  w.calm_wrap k _

/-! ## Hooks -/

theorem calm_provideStore (w : World) (c : ConnectionId) :
    Calm touched w (w.provideStore c) := by
  unfold provideStore
  split
  · exact .refl w
  · next hnone =>
      refine w.calm_setStore c _ fun _ => ?_
      rw [store, hnone]
      rfl

theorem calm_startCounting (w : World) (p : PoolId) : Calm touched w (w.startCounting p) := by
  unfold startCounting
  split
  · exact .refl w
  · exact calm_of_same rfl rfl rfl

/-- A store is emptied for good. -/
theorem calm_empty (w : World) (c : ConnectionId) (counter : Option CounterId) :
    Calm touched w ((w.store c).parked.foldl (discharge counter)
      (w.setStore c (w.store c).drained)) := by
  have hrest : ∀ (l : List Tracked) (v : World),
      Calm touched v (l.foldl (discharge counter) v) := by
    intro l
    induction l with
    | nil => exact fun v => .refl v
    | cons tracked rest ih =>
        exact fun v => ((v.calm_releaseSlot _).trans (calm_dropTracked _ tracked)).trans (ih _)
  have hset : Calm touched w (w.setStore c (w.store c).drained) :=
    w.calm_setStore c _ fun _ => rfl
  exact hset.trans (hrest _ _)

theorem calm_drain (w : World) (k : CacheId) (p : PoolId) (c : ConnectionId) :
    Calm touched w (w.drain k p c) := by
  unfold drain
  split
  · exact .refl w
  · next store hs =>
      have hstore : w.store c = store := by rw [World.store, hs]; rfl
      rw [← hstore]
      exact w.calm_empty c _

theorem calm_forget (w : World) (c : ConnectionId) : Calm touched w (w.forget c) := by
  rcases w.forget_cases c with hf | ⟨-, -, hf⟩ <;> rw [hf]
  · exact .refl w
  · exact w.calm_empty c none

/-- **Whoever holds a store goes on to hold it** when another one is forgotten. -/
theorem isHeld_forget (w : World) (c d : ConnectionId) : (w.forget c).isHeld d = w.isHeld d := by
  have hcalm : Calm none w (w.forget c) := w.calm_forget c
  exact (w.deeds_forget c).isHeld hcalm.caches d

/-- A connection is held when a cache has just been attached to it. -/
theorem isHeld_rebind_self {k : CacheId} {binding : Binding} (hk : w.caches.Known k) :
    (w.rebind k (some binding)).isHeld binding.connection = true := by
  have hbound : (w.updateCache k fun cache => { cache with binding := some binding }).isHeld
      binding.connection = true := by
    by_contra hh
    refine ((isHeld_eq_false_iff _ _).mp (Bool.eq_false_iff.mpr hh)).2.2 k binding ?_ rfl
    rw [cache_updateCache, if_pos ⟨rfl, hk⟩]
  rcases w.rebind_cases k (some binding) with h | ⟨earlier, -, h⟩ <;> rw [h]
  · exact hbound
  · rw [isHeld_forget]
    exact hbound

theorem isHeld_attach {k : CacheId} (hk : w.caches.Known k) (p : PoolId) (c : ConnectionId) :
    (w.attach k p c).isHeld c = true := by
  have hcalm : Calm none w (w.provideStore c) := w.calm_provideStore c
  exact isHeld_rebind_self (hcalm.caches ▸ hk)

/-- So is one that was not torn down. -/
theorem isHeld_rebind_of_not_isTornDown (k : CacheId) (binding : Option Binding)
    (hc : (w.connection c).isTornDown = false) : (w.rebind k binding).isHeld c = true := by
  apply isHeld_of_not_isTornDown
  rw [(w.deeds_rebind k binding).unseen.read Connection.isTornDown (fun _ => rfl), hc]

/-- **A hook at which no cache is attached or detached** is calm. -/
theorem calm_tell (w : World) (p : PoolId) {hook : Hook}
    (hh : ∀ interceptor w, Calm touched w (react p interceptor hook w)) (receiver : Nat → Receiver)
    (interceptors : List Interceptor) : Calm touched w (tell p hook receiver interceptors w) := by
  have hfold : ∀ (l : List (Interceptor × Nat)) (v : World), Calm touched v
      (l.foldl (fun w entry => deliver p hook (receiver entry.2) entry.1 w) v) := by
    intro l
    induction l with
    | nil => exact fun v => .refl v
    | cons entry rest ih =>
        intro v
        have hnote : Calm touched v (v.note (receiver entry.2) entry.1
          (.hook hook (v.sight p hook.connection?))) := calm_of_same rfl rfl rfl
        exact (hnote.trans (hh entry.1 _)).trans (ih _)
  exact hfold _ w

/-! ## Calls -/

/-- Only the store to which the cache is attached gets a new tally when a call is looked up. -/
theorem calm_fetch (w : World) (k : CacheId) (call : Call)
    (hb : ∀ binding, (w.cache k).binding = some binding → binding.connection = c) :
    Calm (some c) w (w.fetch k call).1 := by
  obtain (h | ⟨error, h⟩) | ⟨key, binding, -, hbound, -, h⟩ |
    ⟨key, binding, tracked, -, hbound, -, h⟩ := w.fetch_cases k call
  · rw [h]
    exact .refl w
  · rw [h]
    exact .refl w
  · rw [h]
    exact w.calm_setStore _ _ fun hne => absurd (congrArg some (hb binding hbound).symm) hne
  · rw [h]
    exact (w.calm_setStore _ _ fun hne => absurd (congrArg some (hb binding hbound).symm) hne).trans
      (calm_releaseSlot _ _)

/-- A call that comes to the end of a chain is answered with a prepared statement: it prepares, the
connection and its line are open, and it has a text. -/
def preparesFor (w : World) (c : ConnectionId) (call : Call) : Bool :=
  !(w.connection c).closed && call.method.prepares
    && (!(w.driver.connection (w.connection c).physical).closed && call.sql?.isSome)

/-- **What the driver is asked for it prepares on the line of the connection.** -/
theorem prepares_ask (w : World) (c : ConnectionId) (call : Call) :
    w.driver.Prepares (fun line =>
      if w.preparesFor c call && (w.connection c).physical == line then 1 else 0)
      (w.ask c call).1.driver := by
  obtain ⟨method, args⟩ := call
  unfold preparesFor ask
  cases (w.connection c).closed with
  | true => exact .refl w.driver
  | false =>
      cases method with
      | prepareStatement =>
          exact w.driver.prepares_prepareBy (w.connection c).physical ⟨.prepareStatement, args⟩
            (fun _ _ => rfl) fun _ _ => rfl
      | prepareCall =>
          exact w.driver.prepares_prepareBy (w.connection c).physical ⟨.prepareCall, args⟩
            (fun _ _ => rfl) fun _ _ => rfl
      | createStatement => exact w.driver.prepares_createStatement (w.connection c).physical
      | isValid => exact .refl w.driver

theorem calm_ask (w : World) (c : ConnectionId) {call : Call}
    (ht : call.method.prepares = true → touched = some c) : Calm touched w (w.ask c call).1 := by
  have hprepares := w.prepares_ask c call
  have hrest : (w.ask c call).1 = { w with driver := (w.ask c call).1.driver } := by
    obtain ⟨h, -⟩ | ⟨_, _, _, -, -, -, -, h⟩ := w.ask_cases c call <;> rw [h]
  rw [hrest]
  refine ⟨⟨fun _ => rfl, fun _ _ => rfl, hprepares.recorded, fun hr line hline => ?_⟩, rfl⟩
  refine (hprepares.count hr line).trans ?_
  cases hp : call.method.prepares with
  | true =>
      have hne : ((w.connection c).physical == line) = false :=
        beq_eq_false_iff_ne.mpr (hline c (ht hp))
      rw [hne, Bool.and_false]
      rfl
  | false =>
      rw [preparesFor, hp, Bool.and_false]
      rfl

/-- A statement that a link supplies is made on no line. -/
theorem calm_looseStatement (w : World) (sql : String) :
    Calm touched w { w with driver := (w.driver.looseStatement sql).1 } := by
  have hissue := w.driver.prepares_issue { sql } (fun id => .prepared id sql) fun _ => rfl
  refine calm_driver ⟨hissue.recorded, fun hr line => (hissue.count hr line).trans ?_⟩
  rw [Option.any_none, Bool.and_false]
  rfl

section Links

variable {next : Call → World → World × Answer}

/-- The caches of some links are attached to nothing but a connection. -/
def BoundTo (w : World) (c : ConnectionId) (chain : List Interceptor) : Prop :=
  ∀ interceptor ∈ chain, ∀ k, interceptor.cache? = some k →
    ∀ binding, (w.cache k).binding = some binding → binding.connection = c

theorem BoundTo.congr {chain : List Interceptor} (h : w.BoundTo c chain)
    (hcaches : w'.caches = w.caches) : w'.BoundTo c chain := by
  intro interceptor hi k hk binding hb
  rw [cache, hcaches] at hb
  exact h interceptor hi k hk binding hb

theorem calm_fill (k : CacheId) (call : Call) (hnext : Calm touched w (next call w).1) :
    Calm touched w (fill k next call w).1 := by
  unfold fill
  split
  · next v statement hv =>
      rw [hv] at hnext
      have hwrap : Calm touched v
          (v.wrap k (track k ((v.cache k).policy.keyFor call) statement)).1 := v.calm_wrap k _
      rw [wrapPrepared]
      split
      · next hw =>
          rw [hw] at hwrap
          exact hnext.trans hwrap
      · next hw =>
          rw [hw] at hwrap
          exact hnext.trans hwrap
  · exact hnext

theorem calm_serve (k : CacheId) {call : Call}
    (ht : call.method.prepares = true → touched = some c)
    (hb : ∀ binding, (w.cache k).binding = some binding → binding.connection = c)
    (hnext : ∀ v, v.caches = w.caches → Calm touched v (next call v).1) :
    Calm touched w (serve k next call w).1 := by
  unfold serve
  split
  · next hp =>
      have hfetch := w.calm_fetch k call hb
      rw [← ht hp] at hfetch
      split
      · next hv =>
          rw [hv] at hfetch
          exact hfetch
      · next hv =>
          rw [hv] at hfetch
          exact hfetch.trans (calm_fill k call (hnext _ hfetch.caches))
      · next v tracked hv =>
          rw [hv] at hfetch
          have hwrap : Calm touched v (v.wrap k tracked).1 := v.calm_wrap k tracked
          split
          · next hw =>
              rw [hw] at hwrap
              exact hfetch.trans hwrap
          · next hw =>
              rw [hw] at hwrap
              have hboth := hfetch.trans hwrap
              exact hboth.trans (calm_fill k call (hnext _ hboth.caches))
  · exact hnext w rfl

theorem calm_handle {interceptor : Interceptor} {call : Call}
    (ht : call.method.prepares = true → touched = some c) (hb : w.BoundTo c [interceptor])
    (hnext : ∀ v, v.caches = w.caches → ∀ call : Call,
      (call.method.prepares = true → touched = some c) → Calm touched v (next call v).1) :
    Calm touched w (handle interceptor next call w).1 := by
  cases interceptor.conduct call with
  | serves k hk h =>
      rw [h]
      exact calm_serve k ht (hb _ List.mem_cons_self k hk) fun v hv => hnext v hv call ht
  | handsOn passed hk hon hm h =>
      rw [h]
      exact hnext w rfl passed (hm ▸ ht)
  | supplies hk hon hs h =>
      rw [h]
      exact w.calm_looseStatement "answered"
  | answers answer hk hon hne h =>
      rw [h]
      exact .refl w

end Links

/-- **A call tallies and prepares nothing but for its connection**, if the caches of the chain are
attached to no other; and nothing at all if it does not prepare. -/
theorem calm_send (chain : List Interceptor) : ∀ (position : Nat) (call : Call) (w : World),
    (call.method.prepares = true → touched = some c) → w.BoundTo c chain →
    Calm touched w (send c chain position call w).1 := by
  induction chain with
  | nil => exact fun _ call w ht _ => w.calm_ask c ht
  | cons interceptor rest ih =>
      intro position call w ht hb
      have hentered : Calm touched w (w.note (.link c position) interceptor
        (.enter call rest.length (w.connection c).metadata.number)) := calm_of_same rfl rfl rfl
      have hone : w.BoundTo c [interceptor] := fun i hi =>
        hb i (List.mem_singleton.mp hi ▸ List.mem_cons_self)
      have hmore : w.BoundTo c rest := fun i hi => hb i (List.mem_cons_of_mem _ hi)
      have hrest : ∀ v : World, v.caches = (w.note (.link c position) interceptor
          (.enter call rest.length (w.connection c).metadata.number)).caches → ∀ call : Call,
          (call.method.prepares = true → touched = some c) →
          Calm touched v (send c rest (position + 1) call v).1 := fun v hv call ht =>
        ih _ call v ht (hmore.congr hv)
      have hhandled := calm_handle ht (hone.congr hentered.caches) hrest
      exact (hentered.trans hhandled).trans (calm_of_same rfl rfl rfl)

theorem calm_perform (w : World) {call : Call}
    (ht : call.method.prepares = true → touched = some c)
    (hb : w.BoundTo c (w.connection c).chain) : Calm touched w (w.perform c call).1 :=
  calm_send _ 0 call w ht hb

end World

end ConnectionPool
