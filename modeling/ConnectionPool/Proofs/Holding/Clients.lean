import ConnectionPool.Proofs.Holding.Travels
import ConnectionPool.Proofs.Scene.Stock
import ConnectionPool.Proofs.Session.Effects
import ConnectionPool.Proofs.Session.Places

/-!
# No statement is ever in two places

Every command of a client passes on what the client holds (`passesOn_run`), so that after any
commands no statement of the driver is in two places (`distinct`). The client may have caches of
its own and do with them whatever it likes: nothing is assumed of how they are attached or of what
they are told.
-/

set_option autoImplicit false

namespace ConnectionPool

/-- What is held is not parked. -/
theorem World.Distinct.not_parks {w : World} {held : Multiset Statement} {handle : Statement}
    (h : w.Distinct held) (hm : handle ∈ held) {id : StatementId} (hid : handle.target? = some id)
    (c : ConnectionId) (key : CacheKey) : ¬ w.Parks c key id := by
  rintro ⟨tracked, hget, htarget⟩
  have hnodup := h.nodup
  rw [World.reached, Multiset.filterMap_add, Multiset.nodup_add] at hnodup
  have hheld : id ∈ held.filterMap Statement.target? :=
    (Multiset.mem_filterMap _ _).mpr ⟨handle, hm, hid⟩
  have hparked : id ∈ w.parkedHandles.filterMap Statement.target? :=
    (Multiset.mem_filterMap _ _).mpr ⟨tracked.facade, World.mem_parkedHandles hget, htarget⟩
  exact Multiset.disjoint_left.mp hnodup.2.2 hheld hparked

/-- What is parked is known to the driver. -/
theorem World.Distinct.known_of_parks {w : World} {held : Multiset Statement}
    (h : w.Distinct held) {c : ConnectionId} {key : CacheKey} {id : StatementId}
    (hp : w.Parks c key id) : w.driver.statements.Known id := by
  obtain ⟨tracked, hf, ht⟩ := hp
  exact h.known id ((Multiset.mem_filterMap _ _).mpr
    ⟨tracked.facade, Multiset.mem_add.mpr (Or.inr (World.mem_parkedHandles hf)), ht⟩)

/-- A statement is parked in one place only. -/
theorem World.Distinct.parks_unique {w : World} {held : Multiset Statement} (h : w.Distinct held)
    {c d : ConnectionId} {key key' : CacheKey} {id : StatementId} (hp : w.Parks c key id)
    (hp' : w.Parks d key' id) : c = d ∧ key = key' := by
  have hnodup := h.nodup
  rw [World.reached, Multiset.filterMap_add, Multiset.nodup_add, World.parkedHandles_eq_map,
    Multiset.filterMap_map] at hnodup
  have hle := Multiset.nodup_iff_count_le_one.mp hnodup.2.1 id
  obtain ⟨tracked, hf, ht⟩ := hp
  obtain ⟨tracked', hf', ht'⟩ := hp'
  have he := eq_of_count_le_one hle (World.mem_places.mpr hf) ht (World.mem_places.mpr hf') ht'
  exact ⟨congrArg Prod.fst he, congrArg (fun place => place.2.1) he⟩

namespace Session

/-- **All handles that a client holds**, those of tracked statements as facades. -/
def holdings (s : Session) : Multiset Statement := s.pockets + s.chest

/-- No statement is in two places, in the hands of the client or parked. -/
def Distinct (s : Session) : Prop := s.world.Distinct s.holdings

/-- What leads from one session to the other passes on what the client holds. -/
def PassesOn (s s' : Session) : Prop := World.Passes s.world s.holdings s'.world s'.holdings

variable {s s' : Session} {name : Name} {held : Held} {tracked : Tracked} {w : World}

/-! ## What a client holds -/

theorem chest_erase (h : s.tracked.get? name = some tracked) :
    s.chest = tracked.facade ::ₘ (s.takeTracked name).chest := by
  have hbag := congrArg (Multiset.map fun entry : (_ : Name) × Tracked => entry.2.facade)
    (Table.bag_erase s.tracked h)
  rw [Multiset.map_cons] at hbag
  exact hbag.symm

theorem holdings_takeStatement (h : s.statements.get? name = some held) :
    s.holdings = {held.statement} + (s.takeStatement name).holdings := by
  rw [holdings, pockets_erase h, Multiset.cons_add, ← Multiset.singleton_add]
  rfl

theorem holdings_takeTracked (h : s.tracked.get? name = some tracked) :
    s.holdings = {tracked.facade} + (s.takeTracked name).holdings := by
  rw [holdings, chest_erase h, Multiset.add_cons, ← Multiset.singleton_add]
  rfl

theorem mem_holdings_of_tracked (h : s.tracked.get? name = some tracked) :
    tracked.facade ∈ s.holdings := by
  rw [holdings_takeTracked h]
  exact Multiset.mem_add.mpr (Or.inl (Multiset.mem_singleton_self _))

theorem holdings_putStatement (held' : Held) (h : s.statements.get? name = some held) :
    (s.putStatement name held').holdings
      = {held'.statement} + (s.takeStatement name).holdings := by
  rw [holdings, pockets_putStatement held' h, Multiset.cons_add, ← Multiset.singleton_add]
  rfl

theorem holdings_putTracked (tracked' : Tracked) (h : s.tracked.get? name = some tracked) :
    ({ s with tracked := s.tracked.insert name tracked' } : Session).holdings
      = {tracked'.facade} + (s.takeTracked name).holdings := by
  have hbag := congrArg (Multiset.map fun entry : (_ : Name) × Tracked => entry.2.facade)
    (Table.bag_insert_of_taken s.tracked tracked' h)
  rw [Multiset.map_cons, Multiset.map_cons] at hbag
  have hput : tracked.facade ::ₘ ({ s with
      tracked := s.tracked.insert name tracked' } : Session).chest
        = tracked'.facade ::ₘ s.chest := hbag
  rw [chest_erase h, Multiset.cons_swap] at hput
  rw [holdings, (Multiset.cons_inj_right _).mp hput, Multiset.add_cons,
    ← Multiset.singleton_add]
  rfl

/-- A statement that the client comes to hold is kept, or let go of. -/
theorem passes_keepStatement (s : Session) (save : Option Name) (handle : Statement)
    (origin : Origin) :
    World.Passes s.world ({handle} + s.holdings) (s.keepStatement save handle origin).world
      (s.keepStatement save handle origin).holdings := by
  cases save with
  | none =>
      have hdropped := (s.world.passes_dropHandle handle).frame s.holdings
      rw [zero_add] at hdropped
      exact hdropped
  | some name =>
      have hbag := Multiset.map_le_map (f := fun entry : (_ : Name) × Held => entry.2.statement)
        (s.statements.bag_insert_le name ⟨handle, origin⟩)
      rw [Multiset.map_cons] at hbag
      refine World.passes_lose ?_
      rw [Multiset.singleton_add, holdings, holdings, ← Multiset.cons_add]
      exact add_le_add_left hbag s.chest

/-- A tracked statement that the client comes to hold is kept, or let go of. -/
theorem passes_keepTracked (s : Session) (save : Option Name) (tracked : Tracked) :
    World.Passes s.world ({tracked.facade} + s.holdings) (s.keepTracked save tracked).world
      (s.keepTracked save tracked).holdings := by
  cases save with
  | none =>
      have hdropped := (s.world.passes_dropTracked tracked).frame s.holdings
      rw [zero_add] at hdropped
      exact hdropped
  | some name =>
      have hbag := Multiset.map_le_map (f := fun entry : (_ : Name) × Tracked => entry.2.facade)
        (s.tracked.bag_insert_le name tracked)
      rw [Multiset.map_cons] at hbag
      refine World.passes_lose ?_
      rw [Multiset.singleton_add, holdings, holdings, ← Multiset.add_cons]
      exact add_le_add_right hbag s.pockets

/-! ## The rule of a command -/

/-- What is shown of the session that a command ends in. -/
abbrev PassesAfter (s : Session) : Outcome → Prop := fun outcome => s.PassesOn outcome.1

theorem passesAfter_same (reply : Reply) : PassesAfter s (s, reply) := .refl s.world s.holdings

/-- An operation that passes nothing on. -/
theorem passesOn_inWorld (h : World.Passes s.world 0 w 0) : s.PassesOn (s.inWorld w) :=
  h.beside s.holdings

/-- An operation gives the client a statement. -/
theorem passesOn_keepStatement {handle : Statement}
    (h : World.Passes s.world 0 w {handle}) (save : Option Name) (origin : Origin) :
    s.PassesOn ((s.inWorld w).keepStatement save handle origin) :=
  (h.besides s.holdings).trans ((s.inWorld w).passes_keepStatement save handle origin)

/-- An operation gives the client a tracked statement. -/
theorem passesOn_keepTracked (h : World.Passes s.world 0 w {tracked.facade})
    (save : Option Name) : s.PassesOn ((s.inWorld w).keepTracked save tracked) :=
  (h.besides s.holdings).trans ((s.inWorld w).passes_keepTracked save tracked)

/-- An operation takes a tracked statement from the client. -/
theorem passesOn_takeTracked (hn : s.tracked.get? name = some tracked)
    (h : World.Passes s.world {tracked.facade} w 0) :
    s.PassesOn ((s.inWorld w).takeTracked name) := by
  have hframed := h.frame (s.takeTracked name).holdings
  rw [← holdings_takeTracked hn, zero_add] at hframed
  exact hframed

/-- An operation exchanges a statement of the client for another one. -/
theorem passesOn_putStatement (held' : Held) (hn : s.statements.get? name = some held)
    (h : World.Passes s.world {held.statement} w {held'.statement}) :
    s.PassesOn ((s.inWorld w).putStatement name held') := by
  have hframed := h.frame (s.takeStatement name).holdings
  rw [← holdings_takeStatement hn, ← holdings_putStatement held' hn] at hframed
  exact hframed

/-! ## Commands about pools and connections -/

theorem passesOn_runPool (s : Session) (command : PoolCommand) :
    PassesAfter s (s.runPool command) := by
  cases command with
  | start save request =>
      refine withFresh_rule (P := PassesAfter s) passesAfter_same fun _ => ?_
      split
      · exact passesAfter_same _
      · next config _ =>
          have hstarted := s.world.passes_startPool config
          generalize s.world.startPool config = started at hstarted ⊢
          obtain ⟨w, error | p⟩ := started <;> exact passesOn_inWorld hstarted
  | checkOut pool save =>
      refine withFresh_rule (P := PassesAfter s) passesAfter_same fun _ =>
        withPool_rule passesAfter_same fun p _ => ?_
      have hchecked := s.world.passes_checkOut p
      generalize s.world.checkOut p = checked at hchecked ⊢
      obtain ⟨w, error | c⟩ := checked <;> exact passesOn_inWorld hchecked
  | shutDown pool =>
      exact withPool_rule (P := PassesAfter s) passesAfter_same fun p _ =>
        passesOn_inWorld (s.world.passes_shutDown p)
  | sweep pool =>
      exact withPool_rule (P := PassesAfter s) passesAfter_same fun p _ =>
        passesOn_inWorld (s.world.passes_sweep p)
  | inspect pool =>
      exact withPool_rule (P := PassesAfter s) passesAfter_same fun _ _ => passesAfter_same _

theorem CallEffect.passesOn {c : ConnectionId} {call : Call} {save : Option Name} {s' : Session}
    (h : CallEffect s c call save s') : s.PassesOn s' := by
  have hperform := s.world.passes_perform c call
  cases h with
  | @passed w answer h hne =>
      rw [h, World.handlesAnswered_of_ne hne] at hperform
      exact passesOn_inWorld hperform
  | kept h =>
      rw [h] at hperform
      exact passesOn_keepStatement hperform _ _

theorem passesOn_runCall (s : Session) (c : ConnectionId) (call : Call) (into : Into)
    (save : Option Name) : PassesAfter s (s.runCall c call into save) :=
  (s.callEffect c call into save).passesOn

theorem passesOn_runConnection (s : Session) (command : ConnectionCommand) :
    PassesAfter s (s.runConnection command) := by
  have hsame := passesAfter_same (s := s)
  cases command with
  | checkIn guard =>
      exact withGuard_rule (P := PassesAfter s) hsame fun c _ =>
        passesOn_inWorld (s.world.passes_checkIn c)
  | retire guard =>
      exact withGuard_rule (P := PassesAfter s) hsame fun c _ =>
        passesOn_inWorld (s.world.passes_retire c)
  | share guard save =>
      exact withFresh_rule (P := PassesAfter s) hsame fun _ =>
        withGuard_rule hsame fun c _ => passesOn_inWorld (s.world.passes_share c)
  | unshare shared =>
      exact withShared_rule (P := PassesAfter s) hsame fun c _ =>
        passesOn_inWorld (s.world.passes_unshare c)
  | prepare guard call save =>
      exact withFreshStatement_rule (P := PassesAfter s) hsame fun _ =>
        withGuard_rule hsame fun c _ => s.passesOn_runCall c call _ _
  | isValid guard =>
      exact withGuard_rule (P := PassesAfter s) hsame fun c _ => s.passesOn_runCall c _ _ _
  | invoke via request into save =>
      exact withFreshStatement_rule (P := PassesAfter s) hsame fun _ =>
        withCall_rule hsame fun call _ => withTarget_rule hsame fun c _ =>
          s.passesOn_runCall c call into save
  | inspectGuard guard => exact withGuard_rule (P := PassesAfter s) hsame fun _ _ => hsame _
  | inspectConnection via =>
      exact withConnection_rule (P := PassesAfter s) hsame fun _ _ => hsame _
  | inspectStore via =>
      refine withConnection_rule (P := PassesAfter s) hsame fun _ _ => ?_
      split <;> exact hsame _

/-! ## Commands about statements -/

theorem StatementEffect.passesOn {command : StatementCommand} {s' : Session}
    (h : StatementEffect s command s') : s.PassesOn s' := by
  cases h with
  | same => exact passesAfter_same .done
  | bound hn =>
      exact passesOn_inWorld (s.world.passes_onTarget _ (.bind _ _) fun _ _ => rfl)
  | cleared hn =>
      exact passesOn_inWorld (s.world.passes_onTarget _ .clearParameters fun _ _ => rfl)
  | executed hn => exact passesOn_inWorld (s.world.passes_onTarget _ .execute fun _ _ => rfl)
  | emptied hn => exact passesOn_inWorld (s.world.passes_closeResultSet _)
  | @closed name held hn =>
      exact passesOn_putStatement _ hn (World.passes_close held.statement s.world)
  | @dropped name held hn =>
      have hframed := (s.world.passes_dropHandle held.statement).frame
        (s.takeStatement name).holdings
      rw [← holdings_takeStatement hn, zero_add] at hframed
      exact hframed
  | @forceClosed name held hn ho =>
      exact passesOn_putStatement { held with statement := .spent } hn
        (s.world.passes_forceCloseFacade held.statement)

theorem passesOn_keepDriverStatement {made : World × Except DriverError StatementId}
    (h : World.Passes s.world 0 made.1
      (match made.2 with
        | .ok id => {.physical id}
        | .error _ => 0)) (save : Option Name) :
    PassesAfter s (s.keepDriverStatement save made) := by
  obtain ⟨w, error | id⟩ := made
  · exact passesOn_inWorld h
  · exact passesOn_keepStatement h save _

theorem passes_prepareBy (w : World) (line : PhysicalConnectionId) (call : Call)
    (event : StatementId → String → DriverEvent) :
    World.Passes w 0 { w with driver := (w.driver.prepareBy line call event).1 }
      (match (w.driver.prepareBy line call event).2 with
        | .ok id => {.physical id}
        | .error _ => 0) := by
  unfold Driver.prepareBy
  split
  · exact .refl w 0
  · split
    · exact .refl w 0
    · next sql _ =>
        exact w.passes_issue { sql, origin := some (line, call) } fun id => event id sql

theorem passes_createStatement (w : World) (line : PhysicalConnectionId) :
    World.Passes w 0 { w with driver := (w.driver.createStatement line).1 }
      (match (w.driver.createStatement line).2 with
        | .ok id => {.physical id}
        | .error _ => 0) := by
  unfold Driver.createStatement
  split
  · exact .refl w 0
  · exact w.passes_issue { sql := "", origin := some (line, ⟨.createStatement, []⟩) } .created

theorem passesOn_runDriver (s : Session) (command : DriverCommand) :
    PassesAfter s (s.runDriver command) := by
  have hsame := passesAfter_same (s := s)
  cases command with
  | looseStatement sql save =>
      refine withFreshStatement_rule (P := PassesAfter s) hsame fun _ => ?_
      exact passesOn_keepStatement
        (s.world.passes_issue { sql } fun id => .prepared id sql) save _
  | openConnection save =>
      exact withFresh_rule (P := PassesAfter s) hsame fun _ =>
        passesOn_inWorld (s.world.passes_driver fun _ => id)
  | prepareStatement name args save =>
      exact withFreshStatement_rule (P := PassesAfter s) hsame fun _ =>
        withRaw_rule hsame fun line _ =>
          passesOn_keepDriverStatement (passes_prepareBy _ line _ _) save
  | prepareCall name args save =>
      exact withFreshStatement_rule (P := PassesAfter s) hsame fun _ =>
        withRaw_rule hsame fun line _ =>
          passesOn_keepDriverStatement (passes_prepareBy _ line _ _) save
  | createStatement name save =>
      exact withFreshStatement_rule (P := PassesAfter s) hsame fun _ =>
        withRaw_rule hsame fun line _ =>
          passesOn_keepDriverStatement (passes_createStatement _ line) save
  | isValid name => exact withRaw_rule (P := PassesAfter s) hsame fun _ _ => hsame _
  | close name =>
      refine withRaw_rule (P := PassesAfter s) hsame fun line _ => passesOn_inWorld ?_
      exact s.world.passes_driver fun _ hid => by
        rw [← Driver.statements_closeConnection] at hid
        exact hid
  | inspectLog statement => exact hsame _

/-! ## Commands about caches -/

theorem Sourced.passes {source : StatementSource} {t : Session} {handle : Statement}
    (h : Sourced s source t handle) :
    World.Passes s.world s.holdings t.world ({handle} + t.holdings) := by
  cases h with
  | held hn =>
      rw [← holdings_takeStatement hn]
      exact .refl s.world _
  | fresh sql =>
      have hissue := s.world.passes_issue { sql } fun id => .prepared id sql
      exact hissue.besides s.holdings

theorem passesOn_dropCache (name : Name) (k : CacheId) : s.PassesOn (s.dropCache name k) := by
  unfold dropCache
  simp only
  split
  · exact passesAfter_same .done
  · exact passesOn_inWorld (s.world.passes_rebind k none)

theorem CacheEffect.passesOn {command : CacheCommand} {s' : Session}
    (h : CacheEffect s command s') : s.PassesOn s' := by
  cases h with
  | same | cloned hk => exact passesAfter_same .done
  | created hread => exact passesOn_inWorld (World.passes_of_parkedHandles rfl fun _ => id)
  | dropped hk => exact passesOn_dropCache _ _
  | started hp => exact passesOn_inWorld (s.world.passes_startCounting _)
  | stopped hp => exact passesOn_inWorld (s.world.passes_updatePool _ _)
  | attached hp hk hc => exact passesOn_inWorld (s.world.passes_attach _ _ _)
  | drained hp hk hc => exact passesOn_inWorld (s.world.passes_drain _ _ _)
  | detached hk => exact passesOn_inWorld (s.world.passes_rebind _ none)
  | failed k call hfree hk hcall h | missed k call hfree hk hcall h =>
      have hfetch := s.world.passes_fetch k call
      rw [h] at hfetch
      exact passesOn_inWorld hfetch
  | fetched k call hfree hk hcall h =>
      have hfetch := s.world.passes_fetch k call
      rw [h] at hfetch
      exact passesOn_keepTracked hfetch _
  | tracked k call t handle hk hcall hsource =>
      have htrack : World.Passes t.world {handle} t.world
          {(World.track k ((t.world.cache k).policy.keyFor call) handle).facade} :=
        World.passes_exchange rfl
      exact (hsource.passes.trans (htrack.frame t.holdings)).trans (t.passes_keepTracked _ _)
  | unwrapped k call t handle hk hcall hsource h =>
      have hwrap := (t.world.passes_wrapPrepared k handle call).frame t.holdings
      rw [h] at hwrap
      have hdone := hsource.passes.trans hwrap
      rw [World.handlesWrapped, zero_add] at hdone
      exact hdone
  | wrapped k call t handle hk hcall hsource h =>
      have hwrap := (t.world.passes_wrapPrepared k handle call).frame t.holdings
      rw [h] at hwrap
      exact (hsource.passes.trans hwrap).trans ((t.inWorld _).passes_keepStatement _ _ _)
  | admitted keep k tracked hk hn h =>
      have hoffer := s.world.passes_offer k tracked
      rw [h] at hoffer
      exact passesOn_takeTracked hn hoffer
  | @kept _ name _ _ k tracked hk hn h =>
      have hoffer := (s.world.passes_offer k tracked).frame (s.takeTracked name).holdings
      rw [h, Option.elim_some, ← holdings_takeTracked hn] at hoffer
      exact hoffer
  | letGo k tracked hk hn h =>
      have hoffer := s.world.passes_offer k tracked
      rw [h] at hoffer
      exact passesOn_takeTracked hn (hoffer.trans (World.passes_dropTracked _ tracked))
  | absent k key hfree hk hcall hkey h =>
      have hwithdraw := s.world.passes_withdraw k key
      rw [h] at hwithdraw
      exact passesOn_inWorld hwithdraw
  | withdrawn k key hfree hk hcall hkey h =>
      have hwithdraw := s.world.passes_withdraw k key
      rw [h] at hwithdraw
      exact passesOn_keepTracked hwithdraw _

/-! ## Commands about tracked statements -/

theorem passesOn_closeDelegate (hn : s.tracked.get? name = some tracked) :
    s.PassesOn { s.inWorld (World.close tracked.delegate s.world).1 with
      tracked := s.tracked.insert name
        { tracked with delegate := tracked.delegate.afterClose } } := by
  obtain ⟨closed, hclosed⟩ : ∃ closed : Tracked,
    { tracked with delegate := tracked.delegate.afterClose } = closed := ⟨_, rfl⟩
  have hpeel : World.Passes s.world {tracked.facade} s.world {tracked.delegate} :=
    World.passes_exchange rfl
  have hback : World.Passes (World.close tracked.delegate s.world).1
      {tracked.delegate.afterClose} (World.close tracked.delegate s.world).1 {closed.facade} := by
    rw [← hclosed]
    exact World.passes_exchange rfl
  have hframed := ((hpeel.trans (World.passes_close tracked.delegate s.world)).trans hback).frame
    (s.takeTracked name).holdings
  rw [← holdings_takeTracked hn, ← holdings_putTracked closed hn] at hframed
  rw [hclosed]
  exact hframed

theorem TrackedEffect.passesOn {command : TrackedCommand} {s' : Session}
    (h : TrackedEffect s command s') : s.PassesOn s' := by
  cases h with
  | same => exact passesAfter_same .done
  | @closed name tracked hn =>
      exact passesOn_takeTracked hn (s.world.passes_closed tracked.facade)
  | forceClosed hn | dropped hn =>
      exact passesOn_takeTracked hn (s.world.passes_dropTracked _)
  | bound hn =>
      exact passesOn_inWorld (s.world.passes_onTarget _ (.bind _ _) fun _ _ => rfl)
  | executed hn => exact passesOn_inWorld (s.world.passes_onTarget _ .execute fun _ _ => rfl)
  | delegateClosed hn => exact passesOn_closeDelegate hn
  | @faced name save tracked hn =>
      have hkept := (s.takeTracked name).passes_keepStatement save tracked.facade .facade
      rw [← holdings_takeTracked hn] at hkept
      exact hkept

/-- **A command passes on what the client holds.** -/
theorem passesOn_run (s : Session) (command : Command) : s.PassesOn (s.run command).1 := by
  cases command with
  | advance span => exact passesOn_inWorld (World.passes_of_parkedHandles rfl fun _ => id)
  | switch fault => exact passesOn_inWorld (World.passes_of_parkedHandles rfl fun _ => id)
  | pool command => exact s.passesOn_runPool command
  | connection command => exact s.passesOn_runConnection command
  | statement command => exact (s.statementEffect command).passesOn
  | driver command => exact s.passesOn_runDriver command
  | cache command => exact (s.cacheEffect command).passesOn
  | tracked command => exact (s.trackedEffect command).passesOn

theorem PassesOn.distinct (h : s.PassesOn s') (hd : s.Distinct) : s'.Distinct := by
  have hrest := h 0
  rw [add_zero, add_zero] at hrest
  exact hrest hd

theorem distinct_empty : empty.Distinct where
  nodup := Multiset.nodup_zero
  known id hid := absurd hid (Multiset.notMem_zero id)

/-- **No statement is ever in two places**, whatever a client does. -/
theorem distinct_runAll (commands : List Command) : (empty.runAll commands).Distinct := by
  have hall : ∀ s : Session, s.Distinct → (s.runAll commands).Distinct := by
    induction commands with
    | nil => exact fun _ h => h
    | cons command rest ih => exact fun s h => ih _ ((s.passesOn_run command).distinct h)
  exact hall empty distinct_empty

end Session

end ConnectionPool
