import ConnectionPool.Proofs.Region.Pools
import ConnectionPool.Proofs.Session.Effects

/-!
# What commands do within a region

A command mentions what it names (`Command.mentions`). If what it mentions lies in a roomy region,
then what it does is confined to the region, and so are the statements that the client comes to
hold (`confined_run`). A client can ask a cache of its own for what is kept in a store; such
commands are the only ones that a region with something to keep does not admit.
-/

set_option autoImplicit false

namespace ConnectionPool

/-! ## What commands mention -/

/-- **Something that a command names.** -/
inductive Mention
  | pool (name : Name)
  | connection (via : Via)
  | statement (name : Name)
  | cache (name : Name)
  | tracked (name : Name)
  deriving DecidableEq

def PoolCommand.mentions : PoolCommand → List Mention
  | .start _ _ => []
  | .checkOut pool _ => [.pool pool]
  | .shutDown pool => [.pool pool]
  | .sweep pool => [.pool pool]
  | .inspect pool => [.pool pool]

def ConnectionCommand.mentions : ConnectionCommand → List Mention
  | .checkIn guard => [.connection (.guard guard)]
  | .retire guard => [.connection (.guard guard)]
  | .share guard _ => [.connection (.guard guard)]
  | .unshare shared => [.connection (.shared shared)]
  | .prepare guard _ _ => [.connection (.guard guard)]
  | .isValid guard => [.connection (.guard guard)]
  | .invoke via _ _ _ => [.connection via]
  | .inspectGuard guard => [.connection (.guard guard)]
  | .inspectConnection via => [.connection via]
  | .inspectStore via => [.connection via]

def StatementCommand.mentions : StatementCommand → List Mention
  | .bind name _ _ => [.statement name]
  | .clearParameters name => [.statement name]
  | .execute name => [.statement name]
  | .resultSet name => [.statement name]
  | .closeResultSet name => [.statement name]
  | .close name => [.statement name]
  | .drop name => [.statement name]
  | .forceClose name => [.statement name]
  | .inspect name => [.statement name]

def StatementSource.mentions : StatementSource → List Mention
  | .held name => [.statement name]
  | .fresh _ => []

def CacheCommand.mentions : CacheCommand → List Mention
  | .create _ _ _ => []
  | .clone cache _ => [.cache cache]
  | .drop cache => [.cache cache]
  | .poolStarted pool cache => [.pool pool, .cache cache]
  | .poolClosed pool cache => [.pool pool, .cache cache]
  | .attach pool cache via => [.pool pool, .cache cache, .connection via]
  | .drain pool cache via => [.pool pool, .cache cache, .connection via]
  | .detach cache => [.cache cache]
  | .keyFor cache _ => [.cache cache]
  | .fetch cache _ _ => [.cache cache]
  | .track cache _ source _ => .cache cache :: source.mentions
  | .wrapPrepared cache _ source _ => .cache cache :: source.mentions
  | .offer cache tracked _ => [.cache cache, .tracked tracked]
  | .withdraw cache _ _ => [.cache cache]
  | .inspect cache => [.cache cache]

def TrackedCommand.mentions : TrackedCommand → List Mention
  | .close name => [.tracked name]
  | .forceClose name => [.tracked name]
  | .drop name => [.tracked name]
  | .inspect name => [.tracked name]
  | .bind name _ _ => [.tracked name]
  | .execute name => [.tracked name]
  | .closeDelegate name => [.tracked name]
  | .facade name _ => [.tracked name]

/-- **What a command mentions** of pools, connections, statements and caches. -/
def Command.mentions : Command → List Mention
  | .pool command => command.mentions
  | .connection command => command.mentions
  | .statement command => command.mentions
  | .cache command => command.mentions
  | .tracked command => command.mentions
  | _ => []

namespace Region

open Session

variable {R : Region} {s t u : Session} {name : Name} {held : Held} {tracked : Tracked}
  {k : CacheId} {w : World} {P : Prop}

/-- **What is mentioned lies in the region**, if there is such a thing. -/
def Finds (R : Region) (s : Session) : Mention → Prop
  | .pool name => ∀ p, s.pools.get? name = some p →
      R.pools p ∧ R.Lodges s.world (s.world.pool p).idle ∧ (s.world.pool p).idle.Nodup
  | .connection via => ∀ c, s.connection? via = some c → R.Lodges s.world [c]
  | .statement name => ∀ held, s.statements.get? name = some held → R.Holds held.statement
  | .cache name => ∀ k, s.caches.get? name = some k →
      R.caches k ∧ ∀ c, k ∉ (s.world.connection c).caches
  | .tracked name => ∀ tracked, s.tracked.get? name = some tracked → R.Holds tracked.facade

/-- **A command leaves what is kept alone**: if it has a cache look something up, or withdraw it, or
drain a store, then not that. -/
def Leaves (R : Region) (s : Session) : Command → Prop
  | .cache (.drain pool cache via) => ∀ p k c, s.pools.get? pool = some p →
      s.caches.get? cache = some k → s.connection? via = some c → ∀ key, ¬ R.kept c key
  | .cache (.fetch cache request save) => (∀ name, save = some name → s.tracked.get? name = none) →
      ∀ k call, s.caches.get? cache = some k → request.read = .ok call → R.Spurns s.world k call
  | .cache (.withdraw cache request save) =>
      (∀ name, save = some name → s.tracked.get? name = none) →
      ∀ k call key, s.caches.get? cache = some k → request.read = .ok call →
      CacheKey.ofCall? call = some key →
      ∀ binding, (s.world.cache k).binding = some binding → ¬ R.kept binding.connection key
  | _ => True

/-- **The region admits a command.** -/
structure Admits (R : Region) (s : Session) (command : Command) : Prop where
  roomy : R.Roomy s.world
  finds : ∀ mention ∈ command.mentions, R.Finds s mention
  leaves : R.Leaves s command

/-! ## What a client comes to hold -/

/-- **The statements that the client comes to hold lie in the region.** -/
structure Gains (R : Region) (s t : Session) : Prop where
  statement : ∀ name held, t.statements.get? name = some held →
    s.statements.get? name = some held ∨ R.Holds held.statement
  tracked : ∀ name tracked, t.tracked.get? name = some tracked →
    s.tracked.get? name = some tracked ∨ R.Holds tracked.facade

theorem Gains.of_tables (hs : t.statements = s.statements) (ht : t.tracked = s.tracked) :
    R.Gains s t where
  statement name held h := Or.inl (by rw [← hs]; exact h)
  tracked name tracked h := Or.inl (by rw [← ht]; exact h)

theorem Gains.refl (R : Region) (s : Session) : R.Gains s s := .of_tables rfl rfl

theorem Gains.trans (h : R.Gains s t) (h' : R.Gains t u) : R.Gains s u where
  statement name held hn := (h'.statement name held hn).elim (h.statement name held) Or.inr
  tracked name tracked hn := (h'.tracked name tracked hn).elim (h.tracked name tracked) Or.inr

/-- What the world is makes no difference to what the client holds. -/
theorem Gains.of_inWorld (h : R.Gains (s.inWorld w) t) : R.Gains s t :=
  Gains.trans (t := s.inWorld w) (.of_tables rfl rfl) h

theorem gains_putStatement (s : Session) (name : Name) (held : Held)
    (h : R.Holds held.statement) : R.Gains s (s.putStatement name held) where
  statement other held' hn := by
    rcases Table.get?_insert_eq_some _ hn with rfl | hn
    · exact Or.inr h
    · exact Or.inl hn
  tracked _ _ hn := Or.inl hn

theorem gains_putTracked (s : Session) (name : Name) (tracked : Tracked)
    (h : R.Holds tracked.facade) :
    R.Gains s { s with tracked := s.tracked.insert name tracked } where
  statement _ _ hn := Or.inl hn
  tracked other tracked' hn := by
    rcases Table.get?_insert_eq_some _ hn with rfl | hn
    · exact Or.inr h
    · exact Or.inl hn

theorem gains_takeStatement (s : Session) (name : Name) : R.Gains s (s.takeStatement name) where
  statement _ _ hn := Or.inl (Table.get?_of_erase _ hn)
  tracked _ _ hn := Or.inl hn

theorem gains_takeTracked (s : Session) (name : Name) : R.Gains s (s.takeTracked name) where
  statement _ _ hn := Or.inl hn
  tracked _ _ hn := Or.inl (Table.get?_of_erase _ hn)

/-! ## The rule of a command -/

/-- **What is kept is held** in the end. -/
def SecuresAll (R : Region) (w : World) : Prop :=
  ∀ c, R.Secures c w

/-- What is shown of the session that a command ends in. -/
abbrev ConfinedAfter (R : Region) (P : Prop) (s : Session) : Outcome → Prop := fun outcome =>
  R.Confined (P ∧ R.SecuresAll outcome.1.world) s.world outcome.1.world (R.Gains s outcome.1)

theorem confinedAfter_same (reply : Reply) : R.ConfinedAfter P s (s, reply) :=
  (Confined.refl R _ s.world).gives fun _ _ => .refl R s

theorem confined_inWorld {Q : Prop} (h : R.Confined P s.world w Q) :
    R.Confined P s.world (s.inWorld w).world (R.Gains s (s.inWorld w)) :=
  h.gives fun _ _ => .of_tables rfl rfl

/-- A statement of the region is given to the client, who keeps it or lets go of it. -/
theorem confined_keepStatement (handle : Statement)
    (h : R.Confined P s.world t.world (R.Gains s t ∧ R.Holds handle)) (save : Option Name)
    (origin : Origin) : R.Confined P s.world (t.keepStatement save handle origin).world
      (R.Gains s (t.keepStatement save handle origin)) := by
  cases save with
  | none =>
      exact (h.and ((confined_dropHandle _ handle).given fun hp _ => hp.2.2)).gives
        fun _ hq => hq.1.1.trans (.of_tables rfl rfl)
  | some name =>
      exact h.gives fun _ hq =>
        hq.1.trans (gains_putStatement t name ⟨handle, origin⟩ hq.2)

theorem confined_keepTracked
    (h : R.Confined P s.world t.world (R.Gains s t ∧ R.Holds tracked.facade))
    (save : Option Name) : R.Confined P s.world (t.keepTracked save tracked).world
      (R.Gains s (t.keepTracked save tracked)) := by
  cases save with
  | none =>
      exact (h.and ((confined_dropTracked _ tracked).given fun hp _ => hp.2.2)).gives
        fun _ hq => hq.1.1.trans (.of_tables rfl rfl)
  | some name => exact h.gives fun _ hq => hq.1.trans (gains_putTracked t name tracked hq.2)

/-! ## Commands about pools and connections -/

theorem confined_shares (w : World) (shares : List ConnectionId) :
    R.Confined P w { w with shares } True :=
  confined_of_stores { World.Grows.refl w with } ⟨fun _ => rfl, fun _ => rfl, fun _ => rfl⟩
    (fun _ => rfl) fun _ _ => { Spares.refl R w with }

theorem confined_runPool (s : Session) (command : PoolCommand) :
    R.ConfinedAfter (R.Admits s (.pool command)) s (s.runPool command) := by
  have hsame := confinedAfter_same (R := R) (P := R.Admits s (.pool command)) (s := s)
  cases command with
  | start save request =>
      refine withFresh_rule (P := R.ConfinedAfter _ s) hsame fun _ => ?_
      split
      · exact hsame _
      · next config _ =>
          have hstarted := (confined_startPool (R := R) s.world config).given
            (T := R.Admits s (.pool (.start save request))) fun h _ => h.roomy
          generalize s.world.startPool config = started at hstarted ⊢
          obtain ⟨w, error | p⟩ := started <;>
            exact (hstarted.gives fun _ _ => .of_tables rfl rfl).weaken
  | checkOut pool save =>
      refine withFresh_rule (P := R.ConfinedAfter _ s) hsame fun _ =>
        withPool_rule hsame fun p hp => ?_
      have hchecked := (confined_checkOut (R := R) s.world p).given
        (T := R.Admits s (.pool (.checkOut pool save))
          ∧ R.SecuresAll (s.world.checkOut p).1) fun h _ =>
          have hfound := h.1.finds (.pool pool) List.mem_cons_self p hp
          ⟨⟨hfound.1, h.1.roomy, hfound.2⟩, fun c _ => h.2 c⟩
      generalize s.world.checkOut p = checked at hchecked ⊢
      obtain ⟨w, error | c⟩ := checked <;> exact hchecked.gives fun _ _ => .of_tables rfl rfl
  | shutDown pool =>
      refine withPool_rule (P := R.ConfinedAfter _ s) hsame fun p hp =>
        confined_inWorld ((confined_shutDown s.world p).given fun h _ => ?_)
      have hfound := h.1.finds (.pool pool) List.mem_cons_self p hp
      exact ⟨hfound.1, fun c hc => ⟨(hfound.2.1 c hc).1, h.2 c⟩, h.1.roomy⟩
  | sweep pool =>
      refine withPool_rule (P := R.ConfinedAfter _ s) hsame fun p hp =>
        confined_inWorld ((confined_sweep s.world p).given fun h _ => ?_)
      have hfound := h.1.finds (.pool pool) List.mem_cons_self p hp
      exact ⟨hfound.1, fun c hc => ⟨(hfound.2.1 c hc).1, h.2 c⟩⟩
  | inspect pool =>
      exact withPool_rule (P := R.ConfinedAfter _ s) hsame fun _ _ => hsame _

/-- A call on a connection of the region. -/
theorem confined_callEffect {c : ConnectionId} (hc : P → R.connections c) {call : Call}
    {save : Option Name} {s' : Session} (h : CallEffect s c call save s') :
    R.Confined P s.world s'.world (R.Gains s s') := by
  have hperform := (confined_perform (R := R) s.world c call).given (T := P) fun h _ => hc h
  cases h with
  | passed h =>
      rw [h] at hperform
      exact confined_inWorld hperform
  | @kept w handle h name _ =>
      rw [h] at hperform
      refine confined_keepStatement (t := s.inWorld w) handle (hperform.gives fun _ hq => ?_) name _
      exact ⟨.of_tables rfl rfl, (R.has_singleton _).mp hq⟩

theorem confined_runCall (s : Session) {c : ConnectionId} (hc : P → R.connections c) (call : Call)
    (into : Into) (save : Option Name) : R.ConfinedAfter P s (s.runCall c call into save) :=
  (confined_callEffect hc (s.callEffect c call into save)).weaken

theorem confined_runConnection (s : Session) (command : ConnectionCommand) :
    R.ConfinedAfter (R.Admits s (.connection command)) s (s.runConnection command) := by
  have hsame := confinedAfter_same (R := R) (P := R.Admits s (.connection command)) (s := s)
  -- what a command mentions first is the connection that it is about
  have hfound : ∀ (via : Via) {c}, .connection via ∈ command.mentions → s.connection? via = some c →
      R.Admits s (.connection command) → R.connections c ∧ R.pools (s.world.connection c).pool :=
    fun _ {_} hm hc h => by
      obtain ⟨hr, -, hp⟩ := h.finds _ hm _ hc _ List.mem_cons_self
      exact ⟨hr, hp⟩
  cases command with
  | checkIn guard =>
      exact withGuard_rule (P := R.ConfinedAfter _ s) hsame fun c hc =>
        ((confined_checkIn s.world c).given fun h _ =>
          have hin := hfound (.guard guard) List.mem_cons_self hc h.1
          ⟨hin.1, hin.2, h.2 c⟩).gives fun _ _ => .of_tables rfl rfl
  | retire guard =>
      exact withGuard_rule (P := R.ConfinedAfter _ s) hsame fun c hc =>
        ((confined_retire s.world c).given fun h _ =>
          have hin := hfound (.guard guard) List.mem_cons_self hc h.1
          ⟨hin.1, hin.2, h.2 c⟩).gives fun _ _ => .of_tables rfl rfl
  | share guard save =>
      exact withFresh_rule (P := R.ConfinedAfter _ s) hsame fun _ =>
        withGuard_rule hsame fun _ _ =>
          (confined_shares s.world _).gives fun _ _ => .of_tables rfl rfl
  | unshare shared =>
      exact withShared_rule (P := R.ConfinedAfter _ s) hsame fun c hc =>
        ((confined_shares s.world _).trans ((confined_forget _ c).given fun h _ =>
          ⟨(hfound (.shared shared) List.mem_cons_self hc h.1.1).1, h.1.2 c⟩)).gives
            fun _ _ => .of_tables rfl rfl
  | prepare guard call save =>
      exact withFreshStatement_rule (P := R.ConfinedAfter _ s) hsame fun _ =>
        withGuard_rule hsame fun c hc => confined_runCall s (fun h =>
          (hfound (.guard guard) List.mem_cons_self hc h).1) call _ _
  | isValid guard =>
      exact withGuard_rule (P := R.ConfinedAfter _ s) hsame fun c hc =>
        confined_runCall s (fun h =>
          (hfound (.guard guard) List.mem_cons_self hc h).1) _ _ _
  | invoke via request into save =>
      exact withFreshStatement_rule (P := R.ConfinedAfter _ s) hsame fun _ =>
        withCall_rule hsame fun call _ => withTarget_rule hsame fun c hc =>
          confined_runCall s (fun h => (hfound via List.mem_cons_self hc h).1) call into save
  | inspectGuard guard =>
      exact withGuard_rule (P := R.ConfinedAfter _ s) hsame fun _ _ => hsame _
  | inspectConnection via =>
      exact withConnection_rule (P := R.ConfinedAfter _ s) hsame fun _ _ => hsame _
  | inspectStore via =>
      refine withConnection_rule (P := R.ConfinedAfter _ s) hsame fun _ _ => ?_
      split <;> exact hsame _

/-! ## Commands about statements -/

theorem confined_statementEffect {command : StatementCommand} {s' : Session}
    (h : StatementEffect s command s') :
    R.Confined (R.Admits s (.statement command)) s.world s'.world (R.Gains s s') := by
  have hfound : ∀ {name held}, .statement name ∈ command.mentions →
      s.statements.get? name = some held → R.Admits s (.statement command) →
      R.Holds held.statement := fun hm hn h => h.finds _ hm _ hn
  cases h with
  | same => exact (Confined.refl R _ s.world).gives fun _ _ => .refl R s
  | bound hn =>
      exact confined_inWorld ((confined_onTarget s.world _ (.bind _ _) fun _ _ => rfl).given
        fun h _ => hfound List.mem_cons_self hn h)
  | cleared hn =>
      exact confined_inWorld ((confined_onTarget s.world _ .clearParameters fun _ _ => rfl).given
        fun h _ => hfound List.mem_cons_self hn h)
  | executed hn =>
      exact confined_inWorld ((confined_onTarget s.world _ .execute fun _ _ => rfl).given
        fun h _ => hfound List.mem_cons_self hn h)
  | emptied hn =>
      exact confined_inWorld ((confined_closeResultSet s.world _).given
        fun h _ => hfound List.mem_cons_self hn h)
  | closed hn =>
      refine ((confined_close _ s.world).given fun h _ => hfound List.mem_cons_self hn h).gives
        fun h _ => ?_
      exact (gains_putStatement _ _ _ (hfound List.mem_cons_self hn h).afterClose).of_inWorld
  | dropped hn =>
      exact ((confined_dropHandle s.world _).given fun h _ =>
        hfound List.mem_cons_self hn h).gives fun _ _ => (gains_takeStatement _ _).of_inWorld
  | @forceClosed name held hn ho =>
      exact ((confined_forceCloseFacade s.world held.statement).given fun h _ =>
        hfound List.mem_cons_self hn h).gives fun _ _ =>
          (gains_putStatement _ name { held with statement := .spent } trivial).of_inWorld

theorem confined_keepDriverStatement {made : World × Except DriverError StatementId}
    (h : R.Confined P s.world made.1 (∀ id, made.2 = .ok id → R.statements id))
    (save : Option Name) : R.ConfinedAfter P s (s.keepDriverStatement save made) := by
  obtain ⟨w, error | id⟩ := made
  · exact (confined_inWorld h).weaken
  · exact (confined_keepStatement (t := s.inWorld w) (.physical id)
      (h.gives fun _ hq => ⟨.of_tables rfl rfl, hq id rfl⟩) save _).weaken

theorem confined_prepareBy (w : World) (line : PhysicalConnectionId) (call : Call)
    (event : StatementId → String → DriverEvent)
    (he : ∀ id sql, (event id sql).made? = some id) :
    R.Confined P w { w with driver := (w.driver.prepareBy line call event).1 }
      (∀ id, (w.driver.prepareBy line call event).2 = .ok id → R.statements id) := by
  unfold Driver.prepareBy
  split
  · exact (Confined.refl R P w).gives fun _ _ id hid => by cases hid
  · split
    · exact (Confined.refl R P w).gives fun _ _ id hid => by cases hid
    · next sql _ =>
        exact (confined_issue w { sql, origin := some (line, call) } (fun id => event id sql)
          fun id => he id sql).gives fun _ hh id hid => by
            cases hid
            exact hh

theorem confined_createStatement (w : World) (line : PhysicalConnectionId) :
    R.Confined P w { w with driver := (w.driver.createStatement line).1 }
      (∀ id, (w.driver.createStatement line).2 = .ok id → R.statements id) := by
  unfold Driver.createStatement
  split
  · exact (Confined.refl R P w).gives fun _ _ id hid => by cases hid
  · exact (confined_issue w _ .created fun _ => rfl).gives fun _ hh id hid => by
      cases hid
      exact hh

theorem confined_runDriver (s : Session) (command : DriverCommand) :
    R.ConfinedAfter P s (s.runDriver command) := by
  have hsame := confinedAfter_same (R := R) (P := P) (s := s)
  cases command with
  | looseStatement sql save =>
      refine withFreshStatement_rule (P := R.ConfinedAfter _ s) hsame fun _ => ?_
      have hissued := confined_issue (R := R) (P := P) s.world { sql }
        (fun id => .prepared id sql) fun _ => rfl
      exact (confined_keepStatement
        (t := s.inWorld { s.world with driver := (s.world.driver.looseStatement sql).1 }) _
        (hissued.gives fun _ hh => ⟨.of_tables rfl rfl, hh⟩) save _).weaken
  | openConnection save =>
      exact withFresh_rule (P := R.ConfinedAfter _ s) hsame fun _ =>
        (confined_line s.world s.world.driver.touches_openConnection).gives
          fun _ _ => .of_tables rfl rfl
  | prepareStatement name args save =>
      exact withFreshStatement_rule (P := R.ConfinedAfter _ s) hsame fun _ =>
        withRaw_rule hsame fun line _ =>
          confined_keepDriverStatement (confined_prepareBy _ line _ _ fun _ _ => rfl) save
  | prepareCall name args save =>
      exact withFreshStatement_rule (P := R.ConfinedAfter _ s) hsame fun _ =>
        withRaw_rule hsame fun line _ =>
          confined_keepDriverStatement (confined_prepareBy _ line _ _ fun _ _ => rfl) save
  | createStatement name save =>
      exact withFreshStatement_rule (P := R.ConfinedAfter _ s) hsame fun _ =>
        withRaw_rule hsame fun line _ =>
          confined_keepDriverStatement (confined_createStatement _ line) save
  | isValid name =>
      exact withRaw_rule (P := R.ConfinedAfter _ s) hsame fun _ _ => hsame _
  | close name =>
      exact withRaw_rule (P := R.ConfinedAfter _ s) hsame fun line _ =>
        confined_inWorld (confined_line s.world (Driver.touches_closeConnection _ line))
  | inspectLog statement => exact hsame _

/-! ## Commands about caches -/

/-- A statement of the region that the client gives to a cache. -/
theorem confined_sourced {command : Command} {source : StatementSource} {handle : Statement}
    (hm : ∀ mention ∈ source.mentions, mention ∈ command.mentions)
    (h : Sourced s source t handle) :
    R.Confined (R.Admits s command) s.world t.world (R.Gains s t ∧ R.Holds handle) := by
  cases h with
  | held hn =>
      refine (Confined.refl R _ s.world).gives fun h _ => ⟨gains_takeStatement s _, ?_⟩
      exact h.finds _ (hm _ List.mem_cons_self) _ hn
  | fresh sql =>
      have hissued := confined_issue (R := R) (P := R.Admits s command) s.world { sql }
        (fun id => .prepared id sql) fun _ => rfl
      exact hissued.gives fun _ hh => ⟨.of_tables rfl rfl, hh⟩

theorem confined_dropCache (hk : P → R.caches k) (name : Name) :
    R.Confined (P ∧ R.SecuresAll (s.dropCache name k).world) s.world (s.dropCache name k).world (R.Gains s (s.dropCache name k)) := by
  unfold dropCache
  simp only
  split
  · exact (Confined.refl R _ s.world).gives fun _ _ => .of_tables rfl rfl
  · exact ((confined_detach s.world k).given fun h _ =>
      ⟨hk h.1, fun earlier _ => h.2 earlier.connection⟩).gives fun _ _ => .of_tables rfl rfl

section Admitted

/-! What a region that admits a command asks of the cache that the command names. -/

variable {cache name : Name} {request : CallRequest} {save : Option Name} {call : Call}

theorem confined_fetch_of_admits
    (hfree : ∀ name, save = some name → s.tracked.get? name = none)
    (hk : s.caches.get? cache = some k) (hcall : request.read = .ok call) :
    R.Confined (R.Admits s (.cache (.fetch cache request save))) s.world
      (s.world.fetch k call).1 (R.Has (World.handlesFound (s.world.fetch k call).2)) :=
  (confined_fetch s.world k call).given fun h _ =>
    ⟨(h.finds (.cache cache) List.mem_cons_self k hk).1, h.leaves hfree k call hk hcall⟩

theorem confined_offer_of_admits (keep : Bool) (hk : s.caches.get? cache = some k)
    (hn : s.tracked.get? name = some tracked) :
    R.Confined (R.Admits s (.cache (.offer cache name keep))) s.world
      (s.world.offer k tracked).1 True :=
  (confined_offer s.world k tracked).given fun h _ =>
    ⟨(h.finds (.cache cache) List.mem_cons_self k hk).1,
      h.finds (.tracked name) (by simp [Command.mentions, CacheCommand.mentions]) _ hn⟩

theorem confined_withdraw_of_admits {key : CacheKey}
    (hfree : ∀ name, save = some name → s.tracked.get? name = none)
    (hk : s.caches.get? cache = some k) (hcall : request.read = .ok call)
    (hkey : CacheKey.ofCall? call = some key) :
    R.Confined (R.Admits s (.cache (.withdraw cache request save))) s.world
      (s.world.withdraw k key).1
      (R.Has ((s.world.withdraw k key).2.elim 0 fun tracked => {tracked.facade})) :=
  (confined_withdraw s.world k key).given fun h _ =>
    ⟨(h.finds (.cache cache) List.mem_cons_self k hk).1, h.leaves hfree k call key hk hcall hkey⟩

end Admitted

theorem confined_cacheEffect {command : CacheCommand} {s' : Session}
    (h : CacheEffect s command s') :
    R.Confined (R.Admits s (.cache command) ∧ R.SecuresAll s'.world) s.world s'.world
      (R.Gains s s') := by
  have hcache : ∀ {name k}, .cache name ∈ command.mentions → s.caches.get? name = some k →
      R.Admits s (.cache command) → R.caches k := fun hm hk h => (h.finds _ hm _ hk).1
  have hpool : ∀ {name p}, .pool name ∈ command.mentions → s.pools.get? name = some p →
      R.Admits s (.cache command) → R.pools p := fun hm hp h => (h.finds _ hm _ hp).1
  have hconnection : ∀ {via c}, .connection via ∈ command.mentions → s.connection? via = some c →
      R.Admits s (.cache command) → R.connections c ∧ s.world.connections.Known c :=
    fun hm hc h => by
      obtain ⟨hr, hk, -⟩ := h.finds _ hm _ hc _ List.mem_cons_self
      exact ⟨hr, hk⟩
  have hsourced : ∀ {source t handle}, (∀ mention ∈ source.mentions, mention ∈ command.mentions) →
      Sourced s source t handle → R.Confined (R.Admits s (.cache command)) s.world t.world
        (R.Gains s t ∧ R.Holds handle) := fun hm hsource => confined_sourced hm hsource
  cases h with
  | same => exact (Confined.refl R _ s.world).gives fun _ _ => .refl R s
  | created hread =>
      exact (confined_newCache s.world _ _).mono (fun h _ => h.1.roomy)
        fun _ _ => .of_tables rfl rfl
  | cloned hk => exact (Confined.refl R _ s.world).gives fun _ _ => .of_tables rfl rfl
  | dropped hk => exact confined_dropCache (hcache List.mem_cons_self hk) _
  | started hp =>
      refine confined_inWorld ((confined_startCounting s.world _).given fun h _ => ?_)
      exact ⟨hpool List.mem_cons_self hp h.1,
        h.1.roomy.counters _ s.world.counters.not_known_next⟩
  | stopped hp =>
      exact confined_inWorld ((confined_stopCounting s.world _).given fun h _ =>
        hpool List.mem_cons_self hp h.1)
  | attached hp hk hc =>
      refine confined_inWorld ((confined_attach s.world _ _ _).given fun h _ => ?_)
      obtain ⟨hr, hknown⟩ := hconnection (by simp [CacheCommand.mentions]) hc h.1
      refine ⟨⟨hcache (by simp [CacheCommand.mentions]) hk h.1, hpool List.mem_cons_self hp h.1,
        hr, hknown, fun d _ hkd => ?_⟩, fun earlier _ => h.2 earlier.connection⟩
      -- a cache of the client's own is in no chain
      exact absurd hkd ((h.1.finds (.cache _)
        (by simp [Command.mentions, CacheCommand.mentions]) _ hk).2 d)
  | drained hp hk hc =>
      refine confined_inWorld ((confined_drain s.world _ _ _).given fun h _ => ?_)
      exact ⟨hcache (by simp [CacheCommand.mentions]) hk h.1, hpool List.mem_cons_self hp h.1,
        (hconnection (by simp [CacheCommand.mentions]) hc h.1).1, h.1.leaves _ _ _ hp hk hc⟩
  | detached hk =>
      exact confined_inWorld ((confined_detach s.world _).given fun h _ =>
        ⟨hcache List.mem_cons_self hk h.1, fun earlier _ => h.2 earlier.connection⟩)
  | failed k call hfree hk hcall h | missed k call hfree hk hcall h =>
      have hfetch := confined_fetch_of_admits (R := R) hfree hk hcall
      rw [h] at hfetch
      exact (confined_inWorld hfetch).weaken
  | fetched k call hfree hk hcall h =>
      have hfetch := confined_fetch_of_admits (R := R) hfree hk hcall
      rw [h] at hfetch
      exact (confined_keepTracked (t := s.inWorld _) (hfetch.gives fun _ hq =>
        ⟨.of_tables rfl rfl, (R.has_singleton _).mp hq⟩) _).weaken
  | tracked k call t handle hk hcall hsource =>
      have hgiven := hsourced (fun _ => List.mem_cons_of_mem _) hsource
      exact (confined_keepTracked (hgiven.gives fun hp hq =>
        ⟨hq.1, hcache List.mem_cons_self hk hp, hq.2⟩) _).weaken
  | unwrapped k call t handle hk hcall hsource h =>
      have hgiven := hsourced (fun _ => List.mem_cons_of_mem _) hsource
      have hwrap := hgiven.and ((confined_wrapPrepared t.world k handle call).given fun hp _ =>
        ⟨hcache List.mem_cons_self hk hp.1, hp.2.2⟩)
      rw [h] at hwrap
      exact Confined.weaken (hwrap.gives fun _ hq => hq.1.1.trans (.of_tables rfl rfl))
  | wrapped k call t handle hk hcall hsource h =>
      have hgiven := hsourced (fun _ => List.mem_cons_of_mem _) hsource
      have hwrap := hgiven.and ((confined_wrapPrepared t.world k handle call).given fun hp _ =>
        ⟨hcache List.mem_cons_self hk hp.1, hp.2.2⟩)
      rw [h] at hwrap
      exact (confined_keepStatement (t := t.inWorld _) _ (hwrap.gives fun _ hq =>
        ⟨hq.1.1.trans (.of_tables rfl rfl), (R.has_singleton _).mp hq.2⟩) _ _).weaken
  | admitted keep k tracked hk hn h =>
      have hoffer := confined_offer_of_admits (R := R) keep hk hn
      rw [h] at hoffer
      exact (hoffer.gives fun _ _ => (gains_takeTracked _ _).of_inWorld).weaken
  | kept k tracked hk hn h =>
      have hoffer := confined_offer_of_admits (R := R) true hk hn
      rw [h] at hoffer
      exact (confined_inWorld hoffer).weaken
  | letGo k tracked hk hn h =>
      have hoffer := confined_offer_of_admits (R := R) false hk hn
      rw [h] at hoffer
      have hdropped := hoffer.trans ((confined_dropTracked _ tracked).given fun h _ =>
        h.1.finds (.tracked _) (by simp [Command.mentions, CacheCommand.mentions]) _ hn)
      exact (hdropped.gives fun _ _ => (gains_takeTracked _ _).of_inWorld).weaken
  | absent k key hfree hk hcall hkey h =>
      have hwithdraw := confined_withdraw_of_admits (R := R) hfree hk hcall hkey
      rw [h] at hwithdraw
      exact (confined_inWorld hwithdraw).weaken
  | withdrawn k key hfree hk hcall hkey h =>
      have hwithdraw := confined_withdraw_of_admits (R := R) hfree hk hcall hkey
      rw [h] at hwithdraw
      exact (confined_keepTracked (t := s.inWorld _) (hwithdraw.gives fun _ hq =>
        ⟨.of_tables rfl rfl, (R.has_singleton _).mp hq⟩) _).weaken

/-! ## Commands about tracked statements -/

theorem confined_trackedEffect {command : TrackedCommand} {s' : Session}
    (h : TrackedEffect s command s') :
    R.Confined (R.Admits s (.tracked command)) s.world s'.world (R.Gains s s') := by
  have hfound : ∀ {name tracked}, .tracked name ∈ command.mentions →
      s.tracked.get? name = some tracked → R.Admits s (.tracked command) →
      R.Holds tracked.facade := fun hm hn h => h.finds _ hm _ hn
  cases h with
  | same => exact (Confined.refl R _ s.world).gives fun _ _ => .refl R s
  | closed hn =>
      exact ((confined_closeTracked s.world _).given fun h _ =>
        hfound List.mem_cons_self hn h).gives fun _ _ => (gains_takeTracked _ _).of_inWorld
  | forceClosed hn | dropped hn =>
      exact ((confined_dropTracked s.world _).given fun h _ =>
        hfound List.mem_cons_self hn h).gives fun _ _ => (gains_takeTracked _ _).of_inWorld
  | bound hn =>
      exact confined_inWorld ((confined_onTarget s.world _ (.bind _ _) fun _ _ => rfl).given
        fun h _ => (hfound List.mem_cons_self hn h).2)
  | executed hn =>
      exact confined_inWorld ((confined_onTarget s.world _ .execute fun _ _ => rfl).given
        fun h _ => (hfound List.mem_cons_self hn h).2)
  | @delegateClosed name tracked hn =>
      refine ((confined_close tracked.delegate s.world).given fun h _ =>
        (hfound List.mem_cons_self hn h).2).gives fun h _ => ?_
      have hheld := hfound List.mem_cons_self hn h
      exact (gains_putTracked _ name { tracked with delegate := tracked.delegate.afterClose }
        ⟨hheld.1, hheld.2.afterClose⟩).of_inWorld
  | @faced name save tracked hn =>
      exact confined_keepStatement (t := s.takeTracked name) _
        ((Confined.refl R _ s.world).gives fun h _ =>
          ⟨gains_takeTracked s name, hfound List.mem_cons_self hn h⟩) save _

/-- **A command whose things lie in the region is confined to it** if what is kept is held
afterwards, and the statements that the client comes to hold lie in the region. -/
theorem confined_run (s : Session) (command : Command) :
    R.ConfinedAfter (R.Admits s command) s (s.run command) := by
  cases command with
  | advance span =>
      exact Confined.weaken (confined_inWorld (confined_of_stores (P := R.Admits s (.advance span))
        { World.Grows.refl s.world with } ⟨fun _ => rfl, fun _ => rfl, fun _ => rfl⟩
        (fun _ => rfl) fun _ _ => { Spares.refl R s.world with }))
  | switch fault =>
      exact Confined.weaken (confined_inWorld (confined_of_stores (P := R.Admits s (.switch fault))
        { World.Grows.refl s.world with } ⟨fun _ => rfl, fun _ => rfl, fun _ => rfl⟩
        (fun _ => rfl) fun _ _ => { Spares.refl R s.world with
          driver := s.world.driver.touches_faults _ }))
  | pool command => exact confined_runPool s command
  | connection command => exact confined_runConnection s command
  | statement command => exact (confined_statementEffect (s.statementEffect command)).weaken
  | driver command => exact confined_runDriver s command
  | cache command => exact confined_cacheEffect (s.cacheEffect command)
  | tracked command => exact (confined_trackedEffect (s.trackedEffect command)).weaken

end Region

end ConnectionPool
