import ConnectionPool.Proofs.Custody.Documented
import ConnectionPool.Proofs.Session.Supplying

/-!
# When connections were opened and last used

A pool records of every connection when it was opened and when it was last checked out or
returned. `Session.openings` and `Session.usings` are the moments at which the commands of a run did
so, and the record agrees with them: a connection was opened once, at the moment recorded, and the
last of its uses is the one recorded (`Dated.runAll`). One command opens or uses at most one
connection, and keeps the records of all others (`Accounted.marks_run`).
-/

set_option autoImplicit false

namespace ConnectionPool

/-- The moments that are recorded of a connection: when it was opened and when last used. -/
def Connection.moments (connection : Connection) : Millis × Millis :=
  (connection.metadata.createdAt, connection.metadata.lastUsedAt)

namespace World

/-! ## Records that stay -/

/-- **The moments recorded of all connections stay** as they are. -/
def KeepsMoments (w w' : World) : Prop :=
  ∀ c, (w'.connection c).moments = (w.connection c).moments

/-- **What an operation marks**: the connection that it uses has been used now, a connection that is
new has been opened now, and the other moments recorded stay. -/
structure Marks (used : Option ConnectionId) (w w' : World) : Prop where
  opened : ∀ c, w.connections.Known c →
    (w'.connection c).metadata.createdAt = (w.connection c).metadata.createdAt
  kept : ∀ c, w.connections.Known c → used ≠ some c →
    (w'.connection c).metadata.lastUsedAt = (w.connection c).metadata.lastUsedAt
  marked : ∀ c, used = some c → (w'.connection c).metadata.lastUsedAt = w.now
  stays : ∀ c, w.connections.Known c → w'.connections.Known c
  opens : ∀ c, w'.connections.Known c → ¬ w.connections.Known c →
    used = some c ∧ (w'.connection c).metadata.createdAt = w.now

variable {w w' w'' : World} {p : PoolId} {c : ConnectionId}

theorem KeepsMoments.trans (h : KeepsMoments w w') (h' : KeepsMoments w' w'') :
    KeepsMoments w w'' := fun c => (h' c).trans (h c)

theorem keepsMoments_of_exterior
    (h : ∀ c, (w'.connection c).exterior = (w.connection c).exterior) : KeepsMoments w w' :=
  fun c => read_congr (h c) Connection.moments fun _ => rfl

theorem Unseen.keepsMoments (h : w.Unseen w') : KeepsMoments w w' :=
  keepsMoments_of_exterior h.connection

theorem KeepsMoments.marks (h : KeepsMoments w w')
    (hs : w'.connections.size = w.connections.size) : Marks none w w' where
  opened c _ := congrArg Prod.fst (h c)
  kept c _ _ := congrArg Prod.snd (h c)
  marked _ hc := by cases hc
  stays c := (Registry.known_congr hs c).mpr
  opens c hc hn := absurd ((Registry.known_congr hs c).mp hc) hn

theorem keepsMoments_enter (w : World) (c : ConnectionId) (state : ConnectionState) :
    KeepsMoments w (w.updateMetadata c fun metadata => metadata.enter state) :=
  w.connection_updateConnection_congr c
    (fun connection => { connection with metadata := connection.metadata.enter state })
    Connection.moments fun _ => rfl

theorem keepsMoments_hangUp (w : World) (c : ConnectionId) : KeepsMoments w (w.hangUp c) := by
  unfold hangUp
  split
  · exact fun _ => rfl
  · exact w.connection_updateConnection_congr c Connection.hungUp
      Connection.moments fun _ => rfl

theorem lasts_keepsMoments : Lasts KeepsMoments :=
  ⟨KeepsMoments.trans, Unseen.keepsMoments, keepsMoments_enter, keepsMoments_hangUp⟩

/-- The records are not in the books. -/
theorem keepsMoments_retire (w : World) (c : ConnectionId) : KeepsMoments w (w.retire c) :=
  fun d => ((lasts_keepsMoments.teardown false _ c).trans (unseen_forget _ c).keepsMoments) d

theorem keepsMoments_sweep (w : World) (p : PoolId) : KeepsMoments w (w.sweep p).1 :=
  fun d => ((lasts_keepsMoments.teardownAll false (w.expired p) _).trans
    (unseen_forgetAll (w.expired p) _).keepsMoments) d

theorem keepsMoments_shutDown (w : World) (p : PoolId) : KeepsMoments w (w.shutDown p) := by
  unfold shutDown
  split
  · exact fun _ => rfl
  · have htorn := lasts_keepsMoments.teardownAll true (w.pool p).idle.reverse
      (w.updatePool p fun pool => { pool with
        closed := true, idle := [], total := pool.total - (w.pool p).idle.reverse.length })
    have htold := htorn.trans (unseen_tellListeners _ p .poolClosed).keepsMoments
    exact fun d =>
      (htold.trans (unseen_forgetAll (w.pool p).idle.reverse _).keepsMoments) d

theorem keepsMoments_startPool (w : World) (config : PoolConfig) :
    KeepsMoments w (w.startPool config).1 := by
  obtain ⟨error, h⟩ | ⟨sources, h⟩ := w.startPool_cases config
  · rw [h]
    exact fun _ => rfl
  · rw [h]
    have hfounded : KeepsMoments w (w.founded config sources) := fun _ => rfl
    exact hfounded.trans (unseen_tellListeners _ _ .poolStarted).keepsMoments

/-! ## Returns and checkouts -/

/-- **A connection that is put back** was used now; one that is retired keeps its record. -/
theorem marks_checkIn (hc : w.connections.Known c) :
    Marks ((some c).filter w.takesBack) w (w.checkIn c) := by
  have hsize := w.size_connections_checkIn c
  cases ht : w.takesBack c with
  | false =>
      have hretire : w.checkIn c = w.retire c := by
        rw [takesBack, ← Bool.not_or, Bool.not_eq_false'] at ht
        rw [checkIn, if_pos ht]
      rw [Option.filter_some, ht, if_neg (by decide)]
      rw [hretire] at hsize ⊢
      exact (w.keepsMoments_retire c).marks hsize
  | true =>
      rw [takesBack, ← Bool.not_or, Bool.not_eq_true'] at ht
      have hconnection : ∀ d, (w.checkIn c).connection d
          = (w.updateMetadata c fun metadata => metadata.checkIn w.now).connection d := by
        intro d
        rw [checkIn, if_neg (by rw [ht]; exact Bool.false_ne_true)]
        rfl
      rw [Option.filter_some, takesBack, ← Bool.not_or, ht, Bool.not_false, if_pos rfl]
      refine ⟨fun d _ => ?_, fun d _ hne => ?_, fun d hd => ?_,
        fun d => (Registry.known_congr hsize d).mpr,
        fun d hd hn => absurd ((Registry.known_congr hsize d).mp hd) hn⟩
      · rw [hconnection]
        exact w.connection_updateConnection_congr c
          (fun connection => { connection with metadata := connection.metadata.checkIn w.now })
          (fun connection => connection.metadata.createdAt) (fun _ => rfl) d
      · rw [hconnection, updateMetadata, connection_updateConnection,
          if_neg fun h => hne (congrArg some h.1)]
      · obtain rfl := Option.some.inj hd
        rw [hconnection, updateMetadata, connection_updateConnection, if_pos ⟨rfl, hc⟩]
        rfl

section Supplies

variable {result : Except PoolError ConnectionId} {lent : Option ConnectionId}
  {signals : List Signal} {books : Pool}

/-- The moments recorded of connections that a checkout does not lend stay. -/
theorem Supply.moments (h : Supply p lent signals books w w') (hc : w.connections.Known c)
    (hl : lent ≠ some c) :
    (w'.connection c).moments = (w.connection c).moments := by
  by_cases hgone : c ∈ w.passedOver p
  · exact read_congr (h.gone c hgone).1 Connection.moments
      fun _ => rfl
  · exact read_congr (h.kept c hc hgone hl).1 Connection.moments
      fun _ => rfl

/-- A checkout that lends nothing marks nothing. -/
theorem Supply.marks (h : Supply p none signals books w w')
    (hs : w'.connections.size = w.connections.size) : Marks none w w' where
  opened _ hc := congrArg Prod.fst (h.moments hc nofun)
  kept _ hc _ := congrArg Prod.snd (h.moments hc nofun)
  marked _ hc := by cases hc
  stays c := (Registry.known_congr hs c).mpr
  opens c hc hn := absurd ((Registry.known_congr hs c).mp hc) hn

/-- **A checkout marks the connection that it lends**, which may be new. -/
theorem Supplies.marks (h : Supplies p w w' result) : Marks result.toOption w w' := by
  cases h with
  | @lends c rest hc supply same lent =>
      refine ⟨fun d hd => ?_, fun d hd hne => congrArg Prod.snd (supply.moments hd hne),
        fun d hd => ?_, fun d => (Registry.known_congr same d).mpr,
        fun d hd hn => absurd ((Registry.known_congr same d).mp hd) hn⟩
      · by_cases hdc : d = c
        · rw [hdc]
          exact read_congr lent (fun connection => connection.metadata.createdAt) fun _ => rfl
        · exact congrArg Prod.fst
            (supply.moments hd fun he => hdc (Option.some.inj he).symm)
      · obtain rfl := Option.some.inj hd
        exact read_congr lent (fun connection => connection.metadata.lastUsedAt) fun _ => rfl
  | @opens sources chain hc reached made names supply more lent =>
      have hknown : ∀ d, w'.connections.Known d
          ↔ w.connections.Known d ∨ d = w.connections.next := by
        intro d
        simp only [Registry.Known, more, Registry.next]
        omega
      have hold : ∀ d, w.connections.Known d → some w.connections.next ≠ some d := fun d hd he =>
        Registry.next_ne hd (Option.some.inj he)
      refine ⟨fun d hd => congrArg Prod.fst (supply.moments hd (hold d hd)),
        fun d hd hne => congrArg Prod.snd (supply.moments hd hne), fun d hd => ?_,
        fun d hd => (hknown d).mpr (Or.inl hd), fun d hd hn => ?_⟩
      · obtain rfl := Option.some.inj hd
        exact read_congr lent (fun connection => connection.metadata.lastUsedAt) fun _ => rfl
      · obtain rfl := ((hknown d).mp hd).resolve_left hn
        exact ⟨rfl, read_congr lent (fun connection => connection.metadata.createdAt) fun _ => rfl⟩
  | unreachable hc failed supply same => exact supply.marks same
  | refuses hc reached refused supply same => exact supply.marks same

end Supplies

theorem Marks.refl (w : World) : Marks none w w :=
  KeepsMoments.marks (fun _ => rfl) rfl

end World

namespace Session

variable {s : Session} {p : PoolId} {c : ConnectionId}

/-! ## The moments of a run -/

/-- **The connection that a command uses**: the one that is checked out or put back. -/
def used? (s : Session) : Command → Option ConnectionId
  | .pool (.checkOut pool save) =>
      if s.guards.contains save then none
      else (s.pools.get? pool).bind fun p => (s.world.checkOut p).2.toOption
  | .connection (.checkIn guard) => (s.guards.get? guard).filter s.world.takesBack
  | _ => none

/-- A command opens a connection: it is there afterwards, and was not before. -/
def opens (s : Session) (command : Command) (c : ConnectionId) : Bool :=
  decide (¬ s.world.connections.Known c ∧ (s.run command).1.world.connections.Known c)

/-- The moments at which something is the case of a command of a run. -/
def momentsOf (happens : Session → Command → Bool) : Session → List Command → List Millis
  | _, [] => []
  | s, command :: rest =>
      (if happens s command then [s.world.now] else [])
        ++ momentsOf happens (s.run command).1 rest

/-- The moments at which a connection is opened. -/
def openings (s : Session) (commands : List Command) (c : ConnectionId) : List Millis :=
  momentsOf (fun s command => s.opens command c) s commands

/-- The moments at which a connection is checked out or put back. -/
def usings (s : Session) (commands : List Command) (c : ConnectionId) : List Millis :=
  momentsOf (fun s command => s.used? command == some c) s commands

/-! ## One command -/

theorem used?_eq_none {command : Command} (ho : ∀ pool save, command ≠ .pool (.checkOut pool save))
    (hi : ∀ guard, command ≠ .connection (.checkIn guard)) : s.used? command = none := by
  unfold used?
  split
  · exact absurd rfl (ho _ _)
  · exact absurd rfl (hi _)
  · rfl

theorem Accounted.marks_checkOut (hs : s.Accounted) (p : PoolId) :
    World.Marks (s.world.checkOut p).2.toOption s.world (s.world.checkOut p).1 := by
  cases hclosed : (s.world.pool p).closed with
  | true =>
      rw [World.checkOut_of_closed hclosed]
      exact .refl _
  | false =>
      by_cases hfull : s.world.taken s.out p = (s.world.pool p).config.maxConnections
      · rw [hs.balanced.checkOut_of_full hclosed hfull]
        exact .refl _
      · exact (hs.balanced.supplies_checkOut hs.plugged hclosed hfull).marks

theorem Accounted.marks_runCheckOut (hs : s.Accounted) (pool save : Name) :
    World.Marks (s.used? (.pool (.checkOut pool save))) s.world
      (s.run (.pool (.checkOut pool save))).1.world := by
  have hused : s.used? (.pool (.checkOut pool save)) = if s.guards.contains save then none
    else (s.pools.get? pool).bind fun p => (s.world.checkOut p).2.toOption := rfl
  rw [hused]
  simp only [Session.run, runPool, withFresh, withPool]
  cases s.guards.contains save with
  | true => exact .refl _
  | false =>
      cases s.pools.get? pool with
      | none => exact .refl _
      | some p =>
          have hmarks := hs.marks_checkOut p
          simp only [Bool.false_eq_true, if_false, Option.bind_some]
          generalize s.world.checkOut p = outcome at hmarks ⊢
          rcases outcome with ⟨w, error | c⟩ <;> exact hmarks

theorem Accounted.marks_runCheckIn (hs : s.Accounted) (guard : Name) :
    World.Marks (s.used? (.connection (.checkIn guard))) s.world
      (s.run (.connection (.checkIn guard))).1.world := by
  have hused : s.used? (.connection (.checkIn guard))
    = (s.guards.get? guard).filter s.world.takesBack := rfl
  rw [hused]
  simp only [Session.run, runConnection, withGuard]
  cases hg : s.guards.get? guard with
  | none => exact .refl _
  | some c =>
      exact World.marks_checkIn (hs.live_guard hg).known

/-- **A command marks the connection that it uses**, and no other. -/
theorem Accounted.marks_run (hs : s.Accounted) (command : Command) :
    World.Marks (s.used? command) s.world (s.run command).1.world := by
  by_cases hcheckOut : ∃ pool save, command = .pool (.checkOut pool save)
  · obtain ⟨pool, save, rfl⟩ := hcheckOut
    exact hs.marks_runCheckOut pool save
  · by_cases hcheckIn : ∃ guard, command = .connection (.checkIn guard)
    · obtain ⟨guard, rfl⟩ := hcheckIn
      exact hs.marks_runCheckIn guard
    · rw [not_exists] at hcheckIn
      simp only [not_exists] at hcheckOut
      rw [used?_eq_none hcheckOut hcheckIn]
      have hdealing := s.dealing_run command
      generalize (s.run command).1 = s' at hdealing ⊢
      cases hdealing with
      | still h =>
          exact (World.keepsMoments_of_exterior h.world.connection).marks h.world.connections_size
      | start config hworld =>
          rw [hworld]
          exact (s.world.keepsMoments_startPool config).marks
            (s.world.size_connections_startPool config)
      | refused => exact absurd rfl (hcheckOut _ _)
      | granted => exact absurd rfl (hcheckOut _ _)
      | shutDown =>
          exact (s.world.keepsMoments_shutDown _).marks (s.world.size_connections_shutDown _)
      | sweep =>
          exact (s.world.keepsMoments_sweep _).marks (s.world.size_connections_sweep _)
      | checkIn => exact absurd rfl (hcheckIn _)
      | retire =>
          exact (s.world.keepsMoments_retire _).marks (s.world.size_connections_retire _)
      | dial => exact World.KeepsMoments.marks (fun _ => rfl) rfl
      | cut => exact World.KeepsMoments.marks (fun _ => rfl) rfl

/-! ## Whole runs -/

/-- **The records agree with what has happened**: a connection was opened once, and last used when
its record says; one that there is not was not opened. -/
structure Dated (s : Session) (openings usings : ConnectionId → List Millis) : Prop where
  opened : ∀ c, s.world.connections.Known c →
    openings c = [(s.world.connection c).metadata.createdAt]
  unopened : ∀ c, ¬ s.world.connections.Known c → openings c = []
  used : ∀ c, s.world.connections.Known c →
    (usings c).getLast? = some (s.world.connection c).metadata.lastUsedAt

variable {openings usings : ConnectionId → List Millis}

/-- One command keeps the records in agreement. -/
theorem Dated.run (h : s.Dated openings usings) (hs : s.Accounted) (command : Command) :
    (s.run command).1.Dated
      (fun c => openings c ++ if s.opens command c then [s.world.now] else [])
      (fun c => usings c ++ if s.used? command == some c then [s.world.now] else []) := by
  have hmarks := hs.marks_run command
  unfold opens
  generalize (s.run command).1 = s' at hmarks ⊢
  refine ⟨fun c hc => ?_, fun c hc => ?_, fun c hc => ?_⟩
  · by_cases hold : s.world.connections.Known c
    · simp [hold, h.opened c hold, hmarks.opened c hold]
    · simp [hold, hc, h.unopened c hold, (hmarks.opens c hc hold).2]
  · have hold : ¬ s.world.connections.Known c := fun hold => hc (hmarks.stays c hold)
    simp [hc, h.unopened c hold]
  · by_cases hused : s.used? command = some c
    · simp [hused, hmarks.marked c hused]
    · have hold : s.world.connections.Known c := by
        by_contra hold
        exact hused (hmarks.opens c hc hold).1
      simp [hused, h.used c hold, hmarks.kept c hold hused]

theorem Dated.runAll (h : s.Dated openings usings) (hs : s.Accounted) (commands : List Command) :
    (s.runAll commands).Dated (fun c => openings c ++ s.openings commands c)
      (fun c => usings c ++ s.usings commands c) := by
  induction commands generalizing s openings usings with
  | nil =>
      simp only [Session.openings, Session.usings, momentsOf, List.append_nil]
      exact h
  | cons command rest ih =>
      have hnext := ih (h.run hs command) (hs.run command).accounted
      simp only [List.append_assoc] at hnext
      exact hnext

theorem dated_empty : empty.Dated (fun _ => []) fun _ => [] where
  opened c hc := absurd hc (Registry.not_known_empty c)
  unopened _ _ := rfl
  used c hc := absurd hc (Registry.not_known_empty c)

end Session

end ConnectionPool
