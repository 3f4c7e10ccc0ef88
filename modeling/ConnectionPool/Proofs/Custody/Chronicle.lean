import ConnectionPool.Proofs.Custody.Continuity

/-!
# The chronicle of connections and pools

All that is ever signalled about a connection is its life (`Connection.life`): its line is opened,
its chain is told of each checkout, and if it is closed it has said farewell, once. All that the
listeners of a pool are ever told is that it has started and, when it is closed, that it has closed
(`Pool.annals`).

`Custody.Told` says so of all connections and pools. It goes on being so when something is added to
the life of a connection or to the annals of a pool (`Custody.Advances`).
-/

set_option autoImplicit false

namespace ConnectionPool

namespace Receiver

/-- Whether the receiver is a link in the chain of a connection. -/
def isLinkOf (c : ConnectionId) : Receiver → Bool
  | link d _ => d == c
  | listener _ _ => false

end Receiver

namespace Signal

/-- **The signal concerns a connection**: it is about its line, or a link of its chain receives a
hook, or anybody receives a hook that is about it. -/
def concerns (c : ConnectionId) (line : PhysicalConnectionId) : Signal → Bool
  | opened other => other == line
  | hungUp other => other == line
  | hook receiver _ told _ => receiver.isLinkOf c || told.connection? == some c

/-- A listener of the pool receives a hook. -/
def reaches (p : PoolId) : Signal → Bool
  | hook (.listener q _) _ _ _ => q == p
  | _ => false

/-- A listener of the pool is told that it has started. -/
def starts (p : PoolId) : Signal → Bool
  | hook (.listener q _) _ .poolStarted _ => q == p
  | _ => false

theorem reaches_of_starts {p : PoolId} {s : Signal} (h : s.starts p = true) :
    s.reaches p = true := by
  unfold starts at h
  split at h
  · exact h
  · exact nomatch h

/-- **The signal is of a connection**: its line is closed, or a link of its chain receives a hook
that is about it. -/
def Of (c : ConnectionId) (line : PhysicalConnectionId) (s : Signal) : Prop :=
  s = .hungUp line ∨ ∃ position interceptor hook seen,
    s = .hook (.link c position) interceptor hook seen ∧ hook.connection? = some c

section Of

variable {s : Signal} {c d : ConnectionId} {line line' : PhysicalConnectionId}

theorem Of.concerns (h : s.Of c line) : s.concerns c line = true := by
  obtain rfl | ⟨position, interceptor, hook, seen, rfl, hc⟩ := h
  · exact beq_self_eq_true line
  · simp [Signal.concerns, Receiver.isLinkOf]

theorem Of.concerns_other (h : s.Of c line) (hd : c ≠ d) (hl : line ≠ line') :
    s.concerns d line' = false := by
  obtain rfl | ⟨position, interceptor, hook, seen, rfl, hc⟩ := h
  · exact beq_false_of_ne hl
  · simp [Signal.concerns, Receiver.isLinkOf, hc, hd]

theorem Of.reaches (h : s.Of c line) (p : PoolId) : s.reaches p = false := by
  obtain rfl | ⟨position, interceptor, hook, seen, rfl, -⟩ := h <;> rfl

end Of

end Signal

namespace Connection

/-- **The life of a connection**, as far as it has come: its line is opened, its chain is told of
each checkout, and when the connection is closed it says farewell. -/
def life (connection : Connection) (c : ConnectionId) (finalizing : Bool) : List Signal :=
  .opened connection.physical
    :: (List.range connection.metadata.checkouts).flatMap
        (fun earlier => connection.welcome c (earlier + 1))
    ++ if connection.closed then connection.farewell c finalizing else []

variable {connection : Connection} {c : ConnectionId} {s : Signal}

theorem of_of_mem_round {hook : Hook} {seen : ConnectionSight} {line : PhysicalConnectionId}
    (hs : s ∈ connection.round c hook seen) (hc : hook.connection? = some c) : s.Of c line := by
  obtain ⟨entry, -, rfl⟩ := List.mem_map.mp hs
  exact Or.inr ⟨_, _, _, _, rfl, hc⟩

theorem of_of_mem_welcome {checkouts : Nat} {line : PhysicalConnectionId}
    (hs : s ∈ connection.welcome c checkouts) : s.Of c line := of_of_mem_round hs rfl

theorem of_of_mem_farewell {finalizing : Bool} (hs : s ∈ connection.farewell c finalizing) :
    s.Of c connection.physical := by
  rcases List.mem_append.mp hs with hs | hs
  · exact of_of_mem_round hs rfl
  · rcases List.mem_cons.mp hs with rfl | hs
    · exact Or.inl rfl
    · exact of_of_mem_round hs rfl

/-- A checkout is one more round. -/
theorem life_checkOut (hopen : connection.closed = false) (now : Millis) (finalizing : Bool) :
    ({ connection with metadata := connection.metadata.checkOut now } : Connection).life c
        finalizing
      = connection.life c finalizing
        ++ connection.welcome c (connection.metadata.checkouts + 1) := by
  have hlife : ∀ outside : Connection, outside.closed = false → outside.life c finalizing
      = .opened outside.physical :: (List.range outside.metadata.checkouts).flatMap
        (fun earlier => outside.welcome c (earlier + 1)) := by
    intro outside ho
    rw [life, ho]
    exact List.append_nil _
  refine (hlife { connection with metadata := connection.metadata.checkOut now } hopen).trans ?_
  rw [hlife connection hopen]
  show Signal.opened connection.physical
      :: (List.range (connection.metadata.checkouts + 1)).flatMap
        (fun earlier => connection.welcome c (earlier + 1)) = _
  rw [List.range_succ, List.flatMap_append, List.flatMap_singleton, List.cons_append]

/-- How much was signalled does not depend on how the connection was closed. -/
theorem length_life (finalizing finalizing' : Bool) :
    (connection.life c finalizing).length = (connection.life c finalizing').length := by
  have hround : ∀ hook seen, (connection.round c hook seen).length = connection.chain.length := by
    intro hook seen
    rw [round, List.length_map, List.length_zipIdx]
  have hfarewell : (connection.farewell c finalizing).length
      = (connection.farewell c finalizing').length := by
    simp only [farewell, List.length_append, List.length_cons, hround]
  cases hclosed : connection.closed with
  | true => simp [life, hclosed, hfarewell]
  | false => simp [life, hclosed]

/-- A connection that is closed has said farewell. -/
theorem life_hungUp (hopen : connection.closed = false) (finalizing finalizing' : Bool) :
    (connection.hungUp.enter .closed).life c finalizing
      = connection.life c finalizing' ++ connection.farewell c finalizing := by
  have hbefore : connection.life c finalizing' = .opened connection.physical
      :: (List.range connection.metadata.checkouts).flatMap
        (fun earlier => connection.welcome c (earlier + 1)) ++ [] := by
    rw [life, hopen]
    rfl
  rw [hbefore, List.append_nil]
  rfl

end Connection

namespace Pool

/-- **The annals of a pool**: what its listeners are told, by whether they are told that it has
closed. -/
def annals (pool : Pool) (p : PoolId) (dismissed : Bool) : List Signal :=
  pool.round p .poolStarted ++ if dismissed then pool.round p .poolClosed else []

variable {pool : Pool} {p : PoolId} {s : Signal}

theorem reaches_of_mem_round {hook : Hook} (hs : s ∈ pool.round p hook) (q : PoolId) :
    s.reaches q = (p == q) := by
  obtain ⟨entry, -, rfl⟩ := List.mem_map.mp hs
  rfl

/-- A round of a pool reaches the listeners of this pool, -/
theorem filter_reaches_round (hook : Hook) :
    (pool.round p hook).filter (·.reaches p) = pool.round p hook :=
  List.filter_eq_self.mpr fun s hs => by
    rw [reaches_of_mem_round hs]
    exact beq_self_eq_true p

/-- and of no other. -/
theorem filter_reaches_round_of_ne {q : PoolId} (h : p ≠ q) (hook : Hook) :
    (pool.round p hook).filter (·.reaches q) = [] :=
  List.filter_eq_nil_iff.mpr fun s hs => by
    rw [reaches_of_mem_round hs]
    exact ne_true_of_eq_false (beq_false_of_ne h)

theorem concerns_of_mem_round {hook : Hook} (hs : s ∈ pool.round p hook)
    (hc : hook.connection? = none) (c : ConnectionId) (line : PhysicalConnectionId) :
    s.concerns c line = false := by
  obtain ⟨entry, -, rfl⟩ := List.mem_map.mp hs
  simp [Signal.concerns, Receiver.isLinkOf, hc]

/-- The start of a pool in its annals. -/
theorem filter_starts_annals (dismissed : Bool) :
    (pool.annals p dismissed).filter (Signal.starts p) = pool.round p .poolStarted := by
  have hstarted : (pool.round p .poolStarted).filter (Signal.starts p)
      = pool.round p .poolStarted := by
    refine List.filter_eq_self.mpr fun s hs => ?_
    obtain ⟨entry, -, rfl⟩ := List.mem_map.mp hs
    exact beq_self_eq_true p
  have hclosed : (pool.round p .poolClosed).filter (Signal.starts p) = [] := by
    refine List.filter_eq_nil_iff.mpr fun s hs => ?_
    obtain ⟨entry, -, rfl⟩ := List.mem_map.mp hs
    exact Bool.false_ne_true
  rw [annals, List.filter_append, hstarted]
  cases dismissed with
  | true => rw [if_pos rfl, hclosed, List.append_nil]
  | false => exact List.append_nil _

end Pool

namespace World

/-- **All that was ever signalled about a connection**, after what told of the start of its pool. -/
def chronicle (w : World) (c : ConnectionId) : List Signal :=
  w.signals.filter fun s =>
    s.starts (w.connection c).pool || s.concerns c (w.connection c).physical

/-- **All that the listeners of a pool were ever told.** -/
def bulletin (w : World) (p : PoolId) : List Signal := w.signals.filter (·.reaches p)

end World

namespace Custody

/-- The listeners of a pool know that it has closed. -/
def dismissed (K : Custody) (p : PoolId) : Bool :=
  (K.world.pool p).closed && decide (K.due ≠ some p)

/-- **All that is signalled is the life of connections and the annals of pools.** -/
structure Told (K : Custody) : Prop where
  timely : K.world.Timely
  concerned : ∀ s ∈ K.world.signals, ∀ c line, s.concerns c line = true →
    K.world.connections.Known c ∨ K.world.driver.connections.Known line
  reached : ∀ s ∈ K.world.signals, ∀ p, s.reaches p = true → K.world.pools.Known p
  due : ∀ p, K.due = some p → K.world.pools.Known p ∧ (K.world.pool p).closed = true
  pools : ∀ p, K.world.pools.Known p →
    K.world.bulletin p = (K.world.pool p).annals p (K.dismissed p)
  connections : ∀ c, K.world.connections.Known c → ∃ finalizing, K.world.chronicle c
    = (K.world.pool (K.world.connection c).pool).round (K.world.connection c).pool .poolStarted
      ++ (K.world.connection c).life c finalizing

/-- **What a move adds** to the lives of connections and the annals of pools. -/
structure Advances (K : Custody) (l : List Signal) (K' : Custody) : Prop where
  concerned : ∀ s ∈ l, ∀ c line, s.concerns c line = true →
    K'.world.connections.Known c ∨ K'.world.driver.connections.Known line
  reached : ∀ s ∈ l, ∀ p, s.reaches p = true → K'.world.pools.Known p
  started : ∀ s ∈ l, ∀ p, K.world.pools.Known p → s.starts p = false
  due : ∀ p, K'.due = some p → K'.world.pools.Known p ∧ (K'.world.pool p).closed = true
  pools : ∀ p, K.world.pools.Known p → (K'.world.pool p).annals p (K'.dismissed p)
    = (K.world.pool p).annals p (K.dismissed p) ++ l.filter (·.reaches p)
  newPools : ∀ p, K'.world.pools.Known p → ¬ K.world.pools.Known p →
    (K'.world.pool p).annals p (K'.dismissed p) = l.filter (·.reaches p)
  connections : ∀ c, K.world.connections.Known c → ∀ finalizing, ∃ finalizing',
    (K'.world.connection c).life c finalizing' = (K.world.connection c).life c finalizing
      ++ l.filter (·.concerns c (K.world.connection c).physical)
  newConnections : ∀ c, K'.world.connections.Known c → ¬ K.world.connections.Known c →
    K.world.pools.Known (K'.world.connection c).pool
    ∧ ∃ finalizing, (K'.world.connection c).life c finalizing
      = l.filter (·.concerns c (K'.world.connection c).physical)

section Advances

variable {K K' : Custody} {l : List Signal}

/-- **What is told goes on being told** when a move adds to it. -/
theorem Told.advances (hK : K.Told) (hkept : K.Kept) (hemits : World.Emits l K.world K'.world)
    (hstays : Continues K K') (h : Advances K l K') : K'.Told := by
  have hsignals := hemits.signals hK.timely
  -- the signals about a connection in what a move signals
  have hstarted : ∀ {p c line}, K.world.pools.Known p →
      l.filter (fun s => s.starts p || s.concerns c line) = l.filter (·.concerns c line) := by
    intro p c line hp
    refine List.filter_congr fun s hs => ?_
    rw [h.started s hs p hp, Bool.false_or]
  have hround : ∀ p, K.world.pools.Known p → ∀ hook,
      (K'.world.pool p).round p hook = (K.world.pool p).round p hook := by
    intro p hp hook
    rw [Pool.round, Pool.listeners_of_charter (hstays.pools p hp).2]
    rfl
  refine ⟨hemits.timely hK.timely, fun s hs c line hc => ?_, fun s hs p hp => ?_, h.due,
    fun p hp => ?_, fun c hc => ?_⟩
  · rw [hsignals] at hs
    rcases List.mem_append.mp hs with hs | hs
    · exact (hK.concerned s hs c line hc).imp (fun hk => (hstays.connections c hk).1)
        (hstays.lines line)
    · exact h.concerned s hs c line hc
  · rw [hsignals] at hs
    rcases List.mem_append.mp hs with hs | hs
    · exact (hstays.pools p (hK.reached s hs p hp)).1
    · exact h.reached s hs p hp
  · rw [World.bulletin, hsignals, List.filter_append]
    by_cases hold : K.world.pools.Known p
    · rw [h.pools p hold, ← hK.pools p hold, World.bulletin]
    · rw [h.newPools p hp hold]
      have hnone : K.world.signals.filter (·.reaches p) = [] :=
        List.filter_eq_nil_iff.mpr fun s hs hr => hold (hK.reached s hs p hr)
      rw [hnone, List.nil_append]
  · rw [World.chronicle, hsignals, List.filter_append]
    by_cases hold : K.world.connections.Known c
    · obtain ⟨-, hpool, hphysical, -⟩ := hstays.connections c hold
      have hp := hkept.pool_known c hold
      obtain ⟨finalizing, hstory⟩ := hK.connections c hold
      obtain ⟨finalizing', hlife⟩ := h.connections c hold finalizing
      refine ⟨finalizing', ?_⟩
      rw [World.chronicle] at hstory
      rw [hpool, hphysical, hstory, hlife, hround _ hp, hstarted hp, List.append_assoc]
    · obtain ⟨hp, finalizing, hlife⟩ := h.newConnections c hc hold
      obtain ⟨hline, -⟩ := hstays.newConnections c hc hold
      refine ⟨finalizing, ?_⟩
      rw [hlife, hround _ hp, hstarted hp]
      -- nothing was signalled about the connection before, but its pool had started
      have hbefore : K.world.signals.filter (fun s => s.starts (K'.world.connection c).pool
            || s.concerns c (K'.world.connection c).physical)
          = (K.world.signals.filter (·.reaches (K'.world.connection c).pool)).filter
            (·.starts (K'.world.connection c).pool) := by
        rw [List.filter_filter]
        refine List.filter_congr fun s hs => ?_
        have hconcerns : s.concerns c (K'.world.connection c).physical = false :=
          Bool.eq_false_of_not_eq_true fun hcs =>
            (hK.concerned s hs c _ hcs).elim hold hline
        rw [hconcerns, Bool.or_false]
        cases hs : s.starts (K'.world.connection c).pool with
        | true => rw [Signal.reaches_of_starts hs, Bool.true_and]
        | false => rfl
      rw [hbefore, ← World.bulletin, hK.pools _ hp, Pool.filter_starts_annals]

end Advances

end Custody

end ConnectionPool
