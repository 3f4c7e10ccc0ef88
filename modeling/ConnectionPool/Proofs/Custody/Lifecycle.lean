import ConnectionPool.Proofs.Custody.Lines

/-!
# The life of connections and pools

Every interceptor of a connection hears of each checkout, and if the connection is torn down, of
that: once before its line is closed and once after it, and of nothing ever again. Every interceptor
that listens to a pool hears that the pool has started, before any line is opened for it, and that
it has closed, when all that was idle then is gone (`lifecycle`).

`Custody.Told` has this as one sequence of signals for each connection and each pool. What one
interceptor hears is read off it (`World.hooks_link`, `World.hooks_listener`).
-/

set_option autoImplicit false

namespace ConnectionPool

/-! ## What one interceptor hears -/

/-- The hook, if this is who receives it. -/
def Signal.hookTo? (receiver : Receiver) : Signal → Option Hook
  | hook addressee _ told _ => if addressee = receiver then some told else none
  | _ => none

/-- **All hooks that an interceptor ever received**, in the order in which it received them. -/
def World.hooks (w : World) (receiver : Receiver) : List Hook :=
  w.signals.filterMap (Signal.hookTo? receiver)

section Rounds

variable {connection : Connection} {pool : Pool} {c : ConnectionId} {p : PoolId} {position : Nat}

/-- One position of a list is met once. -/
theorem filterMap_zipIdx_single {α β : Type} (l : List α) (b : β) (position : Nat) :
    ∀ start, (l.zipIdx start).filterMap
        (fun entry => if entry.2 = position then some b else none)
      = if start ≤ position ∧ position < start + l.length then [b] else [] := by
  induction l with
  | nil =>
      intro start
      rw [if_neg (by simp only [List.length_nil]; omega)]
      rfl
  | cons a rest ih =>
      intro start
      rw [List.zipIdx_cons, List.length_cons, List.filterMap_cons]
      by_cases hs : start = position
      · have hrest : ¬ (start + 1 ≤ position ∧ position < start + 1 + rest.length) := by omega
        have hall : start ≤ position ∧ position < start + (rest.length + 1) := by omega
        simp only [if_pos hs, ih, if_neg hrest, if_pos hall]
      · simp only [if_neg hs, ih]
        refine if_congr ?_ rfl rfl
        omega

/-- **A round reaches every link of a chain once.** -/
theorem Connection.filterMap_round_link (h : position < connection.chain.length) (hook : Hook)
    (seen : ConnectionSight) :
    (connection.round c hook seen).filterMap (Signal.hookTo? (.link c position)) = [hook] := by
  have hsingle := filterMap_zipIdx_single connection.chain hook position 0
  rw [if_pos ⟨Nat.zero_le _, by rwa [Nat.zero_add]⟩] at hsingle
  rw [Connection.round, List.filterMap_map, ← hsingle]
  refine List.filterMap_congr fun entry _ => ?_
  simp only [Function.comp, Signal.hookTo?, Receiver.link.injEq, true_and]

/-- A round reaches every listener of a pool once. -/
theorem Pool.filterMap_round_listener (h : position < pool.listeners.length) (hook : Hook) :
    (pool.round p hook).filterMap (Signal.hookTo? (.listener p position)) = [hook] := by
  have hsingle := filterMap_zipIdx_single pool.listeners hook position 0
  rw [if_pos ⟨Nat.zero_le _, by rwa [Nat.zero_add]⟩] at hsingle
  rw [Pool.round, List.filterMap_map, ← hsingle]
  refine List.filterMap_congr fun entry _ => ?_
  simp only [Function.comp, Signal.hookTo?, Receiver.listener.injEq, true_and]

/-- What listeners of a pool are told is told to no link of a chain. -/
theorem Pool.filterMap_round_link (hook : Hook) :
    (pool.round p hook).filterMap (Signal.hookTo? (.link c position)) = [] := by
  rw [Pool.round, List.filterMap_map]
  exact List.filterMap_eq_nil_iff.mpr fun _ _ => rfl

/-- **What a link of a chain hears in the life of its connection.** -/
theorem Connection.filterMap_life (h : position < connection.chain.length) (finalizing : Bool) :
    (connection.life c finalizing).filterMap (Signal.hookTo? (.link c position))
      = List.replicate connection.metadata.checkouts (.attached c)
        ++ if connection.closed then [.disconnected c finalizing, .detached c] else [] := by
  have hwelcomes : ((List.range connection.metadata.checkouts).flatMap
        fun earlier => connection.welcome c (earlier + 1)).filterMap
          (Signal.hookTo? (.link c position))
      = List.replicate connection.metadata.checkouts (.attached c) := by
    rw [List.filterMap_flatMap]
    calc (List.range connection.metadata.checkouts).flatMap (fun earlier =>
            (connection.welcome c (earlier + 1)).filterMap (Signal.hookTo? (.link c position)))
        = (List.range connection.metadata.checkouts).flatMap fun _ => [Hook.attached c] :=
          List.flatMap_congr fun _ _ => Connection.filterMap_round_link h _ _
      _ = List.replicate connection.metadata.checkouts (.attached c) := by
          rw [← List.map_eq_flatMap, List.map_const', List.length_range]
  have hfarewell : (connection.farewell c finalizing).filterMap (Signal.hookTo? (.link c position))
      = [.disconnected c finalizing, .detached c] := by
    rw [Connection.farewell, List.filterMap_append, Connection.filterMap_round_link h,
      List.filterMap_cons_none rfl, Connection.filterMap_round_link h]
    rfl
  rw [Connection.life, List.cons_append, List.filterMap_cons_none rfl, List.filterMap_append,
    hwelcomes]
  cases connection.closed with
  | true => exact congrArg (_ ++ ·) hfarewell
  | false => rfl

/-- What a listener of a pool hears in its annals. -/
theorem Pool.filterMap_annals (h : position < pool.listeners.length) (dismissed : Bool) :
    (pool.annals p dismissed).filterMap (Signal.hookTo? (.listener p position))
      = .poolStarted :: if dismissed then [.poolClosed] else [] := by
  rw [Pool.annals, List.filterMap_append, Pool.filterMap_round_listener h]
  cases dismissed with
  | true => exact congrArg (_ ++ ·) (Pool.filterMap_round_listener h _)
  | false => rfl

end Rounds

namespace World

variable {w : World} {c : ConnectionId} {p : PoolId} {position : Nat}

/-- What is kept of a list is kept of what was left of it, if only that was dropped of which
nothing is kept. -/
theorem filterMap_of_filter {α β : Type} {f : α → Option β} {keep : α → Bool} (l : List α)
    (h : ∀ a ∈ l, (f a).isSome = true → keep a = true) :
    (l.filter keep).filterMap f = l.filterMap f := by
  rw [List.filterMap_filter]
  refine List.filterMap_congr fun a ha => ?_
  cases hf : f a with
  | none => exact ite_self none
  | some b => rw [if_pos (h a ha (by rw [hf]; rfl))]

/-- **What a link of a chain has heard** is what its connection has lived through. -/
theorem hooks_link {finalizing : Bool} {before : List Signal}
    (h : position < (w.connection c).chain.length)
    (hbefore : before.filterMap (Signal.hookTo? (.link c position)) = [])
    (hstory : w.chronicle c = before ++ (w.connection c).life c finalizing) :
    w.hooks (.link c position)
      = List.replicate (w.connection c).metadata.checkouts (.attached c)
        ++ if (w.connection c).closed then [.disconnected c finalizing, .detached c] else [] := by
  have hkept : (w.chronicle c).filterMap (Signal.hookTo? (.link c position))
      = w.hooks (.link c position) := by
    refine filterMap_of_filter _ fun signal _ hs => ?_
    cases signal with
    | hook receiver interceptor told seen =>
        simp only [Signal.hookTo?] at hs
        split at hs
        · next hr =>
            subst hr
            simp [Signal.concerns, Receiver.isLinkOf]
        · cases hs
    | opened line => cases hs
    | hungUp line => cases hs
  rw [← hkept, hstory, List.filterMap_append, hbefore, List.nil_append,
    Connection.filterMap_life h]

/-- **What a listener of a pool has heard** is in the annals of the pool. -/
theorem hooks_listener {dismissed : Bool} (h : position < (w.pool p).listeners.length)
    (hstory : w.bulletin p = (w.pool p).annals p dismissed) :
    w.hooks (.listener p position) = .poolStarted :: if dismissed then [.poolClosed] else [] := by
  have hkept : (w.bulletin p).filterMap (Signal.hookTo? (.listener p position))
      = w.hooks (.listener p position) := by
    refine filterMap_of_filter _ fun signal _ hs => ?_
    cases signal with
    | hook receiver interceptor told seen =>
        simp only [Signal.hookTo?] at hs
        split at hs
        · next hr =>
            subst hr
            exact beq_self_eq_true p
        · exact nomatch hs
    | opened line => exact nomatch hs
    | hungUp line => exact nomatch hs
  rw [← hkept, hstory, Pool.filterMap_annals h]

/-- Starting a pool closes none. -/
theorem closed_startPool (hp : w.pools.Known p) (config : PoolConfig) :
    ((w.startPool config).1.pool p).closed = (w.pool p).closed := by
  obtain ⟨error, h⟩ | ⟨sources, h⟩ := w.startPool_cases config
  · rw [h]
  · rw [h]
    exact ((unseen_tellListeners _ _ .poolStarted).readPool Pool.closed (fun _ => rfl) p).trans
      (congrArg Pool.closed (w.pool_founded config sources hp))

end World

namespace Session

variable {s t : Session} {c : ConnectionId} {p : PoolId}

/-! ## Pools that close -/

/-- **A pool closes by being shut down**, and by nothing else; it stays closed. -/
theorem Documented.closed_run (h : s.Documented) (hp : s.world.pools.Known p) (command : Command) :
    ((s.world.pool p).closed = true → ((s.run command).1.world.pool p).closed = true)
      ∧ ((s.world.pool p).closed = false → ((s.run command).1.world.pool p).closed = true →
        ∃ pool, command = .pool (.shutDown pool) ∧ s.pools.get? pool = some p
          ∧ s.world.signalsSince (s.run command).1.world = s.world.closing p) := by
  have hsame : ∀ {w : World}, (w.pool p).closed = (s.world.pool p).closed →
      ((s.world.pool p).closed = true → (w.pool p).closed = true)
        ∧ ((s.world.pool p).closed = false → (w.pool p).closed = true →
          ∃ pool, command = .pool (.shutDown pool) ∧ s.pools.get? pool = some p
            ∧ s.world.signalsSince w = s.world.closing p) := by
    intro w hw
    rw [hw]
    exact ⟨id, fun ho hc => by rw [ho] at hc; exact nomatch hc⟩
  have hbalanced := h.accounted.balanced
  have hplugged := h.accounted.plugged
  have hdealing := s.dealing_run command
  generalize (s.run command).1 = s' at hdealing ⊢
  cases hdealing with
  | still hstill => exact hsame (hstill.world.readPool Pool.closed (fun _ => rfl) p)
  | start config hworld => exact hsame (by rw [hworld]; exact World.closed_startPool hp config)
  | @refused _ _ q w error _ _ hchecked =>
      have hbrings := (Custody.brings_checkOut hbalanced hplugged q).closed p
      rw [hchecked] at hbrings
      exact hsame hbrings
  | @granted _ _ q w d _ _ hchecked =>
      have hbrings := (Custody.brings_checkOut hbalanced hplugged q).closed p
      rw [hchecked] at hbrings
      exact hsame hbrings
  | @shutDown pool q hq =>
      -- the only command that closes a pool, and it closes the one that it names
      obtain ⟨hother, hstays⟩ := Custody.closed_shutDown s.world q p
      refine ⟨hstays, fun ho hc => ?_⟩
      by_cases hqp : q = p
      · subst hqp
        exact ⟨pool, rfl, hq, (Custody.moves_shutDown hbalanced hplugged ho).emits.since⟩
      · change ((s.world.shutDown q).pool p).closed = true at hc
        rw [hother hqp, ho] at hc
        exact nomatch hc
  | sweep => exact hsame (Custody.closed_sweep s.world _ p)
  | checkIn => exact hsame (Custody.closed_checkIn s.world _ p)
  | retire => exact hsame (Custody.closed_retire s.world _ p)
  | dial => exact hsame rfl
  | cut => exact hsame rfl

/-- **Lines are opened for pools that have started.** -/
theorem Documented.known_of_dialled (h : s.Documented) {command : Command}
    (hd : s.dialled p command ≠ []) : s.world.pools.Known p := by
  obtain ⟨line, hl⟩ := List.exists_mem_of_ne_nil _ hd
  obtain ⟨⟨pool, save, rfl, hp⟩, hk, hn⟩ := h.mem_dialled hl
  refine s.world.known_of_pool_open (Bool.eq_false_of_not_eq_true fun hclosed => hn ?_)
  have hrun : (s.run (.pool (.checkOut pool save))).1.world = s.world := by
    simp only [Session.run, runPool, withFresh, withPool, hp, World.checkOut_of_closed hclosed]
    split <;> rfl
  rw [hrun] at hk
  exact hk

/-! ## The theorem -/

/-- **A connection lives by the rules.** All that was ever signalled about it is that its pool has
started, and its life; each interceptor of its chain hears of every checkout, of which there is
one at least, and of its end. Once it is closed, nothing more happens to it. -/
structure Lives (s : Session) (c : ConnectionId) : Prop where
  checkedOut : 1 ≤ (s.world.connection c).metadata.checkouts
  chain : (s.world.pool (s.world.connection c).pool).config.Fits (s.world.connection c).chain
  story : ∃ finalizing,
    s.world.chronicle c
      = (s.world.pool (s.world.connection c).pool).round (s.world.connection c).pool .poolStarted
        ++ (s.world.connection c).life c finalizing
    ∧ ∀ position < (s.world.connection c).chain.length, s.world.hooks (.link c position)
      = List.replicate (s.world.connection c).metadata.checkouts (.attached c)
        ++ if (s.world.connection c).closed then [.disconnected c finalizing, .detached c] else []
  ended : (s.world.connection c).closed = true → ∀ t, Proceeds s t →
    (t.world.connection c).metadata.state = .closed ∧ t.world.chronicle c = s.world.chronicle c

/-- **A pool lives by the rules.** All that its listeners were ever told is that it has started,
and when it is closed, that it has closed. -/
structure Presides (s : Session) (p : PoolId) : Prop where
  listeners : (s.world.pool p).config.Fits (s.world.pool p).listeners
  bulletin : s.world.bulletin p = (s.world.pool p).annals p (s.world.pool p).closed
  hooks : ∀ position < (s.world.pool p).listeners.length, s.world.hooks (.listener p position)
    = .poolStarted :: if (s.world.pool p).closed then [.poolClosed] else []

/-- A connection that is closed stays as it is, and nothing more is signalled about it. -/
theorem Documented.ended (h : s.Documented) (hc : s.world.connections.Known c)
    (hclosed : (s.world.connection c).closed = true) (ht : Proceeds s t) :
    (t.world.connection c).metadata.state = .closed
      ∧ t.world.chronicle c = s.world.chronicle c := by
  obtain ⟨l, hmoves⟩ := ht.moves h
  have hstays := hmoves.continues
  have hdocumented := ht.documented h
  have hsame : (t.world.connection c).exterior = (s.world.connection c).exterior :=
    hstays.closed c hclosed hc
  constructor
  · rw [read_congr hsame (fun connection => connection.metadata.state) fun _ => rfl]
    -- what is neither held nor idle is gone
    have hnotLive : ¬ s.world.Live c := fun hlive => by
      rw [hlive.unclosed] at hclosed
      exact nomatch hclosed
    rcases h.kept.placed c hc with hout | hidle | hgone
    · exact absurd (h.accounted.balanced.out_live c hout) hnotLive
    · exact absurd (h.accounted.balanced.waiting _ c hidle).live hnotLive
    · exact hgone.state
  · -- what was told is the beginning of what is told, and is as long
    obtain ⟨finalizing, hstory⟩ := h.told.connections c hc
    obtain ⟨finalizing', hstory'⟩ := hdocumented.told.connections c (hstays.connections c hc).1
    change s.world.chronicle c = (s.world.pool (s.world.connection c).pool).round
      (s.world.connection c).pool .poolStarted ++ (s.world.connection c).life c finalizing at hstory
    change t.world.chronicle c = (t.world.pool (t.world.connection c).pool).round
      (t.world.connection c).pool .poolStarted ++ (t.world.connection c).life c finalizing'
      at hstory'
    have hpool : (t.world.connection c).pool = (s.world.connection c).pool :=
      read_congr hsame Connection.pool fun _ => rfl
    have hcharter : (t.world.pool (s.world.connection c).pool).charter
        = (s.world.pool (s.world.connection c).pool).charter :=
      (hstays.pools _ (h.kept.pool_known c hc)).2
    have hround : (t.world.pool (s.world.connection c).pool).round (s.world.connection c).pool
          .poolStarted
        = (s.world.pool (s.world.connection c).pool).round (s.world.connection c).pool
          .poolStarted := by
      rw [Pool.round, Pool.listeners_of_charter hcharter]
      rfl
    have hlife : (t.world.connection c).life c finalizing'
        = (s.world.connection c).life c finalizing' :=
      read_congr hsame (fun connection => connection.life c finalizing') fun _ => rfl
    rw [hpool, hround, hlife] at hstory'
    have hmore : t.world.chronicle c = s.world.chronicle c
        ++ l.filter fun signal => signal.starts (s.world.connection c).pool
          || signal.concerns c (s.world.connection c).physical := by
      rw [World.chronicle, World.chronicle, hpool,
        read_congr hsame Connection.physical fun _ => rfl, ← List.filter_append]
      exact congrArg _ (hmoves.emits.signals h.told.timely)
    have hlength : (t.world.chronicle c).length = (s.world.chronicle c).length := by
      rw [hstory, hstory', List.length_append, List.length_append, Connection.length_life]
    rw [hmore, List.length_append] at hlength
    have hnothing := List.eq_nil_of_length_eq_zero (Nat.add_eq_left.mp hlength)
    rw [hmore, hnothing, List.append_nil]

theorem Documented.lives (h : s.Documented) (hc : s.world.connections.Known c) : s.Lives c := by
  obtain ⟨finalizing, hstory⟩ := h.told.connections c hc
  exact
    { checkedOut := h.handed c hc
      chain := h.chains c hc
      story := ⟨finalizing, hstory, fun position hposition =>
        World.hooks_link hposition (Pool.filterMap_round_link _) hstory⟩
      ended := fun hclosed t ht => h.ended hc hclosed ht }

theorem Documented.presides (h : s.Documented) (hp : s.world.pools.Known p) : s.Presides p := by
  have hbulletin : s.world.bulletin p = (s.world.pool p).annals p (s.world.pool p).closed := by
    have htold := h.told.pools p hp
    have hdismissed : s.custody.dismissed p = (s.world.pool p).closed := Bool.and_true _
    rw [hdismissed] at htold
    exact htold
  exact ⟨h.listeners p hp, hbulletin, fun position hposition =>
    World.hooks_listener hposition hbulletin⟩

/-- **Connections and pools live by the rules**, whatever a client does and whatever fails
meanwhile: so does every connection, and so does every pool; a line is opened for a pool only after
the pool has started; a pool that is closed stays closed, and one that is open closes by being
shut down, when its idle connections say farewell and then its listeners hear of it. -/
theorem lifecycle (hs : Proceeds empty s) :
    (∀ c, s.world.connections.Known c → s.Lives c)
      ∧ (∀ p, s.world.pools.Known p → s.Presides p)
      ∧ ∀ command p,
        (s.dialled p command ≠ [] → s.world.pools.Known p)
        ∧ (s.world.pools.Known p →
          ((s.world.pool p).closed = true → ((s.run command).1.world.pool p).closed = true)
          ∧ ((s.world.pool p).closed = false → ((s.run command).1.world.pool p).closed = true →
            ∃ pool, command = .pool (.shutDown pool) ∧ s.pools.get? pool = some p
              ∧ s.world.signalsSince (s.run command).1.world = s.world.closing p)) := by
  have h := hs.documented documented_empty
  exact ⟨fun c hc => h.lives hc, fun p hp => h.presides hp, fun command p =>
    ⟨fun hd => h.known_of_dialled hd, fun hp => h.closed_run hp command⟩⟩

/-- A pool with two interceptors; its connection is checked out twice and waits in the pool, and
the driver fails to close lines. -/
def waiting : List Command :=
  [.pool (.start "p" { interceptors := [{ name := "a", role := .trace }, { name := "b" }] }),
    .pool (.checkOut "p" "g"), .connection (.checkIn "g"), .pool (.checkOut "p" "g"),
    .connection (.checkIn "g"), .switch (.connectionClosing true)]

/-- When the pool is shut down, the connection says farewell before the listeners hear of it; each
interceptor has heard of two checkouts and of the end. -/
theorem lifecycle_waiting :
    (empty.runAll waiting).world.signalsSince
        ((empty.runAll waiting).run (.pool (.shutDown "p"))).1.world
      = [.hook (.link 1 0) ⟨"a", .trace⟩ (.disconnected 1 true) (some ⟨1, 2, .closing, false⟩),
        .hook (.link 1 1) ⟨"b", .pass⟩ (.disconnected 1 true) (some ⟨1, 2, .closing, false⟩),
        .hungUp 1,
        .hook (.link 1 0) ⟨"a", .trace⟩ (.detached 1) (some ⟨1, 2, .closing, true⟩),
        .hook (.link 1 1) ⟨"b", .pass⟩ (.detached 1) (some ⟨1, 2, .closing, true⟩),
        .hook (.listener 1 0) ⟨"a", .trace⟩ .poolClosed none,
        .hook (.listener 1 1) ⟨"b", .pass⟩ .poolClosed none]
      ∧ (∃ finalizing,
        ((empty.runAll waiting).run (.pool (.shutDown "p"))).1.world.hooks (.link 1 1)
          = [.attached 1, .attached 1, .disconnected 1 finalizing, .detached 1])
      ∧ ((empty.runAll waiting).run (.pool (.shutDown "p"))).1.world.hooks (.listener 1 1)
        = [.poolStarted, .poolClosed] := by
  have hbefore : Proceeds empty (empty.runAll waiting) :=
    (Dials.refl.runAll waiting : Dials 1 empty _ _).proceeds
  obtain ⟨-, -, hcommands⟩ := lifecycle hbefore
  obtain ⟨hconnections, hpools, -⟩ := lifecycle (hbefore.run (.pool (.shutDown "p")))
  obtain ⟨pool, -, -, hclosing⟩ :=
    ((hcommands (.pool (.shutDown "p")) 1).2 (by decide)).2 (by rfl) (by rfl)
  obtain ⟨finalizing, -, hheard⟩ := (hconnections 1 (by decide)).story
  exact ⟨hclosing, ⟨finalizing, hheard 1 (by decide)⟩, (hpools 1 (by decide)).hooks 1 (by decide)⟩

end Session

end ConnectionPool
