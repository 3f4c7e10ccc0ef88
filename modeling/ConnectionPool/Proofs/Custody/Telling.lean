import ConnectionPool.Proofs.Custody.Chronicle

/-!
# What each move adds to the chronicle

A move adds to the life of one connection, or to the annals of one pool, or to nobody's
(`Move.advances`). What is told of connections and pools therefore stays true of any number of
moves (`Moves.told`).
-/

set_option autoImplicit false

namespace ConnectionPool

namespace Custody

variable {K K' : Custody} {l : List Signal}

/-! ## Moves that add to nobody's life, or to one -/

/-- A pool has the same annals if it has the same listeners. -/
theorem annals_congr {pool pool' : Pool} (h : pool'.charter = pool.charter) (p : PoolId)
    (dismissed : Bool) : pool'.annals p dismissed = pool.annals p dismissed := by
  rw [Pool.annals, Pool.annals, Pool.round, Pool.round, Pool.round, Pool.round,
    Pool.listeners_of_charter h]

/-- **Moves that no listener is told of** leave the annals of every pool as they are. -/
theorem advances_of_unreached (hreach : ∀ s ∈ l, ∀ p, s.reaches p = false)
    (hpools : K'.world.pools.size = K.world.pools.size)
    (hdue : ∀ p, K'.due = some p → K'.world.pools.Known p ∧ (K'.world.pool p).closed = true)
    (hpool : ∀ p, (K'.world.pool p).charter = (K.world.pool p).charter
      ∧ K'.dismissed p = K.dismissed p)
    (hconcerned : ∀ s ∈ l, ∀ c line, s.concerns c line = true →
      K'.world.connections.Known c ∨ K'.world.driver.connections.Known line)
    (hlives : ∀ c, K.world.connections.Known c → ∀ finalizing, ∃ finalizing',
      (K'.world.connection c).life c finalizing' = (K.world.connection c).life c finalizing
        ++ l.filter (·.concerns c (K.world.connection c).physical))
    (hnew : ∀ c, K'.world.connections.Known c → ¬ K.world.connections.Known c →
      K.world.pools.Known (K'.world.connection c).pool
      ∧ ∃ finalizing, (K'.world.connection c).life c finalizing
        = l.filter (·.concerns c (K'.world.connection c).physical)) :
    Advances K l K' where
  concerned := hconcerned
  reached s hs p hp := by
    rw [hreach s hs p] at hp
    exact nomatch hp
  started s hs p _ := by
    refine Bool.eq_false_of_not_eq_true fun hst => ?_
    have hr := Signal.reaches_of_starts hst
    rw [hreach s hs p] at hr
    exact nomatch hr
  due := hdue
  pools p _ := by
    have hnone : l.filter (·.reaches p) = [] :=
      List.filter_eq_nil_iff.mpr fun s hs => ne_true_of_eq_false (hreach s hs p)
    rw [hnone, List.append_nil, (hpool p).2, annals_congr (hpool p).1]
  newPools p hp hn := absurd ((Registry.known_congr hpools p).mp hp) hn
  connections := hlives
  newConnections := hnew

/-- **Moves that add to nobody's life**: they signal at most lines that no connection has. -/
theorem advances_of_lives (hsize : K'.world.connections.size = K.world.connections.size)
    (hpools : K'.world.pools.size = K.world.pools.size)
    (hdue : ∀ p, K'.due = some p → K'.world.pools.Known p ∧ (K'.world.pool p).closed = true)
    (hlife : ∀ c finalizing, (K'.world.connection c).life c finalizing
      = (K.world.connection c).life c finalizing)
    (hpool : ∀ p, (K'.world.pool p).charter = (K.world.pool p).charter
      ∧ K'.dismissed p = K.dismissed p)
    (hl : ∀ s ∈ l, ∃ line, (s = .opened line ∨ s = .hungUp line)
      ∧ K'.world.driver.connections.Known line
      ∧ ∀ c, K.world.connections.Known c → (K.world.connection c).physical ≠ line) :
    Advances K l K' := by
  have hreach : ∀ s ∈ l, ∀ p, s.reaches p = false := by
    intro s hs p
    obtain ⟨line, rfl | rfl, -⟩ := hl s hs <;> rfl
  have hline : ∀ s ∈ l, ∀ c line, s.concerns c line = true →
      K'.world.driver.connections.Known line
        ∧ ∀ c, K.world.connections.Known c → (K.world.connection c).physical ≠ line := by
    intro s hs c line hc
    obtain ⟨other, rfl | rfl, hother⟩ := hl s hs
    · obtain rfl := beq_iff_eq.mp hc
      exact hother
    · obtain rfl := beq_iff_eq.mp hc
      exact hother
  refine advances_of_unreached hreach hpools hdue hpool
    (fun s hs c line hc => Or.inr (hline s hs c line hc).1)
    (fun c hc finalizing => ⟨finalizing, ?_⟩)
    (fun c hc hn => absurd ((Registry.known_congr hsize c).mp hc) hn)
  -- the lines that are signalled are no connection's
  have hnone : l.filter (·.concerns c (K.world.connection c).physical) = [] :=
    List.filter_eq_nil_iff.mpr fun s hs hcs => (hline s hs c _ hcs).2 c hc rfl
  rw [hnone, List.append_nil, hlife c finalizing]

/-- **Moves that add to one life**: all that is signalled is of that connection. -/
theorem advances_of_alters {w : World} {c : ConnectionId} {outside : Connection}
    {hands : Multiset ConnectionId} (hK : K.Kept) (hT : K.Told)
    (h : World.Alters c outside K.world w) (hc : K.world.connections.Known c)
    (hlines : w.driver.connections.size = K.world.driver.connections.size)
    (hl : ∀ s ∈ l, s.Of c (K.world.connection c).physical)
    (hlife : ∀ finalizing, ∃ finalizing', outside.life c finalizing'
      = (K.world.connection c).life c finalizing ++ l) :
    Advances K l { K with world := w, hands } := by
  have hclosed : ∀ p, (w.pool p).closed = (K.world.pool p).closed := fun p =>
    read_congr (h.pool p) Pool.closed fun _ => rfl
  refine advances_of_unreached (fun s hs => (hl s hs).reaches) h.pools_size (fun p hp => ?_)
    (fun p => ⟨read_congr (h.pool p) Pool.charter fun _ => rfl, ?_⟩)
    (fun s hs d line hd => ?_) (fun d hd finalizing => ?_)
    (fun d hd hn => absurd ((h.known d).mp hd) hn)
  · obtain ⟨hk, hshut⟩ := hT.due p hp
    exact ⟨(Registry.known_congr h.pools_size p).mpr hk, (hclosed p).trans hshut⟩
  · show ((w.pool p).closed && _) = _
    rw [hclosed]
    rfl
  · -- a signal of the connection concerns nobody else
    show w.connections.Known d ∨ w.driver.connections.Known line
    by_cases hdc : d = c
    · subst hdc
      exact Or.inl ((h.known d).mpr hc)
    · by_cases hline : (K.world.connection c).physical = line
      · subst hline
        exact Or.inr ((Registry.known_congr hlines _).mpr (hK.plugged.known c hc))
      · rw [(hl s hs).concerns_other (Ne.symm hdc) hline] at hd
        exact nomatch hd
  · -- all of it is added to the life of `c`, and nothing to the life of another
    by_cases hdc : d = c
    · subst hdc
      have hall : l.filter (·.concerns d (K.world.connection d).physical) = l :=
        List.filter_eq_self.mpr fun s hs => (hl s hs).concerns
      obtain ⟨finalizing', hlife⟩ := hlife finalizing
      exact ⟨finalizing', by
        rw [hall, ← hlife]
        exact h.read (fun connection => connection.life d finalizing') fun _ => rfl⟩
    · have hnone : l.filter (·.concerns d (K.world.connection d).physical) = [] := by
        refine List.filter_eq_nil_iff.mpr fun s hs => ne_true_of_eq_false ?_
        exact (hl s hs).concerns_other (Ne.symm hdc) fun he =>
          hdc (hK.plugged.injective c d hc hd he).symm
      refine ⟨finalizing, ?_⟩
      rw [hnone, List.append_nil]
      exact read_congr (h.other d hdc) (fun connection => connection.life d finalizing)
        fun _ => rfl

/-- Moves that add to nobody's life and close no pool. -/
theorem advances_of_books (hT : K.Told) (hdue : K'.due = K.due)
    (hsize : K'.world.connections.size = K.world.connections.size)
    (hpools : K'.world.pools.size = K.world.pools.size)
    (hlife : ∀ c finalizing, (K'.world.connection c).life c finalizing
      = (K.world.connection c).life c finalizing)
    (hpool : ∀ p, (K'.world.pool p).charter = (K.world.pool p).charter
      ∧ (K'.world.pool p).closed = (K.world.pool p).closed)
    (hl : ∀ s ∈ l, ∃ line, (s = .opened line ∨ s = .hungUp line)
      ∧ K'.world.driver.connections.Known line
      ∧ ∀ c, K.world.connections.Known c → (K.world.connection c).physical ≠ line) :
    Advances K l K' := by
  refine advances_of_lives hsize hpools (fun p hp => ?_) hlife
    (fun p => ⟨(hpool p).1, ?_⟩) hl
  · rw [hdue] at hp
    obtain ⟨hk, hclosed⟩ := hT.due p hp
    exact ⟨(Registry.known_congr hpools p).mpr hk, (hpool p).2.trans hclosed⟩
  · rw [dismissed, dismissed, (hpool p).2, hdue]

/-- A line that is opened is no connection's. -/
theorem next_apart (hK : K.Kept) (c : ConnectionId) (hc : K.world.connections.Known c) :
    (K.world.connection c).physical ≠ K.world.driver.connections.next := fun he =>
  K.world.driver.connections.not_known_next (he ▸ hK.plugged.known c hc)

/-! ## Beginnings and ends -/

/-- A life begins. -/
theorem advances_enlist (hK : K.Kept) (hT : K.Told) {p : PoolId} (hp : K.world.pools.Known p)
    (number : Nat) (chain : List Interceptor) :
    Advances K [.opened K.world.driver.connections.next] { K with
      world := K.world.enlist p number chain
      hands := K.world.connections.next ::ₘ K.hands } := by
  have hadds := K.world.adds_enlist p number chain
  have hnew := K.world.connection_enlist p number chain
  have hline : (K.world.enlist p number chain).driver.connections.Known
      K.world.driver.connections.next := (Registry.known_register _ _ _).mpr (Or.inr rfl)
  obtain ⟨w, hw⟩ : ∃ w, w = K.world.enlist p number chain := ⟨_, rfl⟩
  have hpools : w.pools = K.world.pools := by rw [hw]; rfl
  rw [← hw] at hadds hnew hline ⊢
  have hopened : ∀ s ∈ [Signal.opened K.world.driver.connections.next],
      s = .opened K.world.driver.connections.next := fun s => List.mem_singleton.mp
  refine advances_of_unreached (fun s hs q => ?_) (congrArg Registry.size hpools) (fun q hq => ?_)
    (fun q => ?_) (fun s hs c line hc => Or.inr ?_) (fun c hc finalizing => ⟨finalizing, ?_⟩)
    (fun c hc hn => ?_)
  · rw [hopened s hs]
    rfl
  · show w.pools.Known q ∧ (w.pools.get q).closed = true
    rw [hpools]
    exact hT.due q hq
  · show (w.pools.get q).charter = _ ∧ ((w.pools.get q).closed && _) = _
    rw [hpools]
    exact ⟨rfl, rfl⟩
  · obtain rfl := hopened s hs
    obtain rfl := beq_iff_eq.mp hc
    exact hline
  · have hnone : [Signal.opened K.world.driver.connections.next].filter
        (·.concerns c (K.world.connection c).physical) = [] := by
      refine List.filter_eq_nil_iff.mpr fun s hs hcs => ?_
      obtain rfl := hopened s hs
      exact next_apart hK c hc (beq_iff_eq.mp hcs).symm
    show (w.connection c).life c finalizing = _
    rw [hadds.old c hc, hnone, List.append_nil]
  · -- the new connection begins its life with the line that was opened
    obtain rfl := ((hadds.known c).mp hc).resolve_left hn
    show K.world.pools.Known (w.connection _).pool
      ∧ ∃ finalizing, (w.connection _).life _ finalizing = _
    refine ⟨hadds.waiting.pool ▸ hp, false, ?_⟩
    show (w.connection _).life _ false = [Signal.opened _].filter
      (·.concerns K.world.connections.next (w.connection K.world.connections.next).physical)
    rw [hnew]
    refine (List.filter_eq_self.mpr fun s hs => ?_).symm
    obtain rfl := hopened s hs
    exact beq_self_eq_true _

/-- **Moves that the listeners of a pool are told of** add to no life. -/
theorem advances_of_round {v w : World} {pool : Pool} {p : PoolId} {hook : Hook}
    {due : Option PoolId} (hh : hook.connection? = none)
    (hv : v.connections = K.world.connections) (h : v.Unseen w) (hp : w.pools.Known p)
    (hstarted : ∀ s ∈ pool.round p hook, ∀ q, K.world.pools.Known q → s.starts q = false)
    (hdue : ∀ q, due = some q → w.pools.Known q ∧ (w.pool q).closed = true)
    (hpools : ∀ q, K.world.pools.Known q →
      (w.pool q).annals q (Custody.dismissed { K with world := w, due } q)
        = (K.world.pool q).annals q (K.dismissed q)
          ++ (pool.round p hook).filter (·.reaches q))
    (hnew : ∀ q, w.pools.Known q → ¬ K.world.pools.Known q →
      (w.pool q).annals q (Custody.dismissed { K with world := w, due } q)
        = (pool.round p hook).filter (·.reaches q)) :
    Advances K (pool.round p hook) { K with world := w, due } where
  concerned s hs c line hc := by
    rw [Pool.concerns_of_mem_round hs hh] at hc
    exact nomatch hc
  reached s hs q hq := by
    rw [Pool.reaches_of_mem_round hs] at hq
    exact beq_iff_eq.mp hq ▸ hp
  started := hstarted
  due := hdue
  pools := hpools
  newPools := hnew
  connections c _ finalizing := by
    have hnone : (pool.round p hook).filter
        (·.concerns c (K.world.connection c).physical) = [] :=
      List.filter_eq_nil_iff.mpr fun s hs =>
        ne_true_of_eq_false (Pool.concerns_of_mem_round hs hh c _)
    have hsame : v.connection c = K.world.connection c := congrArg (·.get c) hv
    rw [hnone, List.append_nil, ← hsame]
    exact ⟨finalizing, h.read (fun connection => connection.life c finalizing) (fun _ => rfl) c⟩
  newConnections c hc hn := by
    have hk := (h.sparesAll.known c).mp hc
    rw [hv] at hk
    exact absurd hk hn

/-- The annals of a pool end. -/
theorem advances_dismiss (hT : K.Told) {p : PoolId} (hd : K.due = some p) :
    Advances K ((K.world.pool p).round p .poolClosed)
      { K with world := K.world.tellListeners p .poolClosed, due := none } := by
  have hunseen := K.world.unseen_tellListeners p .poolClosed
  obtain ⟨w, hw⟩ : ∃ w, w = K.world.tellListeners p .poolClosed := ⟨_, rfl⟩
  rw [← hw] at hunseen ⊢
  have hknown : ∀ q, w.pools.Known q ↔ K.world.pools.Known q :=
    Registry.known_congr hunseen.pools_size
  obtain ⟨hp, hclosed⟩ := hT.due p hd
  have hpool : ∀ q, (w.pool q).charter = (K.world.pool q).charter :=
    hunseen.readPool Pool.charter fun _ => rfl
  have hdismissed : ∀ q, Custody.dismissed { K with world := w, due := none } q
      = (K.world.pool q).closed := by
    intro q
    show ((w.pool q).closed && _) = _
    rw [hunseen.readPool Pool.closed fun _ => rfl]
    exact Bool.and_true _
  refine advances_of_round rfl rfl hunseen ((hknown p).mpr hp) (fun s hs q _ => ?_)
    (fun q hq => nomatch hq) (fun q _ => ?_) (fun q hq hn => absurd ((hknown q).mp hq) hn)
  · obtain ⟨entry, -, rfl⟩ := List.mem_map.mp hs
    rfl
  · -- the pool that was due has nothing more to hear, the others hear nothing
    rw [hdismissed, annals_congr (hpool q)]
    by_cases hq : p = q
    · subst hq
      have hbefore : K.dismissed p = false := by
        rw [dismissed, hd]
        simp
      rw [hbefore, hclosed, Pool.filter_reaches_round]
      simp [Pool.annals]
    · have hbefore : K.dismissed q = (K.world.pool q).closed := by
        rw [dismissed, hd]
        simp [hq]
      rw [hbefore, Pool.filter_reaches_round_of_ne hq, List.append_nil]

/-- The annals of a pool begin. -/
theorem advances_found (hT : K.Told) {pool : Pool} (ho : pool.closed = false) :
    Advances K (pool.round K.world.pools.next .poolStarted) { K with
      world := ({ K.world with pools := K.world.pools.register pool } : World).tellListeners
        K.world.pools.next .poolStarted } := by
  obtain ⟨v, hv⟩ : ∃ v, v = ({ K.world with pools := K.world.pools.register pool } : World) :=
    ⟨_, rfl⟩
  have hunseen := v.unseen_tellListeners K.world.pools.next .poolStarted
  obtain ⟨w, hw⟩ : ∃ w, w = v.tellListeners K.world.pools.next .poolStarted := ⟨_, rfl⟩
  rw [← hw] at hunseen
  rw [← hv, ← hw]
  have hconnections : v.connections = K.world.connections := by rw [hv]
  have hknown : ∀ q, w.pools.Known q ↔ K.world.pools.Known q ∨ q = K.world.pools.next := by
    intro q
    rw [Registry.known_congr hunseen.pools_size, hv]
    exact Registry.known_register _ _ _
  have hnew : ∀ {β : Type} (read : Pool → β),
      (∀ pool : Pool, read pool.exterior = read pool) →
      read (w.pool K.world.pools.next) = read pool := by
    intro β read hr
    rw [hunseen.readPool read hr, hv]
    exact congrArg read (Registry.get_register_next _ _)
  have hold : ∀ {β : Type} (read : Pool → β),
      (∀ pool : Pool, read pool.exterior = read pool) →
      ∀ q, K.world.pools.Known q → read (w.pool q) = read (K.world.pool q) := by
    intro β read hr q hq
    rw [hunseen.readPool read hr, hv]
    exact congrArg read (Registry.get_register_of_known _ hq)
  have hfresh : ∀ q, K.world.pools.Known q → K.world.pools.next ≠ q := fun q => Registry.next_ne
  refine advances_of_round rfl hconnections hunseen ((hknown _).mpr (Or.inr rfl))
    (fun s hs q hq => ?_) (fun q hq => ?_) (fun q hq => ?_) (fun q hq hn => ?_)
  · refine Bool.eq_false_of_not_eq_true fun hst => hfresh q hq ?_
    have hr := Signal.reaches_of_starts hst
    rw [Pool.reaches_of_mem_round hs] at hr
    exact beq_iff_eq.mp hr
  · obtain ⟨hk, hclosed⟩ := hT.due q hq
    exact ⟨(hknown q).mpr (Or.inl hk), (hold Pool.closed (fun _ => rfl) q hk).trans hclosed⟩
  · have hdismissed : Custody.dismissed { K with world := w } q = K.dismissed q := by
      show ((w.pool q).closed && _) = _
      rw [hold Pool.closed (fun _ => rfl) q hq]
      rfl
    rw [Pool.filter_reaches_round_of_ne (hfresh q hq), List.append_nil, hdismissed,
      annals_congr (hold Pool.charter (fun _ => rfl) q hq)]
  · -- the annals of the new pool are the round that it starts with
    obtain rfl := ((hknown q).mp hq).resolve_left hn
    have hdismissed : Custody.dismissed { K with world := w } K.world.pools.next = false := by
      show ((w.pool K.world.pools.next).closed && _) = _
      rw [hnew Pool.closed fun _ => rfl, ho]
      rfl
    rw [Pool.filter_reaches_round, hdismissed, annals_congr (hnew Pool.charter fun _ => rfl)]
    exact List.append_nil _

/-- A pool that closes owes its listeners the news. -/
theorem advances_shut {p : PoolId} {f : Pool → Pool} (hd : K.due = none)
    (ho : (K.world.pool p).closed = false) (hc : ∀ pool, (f pool).charter = pool.charter)
    (hs : ∀ pool, (f pool).closed = true) {hands : Multiset ConnectionId} :
    Advances K [] { K with world := K.world.updatePool p f, hands, due := some p } := by
  have hp := K.world.known_of_pool_open ho
  refine advances_of_lives rfl (Registry.size_modify _ _ _) (fun q hq => ?_) (fun _ _ => rfl)
    (fun q => ⟨K.world.pool_updatePool_congr p f Pool.charter hc q, ?_⟩)
    fun _ hm => absurd hm List.not_mem_nil
  · cases hq
    refine ⟨(Registry.known_modify _ _ _ _).mpr hp, ?_⟩
    show ((K.world.updatePool p f).pool p).closed = true
    rw [World.pool_updatePool_self hp]
    exact hs _
  · -- the pool itself is closed, and its listeners do not know yet
    show (((K.world.updatePool p f).pool q).closed && decide (some p ≠ some q))
      = ((K.world.pool q).closed && decide (K.due ≠ some q))
    by_cases hq : p = q
    · subst hq
      simp [ho]
    · rw [World.pool_updatePool_of_ne hq, hd]
      simp [hq]

/-! ## The law of one move -/

/-- **What a move signals** is added to a life, to the annals of a pool, or to nothing. -/
theorem Move.advances (h : Move K l K') (hK : K.Kept) (hT : K.Told) : Advances K l K' := by
  have hnone : ∀ s ∈ ([] : List Signal), ∃ line, (s = .opened line ∨ s = .hungUp line)
      ∧ K'.world.driver.connections.Known line
      ∧ ∀ c, K.world.connections.Known c → (K.world.connection c).physical ≠ line :=
    fun _ hm => absurd hm List.not_mem_nil
  cases h with
  | still h =>
      exact advances_of_books hT rfl h.connections_size h.pools_size
        (fun c finalizing =>
          h.read (fun connection => connection.life c finalizing) (fun _ => rfl) c)
        (fun p => ⟨h.readPool Pool.charter (fun _ => rfl) p,
          h.readPool Pool.closed (fun _ => rfl) p⟩) hnone
  | @write p f hc hs hi =>
      exact advances_of_books hT rfl rfl (Registry.size_modify _ _ _) (fun _ _ => rfl)
        (fun q => ⟨K.world.pool_updatePool_congr p f Pool.charter hc q,
          K.world.pool_updatePool_congr p f Pool.closed hs q⟩) hnone
  | @strike p f l hc hs hi =>
      exact advances_of_books hT rfl rfl (Registry.size_modify _ _ _) (fun _ _ => rfl)
        (fun q => ⟨K.world.pool_updatePool_congr p f Pool.charter hc q,
          K.world.pool_updatePool_congr p f Pool.closed hs q⟩) hnone
  | shut _ hd ho hc hs _ => exact advances_shut hd ho hc hs
  | dismiss hd => exact advances_dismiss hT hd
  | @tearDown finalizing c hands hh hl =>
      have htorn := World.tornDown_teardown hl finalizing
      refine advances_of_alters hK hT htorn.alters hl.known ?_
        (fun s => Connection.of_of_mem_farewell) fun finalizing' =>
          ⟨finalizing, Connection.life_hungUp hl.unclosed finalizing finalizing'⟩
      rw [htorn.lines]
      exact Driver.size_connections_closeConnection _ _
  | enlist hp number => exact advances_enlist hK hT hp number _
  | misdial =>
      have hknown : (K.world.driver.openConnection.1.closeConnection
          K.world.driver.connections.next).connections.size
          = K.world.driver.connections.size + 1 :=
        (Driver.size_connections_closeConnection _ _).trans (Registry.size_register _ _)
      refine advances_of_books hT rfl rfl rfl (fun _ _ => rfl) (fun _ => ⟨rfl, rfl⟩) fun s hs =>
        ⟨K.world.driver.connections.next, ?_, ?_, next_apart hK⟩
      · simpa using hs
      · exact ⟨Nat.succ_ne_zero _, hknown.ge⟩
  | dial =>
      exact advances_of_books hT rfl rfl rfl (fun _ _ => rfl) (fun _ => ⟨rfl, rfl⟩) fun s hs =>
        ⟨K.world.driver.connections.next, Or.inl (List.mem_singleton.mp hs),
          (Registry.known_register _ _ _).mpr (Or.inr rfl), next_apart hK⟩
  | @cut line hl =>
      refine advances_of_books hT rfl rfl rfl (fun _ _ => rfl) (fun _ => ⟨rfl, rfl⟩) fun s hs =>
        ⟨line, ?_, ?_, fun c hc => hK.plugged.raw_apart line hl c hc⟩
      · split at hs
        · exact nomatch hs
        · exact Or.inr (List.mem_singleton.mp hs)
      · exact (Registry.known_congr (Driver.size_connections_closeConnection _ _) _).mpr
          (hK.plugged.raw_known line hl)
  | @handOut c hh hl =>
      have halters := ((World.Alters.refl K.world c).update hl.known
        (fun connection => { connection with
          metadata := connection.metadata.checkOut K.world.now }) fun _ => rfl).unseen
        (World.unseen_tellChain _ c (.attached c))
      refine advances_of_alters hK hT halters hl.known ?_
        (fun s => Connection.of_of_mem_welcome) fun finalizing => ⟨finalizing,
          Connection.life_checkOut hl.unclosed K.world.now finalizing⟩
      rw [(World.unseen_tellChain _ c (.attached c)).lines]
      rfl
  | @putBack c hands f hh hl ho hc hs hi =>
      have hlife : ∀ d finalizing, ((K.world.updateMetadata c fun metadata =>
          metadata.checkIn K.world.now).connection d).life d finalizing
            = (K.world.connection d).life d finalizing := fun d finalizing =>
        K.world.connection_updateConnection_congr c
          (fun connection => { connection with
            metadata := connection.metadata.checkIn K.world.now })
          (fun connection => connection.life d finalizing) (fun _ => rfl) d
      exact advances_of_books hT rfl (Registry.size_modify _ _ _) (Registry.size_modify _ _ _)
        hlife (fun q => ⟨World.pool_updatePool_congr _ _ f Pool.charter hc q,
          World.pool_updatePool_congr _ _ f Pool.closed hs q⟩) hnone
  | found ho => exact advances_found hT ho

/-- **A move leaves what is told told.** -/
theorem Move.told (h : Move K l K') (hK : K.Kept) (hT : K.Told) : K'.Told :=
  hT.advances hK h.emits h.continues (h.advances hK hT)

theorem Moves.told (h : Moves K l K') (hK : K.Kept) (hT : K.Told) : K'.Told := by
  induction h with
  | refl => exact hT
  | tail h hm ih => exact hm.told (h.kept hK) ih

end Custody

end ConnectionPool
