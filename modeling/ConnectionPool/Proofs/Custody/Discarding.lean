import ConnectionPool.Proofs.Custody.Operations
import ConnectionPool.Proofs.Custody.Placement
import Mathlib.Data.List.TakeWhile

/-!
# Idle connections that a checkout passes over

A pool that tests its idle connections takes those that are not valid out, one after the other
and the one returned last first, until it finds a valid one. `World.passedOver` are these
connections and `World.remaining` the others. When the search has come to its end, the connections
that were passed over are gone, each has said farewell in its turn, and the books of the pool are
those without them (`acquire_passedOver`). Nothing else has happened.
-/

set_option autoImplicit false

namespace ConnectionPool

namespace World

/-- **An idle connection that a pool does not hand out**: idle connections are tested, and this
one is not valid. -/
def unfit (w : World) (p : PoolId) (c : ConnectionId) : Bool :=
  (w.pool p).config.testOnCheckout && !w.isConnectionValid c

/-- The idle connections that a checkout passes over, the one returned last first. -/
def passedOver (w : World) (p : PoolId) : List ConnectionId :=
  (w.pool p).idle.takeWhile (w.unfit p)

/-- The idle connections from the first on that can be handed out. -/
def remaining (w : World) (p : PoolId) : List ConnectionId :=
  (w.pool p).idle.dropWhile (w.unfit p)

/-- The farewells of some connections, one after the other. -/
def farewells (w : World) (l : List ConnectionId) : List Signal :=
  l.flatMap fun c => (w.connection c).farewell c false

theorem passedOver_append_remaining (w : World) (p : PoolId) :
    w.passedOver p ++ w.remaining p = (w.pool p).idle :=
  List.takeWhile_append_dropWhile

theorem mem_idle_of_passedOver {w : World} {p : PoolId} {c : ConnectionId}
    (hc : c ∈ w.passedOver p) : c ∈ (w.pool p).idle :=
  w.passedOver_append_remaining p ▸ List.mem_append_left _ hc

theorem mem_idle_of_remaining {w : World} {p : PoolId} {c : ConnectionId}
    (hc : c ∈ w.remaining p) : c ∈ (w.pool p).idle :=
  w.passedOver_append_remaining p ▸ List.mem_append_right _ hc

/-- The first connection that remains can be handed out. -/
theorem fit_of_remaining {w : World} {p : PoolId} {c : ConnectionId} {rest : List ConnectionId}
    (hr : w.remaining p = c :: rest) : w.unfit p c = false := by
  have hhead := (w.pool p).idle.find?_not_eq_head?_dropWhile (w.unfit p)
  rw [show (w.pool p).idle.dropWhile (w.unfit p) = c :: rest from hr, List.head?_cons] at hhead
  simpa using List.find?_some hhead

/-- A pool that does not test its idle connections passes none over. -/
theorem passedOver_of_untested {w : World} {p : PoolId}
    (h : (w.pool p).config.testOnCheckout = false) :
    w.passedOver p = [] ∧ w.remaining p = (w.pool p).idle := by
  have hfit : w.unfit p = fun _ => false := by
    funext c
    rw [unfit, h, Bool.false_and]
  rw [passedOver, remaining, hfit]
  cases (w.pool p).idle <;> exact ⟨rfl, rfl⟩

/-- **Idle connections of a pool were discarded**, those of `l`, and `rest` still wait. -/
structure Discarded (p : PoolId) (l rest : List ConnectionId) (w w' : World) : Prop where
  now : w'.now = w.now
  faults : w'.driver.faults = w.driver.faults
  lines_size : w'.driver.connections.size = w.driver.connections.size
  connections_size : w'.connections.size = w.connections.size
  pools_size : w'.pools.size = w.pools.size
  books : (w'.pool p).exterior
    = ({ w.pool p with idle := rest, total := (w.pool p).total - l.length } : Pool).exterior
  pools : ∀ q, q ≠ p → (w'.pool q).exterior = (w.pool q).exterior
  gone : ∀ c ∈ l, (w'.connection c).exterior = ((w.connection c).hungUp.enter .closed).exterior
  others : ∀ d, d ∉ l → (w'.connection d).exterior = (w.connection d).exterior
  lines : ∀ line, (w'.driver.connection line).closed = true
    ↔ (∃ c ∈ l, (w.connection c).physical = line) ∨ (w.driver.connection line).closed = true
  emits : Emits (w.farewells l) w w'

variable {w w' w'' : World} {p : PoolId} {c : ConnectionId} {l l' rest rest' : List ConnectionId}
  {out : Multiset ConnectionId} {raw : PhysicalConnectionId → Prop}

theorem Discarded.none (hidle : (w.pool p).idle = rest) : Discarded p [] rest w w where
  now := rfl
  faults := rfl
  lines_size := rfl
  connections_size := rfl
  pools_size := rfl
  books := by rw [← hidle]; rfl
  pools _ _ := rfl
  gone _ hc := absurd hc List.not_mem_nil
  others _ _ := rfl
  lines _ := by simp
  emits := .refl w

/-- A connection that was discarded keeps its line, its number and whatever else it is. -/
theorem Discarded.read {β : Type} (h : Discarded p l rest w w') (read : Connection → β)
    (hr : ∀ connection : Connection, read connection.exterior = read connection)
    (hg : ∀ connection : Connection, read (connection.hungUp.enter .closed) = read connection)
    (d : ConnectionId) : read (w'.connection d) = read (w.connection d) := by
  by_cases hd : d ∈ l
  · exact (read_congr (h.gone d hd) read hr).trans (hg _)
  · exact read_congr (h.others d hd) read hr

theorem Discarded.trans (h : Discarded p l rest w w') (h' : Discarded p l' rest' w' w'')
    (hd : l.Disjoint l') : Discarded p (l ++ l') rest' w w'' where
  now := h'.now.trans h.now
  faults := h'.faults.trans h.faults
  lines_size := h'.lines_size.trans h.lines_size
  connections_size := h'.connections_size.trans h.connections_size
  pools_size := h'.pools_size.trans h.pools_size
  books := by
    have hbooks := read_congr h.books (fun pool =>
      ({ pool with idle := rest', total := pool.total - l'.length } : Pool).exterior) fun _ => rfl
    rw [h'.books, hbooks, List.length_append, ← Nat.sub_sub]
  pools q hq := (h'.pools q hq).trans (h.pools q hq)
  gone c hc := by
    rcases List.mem_append.mp hc with hc | hc
    · exact (h'.others c fun hc' => hd hc hc').trans (h.gone c hc)
    · have hbefore := h.others c fun hc' => hd hc' hc
      exact (h'.gone c hc).trans (read_congr hbefore (fun connection =>
        (connection.hungUp.enter .closed).exterior) fun _ => rfl)
  others d hm := by
    rw [List.mem_append, not_or] at hm
    exact (h'.others d hm.2).trans (h.others d hm.1)
  lines line := by
    have hphysical := h.read Connection.physical (fun _ => rfl) fun _ => rfl
    rw [h'.lines line, h.lines line]
    simp only [hphysical, List.mem_append, or_and_right, exists_or]
    exact or_left_comm.trans or_assoc.symm
  emits := by
    have hsame : w'.farewells l' = w.farewells l' :=
      List.flatMap_congr fun c hc => read_congr (h.others c fun hc' => hd hc' hc)
        (fun connection => connection.farewell c false) fun _ => rfl
    have hboth := h.emits.trans h'.emits
    rw [hsame, farewells, farewells, ← List.flatMap_append] at hboth
    exact hboth

/-- What interceptors do afterwards makes no difference. -/
theorem Discarded.deeds (h : Discarded p l rest w w') (hd : Deeds w' w'') :
    Discarded p l rest w w'' where
  now := hd.unseen.now.trans h.now
  faults := hd.unseen.faults.trans h.faults
  lines_size := (congrArg Registry.size hd.unseen.lines).trans h.lines_size
  connections_size := hd.unseen.connections_size.trans h.connections_size
  pools_size := hd.unseen.pools_size.trans h.pools_size
  books := (hd.unseen.pool p).trans h.books
  pools q hq := (hd.unseen.pool q).trans (h.pools q hq)
  gone c hc := (hd.unseen.connection c).trans (h.gone c hc)
  others d hm := (hd.unseen.connection d).trans (h.others d hm)
  lines line := by
    rw [Driver.connection, hd.unseen.lines]
    exact h.lines line
  emits := by
    have hsaid := h.emits.trans hd.emits
    rwa [List.append_nil] at hsaid

/-- The line of a connection that was not discarded is as before: no two connections share one. -/
theorem Discarded.line_of_notMem (h : Discarded p l rest w w') (hplug : w.Plugged raw)
    (hl : ∀ c ∈ l, w.connections.Known c) {d : ConnectionId} (hd : d ∉ l)
    (hk : w.connections.Known d) :
    (w'.driver.connection (w.connection d).physical).closed
      = (w.driver.connection (w.connection d).physical).closed := by
  rw [Bool.eq_iff_iff, h.lines, or_iff_right_iff_imp]
  rintro ⟨c, hc, he⟩
  exact absurd (hplug.injective c d (hl c hc) hk he ▸ hc) hd

/-- Whether another connection is fit to be handed out is the same as before. -/
theorem Discarded.unfit (h : Discarded p l rest w w') (hplug : w.Plugged raw)
    (hl : ∀ c ∈ l, w.connections.Known c) {d : ConnectionId} (hd : d ∉ l)
    (hk : w.connections.Known d) : w'.unfit p d = w.unfit p d := by
  have hconfig : (w'.pool p).config = (w.pool p).config :=
    read_congr h.books Pool.config fun _ => rfl
  have hclosed : (w'.connection d).closed = (w.connection d).closed :=
    read_congr (h.others d hd) Connection.closed fun _ => rfl
  have hphysical : (w'.connection d).physical = (w.connection d).physical :=
    read_congr (h.others d hd) Connection.physical fun _ => rfl
  have hline := h.line_of_notMem hplug hl hd hk
  rw [World.unfit, World.unfit, isConnectionValid, isConnectionValid, Driver.isValid,
    Driver.isValid, hconfig, hclosed, hphysical, hline, h.faults]

/-! ## One connection -/

theorem now_teardown (w : World) (c : ConnectionId) (finalizing : Bool) :
    (teardown finalizing w c).now = w.now := by
  refine (lasts_read World.now Unseen.now (fun _ _ _ => rfl) fun w c => ?_).teardown finalizing w c
  unfold hangUp
  split <;> rfl

theorem faults_teardown (w : World) (c : ConnectionId) (finalizing : Bool) :
    (teardown finalizing w c).driver.faults = w.driver.faults := by
  refine (lasts_read (fun w => w.driver.faults) Unseen.faults (fun _ _ _ => rfl)
    fun w c => ?_).teardown finalizing w c
  unfold hangUp
  split
  · rfl
  · exact faults_closeConnection w.driver _

/-- The idle connection at the front is taken out of the list of the pool. -/
def takeIdle (w : World) (p : PoolId) (rest : List ConnectionId) : World :=
  w.updatePool p fun pool => { pool with idle := rest, inUse := pool.inUse + 1 }

/-- **One idle connection is discarded.** -/
theorem discarded_retire (hp : w.pools.Known p) (hwaits : w.Waiting p c)
    (rest : List ConnectionId) :
    Discarded p [c] rest w ((w.takeIdle p rest).retire c) := by
  obtain ⟨v, hv⟩ : ∃ v, v = (w.takeIdle p rest).freeSlot p := ⟨_, rfl⟩
  have hretire : (w.takeIdle p rest).retire c = (teardown false v c).forget c := by
    have hpool : ((w.takeIdle p rest).connection c).pool = p := hwaits.pool
    rw [retire, hpool, hv]
  have hlive : v.Live c := by
    rw [hv]
    exact (hwaits.live.updatePool p _).updatePool p _
  have hself : v.pool p
      = { w.pool p with idle := rest, total := (w.pool p).total - 1 } := by
    rw [hv, freeSlot, pool_updatePool_self ((Registry.known_modify _ _ _ _).mpr hp), takeIdle,
      pool_updatePool_self hp]
    rfl
  have hother : ∀ q, q ≠ p → v.pool q = w.pool q := by
    intro q hq
    rw [hv, freeSlot, pool_updatePool_of_ne hq.symm, takeIdle, pool_updatePool_of_ne hq.symm]
  have htorn := tornDown_teardown hlive false
  rw [hretire]
  refine Discarded.deeds ?_ (deeds_forget _ c)
  exact
    { now := by rw [now_teardown, hv]; rfl
      faults := by rw [faults_teardown, hv]; rfl
      lines_size := by
        rw [htorn.lines, Driver.size_connections_closeConnection, hv]
        rfl
      connections_size := by rw [htorn.alters.connections_size, hv]; rfl
      pools_size := by
        rw [htorn.alters.pools_size, hv]
        exact (Registry.size_modify _ _ _).trans (Registry.size_modify _ _ _)
      books := by rw [htorn.alters.pool, hself]; rfl
      pools := fun q hq => by rw [htorn.alters.pool, hother q hq]
      gone := fun d hd => by
        rw [List.mem_singleton.mp hd, htorn.alters.self, hv]
        rfl
      others := fun d hd => by
        rw [htorn.alters.other d fun he => hd (List.mem_singleton.mpr he), hv]
        rfl
      lines := fun line => by
        rw [htorn.closed_line, Bool.or_eq_true, decide_eq_true_eq, hv]
        simp only [List.mem_singleton, exists_eq_left]
        exact Iff.rfl
      emits := by
        have hfreed : Emits [] w v := emits_none (by rw [hv]; rfl) (by rw [hv]; rfl)
        have hsaid := hfreed.trans htorn.emits
        rw [hv] at hsaid ⊢
        simp only [farewells, List.flatMap_cons, List.flatMap_nil, List.append_nil]
        exact hsaid }

/-! ## The search -/

/-- A connection is tested after it was taken out of the list, which makes no difference. -/
theorem unfit_takeIdle (w : World) (p : PoolId) (rest : List ConnectionId) (c : ConnectionId) :
    (w.takeIdle p rest).unfit p c = w.unfit p c := by
  have hconfig : ((w.takeIdle p rest).pool p).config = (w.pool p).config :=
    w.pool_updatePool_congr p (fun pool => { pool with idle := rest, inUse := pool.inUse + 1 })
      Pool.config (fun _ => rfl) p
  rw [unfit, unfit, hconfig]
  rfl

/-- Where the first idle connection is fit, it is the one. -/
theorem acquire_of_fit (hfit : w.unfit p c = false) :
    acquire p (c :: rest) w = (w.takeIdle p rest, .ok c) := by
  rw [← w.unfit_takeIdle p rest c] at hfit
  show (if (w.takeIdle p rest).unfit p c = true then _ else _) = _
  rw [hfit]
  rfl

/-- Where it is not, it is discarded, and the search goes on. -/
theorem acquire_of_unfit (hunfit : w.unfit p c = true) :
    acquire p (c :: rest) w = acquire p rest ((w.takeIdle p rest).retire c) := by
  rw [← w.unfit_takeIdle p rest c] at hunfit
  show (if (w.takeIdle p rest).unfit p c = true then _ else _) = _
  rw [hunfit]
  rfl

/-- **What is left of a search** once some connections were discarded: a world with balanced books
in which it goes on among the others. -/
structure SearchedTo (raw : PhysicalConnectionId → Prop) (out : Multiset ConnectionId) (p : PoolId)
    (l rest : List ConnectionId) (w w' : World) : Prop where
  discarded : Discarded p l rest w w'
  balanced : w'.Balanced out
  plugged : w'.Plugged raw
  search : World.acquire p (l ++ rest) w = World.acquire p rest w'

/-- **Connections that are unfit are discarded in order.** The induction is on these; those that
come later are unfit still. -/
theorem searchedTo (l : List ConnectionId) : ∀ {w : World}, w.Balanced out → w.Plugged raw →
    w.pools.Known p → (w.pool p).idle = l ++ rest → (∀ c ∈ l, w.unfit p c = true) →
    ∃ w', SearchedTo raw out p l rest w w' := by
  induction l with
  | nil => exact fun {w} hw hplug _ hidle _ => ⟨w, .none hidle, hw, hplug, rfl⟩
  | cons c l ih =>
      intro w hw hplug hp hidle hunfit
      have hmem : ∀ d ∈ c :: l, d ∈ (w.pool p).idle := fun d hd => by
        rw [hidle]
        exact List.mem_append_left _ hd
      have hknown : ∀ d ∈ c :: l, w.connections.Known d := fun d hd =>
        (hw.waiting p d (hmem d hd)).live.known
      have hnodup := hw.idle_nodup p
      rw [hidle, List.cons_append] at hnodup
      have hc : c ∉ l := fun hc =>
        (List.nodup_cons.mp hnodup).1 (List.mem_append_left _ hc)
      have hwaits := hw.waiting p c (hmem c List.mem_cons_self)
      have hfirst := discarded_retire hp hwaits (l ++ rest)
      have htaken : (w.takeIdle p (l ++ rest)).Balanced (c ::ₘ out) := hw.take hidle
      have hdone := htaken.retire (hplug.updatePool p _)
      obtain ⟨w', hsearched⟩ := ih (w := (w.takeIdle p (l ++ rest)).retire c) hdone.balanced
        hdone.plugged ((Registry.known_congr hfirst.pools_size p).mpr hp)
        (read_congr hfirst.books Pool.idle fun _ => rfl) fun d hd => by
          rw [hfirst.unfit hplug
            (fun e he => List.mem_singleton.mp he ▸ hknown c List.mem_cons_self)
            (fun he => hc (List.mem_singleton.mp he ▸ hd)) (hknown d (List.mem_cons_of_mem c hd))]
          exact hunfit d (List.mem_cons_of_mem c hd)
      refine ⟨w', hfirst.trans hsearched.discarded (List.singleton_disjoint.mpr hc),
        hsearched.balanced, hsearched.plugged, ?_⟩
      rw [List.cons_append, acquire_of_unfit (hunfit c List.mem_cons_self), hsearched.search]

/-- **A checkout passes the unfit connections over.** -/
theorem searchedTo_remaining (hw : w.Balanced out) (hplug : w.Plugged raw)
    (hp : w.pools.Known p) :
    ∃ w', SearchedTo raw out p (w.passedOver p) (w.remaining p) w w' :=
  searchedTo (w.passedOver p) hw hplug hp (w.passedOver_append_remaining p).symm
    fun _ hc => List.mem_takeWhile_imp hc

end World

end ConnectionPool
