import ConnectionPool.Proofs.Chain.Conduct
import ConnectionPool.Proofs.Holding.Passing

/-!
# What calls and pools pass on

A call gives its caller the statement that it is answered with, and nothing else leaves the chain
(`passes_perform`). Telling interceptors something, and whatever a pool does with its connections,
gives nobody anything: what is parked on a connection is closed when it is torn down.
-/

set_option autoImplicit false

namespace ConnectionPool

namespace World

variable {w w' : World} {c : ConnectionId} {p : PoolId}

/-! ## Calls -/

/-- The handles in the answer to a call. -/
def handlesAnswered : Answer → Multiset Statement
  | .ok (.statement handle) => {handle}
  | _ => 0

theorem handlesAnswered_of_ne {answer : Answer} (h : ∀ handle, answer ≠ .ok (.statement handle)) :
    handlesAnswered answer = 0 := by
  match answer, h with
  | .error _, _ => rfl
  | .ok (.truth _), _ => rfl
  | .ok (.statement handle), h => exact absurd rfl (h handle)

theorem passes_ask (w : World) (c : ConnectionId) (call : Call) :
    Passes w 0 (w.ask c call).1 (handlesAnswered (w.ask c call).2) := by
  obtain ⟨h, hnone⟩ | ⟨_, _, _, -, -, -, -, h⟩ := w.ask_cases c call
  · rw [h, handlesAnswered_of_ne hnone]
    exact .refl w 0
  · rw [h]
    exact w.passes_issue _ _

section Links

variable {next : Call → World → World × Answer}
  (hnext : ∀ (call : Call) (w : World),
    Passes w 0 (next call w).1 (handlesAnswered (next call w).2))

include hnext

theorem passes_fill (k : CacheId) (call : Call) (w : World) :
    Passes w 0 (fill k next call w).1 (handlesAnswered (fill k next call w).2) := by
  have h := hnext call w
  unfold fill
  split
  · next v handle hn =>
      rw [hn] at h
      have hwrap := v.passes_wrapPrepared k handle call
      split
      · next hw =>
          rw [hw] at hwrap
          exact h.trans hwrap
      · next hw =>
          rw [hw] at hwrap
          exact h.trans hwrap
  · exact h

theorem passes_serve (k : CacheId) (call : Call) (w : World) :
    Passes w 0 (serve k next call w).1 (handlesAnswered (serve k next call w).2) := by
  unfold serve
  split
  · have hfetch := w.passes_fetch k call
    split
    · next hf =>
        rw [hf] at hfetch
        exact hfetch
    · next v hf =>
        rw [hf] at hfetch
        exact hfetch.trans (passes_fill hnext k call v)
    · next v tracked hf =>
        rw [hf] at hfetch
        have hwrap := v.passes_wrap k tracked
        split
        · next hw =>
            rw [hw] at hwrap
            exact hfetch.trans hwrap
        · next hw =>
            rw [hw] at hwrap
            exact (hfetch.trans hwrap).trans (passes_fill hnext k call _)
  · exact hnext call w

theorem passes_handle (interceptor : Interceptor) (call : Call) (w : World) :
    Passes w 0 (handle interceptor next call w).1
      (handlesAnswered (handle interceptor next call w).2) := by
  cases interceptor.conduct call with
  | serves k hk h =>
      rw [h]
      exact passes_serve hnext k call w
  | handsOn passed hk hon hm h =>
      rw [h]
      exact hnext passed w
  | supplies hk hon hs h =>
      rw [h]
      exact w.passes_issue { sql := "answered" } fun id => .prepared id "answered"
  | answers answer hk hon hne h =>
      rw [h, handlesAnswered_of_ne hne]
      exact .refl w 0

end Links

/-- The induction is on the interceptors that the call has still to pass. -/
theorem passes_send (c : ConnectionId) (chain : List Interceptor) :
    ∀ (position : Nat) (call : Call) (w : World),
      Passes w 0 (send c chain position call w).1
        (handlesAnswered (send c chain position call w).2) := by
  induction chain with
  | nil => exact fun _ call w => w.passes_ask c call
  | cons interceptor rest ih =>
      intro position call w
      have hentered := w.passes_note (.link c position) interceptor
        (.enter call rest.length (w.connection c).metadata.number)
      have hhandled := passes_handle (ih (position + 1)) interceptor call
        (w.note (.link c position) interceptor
          (.enter call rest.length (w.connection c).metadata.number))
      exact (hentered.trans hhandled).trans ((passes_note _ _ _ _).beside _)

/-- **A call gives its caller the statement that it is answered with.** -/
theorem passes_perform (w : World) (c : ConnectionId) (call : Call) :
    Passes w 0 (w.perform c call).1 (handlesAnswered (w.perform c call).2) :=
  passes_send c _ 0 call w

/-! ## Hooks -/

theorem passes_react (p : PoolId) (interceptor : Interceptor) (hook : Hook) (w : World) :
    Passes w 0 (react p interceptor hook w) 0 := by
  unfold react
  split
  · exact w.passes_startCounting p
  · exact passes_of_parkedHandles rfl fun _ => id
  · exact w.passes_attach _ p _
  · exact w.passes_drain _ p _
  · exact w.passes_rebind _ none
  · exact .refl w 0

theorem passes_tell (p : PoolId) (hook : Hook) (receiver : Nat → Receiver)
    (interceptors : List Interceptor) (w : World) :
    Passes w 0 (tell p hook receiver interceptors w) 0 := by
  unfold tell
  induction interceptors.zipIdx generalizing w with
  | nil => exact .refl w 0
  | cons entry rest ih =>
      exact ((w.passes_note _ _ _).trans (passes_react p entry.1 hook _)).trans (ih _)

theorem passes_tellChain (w : World) (c : ConnectionId) (hook : Hook) :
    Passes w 0 (w.tellChain c hook) 0 :=
  passes_tell _ hook _ _ w

theorem passes_tellListeners (w : World) (p : PoolId) (hook : Hook) :
    Passes w 0 (w.tellListeners p hook) 0 :=
  passes_tell p hook _ _ w

/-! ## Pools -/

/-- A change of the books passes nothing on. -/
theorem SameCaching.passes (h : w.SameCaching w') : Passes w 0 w' 0 :=
  passes_of_parkedHandles (parkedHandles_congr h.connections_size h.store) fun id hid => by
    rw [h.statements]
    exact hid

theorem passes_updateMetadata (w : World) (c : ConnectionId) (change : Metadata → Metadata) :
    Passes w 0 (w.updateMetadata c change) 0 :=
  (w.sameCaching_updateMetadata c change).passes

theorem passes_share (w : World) (c : ConnectionId) : Passes w 0 (w.share c) 0 :=
  passes_of_parkedHandles rfl fun _ => id

theorem passes_unshare (w : World) (c : ConnectionId) : Passes w 0 (w.unshare c) 0 := by
  have herase : Passes w 0 { w with shares := w.shares.erase c } 0 :=
    passes_of_parkedHandles rfl fun _ => id
  exact herase.trans (passes_forget _ c)

theorem passes_updatePool (w : World) (p : PoolId) (change : Pool → Pool) :
    Passes w 0 (w.updatePool p change) 0 :=
  passes_of_parkedHandles rfl fun _ => id

theorem passes_hangUp (w : World) (c : ConnectionId) : Passes w 0 (w.hangUp c) 0 := by
  unfold hangUp
  split
  · exact .refl w 0
  · have hclosed : Passes w 0
        (w.updateConnection c fun connection => { connection with closed := true }) 0 :=
      passes_of_parkedHandles
        (parkedHandles_congr (Registry.size_modify _ _ _) (w.store_setClosed c)) fun _ => id
    exact hclosed.trans (passes_driver _ fun _ hid => by
      rw [← Driver.statements_closeConnection] at hid
      exact hid)

theorem passes_teardown (finalizing : Bool) (w : World) (c : ConnectionId) :
    Passes w 0 (teardown finalizing w c) 0 := by
  have hclosing := w.passes_updateMetadata c fun metadata => metadata.enter .closing
  have htold := hclosing.trans (passes_tellChain _ c (.disconnected c finalizing))
  have hhung := htold.trans (passes_hangUp _ c)
  have hdetached := hhung.trans (passes_tellChain _ c (.detached c))
  exact hdetached.trans (passes_updateMetadata _ c fun metadata => metadata.enter .closed)

theorem passes_teardownAll (finalizing : Bool) (l : List ConnectionId) :
    ∀ w : World, Passes w 0 (l.foldl (teardown finalizing) w) 0 := by
  induction l with
  | nil => exact fun w => .refl w 0
  | cons c rest ih => exact fun w => (passes_teardown finalizing w c).trans (ih _)

theorem passes_forgetAll (l : List ConnectionId) (w : World) :
    Passes w 0 (l.foldl forget w) 0 :=
  forgetAll_rule (P := fun v => Passes w 0 v 0) l (.refl w 0)
    fun v c hv => hv.trans (v.passes_forget c)

theorem passes_retire (w : World) (c : ConnectionId) : Passes w 0 (w.retire c) 0 :=
  ((w.passes_updatePool _ _).trans (passes_teardown false _ c)).trans (passes_forget _ c)

theorem passes_checkIn (w : World) (c : ConnectionId) : Passes w 0 (w.checkIn c) 0 := by
  unfold checkIn
  simp only
  split
  · exact w.passes_retire c
  · exact (w.passes_updateMetadata c _).trans (passes_updatePool _ _ _)

/-- On a connection that is opened nothing is parked. -/
theorem passes_openConnection (w : World) (p : PoolId) : Passes w 0 (w.openConnection p).1 0 := by
  obtain ⟨due, error, -, h⟩ | ⟨sources, error, -, h⟩ | ⟨v, chain, sources, number, -, -, -, h⟩ :=
    w.openConnection_cases p <;> rw [h]
  · exact w.passes_driver fun _ => id
  · refine Passes.trans (w.passes_driver fun id hid => ?_) (passes_updatePool _ _ _)
    rw [Driver.statements_closeConnection]
    exact hid
  · refine Passes.trans ?_ ((passes_updatePool _ _ _).trans (passes_updatePool _ _ _))
    refine passes_of_parkedHandles ?_ fun _ => id
    exact (total_register { w with
      driver := w.driver.openConnection.1, caches := v.caches } _ _).trans (add_zero _)

theorem passes_extend (w : World) (p : PoolId) : Passes w 0 (w.extend p).1 0 := by
  unfold extend
  simp only
  split
  · exact .refl w 0
  · have htook := (w.passes_updatePool p fun pool =>
      { pool with total := pool.total + 1, inUse := pool.inUse + 1 }).trans
        (passes_openConnection _ p)
    split
    · next hv =>
        rw [hv] at htook
        exact htook
    · next hv =>
        rw [hv] at htook
        exact htook.trans (passes_updatePool _ p _)

theorem passes_acquire (p : PoolId) (l : List ConnectionId) :
    ∀ w : World, Passes w 0 (acquire p l w).1 0 := by
  induction l with
  | nil => exact fun w => w.passes_extend p
  | cons c rest ih =>
      intro w
      unfold acquire
      simp only
      split
      · exact ((w.passes_updatePool p _).trans (passes_retire _ c)).trans (ih _)
      · exact w.passes_updatePool p _

theorem passes_checkOut (w : World) (p : PoolId) : Passes w 0 (w.checkOut p).1 0 := by
  unfold checkOut
  split
  · exact .refl w 0
  · have hacquire := passes_acquire p (w.pool p).idle w
    split
    · next hv =>
        rw [hv] at hacquire
        exact hacquire
    · next hv =>
        rw [hv] at hacquire
        exact hacquire.trans ((passes_updateMetadata _ _ _).trans (passes_tellChain _ _ _))

theorem passes_sweep (w : World) (p : PoolId) : Passes w 0 (w.sweep p).1 0 :=
  ((w.passes_updatePool p _).trans (passes_teardownAll false (w.expired p) _)).trans
    (passes_forgetAll _ _)

theorem passes_shutDown (w : World) (p : PoolId) : Passes w 0 (w.shutDown p) 0 := by
  unfold shutDown
  split
  · exact .refl w 0
  · exact (((w.passes_updatePool p _).trans (passes_teardownAll true _ _)).trans
      (passes_tellListeners _ p _)).trans (passes_forgetAll _ _)

theorem passes_startPool (w : World) (config : PoolConfig) :
    Passes w 0 (w.startPool config).1 0 := by
  obtain ⟨error, h⟩ | ⟨sources, h⟩ := w.startPool_cases config
  · rw [h]
    exact .refl w 0
  · rw [h]
    have hfounded : Passes w 0 (w.founded config sources) 0 :=
      passes_of_parkedHandles rfl fun _ => id
    exact hfounded.trans (passes_tellListeners _ _ _)

end World

end ConnectionPool
