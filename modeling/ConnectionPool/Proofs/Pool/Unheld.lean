import ConnectionPool.Proofs.Pool.Fastening

/-!
# Stores that nobody holds

A store that nobody holds is not held again by anything that a pool does with its other
connections: hooks attach caches to the connection that they are about, and no other
(`World.acquire_found`). So when a store is held after a checkout, it was held all the time.
-/

set_option autoImplicit false

namespace ConnectionPool

namespace World

variable {w w' w'' : World} {c d : ConnectionId} {p : PoolId}

/-- **What nobody held goes on to be held by nobody.** -/
def StaysUnheld (c : ConnectionId) (w w' : World) : Prop :=
  w.connections.Known c → w'.connections.Known c ∧ (w.isHeld c = false → w'.isHeld c = false)

theorem StaysUnheld.refl (w : World) : StaysUnheld c w w := fun h => ⟨h, id⟩

theorem StaysUnheld.trans (h : StaysUnheld c w w') (h' : StaysUnheld c w' w'') :
    StaysUnheld c w w'' := fun hc =>
  ⟨(h' (h hc).1).1, fun hheld => (h' (h hc).1).2 ((h hc).2 hheld)⟩

/-- A store that is held afterwards was held before. -/
theorem StaysUnheld.isHeld (h : StaysUnheld c w w') (hc : w.connections.Known c)
    (hheld : w'.isHeld c = true) : w.isHeld c = true := by
  by_contra hno
  rw [(h hc).2 (Bool.eq_false_iff.mpr hno)] at hheld
  cases hheld

/-- Nothing happens to a connection, and no cache is attached to it. -/
theorem staysUnheld_of_bindings
    (hknown : w.connections.Known c → w'.connections.Known c)
    (htorn : w.connections.Known c →
      (w'.connection c).isTornDown = (w.connection c).isTornDown)
    (hshares : w'.shares = w.shares)
    (hbound : ∀ k binding, (w'.cache k).binding = some binding → binding.connection = c →
      (w.cache k).binding = some binding) : StaysUnheld c w w' := by
  refine fun hc => ⟨hknown hc, fun hheld => ?_⟩
  rw [isHeld_eq_false_iff] at hheld ⊢
  refine ⟨(htorn hc).trans hheld.1, hshares ▸ hheld.2.1, fun k binding hb he => ?_⟩
  exact hheld.2.2 k binding (hbound k binding hb he) he

theorem staysUnheld_updatePool (w : World) (p : PoolId) (f : Pool → Pool) :
    StaysUnheld c w (w.updatePool p f) :=
  staysUnheld_of_bindings id (fun _ => rfl) rfl fun _ _ hb _ => hb

/-- Something is written down about another connection. -/
theorem staysUnheld_updateConnection (h : d ≠ c) (w : World) (f : Connection → Connection) :
    StaysUnheld c w (w.updateConnection d f) := by
  refine staysUnheld_of_bindings (Registry.known_modify _ _ _ c).mpr (fun _ => ?_) rfl
    fun _ _ hb _ => hb
  rw [connection_updateConnection, if_neg fun hd => h hd.1]

/-- A deed after which caches are attached to what they were attached to before, to nothing or to
another connection. -/
theorem Rebinds.staysUnheld {Bound : Option Binding → Prop} {ks : List CacheId}
    (h : Rebinds Bound ks w w') (hu : w.Unseen w')
    (hbound : ∀ binding, Bound (some binding) → binding.connection ≠ c) : StaysUnheld c w w' := by
  refine staysUnheld_of_bindings (Registry.known_congr hu.connections_size c).mpr
    (fun _ => hu.read Connection.isTornDown (fun _ => rfl) c) hu.shares fun k binding hb he => ?_
  by_cases hk : k ∈ ks ∧ w.caches.Known k
  · have hinside := h.inside k hk.1 hk.2
    rw [hb] at hinside
    exact absurd he (hbound binding hinside)
  · by_cases hks : k ∈ ks
    · have hnot : ¬ w'.caches.Known k := fun hknown => hk ⟨hks, (h.known k).mp hknown⟩
      rw [cache, Registry.get_of_not_known hnot] at hb
      cases hb
    · rw [← h.outside k hks]
      exact hb

/-! ## Tearing other connections down -/

theorem staysUnheld_hangUp (h : d ≠ c) (w : World) : StaysUnheld c w (w.hangUp d) := by
  unfold hangUp
  split
  · exact .refl w
  · have hclosed := w.staysUnheld_updateConnection h
      fun connection => { connection with closed := true }
    exact hclosed.trans (staysUnheld_of_bindings id (fun _ => rfl) rfl fun _ _ hb _ => hb)

theorem staysUnheld_teardown (h : d ≠ c) (finalizing : Bool) (w : World) :
    StaysUnheld c w (teardown finalizing w d) := by
  obtain ⟨v, hv⟩ : ∃ v, v = w.updateMetadata d fun metadata => metadata.enter .closing := ⟨_, rfl⟩
  obtain ⟨u, hu⟩ : ∃ u, u = (v.tellChain d (.disconnected d finalizing)).hangUp d := ⟨_, rfl⟩
  have hclosing : StaysUnheld c w v := hv ▸ w.staysUnheld_updateConnection h _
  have htold : StaysUnheld c v (v.tellChain d (.disconnected d finalizing)) := by
    have hcalm := v.calm_tellDisconnected d finalizing
    have hrebinds : Rebinds (fun _ => False) [] v (v.tellChain d (.disconnected d finalizing)) :=
      hcalm.toTame.rebinds hcalm.caches
    exact hrebinds.staysUnheld (v.unseen_tellChain d _) fun _ hb => hb.elim
  have hdetached : StaysUnheld c u (u.tellChain d (.detached d)) :=
    (u.rebinds_tellDetached d).staysUnheld (u.unseen_tellChain d _)
      fun _ hb => absurd hb (Option.some_ne_none _)
  have hhung : StaysUnheld c (v.tellChain d (.disconnected d finalizing)) u :=
    hu ▸ staysUnheld_hangUp h _
  have hend := ((hclosing.trans htold).trans hhung).trans hdetached
  unfold teardown
  rw [hu, hv] at hend
  exact hend.trans (staysUnheld_updateConnection h _ _)

theorem isHeld_forgetAll (l : List ConnectionId) (w : World) (c : ConnectionId) :
    (l.foldl forget w).isHeld c = w.isHeld c :=
  forgetAll_rule (P := fun v => v.isHeld c = w.isHeld c) l rfl
    fun v d hv => (v.isHeld_forget d c).trans hv

/-- A connection is not torn down yet when its chain is told that it was closed. -/
theorem isTornDown_disconnecting {w : World} {c : ConnectionId} {finalizing : Bool}
    (hc : (((w.updateMetadata c fun metadata => metadata.enter .closing).tellChain c
      (.disconnected c finalizing)).hangUp c).connections.Known c) :
    ((((w.updateMetadata c fun metadata => metadata.enter .closing).tellChain c
      (.disconnected c finalizing)).hangUp c).connection c).isTornDown = false := by
  obtain ⟨v, hv⟩ : ∃ v, v = w.updateMetadata c fun metadata => metadata.enter .closing := ⟨_, rfl⟩
  have hunseen := v.unseen_tellChain c (.disconnected c finalizing)
  rw [← hv] at hc ⊢
  have hknown : w.connections.Known c := by
    rw [Registry.known_congr (size_connections_hangUp _ c),
      Registry.known_congr hunseen.connections_size, hv] at hc
    exact (Registry.known_modify _ _ _ c).mp hc
  have hstate : (((v.tellChain c (.disconnected c finalizing)).hangUp c).connection c).metadata
      = (v.connection c).metadata :=
    (connection_hangUp_congr _ c Connection.metadata (fun _ _ => rfl) c).trans
      (hunseen.read Connection.metadata (fun _ => rfl) c)
  rw [Connection.isTornDown, hstate, hv, updateMetadata, connection_updateConnection,
    if_pos ⟨rfl, hknown⟩]
  exact Bool.and_false _

theorem staysUnheld_forget (w : World) (d : ConnectionId) : StaysUnheld c w (w.forget d) :=
  fun hc => ⟨(Registry.known_congr (w.unseen_forget d).connections_size c).mpr hc,
    fun hheld => (w.isHeld_forget d c).trans hheld⟩

theorem staysUnheld_retire (h : d ≠ c) (w : World) : StaysUnheld c w (w.retire d) :=
  ((w.staysUnheld_updatePool _ _).trans (staysUnheld_teardown h false _)).trans
    (staysUnheld_forget _ d)

theorem size_connections_retire (w : World) (c : ConnectionId) :
    (w.retire c).connections.size = w.connections.size :=
  (unseen_forget _ c).connections_size.trans (lasts_size_connections.teardown false _ c)

/-! ## Handing connections out -/

/-- A connection that is opened is a new one, and so are its caches. -/
theorem openConnection_found (w : World) (p : PoolId) :
    StaysUnheld c w (w.openConnection p).1
      ∧ ∀ d, (w.openConnection p).2 = .ok d → ¬ w.connections.Known d := by
  obtain ⟨due, error, -, h⟩ | ⟨sources, error, -, h⟩
    | ⟨v, chain, sources, number, -, hequipped, -, h⟩ := w.openConnection_cases p <;> rw [h]
  · exact ⟨staysUnheld_of_bindings id (fun _ => rfl) rfl fun _ _ hb _ => hb, fun _ h => nomatch h⟩
  · exact ⟨staysUnheld_of_bindings id (fun _ => rfl) rfl fun _ _ hb _ => hb, fun _ h => nomatch h⟩
  · refine ⟨StaysUnheld.trans ?_ ((staysUnheld_updatePool _ _ _).trans
      (staysUnheld_updatePool _ _ _)), fun d hd => ?_⟩
    · refine staysUnheld_of_bindings (fun hc => (Registry.known_register _ _ _).mpr (Or.inl hc))
        (fun hc => ?_) rfl fun k binding hb _ => ?_
      · exact congrArg Connection.isTornDown (Registry.get_register_of_known _ hc)
      · by_cases hk : w.caches.Known k
        · exact (congrArg StatementCache.binding (hequipped.caches_known k hk).2).symm.trans hb
        · have hnone : (v.cache k).binding = none := hequipped.caches_new k hk
          exact nomatch hnone.symm.trans hb
    · cases hd
      exact w.connections.not_known_next

theorem extend_found (w : World) (p : PoolId) :
    StaysUnheld c w (w.extend p).1
      ∧ ∀ d, (w.extend p).2 = .ok d → ¬ w.connections.Known d := by
  unfold extend
  simp only
  split
  · exact ⟨.refl w, fun _ h => nomatch h⟩
  · obtain ⟨hopened, hnew⟩ := openConnection_found (c := c) (w.updatePool p fun pool =>
      { pool with total := pool.total + 1, inUse := pool.inUse + 1 }) p
    have hboth := (w.staysUnheld_updatePool p _).trans hopened
    split
    · next hw =>
        rw [hw] at hboth hnew
        exact ⟨hboth, hnew⟩
    · next hw =>
        rw [hw] at hboth
        exact ⟨hboth.trans (staysUnheld_updatePool _ p _), fun _ h => nomatch h⟩

/-- **Looking for a connection to hand out** does nothing for connections that are not looked at.
What is found is one that was looked at, or a new one. -/
theorem acquire_found (p : PoolId) (l : List ConnectionId) :
    ∀ w : World, (c ∉ l → StaysUnheld c w (acquire p l w).1)
      ∧ ∀ d, (acquire p l w).2 = .ok d → d ∈ l ∨ ¬ w.connections.Known d := by
  induction l with
  | nil =>
      intro w
      obtain ⟨hstays, hnew⟩ := w.extend_found (c := c) p
      exact ⟨fun _ => hstays, fun d hd => Or.inr (hnew d hd)⟩
  | cons d rest ih =>
      intro w
      unfold acquire
      simp only
      split
      · obtain ⟨hstays, hfound⟩ := ih ((w.updatePool p fun pool =>
          { pool with idle := rest, inUse := pool.inUse + 1 }).retire d)
        refine ⟨fun hc => ?_, fun e he => (hfound e he).imp (List.mem_cons_of_mem d) fun hno hk => ?_⟩
        · rw [List.mem_cons, not_or] at hc
          exact ((w.staysUnheld_updatePool p _).trans
            (staysUnheld_retire (fun hd => hc.1 hd.symm) _)).trans (hstays hc.2)
        · exact hno ((Registry.known_congr (size_connections_retire _ d) e).mpr hk)
      · refine ⟨fun _ => w.staysUnheld_updatePool p _, fun e he => ?_⟩
        cases he
        exact Or.inl List.mem_cons_self

/-- When a connection is handed out, the others get no holder. -/
theorem staysUnheld_handOut (h : d ≠ c) (w : World) :
    StaysUnheld c w ((w.updateMetadata d fun metadata => metadata.checkOut w.now).tellChain d
      (.attached d)) := by
  obtain ⟨v, hv⟩ : ∃ v, v = w.updateMetadata d fun metadata => metadata.checkOut w.now := ⟨_, rfl⟩
  have hmeta : StaysUnheld c w v := hv ▸ w.staysUnheld_updateConnection h _
  rw [← hv]
  refine hmeta.trans ((v.rebinds_tellAttached d).staysUnheld (v.unseen_tellChain d _) fun binding hb => ?_)
  obtain ⟨n, hn⟩ := hb
  cases hn
  exact h

end World

end ConnectionPool
