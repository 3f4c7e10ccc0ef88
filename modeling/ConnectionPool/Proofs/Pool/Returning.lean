import ConnectionPool.Proofs.Pool.Balance

/-!
# Returning connections keeps the books

A connection that leaves a pool is struck off before it is torn down. The books are therefore
balanced again when its interceptors are told, and what they see of the pool adds up without it
(`World.Reports`). This holds of a connection that is returned or taken out, of the idle ones
that are too old, and of those that a pool tears down when it closes.

No subtraction from the numbers of a pool is cut off at zero (`World.CanFree` and its like, one
for each operation).
-/

set_option autoImplicit false

namespace ConnectionPool

/-- Whether a hook says that a connection is handed out. -/
def Hook.isAttachment : Hook → Bool
  | attached _ => true
  | _ => false

namespace World

/-- A receiver that belongs to a pool. -/
def Belongs (w : World) (p : PoolId) : Receiver → Prop
  | .listener q _ => q = p
  | .link c _ => w.connections.Known c ∧ (w.connection c).pool = p

/-- **What is seen of a pool adds up** with `n` connections checked out. -/
structure Reports (w : World) (p : PoolId) (n : Nat) (attaching : Bool) (receiver : Receiver)
    (hook : Hook) (sight : Sight) : Prop where
  belongs : w.Belongs p receiver
  attaching : hook.isAttachment = attaching
  sums : sight.status.Sums n

/-- **What an operation leaves alone**: pools and connections that there were stay where they
are, and those that are checked out stay as they are. -/
structure Undisturbed (out : Multiset ConnectionId) (w w' : World) : Prop where
  pools : ∀ p, w.pools.Known p → w'.pools.Known p
  connections : ∀ c, w.connections.Known c →
    w'.connections.Known c ∧ (w'.connection c).pool = (w.connection c).pool
  state : ∀ c ∈ out, (w'.connection c).metadata.state = (w.connection c).metadata.state

section Undisturbed

variable {out : Multiset ConnectionId} {w w' w'' : World} {gone : ConnectionId → Prop}

theorem Undisturbed.refl (w : World) : Undisturbed out w w where
  pools _ h := h
  connections _ h := ⟨h, rfl⟩
  state _ _ := rfl

theorem Undisturbed.trans (h : Undisturbed out w w') (h' : Undisturbed out w' w'') :
    Undisturbed out w w'' where
  pools p hp := h'.pools p (h.pools p hp)
  connections c hc := by
    obtain ⟨hk, hp⟩ := h.connections c hc
    obtain ⟨hk', hp'⟩ := h'.connections c hk
    exact ⟨hk', hp'.trans hp⟩
  state c hc := (h'.state c hc).trans (h.state c hc)

theorem Undisturbed.belongs (h : Undisturbed out w w') {p : PoolId} {receiver : Receiver}
    (hr : w.Belongs p receiver) : w'.Belongs p receiver := by
  cases receiver with
  | listener q position => exact hr
  | link c position =>
      obtain ⟨hk, hp⟩ := h.connections c hr.1
      exact ⟨hk, hp.trans hr.2⟩

theorem Undisturbed.reports (h : Undisturbed out w w') {p : PoolId} {n : Nat} {attaching : Bool}
    {receiver : Receiver} {hook : Hook} {sight : Sight}
    (hr : w.Reports p n attaching receiver hook sight) :
    w'.Reports p n attaching receiver hook sight :=
  ⟨h.belongs hr.belongs, hr.attaching, hr.sums⟩

theorem undisturbed_updatePool (w : World) (p : PoolId) (f : Pool → Pool) :
    Undisturbed out w (w.updatePool p f) where
  pools _ h := (Registry.known_modify _ _ _ _).mpr h
  connections _ h := ⟨h, rfl⟩
  state _ _ := rfl

theorem Undisturbed.taken (h : Undisturbed out w w')
    (hout : ∀ c ∈ out, w.connections.Known c) (p : PoolId) : w'.taken out p = w.taken out p := by
  unfold World.taken
  apply Multiset.countP_congr rfl
  intro c hc
  rw [(h.connections c (hout c hc)).2]

theorem Unseen.undisturbed (h : w.Unseen w') : Undisturbed out w w' where
  pools p := (Registry.known_congr h.pools_size p).mpr
  connections c hc := ⟨(h.sparesAll.known c).mpr hc,
    h.read Connection.pool (fun _ => rfl) c⟩
  state c _ := h.read (fun connection => connection.metadata.state) (fun _ => rfl) c

end Undisturbed

/-! ## Writing in the books -/

section Books

variable {w : World} {out out' : Multiset ConnectionId} {p q : PoolId} {c : ConnectionId}
  {raw : PhysicalConnectionId → Prop}

theorem pool_updatePool_self (hp : w.pools.Known p) (f : Pool → Pool) :
    (w.updatePool p f).pool p = f (w.pool p) := by
  rw [pool_updatePool, if_pos ⟨rfl, hp⟩]

theorem pool_updatePool_of_ne (h : p ≠ q) (f : Pool → Pool) :
    (w.updatePool p f).pool q = w.pool q :=
  w.pools.get_modify_of_ne f h

theorem taken_cons_self (w : World) (c : ConnectionId) (out : Multiset ConnectionId) :
    w.taken (c ::ₘ out) (w.connection c).pool = w.taken out (w.connection c).pool + 1 :=
  Multiset.countP_cons_of_pos _ rfl

theorem taken_cons_of_ne (h : (w.connection c).pool ≠ p) (out : Multiset ConnectionId) :
    w.taken (c ::ₘ out) p = w.taken out p :=
  Multiset.countP_cons_of_neg _ h

/-- A pool that was never started has no connections. -/
theorem known_of_inUse (h : (w.pool p).inUse ≠ 0) : w.pools.Known p := by
  by_contra hk
  rw [pool, Registry.get_of_not_known hk] at h
  exact h rfl

theorem Balanced.known_pool (hw : w.Balanced (c ::ₘ out)) :
    w.pools.Known (w.connection c).pool := by
  apply known_of_inUse
  have hsums := (hw.sums (w.connection c).pool).inUse
  rw [taken_cons_self] at hsums
  change (w.pool (w.connection c).pool).inUse = _ at hsums
  omega

theorem known_of_idle (h : c ∈ (w.pool p).idle) : w.pools.Known p := by
  by_contra hk
  rw [pool, Registry.get_of_not_known hk] at h
  cases h

theorem Plugged.updatePool (hw : w.Plugged raw) (p : PoolId) (f : Pool → Pool) :
    (w.updatePool p f).Plugged raw :=
  ⟨hw.known, hw.injective, hw.raw_known, hw.raw_apart⟩

/-- **Writing in the books of one pool.** What is new must add up, and it must not make anything
wait that is checked out. -/
theorem Balanced.write (hw : w.Balanced out) (hp : w.pools.Known p) {f : Pool → Pool}
    (hnodup : out'.Nodup) (hlive : ∀ c ∈ out', w.Live c)
    (hother : ∀ q, p ≠ q → w.taken out' q = w.taken out q)
    (hapart : ∀ q, p ≠ q → ∀ c ∈ (w.pool q).idle, c ∉ out')
    (hsums : (f (w.pool p)).status.Sums (w.taken out' p)) (hidle : (f (w.pool p)).idle.Nodup)
    (hwaiting : ∀ c ∈ (f (w.pool p)).idle, w.Waiting p c ∧ c ∉ out') :
    (w.updatePool p f).Balanced out' := by
  -- a pool is the one that is written, or one that is left as it is
  have hcases : ∀ {P : PoolId → Pool → Prop}, P p (f (w.pool p)) →
      (∀ q, p ≠ q → P q (w.pool q)) → ∀ q, P q ((w.updatePool p f).pool q) := by
    intro P hself hne q
    by_cases hq : p = q
    · subst hq
      rwa [pool_updatePool_self hp]
    · rw [pool_updatePool_of_ne hq]
      exact hne q hq
  exact
    { sums := hcases (P := fun q pool => pool.status.Sums (w.taken out' q)) hsums fun q hq => by
        rw [hother q hq]
        exact hw.sums q
      out_nodup := hnodup
      out_live := fun c hc => ⟨(hlive c hc).known, (hlive c hc).unclosed, (hlive c hc).line⟩
      idle_nodup := hcases (P := fun _ pool => pool.idle.Nodup) hidle fun q _ => hw.idle_nodup q
      waiting := by
        have hwaits : ∀ q, ∀ c ∈ ((w.updatePool p f).pool q).idle, w.Waiting q c :=
          hcases (P := fun q pool => ∀ c ∈ pool.idle, w.Waiting q c)
            (fun c hc => (hwaiting c hc).1) fun q _ => hw.waiting q
        intro q c hc
        obtain ⟨hpool, hlive, hstate⟩ := hwaits q c hc
        exact ⟨hpool, hlive.updatePool _ _, hstate⟩
      apart := hcases (P := fun _ pool => ∀ c ∈ pool.idle, c ∉ out')
        (fun c hc => (hwaiting c hc).2) hapart }

/-- Some of the idle connections of a pool are struck off. -/
theorem Balanced.strike (hw : w.Balanced out) {f : Pool → Pool}
    (hsub : (f (w.pool p)).idle.Sublist (w.pool p).idle)
    (hsums : (f (w.pool p)).status.Sums (w.taken out p)) : (w.updatePool p f).Balanced out := by
  by_cases hp : w.pools.Known p
  · exact hw.write hp hw.out_nodup hw.out_live (fun _ _ => rfl) (fun q _ => hw.apart q) hsums
      ((hw.idle_nodup p).sublist hsub)
      fun c hc => ⟨hw.waiting p c (hsub.subset hc), hw.apart p c (hsub.subset hc)⟩
  · -- a pool that was never started has no books
    have hsame : ∀ q, (w.updatePool p f).pool q = w.pool q := by
      intro q
      rw [pool_updatePool, if_neg]
      rintro ⟨rfl, hq⟩
      exact hp hq
    have hspared : SparesAll w (w.updatePool p f) :=
      { Spares.refl w with
        idle := fun q => by rw [hsame]
        status := fun q => by rw [hsame]
        config := fun q => by rw [hsame]
        live := fun c _ hl => hl.updatePool _ _ }
    exact hw.sparesAll hspared

end Books

/-! ## Tearing down what is struck off -/

section Teardown

variable {w : World} {out : Multiset ConnectionId} {p : PoolId} {c : ConnectionId}
  {raw : PhysicalConnectionId → Prop}

theorem Spares.undisturbed {gone : ConnectionId → Prop} {w' : World} (h : Spares gone w w')
    (hp : w'.pools.size = w.pools.size) (hout : ∀ c ∈ out, ¬ gone c) : Undisturbed out w w' where
  pools p := (Registry.known_congr hp p).mpr
  connections c hc := ⟨(h.known c).mpr hc, h.pool c⟩
  state c hc := h.state c (hout c hc)

theorem size_pools_hangUp (w : World) (c : ConnectionId) :
    (w.hangUp c).pools.size = w.pools.size := by
  unfold hangUp
  split <;> rfl

theorem size_pools_teardown (w : World) (c : ConnectionId) (finalizing : Bool) :
    (teardown finalizing w c).pools.size = w.pools.size :=
  (lasts_read (fun w => w.pools.size) Unseen.pools_size (fun _ _ _ => rfl)
    size_pools_hangUp).teardown finalizing w c

/-- **What is seen while a connection is torn down** are the numbers that its pool had before, and
it is seen in that pool only. -/
theorem seen_teardown (hw : w.Plugged raw) (hc : w.connections.Known c) (finalizing : Bool) :
    Heard (fun receiver hook sight => w.Belongs (w.connection c).pool receiver
        ∧ hook.isAttachment = false ∧ sight.status = (w.pool (w.connection c).pool).status) w
      (teardown finalizing w c) := by
  have hclosing := w.spares_updateMetadata c fun metadata => metadata.enter .closing
  have htold := hclosing.trans (unseen_tellChain _ c (.disconnected c finalizing)).spares
  have hhung := htold.trans (spares_hangUp (hw.spares htold) ((htold.known c).mpr hc))
  -- a hook that the chain is told when nothing but the connection has changed
  have htell : ∀ {v : World} {hook : Hook}, Spares (· = c) w v → hook.isAttachment = false →
      Heard (fun receiver hook sight => w.Belongs (w.connection c).pool receiver
        ∧ hook.isAttachment = false ∧ sight.status = (w.pool (w.connection c).pool).status) v
        (v.tellChain c hook) := by
    intro v hook hv hhook
    refine (v.heard_tellChain c hook).mono fun receiver hook' sight hr => ?_
    obtain ⟨⟨position, rfl⟩, rfl, hstatus⟩ := hr
    rw [hv.status, hv.pool] at hstatus
    exact ⟨⟨hc, rfl⟩, hhook, hstatus⟩
  have hquiet : ∀ v : World, v.Quiet (v.hangUp c) := by
    intro v
    apply heard_of_journal
    unfold hangUp
    split <;> rfl
  exact (htell hclosing rfl).trans ((hquiet _).heard.trans (htell hhung rfl))

theorem seen_teardownAll {l : List ConnectionId} (finalizing : Bool) :
    ∀ {w : World}, w.Plugged raw → (∀ c ∈ l, w.connections.Known c ∧ (w.connection c).pool = p) →
      Heard (fun receiver hook sight => w.Belongs p receiver ∧ hook.isAttachment = false
        ∧ sight.status = (w.pool p).status) w (l.foldl (teardown finalizing) w) := by
  induction l with
  | nil => exact fun _ _ => .refl _
  | cons c rest ih =>
      intro w hw hl
      obtain ⟨hc, rfl⟩ := hl c List.mem_cons_self
      have hspared := spares_teardown hw hc finalizing
      have hrest := ih (hw.spares hspared) fun d hd => by
        obtain ⟨hk, hp⟩ := hl d (List.mem_cons_of_mem _ hd)
        exact ⟨(hspared.known d).mpr hk, (hspared.pool d).trans hp⟩
      refine (seen_teardown hw hc finalizing).trans
        (hrest.mono fun receiver hook sight hr => ?_)
      obtain ⟨hbelongs, hattaching, hstatus⟩ := hr
      refine ⟨?_, hattaching, hstatus.trans (hspared.status _)⟩
      cases receiver with
      | listener q position => exact hbelongs
      | link d position => exact ⟨(hspared.known d).mp hbelongs.1, (hspared.pool d) ▸ hbelongs.2⟩

/-- What is seen while connections are torn down adds up. -/
theorem heard_teardownAll {l : List ConnectionId} {n : Nat} (finalizing : Bool) {w : World}
    (hw : w.Plugged raw) (hn : (w.pool p).status.Sums n)
    (hl : ∀ c ∈ l, w.connections.Known c ∧ (w.connection c).pool = p) :
    Heard (w.Reports p n false) w (l.foldl (teardown finalizing) w) :=
  (seen_teardownAll finalizing hw hl).mono fun _ _ _ hr => ⟨hr.1, hr.2.1, hr.2.2 ▸ hn⟩

/-- The result of an operation of a pool: the books are balanced, everything else is where it
was, and what was seen meanwhile adds up. -/
structure Done (raw : PhysicalConnectionId → Prop) (out : Multiset ConnectionId) (p : PoolId)
    (w w' : World) : Prop where
  balanced : w'.Balanced out
  plugged : w'.Plugged raw
  undisturbed : Undisturbed out w w'
  heard : Heard (w'.Reports p (w.taken out p) false) w w'

/-- **Connections that were struck off are torn down.** -/
theorem Balanced.teardownAll (hw : w.Balanced out) (hp : w.Plugged raw) {l : List ConnectionId}
    (hl : ∀ c ∈ l, w.connections.Known c ∧ (w.connection c).pool = p)
    (hout : ∀ c ∈ l, c ∉ out) (hidle : ∀ c ∈ l, ∀ q, c ∉ (w.pool q).idle) (finalizing : Bool) :
    Done raw out p w (l.foldl (teardown finalizing) w) := by
  have hspared := spares_teardownAll finalizing hp fun c hc => (hl c hc).1
  have hsize : ∀ (l : List ConnectionId) (v : World),
      (l.foldl (teardown finalizing) v).pools.size = v.pools.size := by
    intro l
    induction l with
    | nil => exact fun _ => rfl
    | cons c rest ih => exact fun v => (ih _).trans (size_pools_teardown v c finalizing)
  have hundisturbed : Undisturbed out w (l.foldl (teardown finalizing) w) :=
    hspared.undisturbed (hsize l w) fun c hc hgone => hout c hgone hc
  exact
    { balanced := hw.spares hspared (fun c hc hgone => absurd hc (hout c hgone))
        fun q c hc hgone => hidle c hgone q hc
      plugged := hp.spares hspared
      undisturbed := hundisturbed
      heard := (heard_teardownAll finalizing hp (hw.sums p) hl).mono
        fun _ _ _ => hundisturbed.reports }

theorem Done.after_write {w' : World} {f : Pool → Pool}
    (h : Done raw out p (w.updatePool p f) w') : Done raw out p w w' :=
  { h with undisturbed := (undisturbed_updatePool w p f).trans h.undisturbed }

/-- What happens within the chains after an operation changes nothing about its result. -/
theorem Done.tail {w' w'' : World} (h : Done raw out p w w') (hd : Deeds w' w'') :
    Done raw out p w w'' := by
  have hundisturbed : Undisturbed out w' w'' := hd.unseen.undisturbed
  exact
    { balanced := h.balanced.sparesAll hd.unseen.sparesAll
      plugged := h.plugged.spares hd.unseen.sparesAll
      undisturbed := h.undisturbed.trans hundisturbed
      heard := (h.heard.mono fun _ _ _ => hundisturbed.reports).trans hd.quiet.heard }

end Teardown

/-! ## Returning -/

section Returning

variable {w : World} {out : Multiset ConnectionId} {p : PoolId} {c : ConnectionId}
  {raw : PhysicalConnectionId → Prop}

/-- Neither subtraction is cut off when a connection in use is taken off the numbers. -/
def CanFree (w : World) (p : PoolId) : Prop := 1 ≤ (w.pool p).total ∧ 1 ≤ (w.pool p).inUse

/-- No subtraction is cut off when a connection is taken out of its pool. -/
def CanRetire (w : World) (c : ConnectionId) : Prop := w.CanFree (w.connection c).pool

/-- No subtraction is cut off when a connection is returned. -/
def CanCheckIn (w : World) (c : ConnectionId) : Prop :=
  if (w.pool (w.connection c).pool).closed || (w.connection c).metadata.state.isTerminal then
    w.CanRetire c
  else 1 ≤ (w.pool (w.connection c).pool).inUse

/-- No subtraction is cut off when connections that are too old are taken out. -/
def CanSweep (w : World) (p : PoolId) : Prop := (w.expired p).length ≤ (w.pool p).total

/-- No subtraction is cut off when a pool closes. -/
def CanShutDown (w : World) (p : PoolId) : Prop :=
  (w.pool p).closed = false → (w.pool p).idle.length ≤ (w.pool p).total

theorem Balanced.canRetire (hw : w.Balanced (c ::ₘ out)) : w.CanRetire c := by
  obtain ⟨htotal, -, hinUse⟩ := hw.sums (w.connection c).pool
  rw [taken_cons_self] at hinUse
  simp only [Pool.status] at htotal hinUse
  constructor <;> omega

theorem Balanced.canCheckIn (hw : w.Balanced (c ::ₘ out)) : w.CanCheckIn c := by
  have hretire := hw.canRetire
  unfold CanCheckIn
  split
  · exact hretire
  · exact hretire.2

theorem Balanced.canSweep (hw : w.Balanced out) (p : PoolId) : w.CanSweep p := by
  have htotal := (hw.sums p).total
  have hfilter : ((w.pool p).idle.filter (w.isExpired p)).length ≤ (w.pool p).idle.length :=
    List.length_filter_le _ _
  simp only [Pool.status] at htotal
  simp only [CanSweep, expired, List.length_reverse]
  omega

theorem Balanced.canShutDown (hw : w.Balanced out) (p : PoolId) : w.CanShutDown p := by
  intro _
  have htotal := (hw.sums p).total
  simp only [Pool.status] at htotal
  omega

/-- A connection that is checked out is taken off the numbers. -/
theorem Balanced.free (hw : w.Balanced (c ::ₘ out)) :
    (w.freeSlot (w.connection c).pool).Balanced out := by
  have hsums := hw.sums (w.connection c).pool
  obtain ⟨hnotin, hnodup⟩ := Multiset.nodup_cons.mp hw.out_nodup
  refine hw.write hw.known_pool hnodup
    (fun d hd => hw.out_live d (Multiset.mem_cons_of_mem hd))
    (fun q hq => (taken_cons_of_ne hq out).symm)
    (fun q _ d hd hout => hw.apart q d hd (Multiset.mem_cons_of_mem hout)) ?_
    (hw.idle_nodup _)
    fun d hd => ⟨hw.waiting _ d hd, fun hout => hw.apart _ d hd (Multiset.mem_cons_of_mem hout)⟩
  obtain ⟨htotal, hlimit, hinUse⟩ := hsums
  rw [taken_cons_self] at hinUse
  simp only [Pool.status] at htotal hlimit hinUse
  constructor <;> simp only [Pool.status] <;> omega

theorem idle_freeSlot (w : World) (p q : PoolId) : ((w.freeSlot p).pool q).idle = (w.pool q).idle :=
  w.pool_updatePool_congr p (fun pool =>
    { pool with total := pool.total - 1, inUse := pool.inUse - 1 }) Pool.idle (fun _ => rfl) q

/-- When a connection is retired the others stay as they are. -/
theorem spares_retire (hw : w.Plugged raw) (hc : w.connections.Known c) :
    Spares (· = c) (w.freeSlot (w.connection c).pool) (w.retire c) :=
  (spares_teardown (w := w.freeSlot (w.connection c).pool) (hw.updatePool _ _) hc false).trans
    (unseen_forget _ c).spares

theorem idle_retire (hw : w.Plugged raw) (hc : w.connections.Known c) (q : PoolId) :
    ((w.retire c).pool q).idle = (w.pool q).idle :=
  ((spares_retire hw hc).idle q).trans (w.idle_freeSlot _ q)

/-- **Taking a connection out of its pool.** -/
theorem Balanced.retire (hw : w.Balanced (c ::ₘ out)) (hp : w.Plugged raw) :
    Done raw out (w.connection c).pool w (w.retire c) := by
  have hfree := hw.free
  obtain ⟨hnotin, -⟩ := Multiset.nodup_cons.mp hw.out_nodup
  have hknown := (hw.out_live c (Multiset.mem_cons_self c out)).known
  have hidle : ∀ q, c ∉ ((w.freeSlot (w.connection c).pool).pool q).idle := by
    intro q hc
    rw [idle_freeSlot] at hc
    exact hw.apart q c hc (Multiset.mem_cons_self c out)
  have htorn := (hfree.teardownAll (hp.updatePool _ _) (l := [c]) (p := (w.connection c).pool)
    (by rintro d hd; obtain rfl := List.mem_singleton.mp hd; exact ⟨hknown, rfl⟩)
    (by rintro d hd; obtain rfl := List.mem_singleton.mp hd; exact hnotin)
    (by rintro d hd; obtain rfl := List.mem_singleton.mp hd; exact hidle) false).after_write
  exact htorn.tail (deeds_forget _ c)

/-- The record of a connection that is checked out is changed. -/
theorem Balanced.updateMetadata (hw : w.Balanced out) (hc : c ∈ out) (f : Metadata → Metadata) :
    (w.updateMetadata c f).Balanced out := by
  refine hw.spares (w.spares_updateMetadata c f) ?_ ?_
  · rintro d hd rfl
    have hlive := hw.out_live d hd
    have hkept : ∀ {β : Type} (read : Connection → β),
        (∀ connection metadata, read { connection with metadata } = read connection) →
        read ((w.updateMetadata d f).connection d) = read (w.connection d) :=
      fun read hr => w.connection_updateConnection_congr d
        (fun connection => { connection with metadata := f connection.metadata }) read
        (fun _ => hr _ _) d
    refine ⟨(Registry.known_modify _ _ _ _).mpr hlive.known, ?_, ?_⟩
    · rw [hkept Connection.closed fun _ _ => rfl]
      exact hlive.unclosed
    · rw [hkept Connection.physical fun _ _ => rfl]
      exact hlive.line
  · rintro p d hd rfl
    exact hw.apart p d hd hc

/-- **Returning a connection to its pool.** -/
theorem Balanced.checkIn (hw : w.Balanced (c ::ₘ out)) (hp : w.Plugged raw) :
    Done raw out (w.connection c).pool w (w.checkIn c) := by
  unfold World.checkIn
  simp only
  split
  · exact hw.retire hp
  · have hspared := w.spares_updateMetadata c fun metadata => metadata.checkIn w.now
    obtain ⟨v, hv⟩ : ∃ v, v = w.updateMetadata c fun metadata => metadata.checkIn w.now := ⟨_, rfl⟩
    rw [← hv] at hspared ⊢
    have hbalanced : v.Balanced (c ::ₘ out) := by
      rw [hv]
      exact hw.updateMetadata (Multiset.mem_cons_self c out) _
    have hpool : (v.connection c).pool = (w.connection c).pool := hspared.pool c
    have hlive := hbalanced.out_live c (Multiset.mem_cons_self c out)
    have hstate : (v.connection c).metadata.state = .idle := by
      have hc := (hw.out_live c (Multiset.mem_cons_self c out)).known
      rw [hv, World.updateMetadata, connection_updateConnection, if_pos ⟨rfl, hc⟩]
      rfl
    obtain ⟨hnotin, hnodup⟩ := Multiset.nodup_cons.mp hw.out_nodup
    have hsums := hbalanced.sums (v.connection c).pool
    rw [← hpool]
    refine
      { balanced := hbalanced.write hbalanced.known_pool hnodup
          (fun d hd => hbalanced.out_live d (Multiset.mem_cons_of_mem hd))
          (fun q hq => (taken_cons_of_ne hq out).symm)
          (fun q _ d hd hout => hbalanced.apart q d hd (Multiset.mem_cons_of_mem hout)) ?_ ?_ ?_
        plugged := (hp.spares hspared).updatePool _ _
        undisturbed := (hspared.undisturbed (by rw [hv]; rfl) fun d hd he =>
          hnotin (he ▸ hd)).trans (undisturbed_updatePool _ _ _)
        heard := heard_of_journal (by rw [hv]; rfl) }
    · obtain ⟨htotal, hlimit, hinUse⟩ := hsums
      rw [taken_cons_self] at hinUse
      simp only [Pool.status] at htotal hlimit hinUse
      constructor <;> simp only [Pool.status, List.length_cons] <;> omega
    · exact List.nodup_cons.mpr
        ⟨fun hc => hbalanced.apart _ c hc (Multiset.mem_cons_self c out), hbalanced.idle_nodup _⟩
    · intro d hd
      rcases List.mem_cons.mp hd with rfl | hd
      · exact ⟨⟨rfl, hlive, hstate⟩, hnotin⟩
      · exact ⟨hbalanced.waiting _ d hd, fun hout =>
          hbalanced.apart _ d hd (Multiset.mem_cons_of_mem hout)⟩

/-- Some of the idle connections of a pool are struck off and torn down. -/
theorem Balanced.dismiss (hw : w.Balanced out) (hp : w.Plugged raw) {f : Pool → Pool}
    {l : List ConnectionId} (hl : ∀ c ∈ l, c ∈ (w.pool p).idle)
    (hgone : ∀ c ∈ l, c ∉ (f (w.pool p)).idle)
    (hsub : (f (w.pool p)).idle.Sublist (w.pool p).idle)
    (hsums : (f (w.pool p)).status.Sums (w.taken out p)) (finalizing : Bool) :
    Done raw out p w (l.foldl (World.teardown finalizing) (w.updatePool p f)) := by
  refine ((hw.strike hsub hsums).teardownAll (hp.updatePool p f) (p := p) ?_ ?_ ?_
    finalizing).after_write
  · intro c hc
    have hwaits := hw.waiting p c (hl c hc)
    exact ⟨hwaits.live.known, hwaits.pool⟩
  · exact fun c hc => hw.apart p c (hl c hc)
  · intro c hc q hq
    by_cases hpq : p = q
    · subst hpq
      rw [pool_updatePool_self (known_of_idle (hl c hc))] at hq
      exact hgone c hc hq
    · -- an idle connection is in the list of its own pool only
      rw [pool_updatePool_of_ne hpq] at hq
      exact hpq ((hw.waiting p c (hl c hc)).pool.symm.trans (hw.waiting q c hq).pool)

/-- **Taking out the connections that are too old.** -/
theorem Balanced.sweep (hw : w.Balanced out) (hp : w.Plugged raw) (p : PoolId) :
    Done raw out p w (w.sweep p).1 := by
  have hlength : (w.expired p).length
      + ((w.pool p).idle.filter fun c => !w.isExpired p c).length = (w.pool p).idle.length := by
    rw [expired, List.length_reverse]
    exact (List.length_eq_length_filter_add (w.isExpired p)).symm
  have hidle : ∀ c ∈ w.expired p, c ∈ (w.pool p).idle ∧ w.isExpired p c = true := by
    intro c hc
    rw [expired, List.mem_reverse] at hc
    exact List.mem_filter.mp hc
  have hdone : Done raw out p w ((w.expired p).foldl (World.teardown false)
      (w.updatePool p fun pool => { pool with
        idle := pool.idle.filter fun c => !w.isExpired p c
        total := pool.total - (w.expired p).length })) := by
    refine hw.dismiss hp (fun c hc => (hidle c hc).1) ?_ List.filter_sublist ?_ false
    · intro c hc hkept
      have hyoung := (List.mem_filter.mp hkept).2
      rw [(hidle c hc).2] at hyoung
      cases hyoung
    · obtain ⟨htotal, hlimit, hinUse⟩ := hw.sums p
      simp only [Pool.status] at htotal hlimit hinUse
      constructor <;> simp only [Pool.status] <;> omega
  exact hdone.tail (deeds_forgetAll _ _)

/-- A pool is closed once. -/
theorem shutDown_of_closed (h : (w.pool p).closed = true) : w.shutDown p = w := by
  rw [World.shutDown, if_pos h]

/-- **Closing a pool.** -/
theorem Balanced.shutDown (hw : w.Balanced out) (hp : w.Plugged raw) (p : PoolId) :
    Done raw out p w (w.shutDown p) := by
  unfold World.shutDown
  split
  · exact ⟨hw, hp, .refl w, .refl w⟩
  · obtain ⟨v, hv⟩ : ∃ v, v = (w.pool p).idle.reverse.foldl (World.teardown true)
        (w.updatePool p fun pool => { pool with
          closed := true, idle := [], total := pool.total - (w.pool p).idle.reverse.length }) :=
      ⟨_, rfl⟩
    have hdone : Done raw out p w v := by
      rw [hv]
      refine hw.dismiss hp (fun c hc => List.mem_reverse.mp hc) (fun _ _ => List.not_mem_nil)
        (List.nil_sublist _) ?_ true
      obtain ⟨htotal, hlimit, hinUse⟩ := hw.sums p
      simp only [Pool.status] at htotal hlimit hinUse
      constructor <;> simp only [Pool.status, List.length_reverse, List.length_nil] <;> omega
    have htell := v.unseen_tellListeners p .poolClosed
    have htold : Undisturbed out v (v.tellListeners p .poolClosed) := htell.undisturbed
    have hall : Done raw out p w (v.tellListeners p .poolClosed) := by
      refine
        { balanced := hdone.balanced.sparesAll htell.sparesAll
          plugged := hdone.plugged.spares htell.sparesAll
          undisturbed := hdone.undisturbed.trans htold
          heard := (hdone.heard.mono fun _ _ _ => htold.reports).trans
            ((heard_tellListeners v p .poolClosed).mono fun receiver hook sight hr => ?_) }
      obtain ⟨⟨position, rfl⟩, rfl, hstatus⟩ := hr
      have hsums := hdone.balanced.sums p
      rw [hdone.undisturbed.taken fun c hc => (hw.out_live c hc).known] at hsums
      exact ⟨rfl, rfl, hstatus ▸ hsums⟩
    rw [hv] at hall
    exact hall.tail (deeds_forgetAll _ _)

end Returning

end World

end ConnectionPool
