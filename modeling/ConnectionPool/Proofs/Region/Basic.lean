import ConnectionPool.Proofs.Driver.Touching
import ConnectionPool.Proofs.Scene.Later

/-!
# Regions of a world

A region is a part of a world: some of its pools, connections, caches, counters and statements.
`Region.Closed` says that whatever the things of a region refer to lies in the region as well: the
caches of its connections, the connections and counters that its caches are attached to, and the
statements that are parked in its stores. An operation that is about things of a closed region
leaves the region closed and everything outside as it is (`Region.Confined`).

Some entries of the stores of a region may be kept. Nobody may look them up and nobody may tear
their connection down, which is seen from the journal (`Region.Quiet`), and then nothing displaces
them. What is said of the statements of a region is not said of those.

Rules for operations are put together one after the other (`Confined.trans`): what one of them
yields is what the next one needs.
-/

set_option autoImplicit false

namespace ConnectionPool

theorem Registry.Known.mono {α β : Type} {r : Registry α} {r' : Registry β} {n : Nat}
    (h : r.Known n) (hs : r.size ≤ r'.size) : r'.Known n :=
  ⟨h.1, h.2.trans hs⟩

/-! ## Growing -/

/-- **A world grows**: nothing is ever taken out of its registries or its journal, connections
keep their frames and caches their policies, and only new caches become links of chains. -/
structure World.Grows (w w' : World) : Prop where
  journal : ∃ notices : Journal, w'.journal = w.journal ++ notices
  pools : w.pools.size ≤ w'.pools.size
  connections : w.connections.size ≤ w'.connections.size
  caches : w.caches.size ≤ w'.caches.size
  counters : w.counters.size ≤ w'.counters.size
  statements : w.driver.statements.size ≤ w'.driver.statements.size
  frame : ∀ c, w.connections.Known c → (w'.connection c).frame = (w.connection c).frame
  policy : ∀ k, w.caches.Known k → (w'.cache k).policy = (w.cache k).policy
  linked : ∀ c k, w.caches.Known k → k ∈ (w'.connection c).caches → k ∈ (w.connection c).caches

namespace World

variable {w w' w'' : World}

theorem Grows.refl (w : World) : w.Grows w where
  journal := ⟨[], (List.append_nil _).symm⟩
  pools := Nat.le_refl _
  connections := Nat.le_refl _
  caches := Nat.le_refl _
  counters := Nat.le_refl _
  statements := Nat.le_refl _
  frame _ _ := rfl
  policy _ _ := rfl
  linked _ _ _ hk := hk

theorem Grows.trans (h : w.Grows w') (h' : w'.Grows w'') : w.Grows w'' where
  journal := by
    obtain ⟨notices, hn⟩ := h.journal
    obtain ⟨notices', hn'⟩ := h'.journal
    exact ⟨notices ++ notices', by rw [hn', hn, List.append_assoc]⟩
  pools := h.pools.trans h'.pools
  connections := h.connections.trans h'.connections
  caches := h.caches.trans h'.caches
  counters := h.counters.trans h'.counters
  statements := h.statements.trans h'.statements
  frame c hc := (h'.frame c (hc.mono h.connections)).trans (h.frame c hc)
  policy k hk := (h'.policy k (hk.mono h.caches)).trans (h.policy k hk)
  linked c k hk hm := h.linked c k hk (h'.linked c k (hk.mono h.caches) hm)

/-- A connection with interceptors keeps its chain. -/
theorem Grows.chain (h : w.Grows w') {c : ConnectionId} {interceptor : Interceptor}
    (hm : interceptor ∈ (w.connection c).chain) :
    (w'.connection c).chain = (w.connection c).chain :=
  Connection.chain_of_frame
    (h.frame c (w.known_of_chain_ne_nil fun hnil => List.not_mem_nil (hnil ▸ hm)))

/-- **Two worlds are linked alike**: connections have the same frames, caches are the same, and
pools have the same counters. -/
structure SameLinks (w w' : World) : Prop where
  frame : ∀ c, (w'.connection c).frame = (w.connection c).frame
  cache : ∀ k, w'.cache k = w.cache k
  counter : ∀ p, (w'.pool p).counter? = (w.pool p).counter?

end World

/-! ## Regions -/

/-- **A region** of a world. -/
structure Region where
  pools : PoolId → Prop
  connections : ConnectionId → Prop
  caches : CacheId → Prop
  counters : CounterId → Prop
  statements : StatementId → Prop
  /-- The entries of stores that are to stay where they are. -/
  kept : ConnectionId → CacheKey → Prop := fun _ _ => False
  /-- The policies of the caches that could look them up. -/
  policy : CacheId → CachePolicy := fun _ => default

namespace Region

/-- **A handle lies in the region**, with the caches of its facades and the statement that it
reaches. -/
def Holds (R : Region) : Statement → Prop
  | .physical id => R.statements id
  | .facade _ k inner => R.caches k ∧ R.Holds inner
  | .spent => True

/-- What a cache of the region may be attached to. -/
structure Allows (R : Region) (w : World) (binding : Binding) : Prop where
  connection : R.connections binding.connection
  known : w.connections.Known binding.connection
  counter : ∀ n, binding.counter = some n → R.counters n ∧ w.counters.Known n

/-- **The region is closed**: what its things refer to lies in it, and so does every statement that
the driver makes from now on. A cache of a chain is attached to no other connection. -/
structure Closed (R : Region) (w : World) : Prop where
  statements : ∀ id, ¬ w.driver.statements.Known id → R.statements id
  chain : ∀ c k, R.connections c → k ∈ (w.connection c).caches → R.caches k ∧ w.caches.Known k
  home : ∀ c k, R.connections c → k ∈ (w.connection c).caches → R.pools (w.connection c).pool
  apart : ∀ c d k, R.connections c → R.connections d → k ∈ (w.connection c).caches →
    k ∈ (w.connection d).caches → c = d
  bound : ∀ k binding, R.caches k → (w.cache k).binding = some binding → R.Allows w binding
  tied : ∀ c k binding, R.connections c → k ∈ (w.connection c).caches →
    (w.cache k).binding = some binding → binding.connection = c
  counted : ∀ p n, R.pools p → (w.pool p).counter? = some n → R.counters n ∧ w.counters.Known n
  parked : ∀ c key tracked, R.connections c → ¬ R.kept c key →
    (w.store c).entries.get? key = some tracked → R.Holds tracked.facade
  kept : ∀ c key, R.kept c key → R.connections c ∧ ((w.store c).entries.get? key).isSome = true
  policy : ∀ c key k, R.kept c key → k ∈ (w.connection c).caches → (w.cache k).policy = R.policy k

/-- **A notice does not bear on what is kept**: no cache of the connection is asked for it, and
nobody is told that the connection is disconnected. -/
structure Harmless (R : Region) (notice : Notice) : Prop where
  asked : ∀ {c position k call remaining number key}, notice.receiver = .link c position →
    notice.interceptor.role = .cache k → notice.content = .enter call remaining number →
    R.kept c key → (R.policy k).keyFor call ≠ some key
  told : ∀ {c finalizing sight key}, notice.content = .hook (.disconnected c finalizing) sight →
    ¬ R.kept c key

/-- Nothing that bears on what is kept was noted from one world to the other. -/
def Quiet (R : Region) (w w' : World) : Prop :=
  ∀ notices : Journal, w'.journal = w.journal ++ notices → ∀ notice ∈ notices, R.Harmless notice

/-- **What lies outside the region stays as it is**, and so do the entries that are kept. -/
structure Spares (R : Region) (w w' : World) : Prop where
  pool : ∀ p, ¬ R.pools p → w'.pool p = w.pool p
  connection : ∀ c, ¬ R.connections c → w'.connection c = w.connection c
  cache : ∀ k, ¬ R.caches k → w'.cache k = w.cache k
  counter : ∀ n, ¬ R.counters n → w'.counter n = w.counter n
  driver : w.driver.Touches R.statements w'.driver
  kept : ∀ c key, R.kept c key →
    (w'.store c).entries.get? key = (w.store c).entries.get? key

/-- **What happens is confined to the region**, if the region is closed, `P` holds, and nothing
bears on what is kept; and then `Q` holds. -/
structure Confined (R : Region) (P : Prop) (w w' : World) (Q : Prop) : Prop where
  grows : w.Grows w'
  effect : P → R.Closed w → R.Quiet w w' → R.Closed w' ∧ R.Spares w w' ∧ Q

variable {R : Region} {w w' w'' : World} {P T Q Q' S : Prop}

theorem Spares.refl (R : Region) (w : World) : R.Spares w w where
  pool _ _ := rfl
  connection _ _ := rfl
  cache _ _ := rfl
  counter _ _ := rfl
  driver := .refl _ _
  kept _ _ _ := rfl

theorem Spares.trans (h : R.Spares w w') (h' : R.Spares w' w'') : R.Spares w w'' where
  pool p hp := (h'.pool p hp).trans (h.pool p hp)
  connection c hc := (h'.connection c hc).trans (h.connection c hc)
  cache k hk := (h'.cache k hk).trans (h.cache k hk)
  counter n hn := (h'.counter n hn).trans (h.counter n hn)
  driver := h.driver.trans h'.driver
  kept c key hk := (h'.kept c key hk).trans (h.kept c key hk)

/-! ## Putting rules together -/

theorem Quiet.split (h : w.Grows w') (h' : w'.Grows w'') (hq : R.Quiet w w'') :
    R.Quiet w w' ∧ R.Quiet w' w'' := by
  obtain ⟨later, hlater⟩ := h'.journal
  obtain ⟨earlier, hearlier⟩ := h.journal
  constructor
  · intro notices hn notice hm
    exact hq (notices ++ later) (by rw [hlater, hn, List.append_assoc]) notice
      (List.mem_append_left _ hm)
  · intro notices hn notice hm
    exact hq (earlier ++ notices) (by rw [hn, hearlier, List.append_assoc]) notice
      (List.mem_append_right _ hm)

theorem Confined.refl (R : Region) (P : Prop) (w : World) : R.Confined P w w True :=
  ⟨.refl w, fun _ hw _ => ⟨hw, .refl R w, trivial⟩⟩

/-- What is known at first, and what comes of the first operation, is known of the second. -/
theorem Confined.and (h : R.Confined P w w' Q) (h' : R.Confined (P ∧ Q) w' w'' S) :
    R.Confined P w w'' (Q ∧ S) := by
  refine ⟨h.grows.trans h'.grows, fun hp hw hq => ?_⟩
  obtain ⟨hfirst, hsecond⟩ := hq.split h.grows h'.grows
  obtain ⟨hw', hs, hq⟩ := h.effect hp hw hfirst
  obtain ⟨hw'', hs', hr⟩ := h'.effect ⟨hp, hq⟩ hw' hsecond
  exact ⟨hw'', hs.trans hs', hq, hr⟩

theorem Confined.mono (h : R.Confined P w w' Q) (hp : T → R.Closed w → P)
    (hq : T → Q → Q') : R.Confined T w w' Q' :=
  ⟨h.grows, fun hp' hw hquiet => by
    obtain ⟨hw', hs, hqh⟩ := h.effect (hp hp' hw) hw hquiet
    exact ⟨hw', hs, hq hp' hqh⟩⟩

/-- What an operation needs follows from what is known, and from the region being closed. -/
theorem Confined.given (h : R.Confined P w w' Q) (hp : T → R.Closed w → P) :
    R.Confined T w w' Q :=
  h.mono hp fun _ hq => hq

/-- More than an operation needs may be known. -/
theorem Confined.weaken (h : R.Confined P w w' Q) : R.Confined (P ∧ T) w w' Q :=
  h.given fun hp _ => hp.1

theorem Confined.gives (h : R.Confined P w w' Q) (hq : P → Q → Q') : R.Confined P w w' Q' :=
  h.mono (fun hp _ => hp) hq

/-- What is known of the world at first still counts afterwards. -/
theorem Confined.knows (h : R.Confined P w w' Q) (hs : P → R.Closed w → S) :
    R.Confined P w w' (S ∧ Q) :=
  ⟨h.grows, fun hp hw hquiet => by
    obtain ⟨hw', hspares, hq⟩ := h.effect hp hw hquiet
    exact ⟨hw', hspares, hs hp hw, hq⟩⟩

theorem Confined.trans (h : R.Confined P w w' Q) (h' : R.Confined (P ∧ Q) w' w'' S) :
    R.Confined P w w'' S :=
  (h.and h').gives fun _ hqs => hqs.2

/-! ## Worlds that are linked alike -/

theorem Allows.grows {binding : Binding} (h : R.Allows w binding) (hg : w.Grows w') :
    R.Allows w' binding where
  connection := h.connection
  known := h.known.mono hg.connections
  counter n hn := ⟨(h.counter n hn).1, (h.counter n hn).2.mono hg.counters⟩

/-- A region stays closed in a world that is linked alike, if what is parked lies in it. -/
theorem Closed.sameLinks (hw : R.Closed w) (hg : w.Grows w') (hl : w.SameLinks w')
    (hparked : ∀ c key tracked, R.connections c → ¬ R.kept c key →
      (w'.store c).entries.get? key = some tracked → R.Holds tracked.facade)
    (hkept : ∀ c key, R.kept c key →
      (w'.store c).entries.get? key = (w.store c).entries.get? key) : R.Closed w' := by
  have hc : ∀ c, (w'.connection c).caches = (w.connection c).caches := fun c =>
    Connection.caches_of_frame (hl.frame c)
  exact
    { statements := fun id hid => hw.statements id fun h => hid (h.mono hg.statements)
      chain := fun c k hcr hk => by
        rw [hc] at hk
        exact ⟨(hw.chain c k hcr hk).1, (hw.chain c k hcr hk).2.mono hg.caches⟩
      home := fun c k hcr hk => by
        rw [hc] at hk
        rw [Connection.pool_of_frame (hl.frame c)]
        exact hw.home c k hcr hk
      apart := fun c d k hcr hdr hkc hkd => by
        rw [hc] at hkc hkd
        exact hw.apart c d k hcr hdr hkc hkd
      bound := fun k binding hk hb => by
        rw [hl.cache] at hb
        exact (hw.bound k binding hk hb).grows hg
      tied := fun c k binding hcr hk hb => by
        rw [hc] at hk
        rw [hl.cache] at hb
        exact hw.tied c k binding hcr hk hb
      counted := fun p n hp hn => by
        rw [hl.counter] at hn
        exact ⟨(hw.counted p n hp hn).1, (hw.counted p n hp hn).2.mono hg.counters⟩
      parked := hparked
      kept := fun c key hk => by
        rw [hkept c key hk]
        exact hw.kept c key hk
      policy := fun c key k hk hkc => by
        rw [hc] at hkc
        rw [hl.cache]
        exact hw.policy c key k hk hkc }

/-- A change that leaves links and stores alone. -/
theorem confined_of_stores (hg : w.Grows w') (hl : w.SameLinks w')
    (hstore : ∀ c, w'.store c = w.store c) (hs : P → R.Closed w → R.Spares w w') :
    R.Confined P w w' True := by
  refine ⟨hg, fun hp hw _ => ⟨hw.sameLinks hg hl (fun c key tracked hc hk hf => ?_)
    fun c key _ => by rw [hstore], hs hp hw, trivial⟩⟩
  rw [hstore] at hf
  exact hw.parked c key tracked hc hk hf

/-! ## One change -/

theorem grows_note (w : World) (receiver : Receiver) (interceptor : Interceptor)
    (content : NoticeContent) : w.Grows (w.note receiver interceptor content) :=
  { World.Grows.refl w with journal := ⟨_, rfl⟩ }

/-- **Something is noted.** What is noted does not bear on what is kept. -/
theorem confined_note (w : World) (receiver : Receiver) (interceptor : Interceptor)
    (content : NoticeContent) :
    R.Confined P w (w.note receiver interceptor content)
      (R.Harmless ⟨receiver, interceptor, content, w.driver.log.length⟩) := by
  refine ⟨grows_note w receiver interceptor content, fun hp hw hquiet => ⟨?_, ?_, ?_⟩⟩
  · exact { hw with
      bound := fun k binding hk hb =>
        (hw.bound k binding hk hb).grows (grows_note w receiver interceptor content) }
  · exact { Spares.refl R w with }
  · exact hquiet [⟨receiver, interceptor, content, w.driver.log.length⟩] rfl _
      (List.mem_singleton_self _)

/-- **The driver does something** about statements of the region. -/
theorem confined_driver (w : World) {driver : Driver} {ids : StatementId → Prop}
    (hd : w.driver.Touches ids driver) (h : P → R.Closed w → ∀ id, ids id → R.statements id) :
    R.Confined P w { w with driver } True :=
  confined_of_stores { World.Grows.refl w with statements := hd.size }
    ⟨fun _ => rfl, fun _ => rfl, fun _ => rfl⟩ (fun _ => rfl) fun hp hw =>
    { Spares.refl R w with driver := hd.mono (h hp hw) }

/-- The driver does something that touches no statement. -/
theorem confined_line (w : World) {driver : Driver}
    (hd : w.driver.Touches (fun _ => False) driver) :
    R.Confined P w { w with driver } True :=
  confined_driver w hd fun _ _ _ h => h.elim

theorem grows_updateConnection (w : World) (c : ConnectionId) (f : Connection → Connection)
    (hf : ∀ connection, (f connection).frame = connection.frame) :
    w.Grows (w.updateConnection c f) :=
  have hframe := w.connection_updateConnection_congr c f Connection.frame hf
  { World.Grows.refl w with
    connections := (Registry.size_modify _ _ _).ge
    frame := fun d _ => hframe d
    linked := fun d k _ hk => by
      rw [Connection.caches_of_frame (hframe d)] at hk
      exact hk }

theorem grows_setStore (w : World) (c : ConnectionId) (store : Store) :
    w.Grows (w.setStore c store) :=
  grows_updateConnection w c _ fun _ => rfl

/-- **A store of the region is changed.** What is kept stays, and what else is in it lies in the
region. -/
theorem confined_setStore (w : World) (c : ConnectionId) (store : Store)
    (h : P → R.Closed w → R.connections c
      ∧ (∀ key, R.kept c key → store.entries.get? key = (w.store c).entries.get? key)
      ∧ ∀ key tracked, ¬ R.kept c key → store.entries.get? key = some tracked →
        R.Holds tracked.facade) :
    R.Confined P w (w.setStore c store) True := by
  refine ⟨grows_setStore w c store, fun hp hw _ => ?_⟩
  obtain ⟨hc, hkept, hparked⟩ := h hp hw
  have hkeeps : ∀ d key, R.kept d key →
      ((w.setStore c store).store d).entries.get? key = (w.store d).entries.get? key := by
    intro d key hk
    rw [World.store_setStore]
    split
    · next hcd =>
        obtain rfl := hcd.1
        exact hkept key hk
    · rfl
  refine ⟨hw.sameLinks (grows_setStore w c store) ⟨fun d => w.frame_setStore c store d,
    fun _ => rfl, fun _ => rfl⟩ (fun d key tracked hd hk hf => ?_) hkeeps, ?_, trivial⟩
  · rw [World.store_setStore] at hf
    split at hf
    · next hcd =>
        obtain rfl := hcd.1
        exact hparked key tracked hk hf
    · exact hw.parked d key tracked hd hk hf
  · exact { Spares.refl R w with
      connection := fun d hd => w.connections.get_modify_of_ne _ fun hcd => hd (hcd ▸ hc)
      kept := hkeeps }

/-- A counter of the region is changed. -/
theorem confined_updateCounter (w : World) (n : CounterId) (f : Counter → Counter)
    (h : P → R.Closed w → R.counters n) : R.Confined P w (w.updateCounter n f) True :=
  confined_of_stores
    { World.Grows.refl w with counters := (Registry.size_modify _ _ _).ge }
    ⟨fun _ => rfl, fun _ => rfl, fun _ => rfl⟩ (fun _ => rfl) fun hp hw => { Spares.refl R w with
      counter := fun _ hm => w.counters.get_modify_of_ne f fun hnm => hm (hnm ▸ h hp hw) }

theorem confined_releaseSlot (w : World) (counter : Option CounterId)
    (h : P → R.Closed w → ∀ n, counter = some n → R.counters n) :
    R.Confined P w (w.releaseSlot counter) True := by
  cases counter with
  | none => exact (Confined.refl R P w).gives fun _ _ => trivial
  | some n => exact confined_updateCounter w n _ fun hp hw => h hp hw n rfl

/-- **A cache of the region is attached** to something in the region, or to nothing. A cache of a
chain is attached to its own connection. -/
theorem confined_bind (w : World) (k : CacheId) (binding : Option Binding)
    (h : P → R.Closed w → R.caches k ∧ ∀ b, binding = some b → R.Allows w b
      ∧ ∀ c, R.connections c → k ∈ (w.connection c).caches → b.connection = c) :
    R.Confined P w (w.updateCache k fun cache => { cache with binding }) True := by
  have hbinding : ∀ l b, ((w.updateCache k fun cache => { cache with binding }).cache l).binding
      = some b → (w.cache l).binding = some b ∨ (k = l ∧ binding = some b) := by
    intro l b hb
    rw [World.cache_updateCache] at hb
    split at hb
    · next hkl => exact Or.inr ⟨hkl.1, hb⟩
    · exact Or.inl hb
  have hpolicy : ∀ l, ((w.updateCache k fun cache => { cache with binding }).cache l).policy
      = (w.cache l).policy :=
    w.cache_updateCache_congr k _ StatementCache.policy fun _ => rfl
  have hgrows : w.Grows (w.updateCache k fun cache => { cache with binding }) :=
    { World.Grows.refl w with
      caches := (Registry.size_modify _ _ _).ge, policy := fun l _ => hpolicy l }
  refine ⟨hgrows, fun hp hw _ => ?_⟩
  obtain ⟨hk, hallowed⟩ := h hp hw
  refine ⟨{ hw with chain := ?_, bound := ?_, tied := ?_, policy := ?_ },
    { Spares.refl R w with
      cache := fun l hl => w.caches.get_modify_of_ne _ fun hkl => hl (hkl ▸ hk) }, trivial⟩
  · intro c l hc hl
    exact ⟨(hw.chain c l hc hl).1, (hw.chain c l hc hl).2.mono hgrows.caches⟩
  · intro l b hl hb
    rcases hbinding l b hb with hb | ⟨-, hb⟩
    · exact (hw.bound l b hl hb).grows hgrows
    · exact (hallowed b hb).1.grows hgrows
  · intro c l b hc hl hb
    rcases hbinding l b hb with hb | ⟨rfl, hnew⟩
    · exact hw.tied c l b hc hl hb
    · exact (hallowed b hnew).2 c hc hl
  · intro c key l hkey hl
    rw [hpolicy]
    exact hw.policy c key l hkey hl

/-- **A pool of the region is changed**, and gets a counter of the region if it gets one. -/
theorem confined_updatePool (w : World) (p : PoolId) (f : Pool → Pool)
    (h : P → R.Closed w → R.pools p
      ∧ ∀ n, (f (w.pool p)).counter? = some n → R.counters n ∧ w.counters.Known n) :
    R.Confined P w (w.updatePool p f) True := by
  have hgrows : w.Grows (w.updatePool p f) :=
    { World.Grows.refl w with pools := (Registry.size_modify _ _ _).ge }
  refine ⟨hgrows, fun hp hw _ => ?_⟩
  obtain ⟨hpr, hcounter⟩ := h hp hw
  refine ⟨{ hw with
      bound := fun k binding hk hb => (hw.bound k binding hk hb).grows hgrows
      counted := fun q n hq hn => ?_ }, { Spares.refl R w with
      pool := fun q hq => w.pools.get_modify_of_ne f fun hpq => hq (hpq ▸ hpr) }, trivial⟩
  rw [World.pool_updatePool] at hn
  split at hn
  · next hpq =>
      obtain rfl := hpq.1
      exact hcounter n hn
  · exact hw.counted q n hq hn

/-- A pool of the region is changed, but not what interceptors keep on it. -/
theorem confined_books (w : World) (p : PoolId) (f : Pool → Pool)
    (hf : ∀ pool, (f pool).counter? = pool.counter?) (h : P → R.Closed w → R.pools p) :
    R.Confined P w (w.updatePool p f) True :=
  confined_updatePool w p f fun hp hw => ⟨h hp hw, fun n hn => by
    rw [hf] at hn
    exact hw.counted p n (h hp hw) hn⟩

/-- A connection of the region is changed, but neither its frame nor its store. -/
theorem confined_updateConnection (w : World) (c : ConnectionId) (f : Connection → Connection)
    (hf : ∀ connection, (f connection).frame = connection.frame)
    (hs : ∀ connection, (f connection).store? = connection.store?)
    (h : P → R.Closed w → R.connections c) : R.Confined P w (w.updateConnection c f) True :=
  confined_of_stores (grows_updateConnection w c f hf)
    ⟨w.connection_updateConnection_congr c f Connection.frame hf, fun _ => rfl, fun _ => rfl⟩
    (fun d => congrArg (Option.getD · default)
      (w.connection_updateConnection_congr c f Connection.store? hs d))
    fun hp hw => { Spares.refl R w with
      connection := fun _ hd => w.connections.get_modify_of_ne f fun hcd => hd (hcd ▸ h hp hw)
      kept := fun d key _ => congrArg (fun store : Option Store =>
        (store.getD default).entries.get? key)
          (w.connection_updateConnection_congr c f Connection.store? hs d) }

theorem confined_updateMetadata (w : World) (c : ConnectionId) (change : Metadata → Metadata)
    (h : P → R.Closed w → R.connections c) : R.Confined P w (w.updateMetadata c change) True :=
  confined_updateConnection w c _ (fun _ => rfl) (fun _ => rfl) h

end Region

end ConnectionPool
