import ConnectionPool.Proofs.Custody.Documented

/-!
# What may be in a store

A statement gets into a store when its handle is closed or let go of, however it was used and
whatever failed meanwhile. Whatever is found in a store, at any time, lies under its own key, which
is the key of a call whose statements a cache of the chain is configured to keep; the driver's
statement is open and bears no trace of whoever used it before; and its connection has not been
torn down. A store that was drained is empty (`stores_sound`).
-/

set_option autoImplicit false

namespace ConnectionPool

/-- A key that a policy makes is of an operation that the policy keeps, and begins with a text. -/
theorem CachePolicy.keeps_of_keyFor {policy : CachePolicy} {call : Call} {key : CacheKey}
    (h : policy.keyFor call = some key) :
    policy.keeps key.kind.method = true ∧ ∃ sql rest, key.args = .text sql :: rest := by
  obtain rfl := policy.call_of_keyFor h
  rw [keyFor] at h
  split at h
  · next hkeeps =>
      obtain ⟨hmethod, htext⟩ := Bool.and_eq_true_iff.mp hkeeps
      refine ⟨hmethod, ?_⟩
      obtain ⟨kind, args⟩ := key
      cases args with
      | nil => cases htext
      | cons arg rest =>
          cases arg with
          | text sql => exact ⟨sql, rest, rfl⟩
          | _ => cases htext
  · cases h

namespace World

/-- **A cache of the chain keeps the statements of an operation**, as one of the interceptors was
configured with which the pool of the connection was started. -/
structure Keeper (w : World) (c : ConnectionId) (method : Method) (k : CacheId) : Prop where
  link : k ∈ (w.connection c).caches
  configured : ∃ definition ∈ (w.pool (w.connection c).pool).config.interceptors, ∃ fallible,
    definition.role = .cache fallible ∧ (w.cache k).policy = .ofProperties definition.properties
  keeps : (w.cache k).policy.keeps method = true

/-- **A statement is rightly parked** under a key on a connection. -/
structure RightlyParked (w : World) (c : ConnectionId) (key : CacheKey) (tracked : Tracked) :
    Prop where
  keyed : tracked.key = some key
  keeper : ∃ k, w.Keeper c key.kind.method k
  text : ∃ sql rest, key.args = .text sql :: rest
  rested : ∃ id, tracked.delegate.target? = some id ∧ (w.driver.statement id).Rested
  live : w.Live c
  state : (w.connection c).metadata.state = .idle ∨ (w.connection c).metadata.state = .inUse

end World

namespace Scene

variable {S S' : Scene} {c : ConnectionId} {key : CacheKey} {tracked : Tracked}

/-- **Every cache of a chain has the policy of a definition** that the pool was started with. -/
def Configured (S : Scene) : Prop :=
  ∀ c, ∀ k ∈ (S.world.connection c).caches,
    ∃ definition ∈ (S.world.pool (S.world.connection c).pool).config.interceptors, ∃ fallible,
      definition.role = .cache fallible
        ∧ (S.world.cache k).policy = .ofProperties definition.properties

theorem Turn.configured (h : Turn S S') (hS : S.Wired) (hc : S.Configured) : S'.Configured := by
  have hlater := (h.later_and_wired hS).1
  intro c k hk
  rcases h.known_connection (World.known_of_mem_caches hk) with hknown | hopened
  · have hframe := (hlater.connections c hknown).2
    rw [Connection.caches_of_frame hframe] at hk
    rw [Connection.pool_of_frame hframe, (h.pool_kept (hS.pool_known c hknown)).1,
      (hlater.caches k (hS.chain_known hk)).2]
    exact hc c k hk
  · obtain ⟨w, hcaches, hequipped⟩ := hopened.equipped
    have hknown := World.known_of_pool_open _ hopened.pool
    rw [(h.pool_kept hknown).1, World.cache, hcaches]
    exact hequipped.policy k hk

theorem Turns.configured (h : Turns S S') (hS : S.Wired) (hc : S.Configured) :
    S'.Configured := by
  induction h with
  | refl => exact hc
  | tail hturns hturn ih => exact hturn.configured (Turns.later_and_wired hturns hS).2 ih

theorem configured_nothing : nothing.Configured := fun _ _ hk =>
  absurd (World.known_of_mem_caches hk) (Registry.not_known_empty _)

/-- **The key of what is parked** was made by a cache of the chain. -/
theorem InOrder.keyFor_of_parked (hS : S.InOrder)
    (he : (S.world.store c).entries.get? key = some tracked) :
    tracked.key = some key ∧ tracked.cache ∈ (S.world.connection c).caches
      ∧ ∃ call, (S.world.cache tracked.cache).policy.keyFor call = some key := by
  have hshelved := hS.sourced.entries he
  obtain ⟨⟨d, position, call, hsource⟩, -⟩ := hshelved.rooted
  refine ⟨hshelved.key, hshelved.cache, call, ?_⟩
  rw [← hsource.key]
  exact hshelved.key

end Scene

namespace Session

variable {s t : Session}

/-- **The stores are sound.** Whatever a client without caches of its own does, whatever faults are
switched and in whatever order stores are visited: all that is parked is rightly parked, and a store
that is closed is empty. -/
theorem stores_sound (ht : Reaches empty t) :
    (∀ c key tracked, (t.world.store c).entries.get? key = some tracked →
        t.world.RightlyParked c key tracked)
      ∧ ∀ c, (t.world.store c).closed = true → (t.world.store c).entries = Table.empty := by
  obtain ⟨T, hturns, hT⟩ := ht.inOrder inOrder_empty
  have hdocumented := ht.proceeds.documented documented_empty
  have hconfigured := hturns.configured inOrder_empty.sound.wired Scene.configured_nothing
  have hworld := hT.depicts.world
  refine ⟨fun c key tracked he => ?_, fun c hclosed => Table.eq_empty_of_bag ?_⟩
  · rw [← hworld] at he
    obtain ⟨hkey, hlink, call, hmade⟩ := hT.scene.keyFor_of_parked he
    obtain ⟨hkeeps, htext⟩ := CachePolicy.keeps_of_keyFor hmade
    obtain ⟨-, hline⟩ := hT.scene.stocked.open_of_parked hT.sound.wired hT.scene.sourced he
    have hrested := hT.scene.stocked.rested he
    have hknown := World.known_of_mem_caches hlink
    have hlive := hT.scene.live hknown hline
    -- the cache that made the key keeps the statement
    have hkeeper : T.world.Keeper c key.kind.method tracked.cache :=
      ⟨hlink, hconfigured c _ hlink, hkeeps⟩
    rw [hworld] at hknown hlive hkeeper hrested
    refine ⟨hkey, ⟨_, hkeeper⟩, htext, hrested, hlive, ?_⟩
    -- where the connection is says what state it is in
    rcases hdocumented.kept.placed c hknown with hout | hidle | hgone
    · exact Or.inr (hT.accounted.busy c hout)
    · exact Or.inl (hT.accounted.balanced.waiting _ c hidle).state
    · have hclosed : (t.world.connection c).closed = true := hgone.closed
      rw [hlive.unclosed] at hclosed
      exact nomatch hclosed
  · rw [← hworld] at hclosed ⊢
    exact hT.sound.wired.drained c hclosed

/-- A client binds a parameter, executes the statement twice and closes its handle. -/
def wearing : List Command :=
  [.pool (.start "p" { interceptors := [{ name := "cache", role := .cache false }] }),
    .pool (.checkOut "p" "g"),
    .connection (.prepare "g" ⟨.prepareStatement, [.text "SELECT 1", .int 7]⟩ (some "a")),
    .statement (.bind "a" 2 (.text "x")), .statement (.execute "a"), .statement (.execute "a"),
    .statement (.close "a")]

/-- The statement lies in the store as if it had just been prepared. -/
theorem stores_sound_wearing :
    ((empty.runAll wearing).world.store 1).entries.get? ⟨.prepared, [.text "SELECT 1", .int 7]⟩
        = some ⟨some ⟨.prepared, [.text "SELECT 1", .int 7]⟩, 2, .physical 1⟩
      ∧ (empty.runAll wearing).world.RightlyParked 1 ⟨.prepared, [.text "SELECT 1", .int 7]⟩
        ⟨some ⟨.prepared, [.text "SELECT 1", .int 7]⟩, 2, .physical 1⟩ := by
  have hc : ∀ c, .cache c ∉ wearing := by simp [wearing]
  have hparked : ((empty.runAll wearing).world.store 1).entries.get?
      ⟨.prepared, [.text "SELECT 1", .int 7]⟩
        = some ⟨some ⟨.prepared, [.text "SELECT 1", .int 7]⟩, 2, .physical 1⟩ := by rfl
  exact ⟨hparked, (stores_sound (Reaches.runAll hc .refl)).1 1 _ _ hparked⟩

end Session

end ConnectionPool
