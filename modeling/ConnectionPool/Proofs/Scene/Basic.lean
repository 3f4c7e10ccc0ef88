import ConnectionPool.Proofs.Driver.Rows
import ConnectionPool.Proofs.World.Totals
import Mathlib.Logic.Relation

/-!
# Scenes: a world and everything outside it

A statement that left the world is in somebody's hands: a client's, or those of an operation
that is under way. A `Scene` is a world with the handles that are out, the slots that are
still to be given back, and what a client holds of the driver and of caches.

Every operation of the library is a sequence of small steps of a scene (`Scene.Step`), each of
which moves one handle, writes one store or does one thing at the driver, and says under which
condition. What is proved of every step therefore holds of every operation. The steps that
start and close pools are in `Scene.Turn`, those that only a client with caches of its own
can take in `Scene.OwnTurn`.
-/

set_option autoImplicit false

namespace ConnectionPool

/-! ## Reading chains, stores and the journal -/

namespace Interceptor

/-- The cache behind an interceptor. -/
def cache? (interceptor : Interceptor) : Option CacheId :=
  match interceptor.role with
  | .cache k => some k
  | _ => none

/-- What a link hands on of a call, unless it answers the call itself or is a cache. -/
def handsOn? (interceptor : Interceptor) (call : Call) : Option Call :=
  match interceptor.role with
  | .pass => some call
  | .trace => some call
  | .answerTruth scope _ => if scope.covers call.method then none else some call
  | .answerStatement scope => if scope.covers call.method then none else some call
  | .reject scope => if scope.covers call.method then none else some call
  | .appendFlag scope =>
      if scope.covers call.method then some { call with args := call.args ++ [appendedFlag] }
      else some call
  | .cache _ => none

theorem role_of_cache {interceptor : Interceptor} {k : CacheId}
    (h : interceptor.cache? = some k) : interceptor.role = .cache k := by
  obtain ⟨name, role⟩ := interceptor
  cases role with
  | cache k' => cases h; rfl
  | _ => exact nomatch h

theorem handsOn?_of_cache {interceptor : Interceptor} {k : CacheId}
    (h : interceptor.cache? = some k) (call : Call) : interceptor.handsOn? call = none := by
  simp only [handsOn?, role_of_cache h]

/-- A link answers the calls of an operation with statements of its own. -/
def Supplies (interceptor : Interceptor) (method : Method) : Prop :=
  ∃ scope, interceptor.role = .answerStatement scope ∧ scope.covers method = true

end Interceptor

namespace Connection

/-- The caches of the chain, outermost first. -/
def caches (connection : Connection) : List CacheId :=
  connection.chain.filterMap Interceptor.cache?

/-- The cache at a position of the chain. -/
def cacheAt? (connection : Connection) (position : Nat) : Option CacheId :=
  connection.chain[position]?.bind Interceptor.cache?

/-- What stays the same of a connection for good. -/
def frame (connection : Connection) : PoolId × PhysicalConnectionId × List Interceptor :=
  (connection.pool, connection.physical, connection.chain)

/-- The connection apart from its record. -/
def body (connection : Connection) : Connection :=
  { connection with metadata := default }

theorem mem_caches (connection : Connection) (k : CacheId) :
    k ∈ connection.caches ↔ ∃ position, connection.cacheAt? position = some k := by
  rw [caches, List.mem_filterMap]
  simp only [cacheAt?, Option.bind_eq_some_iff, List.mem_iff_getElem?]
  constructor
  · rintro ⟨interceptor, ⟨position, hp⟩, hk⟩
    exact ⟨position, interceptor, hp, hk⟩
  · rintro ⟨position, interceptor, hp, hk⟩
    exact ⟨interceptor, ⟨position, hp⟩, hk⟩

end Connection

/-- **A pool is configured with a cache.** -/
def PoolConfig.Caching (config : PoolConfig) : Prop :=
  ∃ definition ∈ config.interceptors, ∃ fallible, definition.role = .cache fallible

/-- The pool apart from its numbers and its connections. -/
def Pool.body (pool : Pool) : Pool :=
  { pool with idle := [], inUse := 0, total := 0, opened := 0, sources := [] }

/-- The facades that the parked statements would have. -/
def Store.facades (store : Store) : Multiset Statement :=
  store.entries.bag.map fun entry => entry.2.facade

namespace World

/-- All parked statements, each as the facade it would have. -/
def parkedHandles (w : World) : Multiset Statement := w.total fun _ store => store.facades

/-- A statement left a link of a chain as the answer to a call. -/
def Left (w : World) (c : ConnectionId) (position : Nat) (call : Call) (handle : Statement) :
    Prop :=
  ∃ notice ∈ w.journal, notice.receiver = .link c position
    ∧ notice.content = .leave call (.ok (.statement handle))

/-- A call reached a link of a chain. -/
def Entered (w : World) (c : ConnectionId) (position : Nat) (call : Call) : Prop :=
  ∃ notice ∈ w.journal, notice.receiver = .link c position
    ∧ ∃ remaining number, notice.content = .enter call remaining number

/-- **A statement is the answer of a chain, from a position on, to a call**: it left the link
there, or the driver made it for the call where the chain ends. -/
def Answered (w : World) (c : ConnectionId) (position : Nat) (call : Call) (handle : Statement) :
    Prop :=
  w.Left c position call handle
    ∨ (position = (w.connection c).chain.length
      ∧ ∃ id, handle = .physical id
        ∧ (w.driver.statement id).origin = some ((w.connection c).physical, call))

/-- A statement of the driver came to a cache, from behind it, as the answer to a call that
prepares. -/
def Wrapped (w : World) (id : StatementId) : Prop :=
  ∃ c position k call handle, (w.connection c).cacheAt? position = some k
    ∧ call.method.prepares = true ∧ w.Answered c (position + 1) call handle
    ∧ handle.target? = some id

/-- A statement of the driver was the answer to a call on a connection that prepares. -/
def Obtained (w : World) (c : ConnectionId) (id : StatementId) : Prop :=
  ∃ position call handle, call.method.prepares = true ∧ w.Answered c position call handle
    ∧ handle.target? = some id

/-- A connection can be torn down without losing a slot: its caches are attached to it, or its
store is drained already. -/
def Ready (w : World) (c : ConnectionId) : Prop :=
  (∀ k ∈ (w.connection c).caches, ∃ n, (w.cache k).binding = some ⟨c, n⟩)
    ∨ (w.store c).closed = true

/-- The world after a cache has found the statement parked under a key. -/
def found (w : World) (binding : Binding) (key : CacheKey) : World :=
  (w.setStore binding.connection ((w.store binding.connection).remove key).recordHit).releaseSlot
    binding.counter

/-- A change of the books: of records, numbers, faults and the journal, but of no statement,
store, cache or counter. A connection that begins to wait in a pool is one of that pool. -/
structure SameCaching (w w' : World) : Prop where
  caches : w'.caches = w.caches
  counters : w'.counters = w.counters
  statements : w'.driver.statements = w.driver.statements
  lines : w'.driver.connections = w.driver.connections
  log : w'.driver.log = w.driver.log
  connections_size : w'.connections.size = w.connections.size
  pools_size : w'.pools.size = w.pools.size
  connection : ∀ c, (w'.connection c).body = (w.connection c).body
  pool : ∀ p, (w'.pool p).body = (w.pool p).body
  idle : ∀ p, ∀ c ∈ (w'.pool p).idle, c ∈ (w.pool p).idle
    ∨ (w.connections.Known c ∧ (w.connection c).pool = p ∧ w.Ready c)
  journal : ∃ notices : Journal, w'.journal = w.journal ++ notices
    ∧ ∀ notice ∈ notices, ∀ call handle,
      notice.content ≠ .leave call (.ok (.statement handle))

/-- Interceptors made from definitions: the caches among them are new, distinct, attached to
nothing, and have the policies of their definitions; there is one if a definition makes one.
Known caches stay as they are. -/
structure Equipped (w w' : World) (definitions : List Definition) (chain : List Interceptor) :
    Prop where
  caches_known : ∀ k, w.caches.Known k → w'.caches.Known k ∧ w'.cache k = w.cache k
  caches_new : ∀ k, ¬ w.caches.Known k → (w'.cache k).binding = none
  nodup : (chain.filterMap Interceptor.cache?).Nodup
  chain_new : ∀ k ∈ chain.filterMap Interceptor.cache?,
    w'.caches.Known k ∧ ¬ w.caches.Known k
  policy : ∀ k ∈ chain.filterMap Interceptor.cache?, ∃ definition ∈ definitions, ∃ fallible,
    definition.role = .cache fallible
      ∧ (w'.cache k).policy = .ofProperties definition.properties
  caching : (∃ definition ∈ definitions, ∃ fallible, definition.role = .cache fallible) →
    chain.filterMap Interceptor.cache? ≠ []

end World

/-! ## Scenes -/

/-- **A scene**: a world with what is outside it. -/
structure Scene where
  world : World
  /-- The handles that are out. -/
  hands : Multiset Statement := 0
  /-- The driver's statements that were given to a client bare. -/
  loose : Multiset StatementId := 0
  /-- The counters to which a slot is still to be given back. -/
  owed : Multiset (Option CounterId) := 0
  /-- The driver's connections that belong to no pool. -/
  lines : List PhysicalConnectionId := []
  /-- The caches that a client has made. -/
  own : List CacheId := []

namespace Scene

/-- All handles: those that are out and those that are parked. -/
def handles (S : Scene) : Multiset Statement := S.hands + S.world.parkedHandles

/-- The scene after the world has changed. -/
def inWorld (S : Scene) (w : World) : Scene := { S with world := w }

/-- **A step of a scene.** -/
inductive Step : Scene → Scene → Prop
  /-- The books are changed. -/
  | book {S : Scene} {w : World} (h : S.world.SameCaching w) : Step S { S with world := w }
  /-- Something other than closing is done with a statement that is out. -/
  | use {S : Scene} (usage : Usage) {id : StatementId}
      (h : id ∈ S.loose ∨ ∃ handle ∈ S.hands, handle.target? = some id) :
      Step S { S with world := { S.world with driver := S.world.driver.use usage id } }
  /-- A client closes a bare statement, and keeps it. -/
  | shut {S : Scene} {id : StatementId} (h : id ∈ S.loose) :
      Step S { S with world := { S.world with driver := (S.world.driver.closeStatement id).1 } }
  /-- A bare statement is closed and let go of. -/
  | dispose {S : Scene} {id : StatementId} {H : Multiset Statement}
      (h : S.hands = .physical id ::ₘ H) :
      Step S { S with
        world := { S.world with driver := (S.world.driver.closeStatement id).1 }, hands := H }
  /-- A facade is taken off. -/
  | peel {S : Scene} {key : Option CacheKey} {k : CacheId} {inner : Statement}
      {H : Multiset Statement} (h : S.hands = .facade key k inner ::ₘ H) :
      Step S { S with hands := inner ::ₘ H }
  /-- A spent facade is let go of. -/
  | lapse {S : Scene} {H : Multiset Statement} (h : S.hands = .spent ::ₘ H) :
      Step S { S with hands := H }
  /-- A spent facade is left over. -/
  | spend {S : Scene} : Step S { S with hands := .spent ::ₘ S.hands }
  /-- A bare statement that came to no cache is given to a client. -/
  | give {S : Scene} {id : StatementId} {H : Multiset Statement}
      (h : S.hands = .physical id ::ₘ H) (hw : ¬ S.world.Wrapped id) :
      Step S { S with hands := H, loose := id ::ₘ S.loose }
  /-- The driver makes a statement. -/
  | issue {S : Scene} {statement : PhysicalStatement} {event : StatementId → DriverEvent}
      (hr : statement.Rested) (he : ∀ id, (event id).made? = some id)
      (ho : ∀ line call, statement.origin = some (line, call) → line ∈ S.lines
        ∨ ∃ c, S.world.connections.Known c ∧ (S.world.connection c).physical = line) :
      Step S { S with
        world := { S.world with driver := (S.world.driver.issue statement event).1 }
        hands := .physical S.world.driver.statements.next ::ₘ S.hands }
  /-- A link of a chain answers with a new statement. -/
  | answer {S : Scene} {c : ConnectionId} {position : Nat} {interceptor : Interceptor}
      (call : Call) (sql : String)
      (hl : (S.world.connection c).chain[position]? = some interceptor)
      (hs : interceptor.Supplies call.method) :
      Step S { S with
        world := ({ S.world with driver := (S.world.driver.looseStatement sql).1 } : World).note
          (.link c position) interceptor
          (.leave call (.ok (.statement (.physical S.world.driver.statements.next))))
        hands := .physical S.world.driver.statements.next ::ₘ S.hands }
  /-- A statement leaves a link that passed the call on. A call that prepares is not passed on by
  a cache. -/
  | passUp {S : Scene} {c : ConnectionId} {position : Nat} {interceptor : Interceptor}
      {call call' : Call} {handle : Statement} (h : handle ∈ S.hands)
      (hl : (S.world.connection c).chain[position]? = some interceptor)
      (hm : call'.method = call.method)
      (ho : call.method.prepares = true → interceptor.handsOn? call = some call')
      (ha : S.world.Answered c (position + 1) call' handle) :
      Step S { S with
        world := S.world.note (.link c position) interceptor
          (.leave call (.ok (.statement handle))) }
  /-- A cache puts a facade before a statement that was prepared for a call. -/
  | fill {S : Scene} {c : ConnectionId} {position : Nat} {k : CacheId} {call : Call}
      {handle : Statement} {H : Multiset Statement} (h : S.hands = handle ::ₘ H)
      (hk : (S.world.connection c).cacheAt? position = some k)
      (hp : call.method.prepares = true) (he : S.world.Entered c position call)
      (ha : S.world.Answered c (position + 1) call handle) :
      Step S { S with
        hands := .facade ((S.world.cache k).policy.keyFor call) k handle ::ₘ H }
  /-- A facade leaves the cache that put it before the answer to a call. -/
  | handOut {S : Scene} {c : ConnectionId} {position : Nat} {interceptor : Interceptor}
      {key : Option CacheKey} {k : CacheId} {inner : Statement} (call : Call)
      (h : .facade key k inner ∈ S.hands)
      (hl : (S.world.connection c).chain[position]? = some interceptor)
      (hk : interceptor.cache? = some k)
      (ha : S.world.Answered c (position + 1) call inner) :
      Step S { S with
        world := S.world.note (.link c position) interceptor
          (.leave call (.ok (.statement (.facade key k inner)))) }
  /-- The statement under the key of a call leaves the store, and then a cache that is attached to
  the store as the answer to the call. -/
  | hit {S : Scene} {c : ConnectionId} {position : Nat} {interceptor : Interceptor}
      {k : CacheId} {binding : Binding} {key : CacheKey} {tracked : Tracked} (call : Call)
      (hl : (S.world.connection c).chain[position]? = some interceptor)
      (hk : interceptor.cache? = some k) (hb : (S.world.cache k).binding = some binding)
      (hkey : (S.world.cache k).policy.keyFor call = some key)
      (hf : (S.world.store binding.connection).entries.get? key = some tracked) :
      Step S { S with
        world := (S.world.found binding key).note (.link c position) interceptor
          (.leave call (.ok (.statement tracked.facade)))
        hands := tracked.facade ::ₘ S.hands }
  /-- A facade hands its statement, which was made fit to be used again, to its cache. -/
  | park {S : Scene} {key : CacheKey} {k : CacheId} {inner : Statement} {id : StatementId}
      {c : ConnectionId} {n : CounterId} {H : Multiset Statement}
      (h : S.hands = .facade (some key) k inner ::ₘ H)
      (hb : (S.world.cache k).binding = some ⟨c, some n⟩)
      (hn : (S.world.counter n).count < (S.world.cache k).policy.limit)
      (hc : (S.world.store c).closed = false)
      (hf : (S.world.store c).entries.get? key = none)
      (ht : inner.target? = some id) (hr : (S.world.driver.statement id).Rested) :
      Step S { S with
        world := (S.world.updateCounter n fun _ => ⟨(S.world.counter n).count + 1⟩).setStore c
          ((S.world.store c).park key ⟨some key, k, inner⟩)
        hands := H }
  /-- A cache takes a statement out of the store that it is attached to. -/
  | take {S : Scene} {k : CacheId} {binding : Binding} {key : CacheKey} {tracked : Tracked}
      {store : Store} (hb : (S.world.cache k).binding = some binding)
      (hf : (S.world.store binding.connection).entries.get? key = some tracked)
      (he : store.entries = (S.world.store binding.connection).entries.erase key)
      (hc : store.closed = (S.world.store binding.connection).closed) :
      Step S { S with
        world := S.world.setStore binding.connection store
        hands := tracked.facade ::ₘ S.hands
        owed := binding.counter ::ₘ S.owed }
  /-- A connection gets a store, or a store a new tally or another order of its entries. -/
  | tally {S : Scene} (c : ConnectionId) {store : Store}
      (he : store.entries.bag = (S.world.store c).entries.bag)
      (hc : store.closed = (S.world.store c).closed) :
      Step S { S with world := S.world.setStore c store }
  /-- A cache drains the store of its connection. -/
  | drain {S : Scene} {c : ConnectionId} {k : CacheId}
      (hk : k ∈ (S.world.connection c).caches)
      (hb : (∃ n, (S.world.cache k).binding = some ⟨c, n⟩) ∨ (S.world.store c).closed = true) :
      Step S { S with
        world := S.world.setStore c (S.world.store c).drained
        hands := (S.world.store c).facades + S.hands
        owed := Multiset.replicate (S.world.store c).size
          (S.world.countedBy k (S.world.connection c).pool) + S.owed }
  /-- A slot is given back. -/
  | repay {S : Scene} {n : Option CounterId} {O : Multiset (Option CounterId)}
      (h : S.owed = n ::ₘ O) : Step S { S with world := S.world.releaseSlot n, owed := O }
  /-- A cache is attached to a connection of an open pool: to its own, unless the cache is a
  client's. -/
  | attach {S : Scene} {c : ConnectionId} {k : CacheId}
      (hk : k ∈ (S.world.connection c).caches ∨ k ∈ S.own)
      (hp : (S.world.pool (S.world.connection c).pool).closed = false)
      (hs : ((S.world.connection c).store?).isSome = true) :
      Step S { S with
        world := S.world.updateCache k fun cache =>
          { cache with
            binding := some ⟨c, (S.world.pool (S.world.connection c).pool).counter?⟩ } }
  /-- A cache is detached: once the store of its connection is drained, unless the cache is a
  client's. -/
  | detach {S : Scene} {k : CacheId}
      (hk : k ∈ S.own ∨ ∃ c, k ∈ (S.world.connection c).caches
        ∧ (S.world.store c).closed = true) :
      Step S { S with world := S.world.updateCache k fun cache => { cache with binding := none } }
  /-- The driver opens a connection for nobody in particular. -/
  | dial {S : Scene} :
      Step S { S with
        world := { S.world with driver := S.world.driver.openConnection.1 }
        lines := S.world.driver.connections.next :: S.lines }
  /-- Such a connection is closed. -/
  | cut {S : Scene} {line : PhysicalConnectionId} (h : line ∈ S.lines) :
      Step S { S with
        world := { S.world with driver := S.world.driver.closeConnection line } }
  /-- The driver opens a connection that is closed at once. -/
  | misdial {S : Scene} :
      Step S { S with
        world := { S.world with driver :=
          S.world.driver.openConnection.1.closeConnection S.world.driver.connections.next } }
  /-- The driver's connection of a pooled one is closed. -/
  | hangUp {S : Scene} {c : ConnectionId} (hk : S.world.connections.Known c)
      (hs : (S.world.connection c).caches = [] ∨ (S.world.store c).closed = true) :
      Step S { S with
        world := {
          S.world.updateConnection c fun connection => { connection with closed := true } with
          driver := S.world.driver.closeConnection (S.world.connection c).physical } }
  /-- An open pool opens a connection. -/
  | connect {S : Scene} {p : PoolId} {w : World} {chain : List Interceptor} (metadata : Metadata)
      (hp : (S.world.pool p).closed = false)
      (hw : S.world.Equipped w (S.world.pool p).config.interceptors chain) :
      Step S { S with
        world := { S.world with
          driver := S.world.driver.openConnection.1
          caches := w.caches
          connections := S.world.connections.register
            { pool := p, physical := S.world.driver.connections.next, metadata, chain } } }

/-- **A step of a scene, or one that starts or closes a pool.** -/
inductive Turn : Scene → Scene → Prop
  | step {S S' : Scene} (h : Step S S') : Turn S S'
  /-- A pool comes into being, with the interceptors that listen to it. -/
  | found {S : Scene} {config : PoolConfig} {sources : List Source} {w : World}
      {listeners : List Interceptor}
      (hw : S.world.Equipped w config.interceptors listeners) :
      Turn S { S with
        world := { S.world with
          caches := w.caches, pools := S.world.pools.register { config, sources, listeners } } }
  /-- A pool that is configured with a cache gets a counter. -/
  | count {S : Scene} {p : PoolId} (ho : (S.world.pool p).closed = false)
      (hn : (S.world.pool p).counter? = none) (hc : (S.world.pool p).config.Caching) :
      Turn S { S with world := S.world.startCounting p }
  /-- A pool is closed, and nothing waits in it any more. -/
  | close {S : Scene} (p : PoolId) (total : Pool → Nat) :
      Turn S { S with
        world := S.world.updatePool p fun pool =>
          { pool with closed := true, idle := [], total := total pool } }
  /-- The counter of a closed pool is taken away. -/
  | uncount {S : Scene} {p : PoolId} (hc : (S.world.pool p).closed = true) :
      Turn S { S with world := S.world.stopCounting p }

/-- **A turn, or a step of a client with caches of its own**, whose policies are such that
`Fits` holds of them. -/
inductive OwnTurn (Fits : CachePolicy → Prop) : Scene → Scene → Prop
  | turn {S S' : Scene} (h : Turn S S') : OwnTurn Fits S S'
  /-- The client sets aside what it holds and takes up what it likes. -/
  | sort {S : Scene} {H : Multiset Statement} {L : Multiset StatementId}
      (hH : ∀ handle ∈ H, ∀ id, handle.target? = some id → S.world.driver.statements.Known id)
      (hL : ∀ id ∈ L, S.world.driver.statements.Known id) :
      OwnTurn Fits S { S with hands := H, loose := L }
  /-- The client makes a cache. -/
  | adopt {S : Scene} {policy : CachePolicy} (fallible : Bool) (hp : Fits policy) :
      OwnTurn Fits S { S with
        world := (S.world.newCache policy fallible).1, own := S.world.caches.next :: S.own }
  /-- The client parks a statement as it is. -/
  | offer {S : Scene} {key : CacheKey} {k : CacheId} {tracked : Tracked} {c : ConnectionId}
      {n : CounterId} {H : Multiset Statement} (h : S.hands = tracked.facade ::ₘ H)
      (hb : (S.world.cache k).binding = some ⟨c, some n⟩)
      (hn : (S.world.counter n).count < (S.world.cache k).policy.limit)
      (hc : (S.world.store c).closed = false)
      (hf : (S.world.store c).entries.get? key = none) :
      OwnTurn Fits S { S with
        world := (S.world.updateCounter n fun _ => ⟨(S.world.counter n).count + 1⟩).setStore c
          ((S.world.store c).park key tracked)
        hands := H }

/-- Any number of steps. -/
abbrev Steps : Scene → Scene → Prop := Relation.ReflTransGen Step

/-- Any number of turns. -/
abbrev Turns : Scene → Scene → Prop := Relation.ReflTransGen Turn

/-- Any number of turns of a client with caches of its own. -/
abbrev OwnTurns (Fits : CachePolicy → Prop) : Scene → Scene → Prop :=
  Relation.ReflTransGen (OwnTurn Fits)

theorem Steps.trans {S₁ S₂ S₃ : Scene} (h : Steps S₁ S₂) (h' : Steps S₂ S₃) : Steps S₁ S₃ :=
  Relation.ReflTransGen.trans h h'

theorem Steps.tail {S₁ S₂ S₃ : Scene} (h : Steps S₁ S₂) (h' : Step S₂ S₃) : Steps S₁ S₃ :=
  Relation.ReflTransGen.tail h h'

end Scene

end ConnectionPool
