import ConnectionPool.Proofs.Pool.Validating
import ConnectionPool.Proofs.Scene.Founding

/-!
# Starting a pool is all or nothing

`World.startPoolWith` starts a pool whose definitions may refuse at any call, and records which of
them were asked; `World.startPool` is the case in which a definition says itself whether it refuses
the first call (`startPool_eq`). A start that fails leaves the world as it was. A start that succeeds
tells every listener once, when all of them exist (`told_eq`), and the first cache among them gives
the pool its counter, which the others find there (`Started`). The main result is
`startPool_all_or_nothing`.
-/

set_option autoImplicit false

namespace ConnectionPool

namespace World

variable {w w' : World} {p : PoolId} {config : PoolConfig}

/-! ## Telling that a pool has started -/

/-- The world with more notices. -/
def noting (w : World) (notices : Journal) : World := { w with journal := w.journal ++ notices }

theorem noting_noting (w : World) (a b : Journal) : (w.noting a).noting b = w.noting (a ++ b) := by
  simp [noting]

theorem noting_nil (w : World) : w.noting [] = w := by
  simp [noting]

/-- The notice of a listener that its pool has started. -/
def startNotice (w : World) (p : PoolId) (entry : Interceptor × Nat) : Notice where
  receiver := .listener p entry.2
  interceptor := entry.1
  content := .hook .poolStarted (w.sight p none)
  logged := w.driver.log.length

/-- The world in which a pool counts, if there is a cache among these listeners. -/
def counting (w : World) (p : PoolId) (l : List (Interceptor × Nat)) : World :=
  if l.any fun entry => entry.1.cache?.isSome then w.startCounting p else w

theorem counting_cons_none {entry : Interceptor × Nat} (h : entry.1.cache? = none) (w : World)
    (p : PoolId) (l : List (Interceptor × Nat)) : w.counting p (entry :: l) = w.counting p l := by
  rw [counting, List.any_cons, h]
  rfl

theorem counting_cons_some {entry : Interceptor × Nat} {k : CacheId} (h : entry.1.cache? = some k)
    (w : World) (p : PoolId) (l : List (Interceptor × Nat)) :
    w.counting p (entry :: l) = w.startCounting p := by
  rw [counting, List.any_cons, h]
  rfl

/-- The journal plays no part in whether a pool counts. -/
theorem startCounting_noting (w : World) (p : PoolId) (notices : Journal) :
    (w.noting notices).startCounting p = (w.startCounting p).noting notices := by
  have hsame : ((w.noting notices).pool p).counter? = (w.pool p).counter? := rfl
  cases h : (w.pool p).counter? with
  | some n => rw [startCounting_of_some h, startCounting_of_some (hsame.trans h)]
  | none => rw [startCounting_of_none _ h, startCounting_of_none _ (hsame.trans h)]; rfl

theorem counting_noting (w : World) (p : PoolId) (l : List (Interceptor × Nat))
    (notices : Journal) : (w.noting notices).counting p l = (w.counting p l).noting notices := by
  unfold counting
  split
  · exact startCounting_noting w p notices
  · rfl

theorem known_startCounting (w : World) (p q : PoolId) :
    (w.startCounting p).pools.Known q ↔ w.pools.Known q := by
  unfold startCounting
  split
  · exact Iff.rfl
  · exact Registry.known_modify _ _ _ _

/-- A pool that counts does not start to count once more. -/
theorem counting_startCounting (hp : w.pools.Known p) (l : List (Interceptor × Nat)) :
    (w.startCounting p).counting p l = w.startCounting p := by
  have hsame : (w.startCounting p).startCounting p = w.startCounting p := by
    cases h : (w.pool p).counter? with
    | some n => rw [startCounting_of_some h, startCounting_of_some h]
    | none =>
        refine startCounting_of_some (n := w.counters.next) ?_
        rw [w.startCounting_of_none h, pool_updatePool, if_pos ⟨rfl, hp⟩]
        exact Attributes.get?_insert_self _ _ _
  rw [counting, hsame, ite_self]

/-- What the listeners can see of the pool does not depend on its counter. -/
theorem startNotice_startCounting (w : World) (p : PoolId) :
    (w.startCounting p).startNotice p = w.startNotice p := by
  have hname := w.pool_startCounting_congr p (fun pool => pool.config.name) (fun _ _ => rfl) p
  have hclosed := w.pool_startCounting_congr p Pool.closed (fun _ _ => rfl) p
  have hstatus := w.pool_startCounting_congr p Pool.status (fun _ _ => rfl) p
  have hdriver : (w.startCounting p).driver = w.driver := by
    unfold startCounting
    split <;> rfl
  funext entry
  simp only [startNotice, sight, hname, hclosed, hstatus, hdriver, Option.map_none]

/-- One listener is told that its pool has started. -/
theorem deliver_started (w : World) (p : PoolId) (entry : Interceptor × Nat) :
    deliver p .poolStarted (Receiver.listener p entry.2) entry.1 w
      = (w.counting p [entry]).noting [w.startNotice p entry] := by
  cases hk : entry.1.cache? with
  | none =>
      rw [counting_cons_none hk]
      exact react_of_no_cache hk
  | some k =>
      rw [counting_cons_some hk, deliver, react_started _ hk]
      exact startCounting_noting w p [w.startNotice p entry]

/-- **The listeners are told that their pool has started**: each makes a notice, and together they
see to it that the pool counts if one of them is a cache. The induction is on those that are still
to be told. -/
theorem told_eq (l : List (Interceptor × Nat)) : ∀ {w : World}, w.pools.Known p →
    Scene.told p l w = (w.counting p l).noting (l.map (w.startNotice p)) := by
  induction l with
  | nil => exact fun {w} _ => (w.noting_nil).symm
  | cons entry rest ih =>
      intro w hp
      have hfold : Scene.told p (entry :: rest) w
          = Scene.told p rest ((w.counting p [entry]).noting [w.startNotice p entry]) := by
        rw [Scene.told, List.foldl_cons, deliver_started]
        rfl
      have hnotices : w.startNotice p entry :: rest.map (w.startNotice p)
          = [w.startNotice p entry] ++ rest.map (w.startNotice p) := rfl
      rw [hfold, List.map_cons, hnotices, ← noting_noting]
      cases hk : entry.1.cache? with
      | none =>
          rw [counting_cons_none hk, counting_cons_none hk]
          refine (ih (w := w.noting [w.startNotice p entry]) hp).trans ?_
          rw [counting_noting]
          rfl
      | some k =>
          -- from the first cache on the pool counts
          rw [counting_cons_some hk, counting_cons_some hk]
          refine (ih (w := (w.startCounting p).noting [w.startNotice p entry])
            ((w.known_startCounting p p).mpr hp)).trans ?_
          rw [counting_noting, counting_startCounting hp, ← startNotice_startCounting w p]
          rfl

/-! ## Making the listeners -/

/-- There is a cache among the listeners exactly when a definition is one. -/
theorem any_cache_makeInterceptors (w : World) (definitions : List Definition) :
    ((w.makeInterceptors definitions).2.zipIdx.any fun entry => entry.1.cache?.isSome) = true
      ↔ ∃ definition ∈ definitions, ∃ fallible, definition.role = .cache fallible := by
  rw [List.any_eq_true]
  constructor
  · rintro ⟨entry, hentry, hk⟩
    exact caching_of_makeInterceptors (List.fst_mem_of_mem_zipIdx hentry) hk
  · intro h
    obtain ⟨interceptor, hi, hk⟩ := exists_cache_of_makeInterceptors h w
    obtain ⟨i, hi⟩ := List.mem_iff_getElem?.mp hi
    exact ⟨(interceptor, i), List.mk_mem_zipIdx_iff_getElem?.mpr hi, hk⟩

/-- The record of a new pool: each of its definitions was asked once. -/
def newPool (w : World) (config : PoolConfig) (attributes : Attributes PoolAttribute.Value) :
    Pool where
  config := config
  sources := config.interceptors.map fun definition => { definition, attempts := 1 }
  listeners := (w.makeInterceptors config.interceptors).2
  attributes := attributes

/-- The world with a new pool that has all its listeners. -/
def enroll (w : World) (config : PoolConfig) (attributes : Attributes PoolAttribute.Value) :
    World :=
  { w with
    caches := (w.makeInterceptors config.interceptors).1.caches
    pools := w.pools.register (w.newPool config attributes) }

theorem pool_enroll (w : World) (config : PoolConfig)
    (attributes : Attributes PoolAttribute.Value) (q : PoolId) :
    (w.enroll config attributes).pool q
      = if q = w.pools.next then w.newPool config attributes else w.pool q :=
  w.pools.get_register _ q

theorem known_enroll (w : World) (config : PoolConfig)
    (attributes : Attributes PoolAttribute.Value) :
    (w.enroll config attributes).pools.Known w.pools.next :=
  (Registry.known_register _ _ _).mpr (Or.inr rfl)

/-- **Start a pool whose factories may refuse at any call**; the definitions that were asked for a
listener, and the outcome. -/
def startPoolWith (factories : Factories) (w : World) (config : PoolConfig) :
    World × List Definition × Except PoolError PoolId :=
  match config.check with
  | .error error => (w, [], .error error)
  | .ok () =>
      match factories.askAll [] config.interceptors with
      | (asked, .error error) => (w, asked, .error error)
      | (asked, .ok ()) =>
          ((w.enroll config Attributes.empty).tellListeners w.pools.next .poolStarted, asked,
            .ok w.pools.next)

/-! ## A pool that has started -/

/-- **A pool that was just started.** -/
structure Started (w : World) (config : PoolConfig) (p : PoolId) (w' : World) : Prop where
  /-- The pool is a new one. -/
  fresh : ¬ w.pools.Known p ∧ w'.pools.Known p
  /-- It is open and has no connection, and each definition was asked once. -/
  record : w'.pool p =
    { config
      sources := config.interceptors.map fun definition => { definition, attempts := 1 }
      listeners := (w'.pool p).listeners
      attributes := (w'.pool p).attributes }
  /-- No other pool changes. -/
  others : ∀ q, q ≠ p → w'.pool q = w.pool q
  /-- Every definition has a listener of its own, in order: what its factory makes. -/
  instances : (w'.pool p).listeners = (w.makeInterceptors config.interceptors).2
    ∧ (w'.pool p).listeners.map Interceptor.name
      = config.interceptors.map Definition.instanceName
  /-- The listeners are told when all of them exist, and nobody was told anything before. -/
  told : ∃ founded : World, founded.journal = w.journal
    ∧ (founded.pool p).listeners = (w'.pool p).listeners
    ∧ w' = founded.tellListeners p .poolStarted
  /-- They are told once each, in order, of a pool that is open and without connections. -/
  hooks : w'.journal = w.journal ++ (w'.pool p).listeners.zipIdx.map fun entry =>
    { receiver := .listener p entry.2
      interceptor := entry.1
      content := .hook .poolStarted
        { poolName := config.name
          poolClosed := false
          status := { available := 0, inUse := 0, total := 0, limit := config.maxConnections }
          connection := none }
      logged := w.driver.log.length }
  /-- No connection was opened. -/
  unconnected : w'.driver = w.driver ∧ w'.connections = w.connections
  /-- With caches, however many, the pool holds one new counter, which is at zero. -/
  counted : (∃ definition ∈ config.interceptors, ∃ fallible, definition.role = .cache fallible) →
    (w'.pool p).attributes.size = 1 ∧ (w'.pool p).counter? = some w.counters.next
      ∧ w'.counters = w.counters.register {} ∧ (w'.counter w.counters.next).count = 0
  /-- Without a cache it holds nothing. -/
  uncounted :
    (¬ ∃ definition ∈ config.interceptors, ∃ fallible, definition.role = .cache fallible) →
    (w'.pool p).attributes = Attributes.empty ∧ w'.counters = w.counters

/-- What the listeners of a new pool see of it. -/
theorem startNotice_enroll (w : World) (config : PoolConfig)
    (attributes : Attributes PoolAttribute.Value) :
    (w.enroll config attributes).startNotice w.pools.next = fun entry =>
      { receiver := .listener w.pools.next entry.2
        interceptor := entry.1
        content := .hook .poolStarted
          { poolName := config.name
            poolClosed := false
            status := { available := 0, inUse := 0, total := 0, limit := config.maxConnections }
            connection := none }
        logged := w.driver.log.length } := by
  funext entry
  rw [startNotice, sight, pool_enroll, if_pos rfl]
  rfl

/-- **The first cache gives the pool its counter.** -/
theorem startCounting_enroll (w : World) (config : PoolConfig) :
    (w.enroll config Attributes.empty).startCounting w.pools.next
      = { w.enroll config (Attributes.empty.insert .counter w.counters.next) with
          counters := w.counters.register {} } := by
  have hnone : ((w.enroll config Attributes.empty).pool w.pools.next).counter? = none := by
    rw [pool_enroll, if_pos rfl]
    rfl
  rw [startCounting_of_none _ hnone, updatePool]
  simp only [enroll, Registry.modify_register_next]
  rfl

/-- What the listeners of a new pool leave behind: the pool with some attributes and some counters,
and a notice of each. -/
theorem tellListeners_enroll (w : World) (config : PoolConfig) :
    ∃ attributes counters,
      (w.enroll config Attributes.empty).tellListeners w.pools.next .poolStarted
        = ({ w.enroll config attributes with counters } : World).noting
          ((w.makeInterceptors config.interceptors).2.zipIdx.map
            ((w.enroll config Attributes.empty).startNotice w.pools.next))
      ∧ ((∃ definition ∈ config.interceptors, ∃ fallible, definition.role = .cache fallible) →
        attributes = Attributes.empty.insert .counter w.counters.next
          ∧ counters = w.counters.register {})
      ∧ ((¬ ∃ definition ∈ config.interceptors, ∃ fallible, definition.role = .cache fallible) →
        attributes = Attributes.empty ∧ counters = w.counters) := by
  have htold := told_eq (w.makeInterceptors config.interceptors).2.zipIdx
    (w.known_enroll config Attributes.empty)
  have hlisteners : ((w.enroll config Attributes.empty).pool w.pools.next).listeners
      = (w.makeInterceptors config.interceptors).2 := by
    rw [pool_enroll, if_pos rfl]
    rfl
  have htell : (w.enroll config Attributes.empty).tellListeners w.pools.next .poolStarted
      = Scene.told w.pools.next (w.makeInterceptors config.interceptors).2.zipIdx
        (w.enroll config Attributes.empty) := by
    rw [tellListeners, hlisteners]
    rfl
  have hany := w.any_cache_makeInterceptors config.interceptors
  rw [counting] at htold
  by_cases hcache : ∃ definition ∈ config.interceptors, ∃ fallible,
      definition.role = .cache fallible
  · rw [if_pos (hany.mpr hcache), startCounting_enroll] at htold
    exact ⟨_, _, htell.trans htold, fun _ => ⟨rfl, rfl⟩, fun h => absurd hcache h⟩
  · rw [if_neg (mt hany.mp hcache)] at htold
    exact ⟨_, _, htell.trans htold, fun h => absurd h hcache, fun _ => ⟨rfl, rfl⟩⟩

/-- **A new pool whose listeners have been told has started.** -/
theorem started_enroll (w : World) (config : PoolConfig) :
    w.Started config w.pools.next
      ((w.enroll config Attributes.empty).tellListeners w.pools.next .poolStarted) := by
  obtain ⟨attributes, counters, htold, hcounted, huncounted⟩ := w.tellListeners_enroll config
  obtain ⟨w', hw'⟩ : ∃ w', w' = (w.enroll config Attributes.empty).tellListeners w.pools.next
    .poolStarted := ⟨_, rfl⟩
  rw [← hw'] at htold ⊢
  have hpool : w'.pool w.pools.next = w.newPool config attributes := by
    rw [htold]
    exact (w.pool_enroll config attributes _).trans (if_pos rfl)
  refine
    { fresh := ⟨w.pools.not_known_next, ?_⟩
      record := by rw [hpool]; rfl
      others := fun q hq => ?_
      instances := by rw [hpool]; exact ⟨rfl, w.names_makeInterceptors config.interceptors⟩
      told := ⟨w.enroll config Attributes.empty, rfl, ?_, hw'⟩
      hooks := ?_
      unconnected := by rw [htold]; exact ⟨rfl, rfl⟩
      counted := fun h => ?_
      uncounted := fun h => ?_ }
  · rw [htold]
    exact w.known_enroll config attributes
  · rw [htold]
    exact (w.pool_enroll config attributes q).trans (if_neg hq)
  · rw [hpool, pool_enroll, if_pos rfl]
    rfl
  · rw [hpool, ← w.startNotice_enroll config Attributes.empty, htold]
    rfl
  · obtain ⟨rfl, rfl⟩ := hcounted h
    have hcounters : w'.counters = w.counters.register {} := by rw [htold]; rfl
    refine ⟨by rw [hpool]; rfl, by rw [hpool]; rfl, hcounters, ?_⟩
    rw [counter, hcounters, Registry.get_register_next]
  · obtain ⟨rfl, rfl⟩ := huncounted h
    exact ⟨by rw [hpool]; rfl, by rw [htold]; rfl⟩

/-! ## All or nothing -/

/-- **How the start of a pool ends**, with the world, the definitions asked and the outcome. -/
inductive Ends (factories : Factories) (w : World) (config : PoolConfig) :
    World × List Definition × Except PoolError PoolId → Prop
  /-- No connection is allowed. -/
  | noConnections (hmax : config.maxConnections = 0) :
      Ends factories w config (w, [], .error (.configuration .noConnections))
  /-- A name came before. -/
  | repeated (hmax : 0 < config.maxConnections) {i : Nat} {name : String}
      (hi : IsLeast {j | RepeatsAt (config.interceptors.map Definition.name) j} i)
      (hname : (config.interceptors.map Definition.name)[i]? = some name) :
      Ends factories w config (w, [], .error (.configuration (.repeatedInterceptor name)))
  /-- A factory refuses. -/
  | refused (hmax : 0 < config.maxConnections)
      (hnodup : (config.interceptors.map Definition.name).Nodup) {i : Nat}
      {definition : Definition} {error : PoolError}
      (hi : IsLeast {j | ¬ factories.MakesAt config.interceptors j} i)
      (hplace : config.interceptors[i]? = some definition)
      (herror : factories (config.interceptors.take i) definition = .error error) :
      Ends factories w config (w, config.interceptors.take (i + 1), .error error)
  /-- The pool starts. -/
  | starts (hmax : 0 < config.maxConnections)
      (hnodup : (config.interceptors.map Definition.name).Nodup)
      (hmakes : ∀ i, factories.MakesAt config.interceptors i) {w' : World} {p : PoolId}
      (hstarted : w.Started config p w') :
      Ends factories w config (w', config.interceptors, .ok p)

theorem ends_startPoolWith (factories : Factories) (w : World) (config : PoolConfig) :
    Ends factories w config (w.startPoolWith factories config) := by
  rw [startPoolWith, PoolConfig.check]
  split
  · next error herror =>
      split at herror
      · next hmax =>
          cases herror
          exact .noConnections hmax
      · next hmax =>
          rcases firstRepeated?_cases (config.interceptors.map Definition.name) with
            ⟨hnone, -⟩ | ⟨i, name, hi, hname, hsome⟩
          · rw [hnone] at herror
            cases herror
          · rw [hsome] at herror
            cases herror
            exact .repeated (Nat.pos_of_ne_zero hmax) hi hname
  · next hok =>
      split at hok
      · cases hok
      · next hmax =>
          have hpos := Nat.pos_of_ne_zero hmax
          rcases firstRepeated?_cases (config.interceptors.map Definition.name) with
            ⟨-, hnodup⟩ | ⟨i, name, -, -, hsome⟩
          · rcases factories.askAll_cases config.interceptors with
              ⟨hasked, hmakes⟩ | ⟨i, definition, error, hi, hplace, herror, hasked⟩
            · rw [hasked]
              exact .starts hpos hnodup hmakes (w.started_enroll config)
            · rw [hasked]
              exact .refused hpos hnodup hi hplace herror
          · rw [hsome] at hok
            cases hok

/-- **What it is to start a pool or nothing**, where the outcome gives the world afterwards, the
definitions that were asked for a listener, and the new pool or an error. -/
structure AllOrNothing (factories : Factories) (w : World) (config : PoolConfig)
    (outcome : World × List Definition × Except PoolError PoolId) : Prop where
  /-- A pool starts if and only if connections are allowed, the names of the definitions are
  distinct, and every factory makes an interceptor. -/
  succeeds : (∃ p, outcome.2.2 = .ok p)
    ↔ 0 < config.maxConnections ∧ (config.interceptors.map Definition.name).Nodup
      ∧ ∀ i, factories.MakesAt config.interceptors i
  /-- A limit of zero is reported before anything else, and no definition is asked. -/
  noConnections : config.maxConnections = 0 →
    outcome = (w, [], .error (.configuration .noConnections))
  /-- Or else a repeated name is: the one at the first place whose name came before. No definition
  is asked. -/
  repeated : 0 < config.maxConnections → ¬ (config.interceptors.map Definition.name).Nodup →
    ∃ i name, IsLeast {j | RepeatsAt (config.interceptors.map Definition.name) j} i
      ∧ (config.interceptors.map Definition.name)[i]? = some name
      ∧ outcome = (w, [], .error (.configuration (.repeatedInterceptor name)))
  /-- The definitions of a valid configuration are asked in order, up to the first that is refused,
  and its error is the outcome. -/
  refused : 0 < config.maxConnections → (config.interceptors.map Definition.name).Nodup →
    (¬ ∀ i, factories.MakesAt config.interceptors i) →
    ∃ i definition error, IsLeast {j | ¬ factories.MakesAt config.interceptors j} i
      ∧ config.interceptors[i]? = some definition
      ∧ factories (config.interceptors.take i) definition = .error error
      ∧ outcome = (w, config.interceptors.take (i + 1), .error error)
  /-- A failed start changes nothing, so no listener is told anything. -/
  failed : ∀ error, outcome.2.2 = .error error → outcome.1 = w
  /-- A successful one has asked every definition once, and the pool has started. -/
  started : ∀ p, outcome.2.2 = .ok p →
    outcome.2.1 = config.interceptors ∧ w.Started config p outcome.1

theorem not_exists_error (error : PoolError) :
    ¬ ∃ p : PoolId, (.error error : Except PoolError PoolId) = .ok p := by
  rintro ⟨p, h⟩
  cases h

theorem Ends.allOrNothing {factories : Factories}
    {outcome : World × List Definition × Except PoolError PoolId}
    (h : Ends factories w config outcome) : AllOrNothing factories w config outcome := by
  cases h with
  | noConnections hmax =>
      exact
        { succeeds := iff_of_false (not_exists_error _) fun h => h.1.ne' hmax
          noConnections := fun _ => rfl
          repeated := fun hpos => absurd hmax hpos.ne'
          refused := fun hpos => absurd hmax hpos.ne'
          failed := fun _ _ => rfl
          started := fun p h => absurd ⟨p, h⟩ (not_exists_error _) }
  | @repeated hmax i name hi hname =>
      have hrepeats : ¬ (config.interceptors.map Definition.name).Nodup := fun hnodup =>
        (nodup_iff_not_repeatsAt _).mp hnodup i hi.1
      exact
        { succeeds := iff_of_false (not_exists_error _) fun h => hrepeats h.2.1
          noConnections := fun hzero => absurd hzero hmax.ne'
          repeated := fun _ _ => ⟨i, name, hi, hname, rfl⟩
          refused := fun _ hnodup => absurd hnodup hrepeats
          failed := fun _ _ => rfl
          started := fun p h => absurd ⟨p, h⟩ (not_exists_error _) }
  | @refused hmax hnodup i definition error hi hplace herror =>
      exact
        { succeeds := iff_of_false (not_exists_error _) fun h => hi.1 (h.2.2 i)
          noConnections := fun hzero => absurd hzero hmax.ne'
          repeated := fun _ hrepeats => absurd hnodup hrepeats
          refused := fun _ _ _ => ⟨i, definition, error, hi, hplace, herror, rfl⟩
          failed := fun _ _ => rfl
          started := fun p h => absurd ⟨p, h⟩ (not_exists_error _) }
  | @starts hmax hnodup hmakes w' p hstarted =>
      exact
        { succeeds := iff_of_true ⟨p, rfl⟩ ⟨hmax, hnodup, hmakes⟩
          noConnections := fun hzero => absurd hzero hmax.ne'
          repeated := fun _ hrepeats => absurd hnodup hrepeats
          refused := fun _ _ hrefuses => absurd hmakes hrefuses
          failed := fun error h => by cases h
          started := fun q h => by cases h; exact ⟨rfl, hstarted⟩ }

/-! ## Definitions that say when they refuse -/

/-- **To attempt each definition for the first time is to ask those factories**: with the same
verdict, and the definitions that are asked are those with an attempt. -/
theorem attemptAll_eq (definitions : List Definition) : ∀ asked : List Definition,
    ∃ front back, definitions = front ++ back
      ∧ Factories.scheduled.askAll asked definitions
        = (asked ++ front,
          (Source.attemptAll (definitions.map fun definition => { definition })).2)
      ∧ (Source.attemptAll (definitions.map fun definition => { definition })).1
        = front.map (fun definition => { definition, attempts := 1 })
          ++ back.map (fun definition => { definition := definition })
      ∧ ((Factories.scheduled.askAll asked definitions).2 = .ok () → back = []) := by
  induction definitions with
  | nil => exact fun asked => ⟨[], [], rfl, by rw [List.append_nil]; rfl, rfl, fun _ => rfl⟩
  | cons definition rest ih =>
      intro asked
      have hrefused : (Source.attempt { definition }).refused = definition.refusals.contains 1 :=
        rfl
      rw [List.map_cons, Source.attemptAll, Factories.askAll, Factories.scheduled, hrefused]
      cases definition.refusals.contains 1 with
      | true => exact ⟨[definition], rest, rfl, rfl, rfl, fun h => by cases h⟩
      | false =>
          obtain ⟨front, back, hsplit, hask, hsources, hback⟩ := ih (asked ++ [definition])
          refine ⟨definition :: front, back, by rw [hsplit]; rfl, ?_, ?_, hback⟩
          · refine hask.trans ?_
            rw [List.append_assoc]
            rfl
          · rw [List.map_cons, List.cons_append, ← hsources]
            rfl

/-- **A pool is started as with the factories that its definitions describe.** -/
theorem startPool_eq (w : World) (config : PoolConfig) :
    w.startPool config
      = ((w.startPoolWith .scheduled config).1, (w.startPoolWith .scheduled config).2.2) := by
  unfold startPool startPoolWith
  cases config.check with
  | error error => rfl
  | ok _ =>
      obtain ⟨front, back, hsplit, hask, hsources, hback⟩ := attemptAll_eq config.interceptors []
      obtain ⟨sources, verdict, hattempt⟩ : ∃ sources verdict, Source.attemptAll
        (config.interceptors.map fun definition => { definition }) = (sources, verdict) :=
          ⟨_, _, rfl⟩
      rw [hattempt] at hask hsources
      rw [hask] at hback
      dsimp only
      rw [hattempt, hask]
      cases verdict with
      | error error => rfl
      | ok _ =>
          have hmade := w.makeInterceptors_eq config.interceptors
          have hfront : config.interceptors = front := by
            rw [hsplit, hback rfl, List.append_nil]
          have hasked : sources
              = config.interceptors.map fun definition => { definition, attempts := 1 } := by
            refine hsources.trans ?_
            rw [hback rfl, hfront, List.map_nil, List.append_nil]
          dsimp only [enroll, newPool]
          rw [hmade, hasked]

/-- **The start of a pool is all or nothing**, whatever factories the definitions have; and the pools
of the library are started so. -/
theorem startPool_all_or_nothing (w : World) (config : PoolConfig) :
    (∀ factories, AllOrNothing factories w config (w.startPoolWith factories config))
    ∧ w.startPool config
      = ((w.startPoolWith .scheduled config).1, (w.startPoolWith .scheduled config).2.2) :=
  ⟨fun factories => (ends_startPoolWith factories w config).allOrNothing, startPool_eq w config⟩

/-- Two caches share the one counter that the first of them made. -/
example :
    let w := (startPool {} { interceptors := [
      { name := "inner", role := .cache false }, { name := "outer", role := .cache false }] }).1
    (w.pool 1).counter? = some 1 ∧ w.counters.size = 1 ∧ w.journal.length = 2 := by
  decide

end World

end ConnectionPool
