import ConnectionPool.Proofs.Scene.Founding
import ConnectionPool.Proofs.Session.OwnCaches
import ConnectionPool.Proofs.Session.Exclusive

/-!
# Bounded admission, exact count

A pool with a caching interceptor gets an admission counter when it starts. From then on, and also
after the pool has closed and the counter was taken away from it, the counter counts the
statements that are parked on the connections that the pool ever opened, and never more than the
largest limit of the caches that can park there (`exact_count`). Clients may attach caches of
their own to the connections of the pool while it is open, and faults may be switched at any time.
-/

set_option autoImplicit false

namespace ConnectionPool

namespace World

/-- The connections that a pool ever opened. -/
def connectionsOf (w : World) (p : PoolId) : Finset ConnectionId :=
  w.everyConnection.filter fun c => (w.connection c).pool = p

theorem parkedIn_eq_sum (w : World) (p : PoolId) :
    w.parkedIn p = ∑ c ∈ w.connectionsOf p, (w.store c).size := by
  rw [parkedIn, total, connectionsOf, Finset.sum_filter]

/-- **A counter counts what is parked in a pool**, which has the counter until it is closed. -/
structure Counts (w : World) (p : PoolId) (n : CounterId) : Prop where
  counter : (w.pool p).counter? = some n
    ∨ ((w.pool p).closed = true ∧ (w.pool p).counter? = none)
  exact : (w.counter n).count = ∑ c ∈ w.connectionsOf p, (w.store c).size

end World

namespace Scene

variable {S S' : Scene} {p : PoolId} {n : CounterId} {Fits : CachePolicy → Prop}

/-- **What holds of every scene** that a client with caches of its own comes to. -/
structure Regular (Fits : CachePolicy → Prop) (S : Scene) : Prop where
  wired : S.Wired
  traced : S.Traced
  numbered : S.Numbered
  fits : ∀ k ∈ S.own, Fits (S.world.cache k).policy

theorem OwnTurn.regular (h : OwnTurn Fits S S') (hS : S.Regular Fits) : S'.Regular Fits := by
  obtain ⟨hlater, hwired⟩ := h.later_and_wired hS.wired
  refine ⟨hwired, h.traced hS.wired hS.traced, h.numbered hS.numbered, fun k hk => ?_⟩
  rcases h.own hk with hk | hk
  · rw [(hlater.caches k (hS.wired.own_known k hk)).2]
    exact hS.fits k hk
  · exact hk

theorem OwnTurns.regular (h : OwnTurns Fits S S') (hS : S.Regular Fits) : S'.Regular Fits := by
  induction h with
  | refl => exact hS
  | tail _ hturn ih => exact hturn.regular ih

/-- **A counter serves its pool for good.** -/
theorem OwnTurns.admits (h : OwnTurns Fits S S') (hS : S.Wired) (ha : Admits Fits p n S) :
    Admits Fits p n S' :=
  (h.induct (P := Admits Fits p n) (fun h hS ha => h.admits hS ha) hS ha).2.2

theorem regular_nothing : nothing.Regular Fits where
  wired := wired_nothing
  traced := sound_nothing.traced
  numbered :=
    { pools := fun {q m} h => by
        have hq : nothing.world.pool q = default :=
          Registry.get_of_not_known (Registry.not_known_empty q)
        rw [hq] at h
        exact nomatch h
      caches := fun {k binding m} h => by
        have hk : nothing.world.cache k = default :=
          Registry.get_of_not_known (Registry.not_known_empty k)
        rw [hk] at h
        exact nomatch h }
  fits := fun _ h => absurd h List.not_mem_nil

end Scene

namespace Session

open Scene (Turns OwnTurns)

variable {s : Session} {S : Scene} {p : PoolId} {Fits : CachePolicy → Prop}

/-! ## Runs of clients with caches of their own -/

/-- **The client keeps to what it may do** with caches of its own, command after command. -/
def Orderly : Session → List Command → Prop
  | _, [] => True
  | s, command :: rest => s.Permits command ∧ Orderly (s.run command).1 rest

theorem orderly_append {earlier later : List Command} (h : Orderly s (earlier ++ later)) :
    Orderly s earlier ∧ Orderly (s.runAll earlier) later := by
  induction earlier generalizing s with
  | nil => exact ⟨trivial, h⟩
  | cons command rest ih =>
      obtain ⟨hp, hrest⟩ := h
      exact ⟨⟨hp, (ih hrest).1⟩, (ih hrest).2⟩

/-- A client with caches of its own, and a scene that depicts what it has done. -/
structure Follows (Fits : CachePolicy → Prop) (s : Session) (S : Scene) : Prop where
  depicts : Depicts s S
  regular : S.Regular Fits

theorem follows_empty : Follows Fits empty Scene.nothing :=
  ⟨keeps_empty.depicts, Scene.regular_nothing⟩

theorem Follows.run (h : Follows Fits s S) {command : Command} (hp : s.Permits command)
    (hf : Tailored Fits command) :
    ∃ S', OwnTurns Fits S S' ∧ Follows Fits (s.run command).1 S' := by
  obtain ⟨S', hturns, hd⟩ := ownReached_run h.depicts h.regular.wired h.regular.traced hp hf
  exact ⟨S', hturns, hd, hturns.regular h.regular⟩

theorem Follows.runAll (h : Follows Fits s S) {commands : List Command}
    (hp : Orderly s commands) (hf : ∀ command ∈ commands, Tailored Fits command) :
    ∃ S', OwnTurns Fits S S' ∧ Follows Fits (s.runAll commands) S' := by
  induction commands generalizing s S with
  | nil => exact ⟨S, .refl, h⟩
  | cons command rest ih =>
      obtain ⟨hcommand, hrest⟩ := hp
      obtain ⟨S₁, hturns₁, h₁⟩ := h.run hcommand (hf command List.mem_cons_self)
      obtain ⟨S₂, hturns₂, h₂⟩ := ih h₁ hrest fun other hm => hf other (List.mem_cons_of_mem _ hm)
      exact ⟨S₂, hturns₁.trans hturns₂, h₂⟩

/-! ## Starting a pool -/

/-- The caches among some definitions have policies of which `Fits` holds. -/
def Cut (Fits : CachePolicy → Prop) (definitions : List Definition) : Prop :=
  ∀ definition ∈ definitions, ∀ fallible, definition.role = .cache fallible →
    Fits (.ofProperties definition.properties)

/-- A command that brings a pool under a free name has started it. -/
theorem run_start {save : Name} {request : PoolRequest} {config : PoolConfig}
    (hfree : s.pools.get? save = none) (hread : request.read = .ok config)
    (hp : (s.run (.pool (.start save request))).1.pools.get? save = some p) :
    ∃ w, s.world.startPool config = (w, .ok p)
      ∧ (s.run (.pool (.start save request))).1
        = { s.inWorld w with pools := s.pools.insert save p } := by
  obtain ⟨w, result, hw⟩ : ∃ w result, s.world.startPool config = (w, result) := ⟨_, _, rfl⟩
  have hrun : s.run (.pool (.start save request)) = match result with
      | .error error => (s.inWorld w, .poolError error)
      | .ok p => ({ s.inWorld w with pools := s.pools.insert save p }, .done) := by
    simp only [Session.run, runPool, withFresh, (Table.contains_eq_false_iff _ _).mpr hfree, hread,
      hw, Bool.false_eq_true, if_false]
    cases result <;> rfl
  rw [hrun] at hp ⊢
  cases result with
  | error error =>
      change s.pools.get? save = some p at hp
      rw [hfree] at hp
      cases hp
  | ok q =>
      change (s.pools.insert save q).get? save = some p at hp
      rw [Table.get?_insert_self] at hp
      obtain rfl := Option.some.inj hp
      exact ⟨w, hw, rfl⟩

/-- **A pool that was started has a counter**, if one of its interceptors is a cache. -/
theorem Follows.start (h : Follows Fits s S) {save : Name} {request : PoolRequest}
    {config : PoolConfig} (hfree : s.pools.get? save = none) (hread : request.read = .ok config)
    (hcache : ∃ definition ∈ config.interceptors, ∃ fallible, definition.role = .cache fallible)
    (hcut : Cut Fits config.interceptors)
    (hp : (s.run (.pool (.start save request))).1.pools.get? save = some p) :
    ∃ S' n, Follows Fits (s.run (.pool (.start save request))).1 S' ∧ S'.Counted Fits p n := by
  obtain ⟨w, hw, hrun⟩ := run_start hfree hread hp
  have hturns : Turns S (S.inWorld (S.world.startPool config).1) := Scene.turns_startPool config
  rw [h.depicts.world, hw] at hturns
  have hstart : S.world.startPool config = (w, .ok p) := by rw [h.depicts.world, hw]
  obtain ⟨n, hcounted⟩ := Scene.counted_startPool h.regular.wired h.regular.numbered
    h.depicts.owed h.regular.fits hcut hcache hstart
  have hd := h.depicts.inWorld h.regular.wired hturns
  rw [hrun]
  exact ⟨_, n, ⟨{ hd with }, hturns.own.regular h.regular⟩, hcounted⟩

/-! ## The theorem -/

/-- What a run of a client does to a pool that it starts on the way. -/
theorem exists_admits {earlier later : List Command} {save : Name} {request : PoolRequest}
    {config : PoolConfig}
    (horderly : Orderly empty (earlier ++ .pool (.start save request) :: later))
    (hfree : (empty.runAll earlier).pools.get? save = none)
    (hread : request.read = .ok config)
    (hcache : ∃ definition ∈ config.interceptors, ∃ fallible, definition.role = .cache fallible)
    (hp : ((empty.runAll earlier).run (.pool (.start save request))).1.pools.get? save = some p)
    (hcut : Cut Fits config.interceptors)
    (hfits : ∀ command ∈ earlier ++ later, Tailored Fits command) :
    ∃ n S, (((empty.runAll earlier).run (.pool (.start save request))).1.world.pool p).counter?
        = some n
      ∧ S.world = (empty.runAll (earlier ++ .pool (.start save request) :: later)).world
      ∧ S.owed = 0 ∧ Scene.Admits Fits p n S := by
  obtain ⟨hearlier, -, hlater⟩ := orderly_append horderly
  obtain ⟨S₁, -, h₁⟩ := follows_empty.runAll hearlier fun command hm =>
    hfits command (List.mem_append_left _ hm)
  obtain ⟨S₂, n, h₂, hcounted⟩ := h₁.start hfree hread hcache hcut hp
  obtain ⟨S₃, hturns, h₃⟩ := h₂.runAll hlater fun command hm =>
    hfits command (List.mem_append_right _ hm)
  refine ⟨n, S₃, ?_, ?_, h₃.depicts.owed, hturns.admits h₂.regular.wired hcounted.admits⟩
  · rw [← h₂.depicts.world]
    exact hcounted.counter
  · rw [h₃.depicts.world, runAll_append]
    rfl

/-- **Bounded admission, exact count.** A pool that was started with a caching interceptor has a
counter. After any further commands of a client that keeps to what it may do with caches of its
own, whatever faults were switched, the counter equals the number of statements parked on all
connections that the pool ever opened, also once the pool is closed; and it is no greater than any
limit that the caches of the pool and those of the client respect. -/
theorem exact_count {earlier later : List Command} {save : Name} {request : PoolRequest}
    {config : PoolConfig}
    (horderly : Orderly empty (earlier ++ .pool (.start save request) :: later))
    (hfree : (empty.runAll earlier).pools.get? save = none)
    (hread : request.read = .ok config)
    (hcache : ∃ definition ∈ config.interceptors, ∃ fallible, definition.role = .cache fallible)
    (hp : ((empty.runAll earlier).run (.pool (.start save request))).1.pools.get? save = some p) :
    ∃ n, (((empty.runAll earlier).run (.pool (.start save request))).1.world.pool p).counter?
        = some n
      ∧ (empty.runAll (earlier ++ .pool (.start save request) :: later)).world.Counts p n
      ∧ ∀ limit, Cut (·.limit ≤ limit) config.interceptors →
        (∀ command ∈ earlier ++ later, Tailored (·.limit ≤ limit) command) →
        ((empty.runAll (earlier ++ .pool (.start save request) :: later)).world.counter n).count
          ≤ limit := by
  have hcut : Cut (fun _ => True) config.interceptors := fun _ _ _ _ => trivial
  have hany : ∀ command ∈ earlier ++ later, Tailored (fun _ => True) command := by
    intro command _
    unfold Tailored
    split
    · exact fun _ _ => trivial
    · trivial
  obtain ⟨n, S, hn, hS, howed, hadmits⟩ :=
    exists_admits horderly hfree hread hcache hp hcut hany
  rw [← hS]
  refine ⟨n, hn, ⟨hadmits.serves.own, ?_⟩, fun limit hcut hfits => ?_⟩
  · have hexact := hadmits.exact
    rwa [Scene.Exact, howed, Multiset.count_zero, World.parkedIn_eq_sum] at hexact
  · -- the same counter, seen by a client all of whose caches respect the limit
    obtain ⟨m, S', hm, hS', -, hadmits'⟩ :=
      exists_admits horderly hfree hread hcache hp hcut hfits
    rw [hn] at hm
    obtain rfl := Option.some.inj hm
    rw [hS, ← hS']
    obtain hzero | ⟨policy, hlimit, hle⟩ := hadmits'.bounded
    · omega
    · exact hle.trans hlimit

/-- A client makes a cache of its own, which allows two parked statements. -/
def outfitting : List Command := [.cache (.create "own" { limit := some 2 } false)]

/-- A pool with a caching interceptor, which allows one. -/
def thrifty : PoolRequest :=
  { interceptors := [{ name := "cache", role := .cache false, more := [("max", "1")] }] }

/-- With the pool closed, the client hands a statement to the interceptor by closing its handle,
and offers another one to its own cache. -/
def hoarding : List Command :=
  [.pool (.checkOut "p" "g"), .cache (.attach "p" "own" (.guard "g")),
    .connection (.prepare "g" selection (some "a")), .pool (.shutDown "p"),
    .statement (.close "a"),
    .cache (.track "own" ⟨"prepareStatement", [.text "SELECT 2"]⟩ (.fresh "SELECT 2") "t"),
    .cache (.offer "own" "t" true)]

/-- Both statements are counted, though the closed pool has no counter any more. -/
theorem exact_count_hoarding :
    ∃ n, (empty.runAll (outfitting ++ .pool (.start "p" thrifty) :: hoarding)).world.Counts 1 n
      ∧ ((empty.runAll (outfitting ++ .pool (.start "p" thrifty) :: hoarding)).world.counter
          n).count = 2
      ∧ ((empty.runAll (outfitting ++ .pool (.start "p" thrifty) :: hoarding)).world.counter
          n).count ≤ 2 := by
  have hpermits : (empty.runAll (outfitting
      ++ [.pool (.start "p" thrifty), .pool (.checkOut "p" "g")])).Permits
        (.cache (.attach "p" "own" (.guard "g"))) := by
    intro p c hp hc
    obtain rfl : 1 = p := Option.some.inj hp
    obtain rfl : 1 = c := Option.some.inj hc
    exact ⟨by rfl, by rfl⟩
  have horderly : Orderly empty (outfitting ++ .pool (.start "p" thrifty) :: hoarding) :=
    ⟨trivial, trivial, trivial, hpermits, trivial, trivial, trivial, trivial, trivial, trivial⟩
  obtain ⟨config, hread, hcache, hcut⟩ : ∃ config, thrifty.read = .ok config
      ∧ (∃ definition ∈ config.interceptors, ∃ fallible, definition.role = .cache fallible)
      ∧ Cut (·.limit ≤ 2) config.interceptors := by
    refine ⟨_, rfl, ⟨_, List.mem_singleton.mpr rfl, false, rfl⟩, fun definition hm _ _ => ?_⟩
    rw [List.mem_singleton.mp hm]
    decide +kernel
  obtain ⟨n, hn, hcounts, hbounded⟩ := exact_count (p := 1) horderly (by rfl) hread hcache (by rfl)
  obtain rfl : 1 = n := Option.some.inj hn
  refine ⟨1, hcounts, by rfl, hbounded 2 hcut fun command hm => ?_⟩
  simp only [outfitting, hoarding, List.cons_append, List.nil_append, List.mem_cons,
    List.not_mem_nil, or_false] at hm
  rcases hm with rfl | rfl | rfl | rfl | rfl | rfl | rfl | rfl <;> try exact trivial
  rintro policy h
  cases h
  exact le_refl 2

end Session

end ConnectionPool
