import ConnectionPool.Proofs.Calls.Sole
import ConnectionPool.Proofs.Pool.Fastening

/-!
# Hits, misses and plain preparations

An `Inquiry` is a call that reaches a connection, with the world in which it does. As long as the
connection is open, a call that prepares and has a text is eligible if a cache of the chain keeps
such statements: a hit if one is parked for it in the store of the connection, a miss if not. All
others are plain.

At a connection with one cache a call does what it is (`World.Tallies`, `World.SoleCache.tallies`):
the store tallies the hit or the miss, and exactly the misses and the plain calls are prepared by
the driver.
-/

set_option autoImplicit false

namespace ConnectionPool

/-- **A call that reaches a connection**, and the world in which it does. -/
structure Inquiry where
  world : World
  connection : ConnectionId
  call : Call

namespace Inquiry

/-- The connection is open. -/
def live (q : Inquiry) : Bool := !(q.world.connection q.connection).closed

/-- The call prepares, and has a text. -/
def prepares (q : Inquiry) : Bool := q.call.method.prepares && q.call.sql?.isSome

/-- A cache of the chain keeps what such calls are answered with. -/
def kept (q : Inquiry) : Bool :=
  (q.world.connection q.connection).caches.any fun k =>
    (q.world.cache k).policy.keeps q.call.method

/-- A statement is parked for the call. -/
def parked (q : Inquiry) : Bool :=
  (CacheKey.ofCall? q.call).any (q.world.store q.connection).entries.contains

/-- **The call is eligible**: a cache is asked. -/
def eligible (q : Inquiry) : Bool := q.live && q.prepares && q.kept

/-- The cache finds a statement. -/
def hit (q : Inquiry) : Bool := q.eligible && q.parked

/-- The cache finds nothing. -/
def missed (q : Inquiry) : Bool := q.eligible && !q.parked

/-- **A statement is prepared that is no business of the cache.** -/
def plain (q : Inquiry) : Bool := q.live && q.prepares && !q.kept

variable {q : Inquiry}

theorem eligible_of_not_live (h : q.live = false) : q.eligible = false := by
  rw [eligible, h]
  rfl

theorem hit_of_not_eligible (h : q.eligible = false) : q.hit = false := by
  rw [hit, h, Bool.false_and]

theorem missed_of_not_eligible (h : q.eligible = false) : q.missed = false := by
  rw [missed, h, Bool.false_and]

/-- **A call that prepares on an open connection** is one of hit, miss and plain. -/
theorem missed_add_plain (q : Inquiry) :
    q.missed.toNat + q.plain.toNat = (q.live && q.prepares && !q.hit).toNat := by
  unfold missed plain hit eligible
  cases q.live && q.prepares <;> cases q.kept <;> cases q.parked <;> rfl

end Inquiry

namespace World

variable {own : ConnectionId → Prop} {w w' looked : World} {c : ConnectionId} {k : CacheId}
  {call : Call} {found : Option Tracked}

/-- **What a call leads to at its connection**: the store tallies a hit or a miss, and what is a
miss or plain is prepared. -/
structure Tallies (q : Inquiry) (w' : World) : Prop where
  hits : (w'.store q.connection).hits
    = (q.world.store q.connection).hits + UInt64.ofNat q.hit.toNat
  misses : (w'.store q.connection).misses
    = (q.world.store q.connection).misses + UInt64.ofNat q.missed.toNat
  prepared : q.world.driver.Recorded →
    w'.driver.preparationsOn (q.world.connection q.connection).physical
      = q.world.driver.preparationsOn (q.world.connection q.connection).physical
        + q.missed.toNat + q.plain.toNat

/-! ## What the cache is asked -/

/-- At a connection with one cache, that cache decides which calls are eligible. -/
theorem SoleCache.kept (h : w.SoleCache c k) (call : Call) :
    (Inquiry.mk w c call).kept = (w.cache k).policy.keeps call.method := by
  simp only [Inquiry.kept, h.only, List.any_cons, List.any_nil, Bool.or_false]

/-- A call with a key is eligible while the cache is attached, and there is something parked for it
if there is under the key. -/
theorem SoleCache.eligible_of_key (h : w.SoleCache c k) (hp : call.method.prepares = true)
    (hlive : (w.connection c).closed = false) {key : CacheKey}
    (hkey : (w.cache k).policy.keyFor call = some key) :
    (Inquiry.mk w c call).eligible = true
      ∧ (Inquiry.mk w c call).parked = ((w.store c).entries.get? key).isSome := by
  obtain ⟨hkeeps, hsql⟩ := CachePolicy.kept_of_keyFor hkey
  constructor
  · simp only [Inquiry.eligible, Inquiry.live, Inquiry.prepares, h.kept, hlive, hp, hsql, hkeeps]
    rfl
  · rw [CachePolicy.keyFor, hkeeps, hsql, Bool.and_self, if_pos rfl] at hkey
    simp only [Inquiry.parked, hkey, Option.any_some, Table.contains_eq_isSome_get?]

/-- Without a key, or with the cache detached, a call is not eligible. -/
theorem SoleCache.not_eligible (h : w.SoleCache c k)
    (hfits : Fits c (w.connection c).closed (w.cache k).binding)
    (hn : (w.cache k).policy.keyFor call = none ∨ (w.cache k).binding = none) :
    (Inquiry.mk w c call).eligible = false := by
  rcases hn with hkey | hb
  · by_contra he
    simp only [Inquiry.eligible, Inquiry.prepares, h.kept, Bool.not_eq_false,
      Bool.and_eq_true] at he
    obtain ⟨key, hsome⟩ := CachePolicy.exists_keyFor he.2 he.1.2.2
    rw [hkey] at hsome
    cases hsome
  · cases hclosed : (w.connection c).closed with
    | true =>
        refine Inquiry.eligible_of_not_live ?_
        rw [Inquiry.live, hclosed]
        rfl
    | false =>
        rw [hclosed, hb] at hfits
        obtain ⟨n, hn⟩ := hfits
        cases hn

/-- A cache that fits its connection is attached to it or to nothing. -/
theorem Fits.eq {closed : Bool} {binding : Binding} (h : Fits c closed (some binding)) :
    closed = false ∧ binding.connection = c := by
  cases closed with
  | true => cases h
  | false =>
      obtain ⟨n, hn⟩ := h
      cases hn
      exact ⟨rfl, rfl⟩

/-- **A look-up is tallied** as the hit or the miss that it is. -/
theorem Looks.tallied (h : w.Looks k call looked found) (hsole : w.SoleCache c k)
    (hfits : Fits c (w.connection c).closed (w.cache k).binding)
    (hp : call.method.prepares = true) :
    found.isSome = (Inquiry.mk w c call).hit
      ∧ (looked.store c).hits = (w.store c).hits
        + UInt64.ofNat (Inquiry.mk w c call).hit.toNat
      ∧ (looked.store c).misses = (w.store c).misses
        + UInt64.ofNat (Inquiry.mk w c call).missed.toNat := by
  have hknown : w.connections.Known c :=
    known_of_mem_caches (hsole.only ▸ List.mem_singleton.mpr rfl)
  cases h with
  | unasked hn =>
      have heligible := hsole.not_eligible hfits hn
      rw [Inquiry.hit_of_not_eligible heligible, Inquiry.missed_of_not_eligible heligible]
      exact ⟨rfl, (UInt64.add_zero _).symm, (UInt64.add_zero _).symm⟩
  | @missed key binding hkey hb hget =>
      rw [hb] at hfits
      obtain ⟨hlive, rfl⟩ := hfits.eq
      obtain ⟨heligible, hparked⟩ := hsole.eligible_of_key hp hlive hkey
      rw [hget, Option.isSome_none] at hparked
      have hstore := w.store_setStore_self hknown (w.store binding.connection).recordMiss
      rw [Inquiry.hit, Inquiry.missed, heligible, hparked, hstore]
      exact ⟨rfl, (UInt64.add_zero _).symm, rfl⟩
  | @found key binding tracked hkey hb hget =>
      rw [hb] at hfits
      obtain ⟨hlive, rfl⟩ := hfits.eq
      obtain ⟨heligible, hparked⟩ := hsole.eligible_of_key hp hlive hkey
      rw [hget, Option.isSome_some] at hparked
      have hstore : (w.found binding key).store binding.connection
          = ((w.store binding.connection).remove key).recordHit := by
        rw [World.store, connection_found]
        exact w.store_setStore_self hknown _
      rw [Inquiry.hit, Inquiry.missed, heligible, hparked, hstore]
      exact ⟨rfl, rfl, (UInt64.add_zero _).symm⟩

/-! ## What a call leads to -/

/-- A call that does not prepare is neither looked up nor prepared. -/
theorem tallies_of_not_prepares (hw : w.Fastened own none) (hp : call.method.prepares = false) :
    Tallies ⟨w, c, call⟩ (w.perform c call).1 := by
  have hcalm : Calm none w (w.perform c call).1 :=
    w.calm_perform (fun h => absurd (hp.symm.trans h) Bool.false_ne_true) (hw.boundTo c)
  have hprepares : (Inquiry.mk w c call).prepares = false := by
    rw [Inquiry.prepares, hp, Bool.false_and]
  have heligible : (Inquiry.mk w c call).eligible = false := by
    rw [Inquiry.eligible, hprepares, Bool.and_false, Bool.false_and]
  have hplain : (Inquiry.mk w c call).plain = false := by
    rw [Inquiry.plain, hprepares, Bool.and_false, Bool.false_and]
  have htally := hcalm.tally_of_none c
  refine ⟨?_, ?_, fun hr => ?_⟩
  · rw [Inquiry.hit_of_not_eligible heligible]
    exact (congrArg Prod.fst htally).trans (UInt64.add_zero _).symm
  · rw [Inquiry.missed_of_not_eligible heligible]
    exact (congrArg Prod.snd htally).trans (UInt64.add_zero _).symm
  · rw [Inquiry.missed_of_not_eligible heligible, hplain]
    exact hcalm.prepared_of_none hr _

/-- A call that prepares is looked up first, and the driver prepares what is not found. -/
theorem SoleCache.tallies_of_prepares (h : w.SoleCache c k) (hw : w.Fastened own none)
    (hline : (w.connection c).closed = false →
      (w.driver.connection (w.connection c).physical).closed = false)
    (hp : call.method.prepares = true) :
    Tallies ⟨w, c, call⟩ (w.perform c call).1
      ∧ ((Inquiry.mk w c call).hit = true → (w.perform c call).1.driver = w.driver) := by
  have hfits := hw.fits c (Option.some_ne_none c).symm k (h.only ▸ List.mem_singleton.mpr rfl)
  obtain ⟨looked, journal, hlooks, hperform⟩ := h.perform hp
  obtain ⟨hfound, hhits, hmisses⟩ := hlooks.tallied h hfits hp
  rw [hfound] at hperform
  rw [hperform]
  refine ⟨⟨hhits, hmisses, fun hr => ?_⟩, fun hhit => if_pos hhit⟩
  show (ite _ _ _ : Driver).preparationsOn _ = _
  rw [Nat.add_assoc, Inquiry.missed_add_plain]
  cases (Inquiry.mk w c call).hit with
  | true =>
      rw [if_pos rfl, Bool.not_true, Bool.and_false]
      rfl
  | false =>
      have hcount := (w.prepares_ask c call).count hr (w.connection c).physical
      have hfor : ((Inquiry.mk w c call).live && (Inquiry.mk w c call).prepares)
          = w.preparesFor c call := by
        rw [preparesFor, Inquiry.live, Inquiry.prepares, hp, Bool.and_true, Bool.true_and]
        cases hclosed : (w.connection c).closed with
        | true => rfl
        | false =>
            rw [hline hclosed, Bool.not_false, Bool.true_and]
            rfl
      rw [if_neg Bool.false_ne_true, Bool.not_false, Bool.and_true, hfor, hcount,
        beq_self_eq_true, Bool.and_true]
      cases w.preparesFor c call <;> rfl

/-- **A call does what it is**: the store tallies a hit or a miss, what is a miss or plain is
prepared by the driver, and at a hit the driver does nothing. -/
theorem SoleCache.tallies (h : w.SoleCache c k) (hw : w.Fastened own none)
    (hline : (w.connection c).closed = false →
      (w.driver.connection (w.connection c).physical).closed = false) (call : Call) :
    Tallies ⟨w, c, call⟩ (w.perform c call).1
      ∧ ((Inquiry.mk w c call).hit = true → (w.perform c call).1.driver = w.driver) := by
  cases hp : call.method.prepares with
  | true => exact h.tallies_of_prepares hw hline hp
  | false =>
      refine ⟨tallies_of_not_prepares hw hp, fun hhit => ?_⟩
      rw [Inquiry.hit, Inquiry.eligible, Inquiry.prepares, hp, Bool.false_and,
        Bool.and_false] at hhit
      cases hhit

end World

end ConnectionPool
