import ConnectionPool.Proofs.Custody.Sweeping
import ConnectionPool.Proofs.Session.Moments

/-!
# Sweeps are exact

Which idle connections a sweep takes out is decided by the moments at which the commands of a run
opened and used them. `Session.Sweeps` says which they are, in which order they are torn down, what
the books are then, and that nothing else is affected; it holds after any commands
(`sweep_exact`).
-/

set_option autoImplicit false

namespace ConnectionPool

namespace Session

variable {s : Session} {p : PoolId} {c : ConnectionId}
  {openings usings : ConnectionId → List Millis}

/-- **A connection is too old** for the limits of its pool: strictly more than the timeout has
passed since it was last checked out or put back, or strictly more than the lifetime since it was
opened. -/
def TooOld (s : Session) (openings usings : ConnectionId → List Millis) (p : PoolId)
    (c : ConnectionId) : Prop :=
  ∃ opened used, openings c = [opened] ∧ (usings c).getLast? = some used
    ∧ (used + (s.world.pool p).config.idleTimeout < s.world.now
      ∨ opened + (s.world.pool p).config.maxLifetime < s.world.now)

/-- **What a sweep does** is determined by when connections were opened and used. -/
structure Sweeps (s : Session) (openings usings : ConnectionId → List Millis) (p : PoolId) :
    Prop where
  /-- The connections that it takes out are the idle ones that are too old. -/
  takes : ∀ c, c ∈ s.world.expired p
    ↔ c ∈ (s.world.pool p).idle ∧ s.TooOld openings usings p c
  /-- They come in the order of the idle connections, the one returned first in front. -/
  order : (s.world.expired p).Sublist (s.world.pool p).idle.reverse
  /-- They are torn down in this order, and nothing else is done. -/
  discards : World.Discarded p (s.world.expired p) (s.world.unexpired p) s.world
    (s.world.sweep p).1
  count : (s.world.sweep p).2 = (s.world.expired p).length
  /-- The others stay in the list in their order. -/
  idle : ((s.world.sweep p).1.pool p).idle
    = (s.world.pool p).idle.filter fun c => c ∉ s.world.expired p
  metadata : ∀ c ∈ ((s.world.sweep p).1.pool p).idle,
    ((s.world.sweep p).1.connection c).metadata = (s.world.connection c).metadata
  total : ((s.world.sweep p).1.pool p).total + (s.world.sweep p).2 = (s.world.pool p).total
  inUse : ((s.world.sweep p).1.pool p).inUse = (s.world.pool p).inUse
  /-- A connection that is checked out stays as it is, and open. -/
  out : ∀ c ∈ s.out, c ∉ s.world.expired p
    ∧ ((s.world.sweep p).1.connection c).exterior = (s.world.connection c).exterior
    ∧ (s.world.sweep p).1.Live c
  /-- Every hook sees the final numbers of the pool, the first one included. -/
  heard : World.Heard (fun _ _ sight => sight.status = ((s.world.sweep p).1.pool p).status)
    s.world (s.world.sweep p).1
  /-- A second sweep finds nothing and changes nothing. -/
  again : (s.world.sweep p).1.sweep p = ((s.world.sweep p).1, 0)
  /-- As time passes, no fewer of them are too old. -/
  later : ∀ span, (s.world.expired p).Sublist
      (({ s.world with now := s.world.now + span } : World).expired p)
    ∧ (s.world.sweep p).2
      ≤ (({ s.world with now := s.world.now + span } : World).sweep p).2
  replies : ∀ pool, s.pools.get? pool = some p →
    s.run (.pool (.sweep pool))
      = (s.inWorld (s.world.sweep p).1, .count (s.world.sweep p).2)

/-- The record of a connection decides whether it is too old, and it agrees with the run. -/
theorem Dated.tooOld_iff (h : s.Dated openings usings) (hc : s.world.Waiting p c) :
    s.TooOld openings usings p c ↔ s.world.isExpired p c = true := by
  rw [World.isExpired_iff hc]
  have hknown := hc.live.known
  constructor
  · rintro ⟨opened, used, hopened, hused, hold⟩
    rw [h.opened c hknown, List.cons.injEq] at hopened
    rw [h.used c hknown] at hused
    rw [hopened.1, Option.some.inj hused]
    exact hold
  · exact fun hold => ⟨_, _, h.opened c hknown, h.used c hknown, hold⟩

/-- What is struck off was counted. -/
theorem Accounted.total_sweep (hs : s.Accounted) (p : PoolId) :
    ((s.world.sweep p).1.pool p).total + (s.world.expired p).length
      = (s.world.pool p).total := by
  have hdiscarded := World.discarded_sweep hs.balanced hs.plugged p
  have htotal : ((s.world.sweep p).1.pool p).total
      = (s.world.pool p).total - (s.world.expired p).length :=
    read_congr hdiscarded.books Pool.total fun _ => rfl
  have hsums : (s.world.pool p).total = (s.world.pool p).inUse + (s.world.pool p).idle.length :=
    (hs.balanced.sums p).total
  have hle : (s.world.expired p).length ≤ (s.world.pool p).idle.length := by
    rw [World.expired, List.length_reverse]
    exact List.length_filter_le _ _
  omega

/-- A connection that is checked out does not wait, so that a sweep leaves it alone. -/
theorem Accounted.out_sweep (hs : s.Accounted) (hc : c ∈ s.out) :
    c ∉ s.world.expired p
      ∧ ((s.world.sweep p).1.connection c).exterior = (s.world.connection c).exterior
      ∧ (s.world.sweep p).1.Live c := by
  have hdiscarded := World.discarded_sweep hs.balanced hs.plugged p
  have hexpired : c ∉ s.world.expired p := fun hm =>
    hs.balanced.apart p c (World.mem_expired.mp hm).1 hc
  exact ⟨hexpired, hdiscarded.others c hexpired,
    (hs.balanced.sweep hs.plugged p).balanced.out_live c hc⟩

theorem Accounted.sweeps (hs : s.Accounted) (h : s.Dated openings usings) (p : PoolId) :
    s.Sweeps openings usings p := by
  have hdiscarded := World.discarded_sweep hs.balanced hs.plugged p
  have hidle : ((s.world.sweep p).1.pool p).idle = s.world.unexpired p :=
    read_congr hdiscarded.books Pool.idle fun _ => rfl
  have hkept : ∀ c ∈ s.world.unexpired p, c ∉ s.world.expired p := by
    intro c hc hm
    rw [World.mem_unexpired, (World.mem_expired.mp hm).2] at hc
    exact absurd hc.2 (by decide)
  refine
    { takes := fun c => ?_
      order := List.reverse_sublist.mpr List.filter_sublist
      discards := hdiscarded
      count := rfl
      idle := ?_
      metadata := fun c hc => ?_
      total := hs.total_sweep p
      inUse := read_congr hdiscarded.books Pool.inUse fun _ => rfl
      out := fun c hc => hs.out_sweep hc
      heard := World.heard_sweep hs.balanced hs.plugged p
      again := World.sweep_again hs.balanced hs.plugged p
      later := fun span => ?_
      replies := fun pool hp => ?_ }
  · rw [World.mem_expired]
    exact and_congr_right fun hc => (h.tooOld_iff (hs.balanced.waiting p c hc)).symm
  · rw [hidle, World.unexpired]
    refine List.filter_congr fun c hc => ?_
    rw [Bool.eq_iff_iff, Bool.not_eq_true', decide_eq_true_iff, World.mem_expired,
      and_iff_right hc, Bool.not_eq_true]
  · rw [hidle] at hc
    exact read_congr (hdiscarded.others c (hkept c hc)) Connection.metadata fun _ => rfl
  · have hlater := s.world.expired_sublist_later p span
    exact ⟨hlater, hlater.length_le⟩
  · rw [run_sweep hp]

/-- **Sweeps are exact.** After any commands and for any pool, a sweep tears down the idle
connections that are too old by what the commands did, one after the other and all of them struck
off before; nothing else changes, a second sweep does nothing, and a later one would have taken out
no fewer. -/
theorem sweep_exact (commands : List Command) (p : PoolId) :
    (empty.runAll commands).Sweeps (empty.openings commands) (empty.usings commands) p :=
  (accounted_empty.runAll commands).sweeps
    (dated_empty.runAll accounted_empty commands) p

/-- A connection waits for exactly as long as it may, and then for one moment more. -/
def aging : List Command :=
  [.pool (.start "p" { config := { idleTimeout := 5, maxLifetime := 9 } }),
    .pool (.checkOut "p" "g"), .advance 3, .connection (.checkIn "g"), .advance 5]

example : ((empty.runAll aging).world.sweep 1).2 = 0
    ∧ ((empty.runAll (aging ++ [.advance 1])).world.sweep 1).2 = 1 := by decide

end Session

end ConnectionPool
