import ConnectionPool.Proofs.Table.Entries
import ConnectionPool.Session.Run

/-!
# What a command names

A command goes on with what it names, or ends with a reply and leaves the session as it was.
For each way of naming something there is one rule: what holds of the session as it was, and
of every way in which the command goes on, holds of the outcome.
-/

set_option autoImplicit false

namespace ConnectionPool

namespace Session

variable {s : Session} {name : Name} {P : Outcome → Prop}

theorem withPool_rule {f : PoolId → Outcome} (hs : ∀ reply, P (s, reply))
    (hf : ∀ p, s.pools.get? name = some p → P (f p)) : P (s.withPool name f) := by
  unfold withPool
  split
  · next p h => exact hf p h
  · exact hs _

theorem withGuard_rule {f : ConnectionId → Outcome} (hs : ∀ reply, P (s, reply))
    (hf : ∀ c, s.guards.get? name = some c → P (f c)) : P (s.withGuard name f) := by
  unfold withGuard
  split
  · next c h => exact hf c h
  · exact hs _

theorem withShared_rule {f : ConnectionId → Outcome} (hs : ∀ reply, P (s, reply))
    (hf : ∀ c, s.shared.get? name = some c → P (f c)) : P (s.withShared name f) := by
  unfold withShared
  split
  · next c h => exact hf c h
  · exact hs _

theorem withConnection_rule {via : Via} {f : ConnectionId → Outcome}
    (hs : ∀ reply, P (s, reply)) (hf : ∀ c, s.connection? via = some c → P (f c)) :
    P (s.withConnection via f) := by
  unfold withConnection
  split
  · next c h => exact hf c h
  · exact hs _

theorem withTarget_rule {via : Via} {f : ConnectionId → Outcome} (hs : ∀ reply, P (s, reply))
    (hf : ∀ c, s.connection? via = some c → P (f c)) : P (s.withTarget via f) := by
  cases via with
  | guard name => exact withGuard_rule hs hf
  | shared name => exact withShared_rule hs hf

theorem withStatement_rule {f : Held → Outcome} (hs : ∀ reply, P (s, reply))
    (hf : ∀ held, s.statements.get? name = some held → P (f held)) :
    P (s.withStatement name f) := by
  unfold withStatement
  split
  · next held h => exact hf held h
  · exact hs _

theorem withRaw_rule {f : PhysicalConnectionId → Outcome} (hs : ∀ reply, P (s, reply))
    (hf : ∀ id, s.raw.get? name = some id → P (f id)) : P (s.withRaw name f) := by
  unfold withRaw
  split
  · next id h => exact hf id h
  · exact hs _

theorem withCache_rule {f : CacheId → Outcome} (hs : ∀ reply, P (s, reply))
    (hf : ∀ k, s.caches.get? name = some k → P (f k)) : P (s.withCache name f) := by
  unfold withCache
  split
  · next k h => exact hf k h
  · exact hs _

theorem withTracked_rule {f : Tracked → Outcome} (hs : ∀ reply, P (s, reply))
    (hf : ∀ tracked, s.tracked.get? name = some tracked → P (f tracked)) :
    P (s.withTracked name f) := by
  unfold withTracked
  split
  · next tracked h => exact hf tracked h
  · exact hs _

theorem withFresh_rule {taken : Bool} {f : Unit → Outcome} (hs : ∀ reply, P (s, reply))
    (hf : taken = false → P (f ())) : P (s.withFresh name taken f) := by
  unfold withFresh
  split
  · exact hs _
  · next h => exact hf (by simpa using h)

theorem withFreshStatement_rule {save : Option Name} {f : Unit → Outcome}
    (hs : ∀ reply, P (s, reply))
    (hf : (∀ name, save = some name → s.statements.get? name = none) → P (f ())) :
    P (s.withFreshStatement save f) := by
  cases save with
  | none => exact hf fun _ h => nomatch h
  | some name =>
      refine withFresh_rule hs fun h => hf ?_
      rintro _ ⟨⟩
      exact (Table.contains_eq_false_iff _ _).mp h

theorem withFreshTracked_rule {save : Option Name} {f : Unit → Outcome}
    (hs : ∀ reply, P (s, reply))
    (hf : (∀ name, save = some name → s.tracked.get? name = none) → P (f ())) :
    P (s.withFreshTracked save f) := by
  cases save with
  | none => exact hf fun _ h => nomatch h
  | some name =>
      refine withFresh_rule hs fun h => hf ?_
      rintro _ ⟨⟩
      exact (Table.contains_eq_false_iff _ _).mp h

theorem withCall_rule {request : CallRequest} {f : Call → Outcome} (hs : ∀ reply, P (s, reply))
    (hf : ∀ call, request.read = .ok call → P (f call)) : P (s.withCall request f) := by
  unfold withCall
  split
  · next call h => exact hf call h
  · exact hs _

/-! ## What a client keeps -/

/-! Keeping a statement, or letting go of it, touches no name for a connection or a cache. -/

@[simp] theorem keepStatement_shared (s : Session) (save : Option Name) (statement : Statement)
    (origin : Origin) : (s.keepStatement save statement origin).shared = s.shared := by
  cases save <;> rfl

@[simp] theorem keepStatement_caches (s : Session) (save : Option Name) (statement : Statement)
    (origin : Origin) : (s.keepStatement save statement origin).caches = s.caches := by
  cases save <;> rfl

@[simp] theorem keepTracked_shared (s : Session) (save : Option Name) (tracked : Tracked) :
    (s.keepTracked save tracked).shared = s.shared := by
  cases save <;> rfl

@[simp] theorem keepTracked_caches (s : Session) (save : Option Name) (tracked : Tracked) :
    (s.keepTracked save tracked).caches = s.caches := by
  cases save <;> rfl

/-! ## Commands that find what they name -/

section Found

variable {pool save guard : Name} {p : PoolId} {c : ConnectionId}

theorem run_checkOut_ok {w : World} (hfree : s.guards.contains save = false)
    (hp : s.pools.get? pool = some p) (h : s.world.checkOut p = (w, .ok c)) :
    s.run (.pool (.checkOut pool save))
      = ({ s.inWorld w with guards := s.guards.insert save c }, .done) := by
  simp only [run, runPool, withFresh, withPool, hp, hfree, h, Bool.false_eq_true, if_false]

theorem run_checkOut_error {w : World} {error : PoolError}
    (hfree : s.guards.contains save = false) (hp : s.pools.get? pool = some p)
    (h : s.world.checkOut p = (w, .error error)) :
    s.run (.pool (.checkOut pool save)) = (s.inWorld w, .poolError error) := by
  simp only [run, runPool, withFresh, withPool, hp, hfree, h, Bool.false_eq_true, if_false]

theorem world_run_checkOut (hfree : s.guards.contains save = false)
    (hp : s.pools.get? pool = some p) :
    (s.run (.pool (.checkOut pool save))).1.world = (s.world.checkOut p).1 := by
  obtain ⟨w, result, h⟩ : ∃ w result, s.world.checkOut p = (w, result) := ⟨_, _, rfl⟩
  cases result with
  | error error => rw [run_checkOut_error hfree hp h, h]; rfl
  | ok c => rw [run_checkOut_ok hfree hp h, h]; rfl

theorem run_sweep (hp : s.pools.get? pool = some p) :
    s.run (.pool (.sweep pool))
      = (s.inWorld (s.world.sweep p).1, .count (s.world.sweep p).2) := by
  simp only [run, runPool, withPool, hp]

theorem run_shutDown (hp : s.pools.get? pool = some p) :
    s.run (.pool (.shutDown pool)) = (s.inWorld (s.world.shutDown p), .done) := by
  simp only [run, runPool, withPool, hp]

theorem run_checkIn (hg : s.guards.get? guard = some c) :
    s.run (.connection (.checkIn guard))
      = ({ s.inWorld (s.world.checkIn c) with guards := s.guards.erase guard }, .done) := by
  simp only [run, runConnection, withGuard, hg]

theorem run_retire (hg : s.guards.get? guard = some c) :
    s.run (.connection (.retire guard))
      = ({ s.inWorld (s.world.retire c) with guards := s.guards.erase guard }, .done) := by
  simp only [run, runConnection, withGuard, hg]

end Found

/-! ## Runs -/

theorem runAll_append (s : Session) (earlier later : List Command) :
    s.runAll (earlier ++ later) = (s.runAll earlier).runAll later :=
  List.foldl_append

end Session

end ConnectionPool
