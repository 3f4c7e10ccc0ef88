import ConnectionPool.Proofs.Closing.Release
import ConnectionPool.Proofs.Holding.Clients

/-!
# Disposing of tracked statements

To close a tracked statement for good, or to let go of it, is to close what it holds: its own
cache does not park it. Where it holds the driver's statement itself, or where no cache behind can
take anything back, the driver closes the statement, which is parked nowhere then, and nothing is
counted.

But a tracked statement may hold a facade of another cache, and to close a facade is to hand its
statement to that cache. Then the statement may be parked in place of being closed, under the key
of one of the facades behind; this is the only other thing that can happen (`disposal`). So a
statement that was withdrawn from a store and let go of can be parked there again, under the same
key, by the inner one of two caches (`withdrawn_parked_again`).
-/

set_option autoImplicit false

namespace ConnectionPool

/-- The tracked statement that a command closes for good or lets go of. -/
def TrackedCommand.disposes? : TrackedCommand → Option Name
  | .forceClose name => some name
  | .drop name => some name
  | _ => none

namespace World

variable {w w' : World} {handle : Statement} {c : ConnectionId} {key : CacheKey}
  {id : StatementId}

/-- A handle that is nothing but the driver's statement is sealed. -/
theorem sealed_of_bare (h : handle.bare? = some id) : w.Sealed handle := by
  rw [handle.eq_physical_of_bare? h]
  exact fun _ hm => absurd hm List.not_mem_nil

/-- Nothing is parked that was not parked before. -/
theorem ClosesOut.store (h : w.ClosesOut w' handle) (c : ConnectionId) :
    w'.store c = w.store c := by
  obtain ⟨driver, rfl, -⟩ := h.driver
  rfl

/-- **What disposing of a handle comes to**, between two worlds: it is closed for good and parked
nowhere, or else one of its layers is parked. -/
inductive Disposed (w w' : World) (handle : Statement) : Prop
  | closed (h : w.ClosesOut w' handle)
      (hparked : ∀ id, handle.target? = some id → ∀ c key, ¬ w'.Parks c key id)
  | parked (layer : Tracked) (hm : layer ∈ handle.layers) (h : w.ParksLayer w' layer)

/-- A handle that somebody holds is disposed of when it is closed. -/
theorem disposed_close {held : Multiset Statement} (hd : w.Distinct held)
    {outer : Statement} (hm : outer ∈ held) (ht : outer.target? = handle.target?) :
    w.Disposed (close handle w).1 handle := by
  rcases close_cases handle w with hcloses | ⟨layer, hlayer, hparks⟩
  · refine .closed hcloses fun id hid c key => ?_
    rintro ⟨tracked, hget, htarget⟩
    rw [hcloses.store] at hget
    exact hd.not_parks hm (ht.trans hid) c key ⟨tracked, hget, htarget⟩
  · exact .parked layer hlayer hparks

/-- A statement that was withdrawn is not in the store any more. -/
theorem get?_withdraw {k : CacheId} {binding : Binding} {tracked : Tracked}
    (hb : (w.cache k).binding = some binding) (hw : w.withdraw k key = (w', some tracked)) :
    (w'.store binding.connection).entries.get? key = none := by
  rw [withdraw, hb] at hw
  simp only at hw
  split at hw
  · cases hw
  · next found hget =>
      have hc : w.connections.Known binding.connection := by
        by_contra hc
        rw [store, connection, Registry.get_of_not_known hc] at hget
        cases hget
      obtain ⟨hw, -⟩ := Prod.mk.inj hw
      have herased : ((w.setStore binding.connection
          ((w.store binding.connection).remove key)).store binding.connection).entries.get? key
            = none := by
        rw [store_setStore_self _ hc]
        exact (Table.get?_erase _ _ _).trans (if_pos rfl)
      rw [← hw]
      obtain ⟨c, _ | n⟩ := binding
      · exact herased
      · exact herased

end World

namespace Session

variable {s : Session} {name : Name} {tracked : Tracked}

/-- Disposing of a tracked statement closes what it holds, and the client has it no longer. -/
theorem run_disposes {command : TrackedCommand} (hc : command.disposes? = some name)
    (hn : s.tracked.get? name = some tracked) :
    (s.run (.tracked command)).1
      = (s.inWorld (World.close tracked.delegate s.world).1).takeTracked name := by
  cases command with
  | forceClose other | drop other =>
      cases hc
      simp only [run, runTracked, withTracked, hn]
      rfl
  | _ => cases hc

/-- Withdrawing a statement and letting go of it closes what the statement holds. -/
theorem run_withdraw {cache : Name} {k : CacheId} {request : CallRequest} {call : Call}
    {key : CacheKey} {w : World} (hk : s.caches.get? cache = some k)
    (hcall : request.read = .ok call) (hkey : CacheKey.ofCall? call = some key)
    (hw : s.world.withdraw k key = (w, some tracked)) :
    (s.run (.cache (.withdraw cache request none))).1
      = s.inWorld (World.close tracked.delegate w).1 := by
  simp only [run, runCache, withFreshTracked, withCache, hk, withCall, hcall, hkey, hw]
  rfl

/-- **Disposing of tracked statements.** After any commands, when a client closes a tracked
statement for good, or lets go of it, it has it no longer, and what the statement holds is closed
for good by the driver and parked nowhere, or else parked by the cache of one of the facades that
the statement holds. Where none of these caches can park anything, it is closed for good. And when
a statement is withdrawn from a store and let go of, the same holds, and its key stays free if it is
closed. -/
theorem disposal (commands : List Command) :
    (∀ name tracked command, (empty.runAll commands).tracked.get? name = some tracked →
      command.disposes? = some name →
      ((empty.runAll commands).run (.tracked command)).1.tracked.get? name = none
      ∧ (empty.runAll commands).world.Disposed
        ((empty.runAll commands).run (.tracked command)).1.world tracked.delegate
      ∧ ((empty.runAll commands).world.Sealed tracked.delegate →
        (empty.runAll commands).world.ClosesOut
          ((empty.runAll commands).run (.tracked command)).1.world tracked.delegate))
    ∧ ∀ cache k request call key binding w tracked,
      (empty.runAll commands).caches.get? cache = some k → request.read = .ok call →
      CacheKey.ofCall? call = some key →
      ((empty.runAll commands).world.cache k).binding = some binding →
      (empty.runAll commands).world.withdraw k key = (w, some tracked) →
      w.Disposed ((empty.runAll commands).run (.cache (.withdraw cache request none))).1.world
        tracked.delegate
      ∧ (w.Sealed tracked.delegate → w.ClosesOut
        ((empty.runAll commands).run (.cache (.withdraw cache request none))).1.world
          tracked.delegate)
      ∧ (w.ClosesOut ((empty.runAll commands).run (.cache (.withdraw cache request none))).1.world
          tracked.delegate →
        (((empty.runAll commands).run (.cache (.withdraw cache request none))).1.world.store
          binding.connection).entries.get? key = none) := by
  have hdistinct := distinct_runAll commands
  generalize empty.runAll commands = s at hdistinct
  constructor
  · intro name tracked command hn hc
    rw [run_disposes hc hn]
    refine ⟨?_, World.disposed_close hdistinct (mem_holdings_of_tracked hn) rfl,
      World.close_sealed⟩
    show (s.tracked.erase name).get? name = none
    rw [Table.get?_erase, if_pos rfl]
  · intro cache k request call key binding w tracked hk hcall hkey hb hw
    rw [run_withdraw hk hcall hkey hw]
    -- what was withdrawn is in the hands of the client for a moment
    have hpasses := (s.world.passes_withdraw k key).besides s.holdings 0
    rw [hw, add_zero, add_zero] at hpasses
    have hout := hpasses hdistinct
    refine ⟨World.disposed_close hout (Multiset.mem_add.mpr
      (Or.inl (Multiset.mem_singleton_self _))) rfl, World.close_sealed, fun hcloses => ?_⟩
    rw [hcloses.store]
    exact World.get?_withdraw hb hw

/-- A client attaches a cache of its own to a connection on which a statement is parked. -/
def prying (request : PoolRequest) : List Command :=
  [.pool (.start "p" request), .pool (.checkOut "p" "g"),
    .connection (.prepare "g" selection (some "a")), .statement (.close "a"),
    .cache (.create "own" {} false), .cache (.attach "p" "own" (.guard "g"))]

/-- It withdraws the statement and lets go of it. -/
def plunder : Command := .cache (.withdraw "own" ⟨"prepareStatement", selection.args⟩ none)

/-- Where the pool has one cache, the statement is closed. -/
theorem disposal_prying :
    ∃ w, (empty.runAll (prying thrifty)).world.withdraw 3 ⟨.prepared, selection.args⟩
        = (w, some ⟨some ⟨.prepared, selection.args⟩, 2, .physical 1⟩)
      ∧ w.ClosesOut ((empty.runAll (prying thrifty)).run plunder).1.world (.physical 1)
      ∧ (((empty.runAll (prying thrifty)).run plunder).1.world.store 1).entries.get?
          ⟨.prepared, selection.args⟩ = none := by
  obtain ⟨w, hw⟩ : ∃ w, (empty.runAll (prying thrifty)).world.withdraw 3
      ⟨.prepared, selection.args⟩
        = (w, some ⟨some ⟨.prepared, selection.args⟩, 2, .physical 1⟩) := ⟨_, by rfl⟩
  obtain ⟨-, hsealed, hfree⟩ := (disposal (prying thrifty)).2 "own" 3
    ⟨"prepareStatement", selection.args⟩ selection _ ⟨1, some 1⟩ w _ (by rfl) (by rfl) (by rfl)
    (by rfl) hw
  have hcloses := hsealed (World.sealed_of_bare rfl)
  exact ⟨w, hw, hcloses, hfree hcloses⟩

/-- Where the pool has two caches, the statement is parked again under the key from which it was
withdrawn, and the driver has not closed it. -/
theorem withdrawn_parked_again :
    ((empty.runAll (prying stacked)).run plunder).2 = .evicted
      ∧ ((empty.runAll (prying stacked)).run plunder).1.world.Parks 1
        ⟨.prepared, selection.args⟩ 1
      ∧ (((empty.runAll (prying stacked)).run plunder).1.world.driver.statement 1).closed
        = false :=
  ⟨by rfl, ⟨⟨some ⟨.prepared, selection.args⟩, 4, .physical 1⟩, by rfl, by rfl⟩, by rfl⟩

end Session

end ConnectionPool
