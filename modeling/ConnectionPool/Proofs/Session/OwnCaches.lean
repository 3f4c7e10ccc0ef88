import ConnectionPool.Proofs.Session.Hands

/-!
# Commands about caches of a client's own, as turns

A client may use its own caches as it likes, but it tells none of them that a pool has started or
closed, drains none, and attaches one only to a connection of an open pool, naming that pool
(`Permits`). Every command that it is permitted is a sequence of turns (`ownReached_run`).
-/

set_option autoImplicit false

namespace ConnectionPool

namespace Session

open Scene (Turns Steps OwnTurns)

variable {s s' : Session} {S : Scene} {Fits : CachePolicy → Prop}

/-- **What a client may do with caches of its own.** -/
def Permits (s : Session) : Command → Prop
  | .cache (.poolStarted _ _) => False
  | .cache (.poolClosed _ _) => False
  | .cache (.drain _ _ _) => False
  | .cache (.attach pool _ via) => ∀ p c, s.pools.get? pool = some p →
      s.connection? via = some c →
      (s.world.connection c).pool = p ∧ (s.world.pool p).closed = false
  | _ => True

/-- The policy of a cache that a command makes is one of which `Fits` holds. -/
def Tailored (Fits : CachePolicy → Prop) : Command → Prop
  | .cache (.create _ request _) => ∀ policy, request.read = .ok policy → Fits policy
  | _ => True

/-! ## Commands about caches -/

/-- A connection that a client names is one that was opened. -/
theorem Depicts.known_connection (hd : Depicts s S) {via : Via} {c : ConnectionId}
    (h : s.connection? via = some c) : s.world.connections.Known c := by
  cases via with
  | guard name => exact (hd.guards name c h).1
  | shared name => exact hd.shared name c h

/-- **A statement that a cache is given**: one that the client held, or a new one of the driver. -/
theorem Sourced.ownReached {source : StatementSource} {handle : Statement}
    (h : Sourced s source s' handle) (hd : Depicts s S) (hS : S.Wired) (ht : S.Traced) :
    OwnReached Fits S (s', .done) ∧ s'.world.Knows handle := by
  cases h with
  | held hn =>
      exact ⟨hd.ownReached_hold hS ((hd.grasped ht).takeStatement _) rfl rfl rfl rfl rfl _,
        (hd.grasped ht).statements hn⟩
  | fresh sql =>
      have hissue : Scene.Step S { S with
          world := { S.world with driver := (S.world.driver.looseStatement sql).1 }
          hands := .physical S.world.driver.statements.next ::ₘ S.hands } :=
        .issue ⟨rfl, rfl, fun h => nomatch h⟩ (fun _ => rfl) fun _ _ h => nomatch h
      have hturns : OwnTurns Fits S _ := .single (.turn (.step hissue))
      have hlater := (hturns.later_and_wired hS).1
      rw [hd.world] at hturns hlater
      refine ⟨?_, ?_⟩
      · exact hd.settle hS hturns rfl hd.owed ((hd.grasped ht).inWorld hlater) hd.raw hd.caches
          rfl rfl _
      · rintro id ⟨⟩
        exact (s.world.driver.known_issue { sql } (fun id => .prepared id sql) _).mpr (Or.inr rfl)

theorem ownReached_create (hd : Depicts s S) (hS : S.Wired) {save : Name}
    {policy : CachePolicy} (fallible : Bool) (hp : Fits policy) (reply : Reply) :
    OwnReached Fits S
      ({ s.inWorld (s.world.newCache policy fallible).1 with
          caches := s.caches.insert save (s.world.newCache policy fallible).2 }, reply) := by
  have hturns : OwnTurns Fits S _ := .single (.adopt fallible hp)
  refine ⟨_, hturns, hd.change (hturns.later_and_wired hS).1 ?_ hd.hands hd.bare hd.owed hd.raw
    (fun name k hk => ?_) rfl rfl⟩
  · show (S.world.newCache policy fallible).1 = _
    rw [hd.world]
    rfl
  · show k ∈ S.world.caches.next :: S.own
    rw [hd.world]
    rcases Table.get?_insert_eq_some _ hk with rfl | hk
    · exact List.mem_cons_self
    · exact List.mem_cons_of_mem _ (hd.caches name k hk)

theorem ownReached_detach (hd : Depicts s S) (hS : S.Wired) {name : Name} {k : CacheId}
    (hk : s.caches.get? name = some k) (reply : Reply) :
    OwnReached Fits S (s.inWorld (s.world.detach k), reply) := by
  have hdetach := (Scene.step_detach hS (Or.inl (hd.caches name k hk))).1
  rw [hd.world] at hdetach
  exact hd.ownReached hS (.single (.turn (.step hdetach))) reply

theorem ownReached_drop (hd : Depicts s S) (hS : S.Wired) {name : Name} {k : CacheId}
    (hk : s.caches.get? name = some k) (reply : Reply) :
    OwnReached Fits S (s.dropCache name k, reply) := by
  unfold dropCache
  simp only
  split
  · exact ⟨S, .refl, { hd with
      caches := fun q l hl => hd.caches q l (Table.get?_of_erase _ hl) }⟩
  · obtain ⟨S', hturns, hd'⟩ : OwnReached Fits S (s.inWorld (s.world.detach k), reply) :=
      ownReached_detach hd hS hk reply
    exact ⟨S', hturns, { hd' with
      caches := fun q l hl => hd'.caches q l (Table.get?_of_erase _ hl) }⟩

theorem ownReached_attach (hd : Depicts s S) (hS : S.Wired) {name : Name} {k : CacheId}
    (hk : s.caches.get? name = some k) {c : ConnectionId} (hc : s.world.connections.Known c)
    {p : PoolId} (hp : (s.world.connection c).pool = p ∧ (s.world.pool p).closed = false)
    (reply : Reply) : OwnReached Fits S (s.inWorld (s.world.attach k p c), reply) := by
  have hattach : Steps S (S.inWorld (S.world.attach k p c)) := by
    rw [← hd.world] at hc hp
    exact Scene.steps_attach hS hc hp.1 (Or.inr (hd.caches name k hk)) hp.2
  rw [hd.world] at hattach
  exact hd.ownReached hS hattach.turns.own reply

theorem ownReached_fetch (hd : Depicts s S) (hS : S.Wired) (ht : S.Traced) (k : CacheId)
    (call : Call) (save : Option Name) :
    OwnReached Fits S (match s.world.fetch k call with
      | (w, .error error) => (s.inWorld w, .poolError error)
      | (w, .ok none) => (s.inWorld w, .miss)
      | (w, .ok (some tracked)) => ((s.inWorld w).keepTracked save tracked, .hit)) := by
  have hfetch := Scene.steps_fetch S k call
  rw [hd.world] at hfetch
  obtain ⟨w, found, hw⟩ : ∃ w found, s.world.fetch k call = (w, found) := ⟨_, _, rfl⟩
  rw [hw] at hfetch ⊢
  obtain ⟨tracked, rfl, hsteps⟩ | ⟨hnone, hsteps⟩ := hfetch
  · -- what was found is out for a moment
    have hturns : OwnTurns Fits S _ := hsteps.turns.own
    have hlater := (hturns.later_and_wired hS).1
    have ht' := hturns.traced hS ht
    rw [hd.world] at hlater
    have hk : w.Knows tracked.facade := ht'.knows (Multiset.mem_cons_self _ _)
    have hreached : OwnReached Fits S (s.inWorld w, .hit) :=
      hd.settle hS hturns rfl hd.owed ((hd.grasped ht).inWorld hlater) hd.raw hd.caches rfl rfl _
    exact hreached.andThen hS ht fun S' hd' hS' ht' => ownReached_keepTracked hd' hS' ht' hk save _
  · match found, hnone with
    | .error error, _ => exact hd.ownReached hS hsteps.turns.own _
    | .ok none, _ => exact hd.ownReached hS hsteps.turns.own _
    | .ok (some tracked), hnone => exact absurd rfl (hnone tracked)

theorem ownReached_wrapPrepared (hd : Depicts s S) (hS : S.Wired) (ht : S.Traced) (k : CacheId)
    {handle : Statement} (hk : s.world.Knows handle) (call : Call) (save : Option Name)
    (origin : Origin) :
    OwnReached Fits S (match s.world.wrapPrepared k handle call with
      | (w, .error error) => (s.inWorld w, .driverError error)
      | (w, .ok facade) => ((s.inWorld w).keepStatement save facade origin, .done)) := by
  obtain ⟨tracked, htracked⟩ : ∃ tracked,
    World.track k ((s.world.cache k).policy.keyFor call) handle = tracked := ⟨_, rfl⟩
  have hk' : s.world.Knows tracked.facade := by
    rw [← htracked]
    exact hk
  rw [World.wrapPrepared, htracked]
  rcases s.world.wrap_cases k tracked with h | ⟨due, h⟩ <;> rw [h]
  · exact ownReached_keepStatement hd hS ht hk' save origin _
  · -- the statement is let go of after a fault was used up
    have hfault : Scene.Step { S with hands := {tracked.facade}, loose := 0 }
        { S with
          world := { S.world with wrapFaults := due }, hands := {tracked.facade}, loose := 0 } :=
      .book { S.world.sameCaching_refl with
        journal := ⟨[], (List.append_nil _).symm, fun _ h => absurd h List.not_mem_nil⟩ }
    have hdrop := Scene.steps_dropTracked (S := { S with
      world := { S.world with wrapFaults := due }, hands := {tracked.facade}, loose := 0 })
      tracked (H := 0) rfl
    rw [hd.world] at hdrop hfault
    exact hd.ownReached_take hS ht hk'
      (by rw [hd.world]; exact (Relation.ReflTransGen.single hfault).trans hdrop) _

theorem ownReached_withdraw (hd : Depicts s S) (hS : S.Wired) (ht : S.Traced) (k : CacheId)
    (key : CacheKey) (save : Option Name) :
    OwnReached Fits S (match s.world.withdraw k key with
      | (w, none) => (s.inWorld w, .absent)
      | (w, some tracked) => ((s.inWorld w).keepTracked save tracked, .evicted)) := by
  unfold World.withdraw
  cases hb : (s.world.cache k).binding with
  | none => exact hd.ownReached_same _
  | some binding =>
      simp only
      cases hf : (s.world.store binding.connection).entries.get? key with
      | none => exact hd.ownReached_same _
      | some tracked =>
          obtain ⟨store, hstore⟩ : ∃ store,
            (s.world.store binding.connection).remove key = store := ⟨_, rfl⟩
          rw [hstore]
          have hturns : OwnTurns Fits S { S with
              world := (s.world.setStore binding.connection store).releaseSlot binding.counter
              hands := tracked.facade ::ₘ S.hands } := by
            rw [← hd.world] at hb hf hstore ⊢
            have htake : Scene.Step S { S with
                world := S.world.setStore binding.connection store
                hands := tracked.facade ::ₘ S.hands
                owed := binding.counter ::ₘ S.owed } :=
              .take hb hf (by rw [← hstore]; rfl) (by rw [← hstore]; rfl)
            have hrepay : Scene.Step { S with
                world := S.world.setStore binding.connection store
                hands := tracked.facade ::ₘ S.hands
                owed := binding.counter ::ₘ S.owed } _ := .repay rfl
            exact .head (.turn (.step htake)) (.single (.turn (.step hrepay)))
          have hlater := (hturns.later_and_wired hS).1
          have ht' := hturns.traced hS ht
          rw [hd.world] at hlater
          have hk : ((s.world.setStore binding.connection store).releaseSlot
              binding.counter).Knows tracked.facade := ht'.knows (Multiset.mem_cons_self _ _)
          have hreached : OwnReached Fits S (s.inWorld _, .evicted) :=
            hd.settle hS hturns rfl hd.owed ((hd.grasped ht).inWorld hlater) hd.raw hd.caches
              rfl rfl _
          exact hreached.andThen hS ht fun S' hd' hS' ht' =>
            ownReached_keepTracked hd' hS' ht' hk save _

/-- **An offer is accepted, or refused and then the statement is kept or let go of.** -/
theorem ownReached_offer (hd : Depicts s S) (hS : S.Wired) (ht : S.Traced) (k : CacheId)
    {name : Name} {tracked : Tracked} (hn : s.tracked.get? name = some tracked) (keep : Bool) :
    OwnReached Fits S (match s.world.offer k tracked with
      | (w, none) => ((s.inWorld w).takeTracked name, .admitted)
      | (w, some reason) =>
          if keep then (s.inWorld w, .rejected reason)
          else ((s.inWorld (w.dropTracked tracked)).takeTracked name, .rejected reason)) := by
  have hk : S.world.Knows tracked.facade := by
    rw [hd.world]
    exact (hd.grasped ht).tracked hn
  have hrefused : ∀ reason, OwnReached Fits S
      (if keep then (s.inWorld s.world, .rejected reason)
        else ((s.inWorld (s.world.dropTracked tracked)).takeTracked name, .rejected reason)) := by
    intro reason
    split
    · exact hd.ownReached_same _
    · have hdrop := Scene.steps_dropTracked (S := { S with hands := {tracked.facade}, loose := 0 })
        tracked (H := 0) rfl
      have hturns : OwnTurns Fits S _ := Scene.ownTurns_take hk hdrop
      have hlater := (hturns.later_and_wired hS).1
      rw [hd.world] at hturns hlater
      exact hd.settle hS hturns rfl hd.owed
        (((hd.grasped ht).inWorld hlater).takeTracked name) hd.raw hd.caches rfl rfl _
  unfold World.offer
  cases hb : (s.world.cache k).binding with
  | none => exact hrefused _
  | some binding =>
      simp only
      obtain ⟨key, n, -, hbn, hlt, hclosed, hfree, h⟩ | ⟨reason, h⟩ :=
        s.world.offerTo_cases (s.world.cache k).policy binding tracked
      · obtain ⟨c, counter⟩ := binding
        cases hbn
        rw [h]
        have hsort : Scene.OwnTurn Fits S { S with hands := {tracked.facade}, loose := 0 } := by
          refine .sort (fun handle hm => ?_) fun _ h => absurd h (Multiset.notMem_zero _)
          rw [Multiset.mem_singleton.mp hm]
          exact hk
        rw [← hd.world] at hb hlt hclosed hfree
        have hoffer : Scene.OwnTurn Fits { S with hands := {tracked.facade}, loose := 0 } _ :=
          .offer (H := 0) rfl hb hlt hclosed hfree
        have hturns : OwnTurns Fits S _ := .head hsort (.single hoffer)
        have hlater := (hturns.later_and_wired hS).1
        rw [hd.world] at hturns hlater
        exact hd.settle hS hturns rfl hd.owed
          (((hd.grasped ht).inWorld hlater).takeTracked name) hd.raw hd.caches rfl rfl _
      · rw [h]
        exact hrefused reason

theorem CacheEffect.ownReached {command : CacheCommand} (h : CacheEffect s command s')
    (hd : Depicts s S) (hS : S.Wired) (ht : S.Traced) (hp : s.Permits (.cache command))
    (hfits : Tailored Fits (.cache command)) (reply : Reply) : OwnReached Fits S (s', reply) := by
  cases h with
  | same => exact hd.ownReached_same reply
  | created hread => exact ownReached_create hd hS _ (hfits _ hread) reply
  | @cloned cache _ _ hk =>
      refine ⟨S, .refl, { hd with caches := fun name l hl => ?_ }⟩
      rcases Table.get?_insert_eq_some _ hl with rfl | hl
      · exact hd.caches cache l hk
      · exact hd.caches name l hl
  | dropped hk => exact ownReached_drop hd hS hk reply
  | started _ | stopped _ | drained _ _ _ => exact absurd hp id
  | attached hpool hk hc =>
      exact ownReached_attach hd hS hk (hd.known_connection hc) (hp _ _ hpool hc) reply
  | detached hk => exact ownReached_detach hd hS hk reply
  | @failed _ _ save _ _ k call _ _ _ h | @missed _ _ save _ k call _ _ _ h
  | @fetched _ _ save _ _ k call _ _ _ h =>
      have hfetch : OwnReached Fits S _ := ownReached_fetch hd hS ht k call save
      rw [h] at hfetch
      exact hfetch
  | tracked k call t handle _ _ hsource =>
      obtain ⟨hreached, hknown⟩ := hsource.ownReached hd hS ht
      exact hreached.andThen hS ht fun S' hd' hS' ht' =>
        ownReached_keepTracked hd' hS' ht' hknown _ _
  | @unwrapped _ _ _ save _ _ k call t handle _ _ hsource h
  | @wrapped _ _ _ save _ _ k call t handle _ _ hsource h =>
      obtain ⟨hreached, hknown⟩ := hsource.ownReached hd hS ht
      have hwrap : OwnReached Fits S _ := hreached.andThen hS ht fun S' hd' hS' ht' =>
        ownReached_wrapPrepared hd' hS' ht' k hknown call save (.cache k)
      rw [h] at hwrap
      exact hwrap
  | admitted keep k tracked _ hn h =>
      have hoffer : OwnReached Fits S _ := ownReached_offer hd hS ht k hn keep
      rw [h] at hoffer
      exact hoffer
  | kept k tracked _ hn h =>
      have hoffer : OwnReached Fits S _ := ownReached_offer hd hS ht k hn true
      rw [h] at hoffer
      exact hoffer
  | letGo k tracked _ hn h =>
      have hoffer : OwnReached Fits S _ := ownReached_offer hd hS ht k hn false
      rw [h] at hoffer
      exact hoffer
  | @absent _ _ save _ _ k key _ _ _ _ h | @withdrawn _ _ save _ _ _ k key _ _ _ _ h =>
      have hwithdraw : OwnReached Fits S _ := ownReached_withdraw hd hS ht k key save
      rw [h] at hwithdraw
      exact hwithdraw

/-! ## Commands about tracked statements -/

section Tracked

variable {name : Name} {tracked : Tracked}

/-- **A tracked statement is worked on and given up.** -/
theorem ownReached_giveUp (hd : Depicts s S) (hS : S.Wired) (ht : S.Traced)
    (hn : s.tracked.get? name = some tracked) {w : World}
    (h : Steps { S with hands := {tracked.facade}, loose := 0 }
      { S with world := w, hands := 0, loose := 0 }) (reply : Reply) :
    OwnReached Fits S ((s.inWorld w).takeTracked name, reply) := by
  have hk : S.world.Knows tracked.facade := by
    rw [hd.world]
    exact (hd.grasped ht).tracked hn
  have hturns : OwnTurns Fits S _ := Scene.ownTurns_take hk h
  have hlater := (hturns.later_and_wired hS).1
  rw [hd.world] at hlater
  exact hd.settle hS hturns rfl hd.owed (((hd.grasped ht).inWorld hlater).takeTracked name)
    hd.raw hd.caches rfl rfl reply

theorem steps_onTarget {α : Type} (S : Scene) (handle : Statement)
    {action : StatementId → Driver → Driver × Except DriverError α} (usage : Usage)
    (hu : ∀ id driver, (action id driver).1 = driver.use usage id) :
    Steps { S with hands := {handle}, loose := 0 }
      { S with world := (S.world.onTarget handle action).1, hands := {handle}, loose := 0 } := by
  unfold World.onTarget
  split
  · exact .refl
  · next id hid =>
      have huse := Scene.Step.use (S := { S with hands := {handle}, loose := 0 }) usage
        (Or.inr ⟨handle, Multiset.mem_singleton_self _, hid⟩)
      rw [← hu id S.world.driver] at huse
      exact .single huse

theorem ownReached_closeDelegate (hd : Depicts s S) (hS : S.Wired) (ht : S.Traced)
    (hn : s.tracked.get? name = some tracked) (reply : Reply) :
    OwnReached Fits S ({ s.inWorld (World.close tracked.delegate s.world).1 with
      tracked := s.tracked.insert name
        { tracked with delegate := tracked.delegate.afterClose } }, reply) := by
  have hk : S.world.Knows tracked.delegate := by
    rw [hd.world]
    exact (hd.grasped ht).tracked hn
  have hclose := Scene.steps_close tracked.delegate
    (S := { S with hands := {tracked.delegate}, loose := 0 }) (H := 0) rfl
  have hturns : OwnTurns Fits S _ := Scene.ownTurns_take hk hclose
  have hlater := (hturns.later_and_wired hS).1
  rw [hd.world] at hturns hlater hk
  obtain ⟨closed, hclosed⟩ : ∃ closed : Tracked,
    { tracked with delegate := tracked.delegate.afterClose } = closed := ⟨_, rfl⟩
  have hk' : (World.close tracked.delegate s.world).1.Knows closed.delegate := by
    rw [← hclosed]
    exact (World.Knows.later hk hlater).afterClose
  rw [hclosed]
  exact hd.settle hS hturns rfl hd.owed (((hd.grasped ht).inWorld hlater).insertTracked hk' name)
    hd.raw hd.caches rfl rfl reply

theorem TrackedEffect.ownReached {command : TrackedCommand} (h : TrackedEffect s command s')
    (hd : Depicts s S) (hS : S.Wired) (ht : S.Traced) (reply : Reply) :
    OwnReached Fits S (s', reply) := by
  cases h with
  | same => exact hd.ownReached_same reply
  | closed hn =>
      rw [← hd.world]
      exact ownReached_giveUp hd hS ht hn (Scene.steps_closeTracked _ rfl) reply
  | forceClosed hn | dropped hn =>
      rw [← hd.world]
      exact ownReached_giveUp hd hS ht hn (Scene.steps_dropTracked _ rfl) reply
  | bound hn =>
      rw [← hd.world]
      exact hd.ownReached_take hS ht ((hd.grasped ht).tracked hn)
        (steps_onTarget S _ (.bind _ _) fun _ _ => rfl) reply
  | executed hn =>
      rw [← hd.world]
      exact hd.ownReached_take hS ht ((hd.grasped ht).tracked hn)
        (steps_onTarget S _ .execute fun _ _ => rfl) reply
  | delegateClosed hn => exact ownReached_closeDelegate hd hS ht hn reply
  | @faced name save tracked hn =>
      have hg := (hd.grasped ht).takeTracked name
      have htaken : OwnReached Fits S (s.takeTracked name, .done) :=
        hd.ownReached_hold hS hg rfl rfl rfl rfl rfl _
      have hk : s.world.Knows tracked.facade := (hd.grasped ht).tracked hn
      exact htaken.andThen hS ht fun S' hd' hS' ht' =>
        ownReached_keepStatement hd' hS' ht' hk save _ _

end Tracked

/-- **A command that the client is permitted is a sequence of its turns.** -/
theorem ownReached_run (hd : Depicts s S) (hS : S.Wired) (ht : S.Traced) {command : Command}
    (hp : s.Permits command) (hfits : Tailored Fits command) :
    OwnReached Fits S (s.run command) := by
  cases command with
  | cache command => exact (s.cacheEffect command).ownReached hd hS ht hp hfits _
  | tracked command => exact (s.trackedEffect command).ownReached hd hS ht _
  | _ => exact Reached.own (reached_run hd hS ht (fun _ => nofun) fun _ => nofun)

end Session

end ConnectionPool
