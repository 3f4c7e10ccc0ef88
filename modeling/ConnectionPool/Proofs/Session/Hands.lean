import ConnectionPool.Proofs.Session.Turns

/-!
# What a client with caches of its own may take up

A client that has caches of its own can do more with a statement than use and close it: it keeps
it tracked, gives it a facade of some cache, or parks it as it is. Such a client may at any time
take up any statement that the driver knows (`ownTurns_take`), as long as in the end just what it
holds by name is out (`Depicts.settle`). All that it holds by name is known to the driver
(`Grasped`).
-/

set_option autoImplicit false

namespace ConnectionPool

/-- A handle reaches nothing but a statement that the driver knows. -/
def World.Knows (w : World) (handle : Statement) : Prop :=
  ∀ id, handle.target? = some id → w.driver.statements.Known id

theorem World.Knows.later {w w' : World} {handle : Statement} (h : w.Knows handle)
    (hl : w.Later w') : w'.Knows handle :=
  fun id hid => (hl.statements id (h id hid)).1

theorem World.Knows.afterClose {w : World} {handle : Statement} (h : w.Knows handle) :
    w.Knows handle.afterClose := by
  cases handle with
  | physical id => exact h
  | _ => exact nofun

namespace Scene

variable {S S' : Scene} {Fits : CachePolicy → Prop}

theorem Turns.own (h : Turns S S') : OwnTurns Fits S S' :=
  Relation.ReflTransGen.mono (fun _ _ => OwnTurn.turn) _ _ h

theorem OwnTurns.later_and_wired (h : OwnTurns Fits S S') (hS : S.Wired) :
    S.world.Later S'.world ∧ S'.Wired := by
  obtain ⟨hl, hw, -⟩ := h.induct (P := fun _ => True) (fun _ _ _ => trivial) hS trivial
  exact ⟨hl, hw⟩

theorem OwnTurns.traced (h : OwnTurns Fits S S') (hS : S.Wired) (ht : S.Traced) : S'.Traced :=
  (h.induct (P := Traced) (fun h hS ht => h.traced hS ht) hS ht).2.2

/-- What is out is known to the driver. -/
theorem Traced.knows (ht : S.Traced) {handle : Statement} (hm : handle ∈ S.hands) :
    S.world.Knows handle :=
  fun id hid => ht.targets id (mem_targets_of_hands hm hid)

/-- A client takes up a handle, and works on it in steps. -/
theorem ownTurns_take {handle : Statement} (hk : S.world.Knows handle)
    (h : Steps { S with hands := {handle}, loose := 0 } S') : OwnTurns Fits S S' := by
  have hsort : OwnTurn Fits S { S with hands := {handle}, loose := 0 } := by
    refine .sort (fun other hm => ?_) fun _ h => absurd h (Multiset.notMem_zero _)
    rw [Multiset.mem_singleton.mp hm]
    exact hk
  exact .head hsort h.turns.own

end Scene

namespace Session

open Scene (Turns Steps OwnTurns)

variable {s s' : Session} {S : Scene} {Fits : CachePolicy → Prop}

/-- **All that a client holds by name is known to the driver.** -/
structure Grasped (s : Session) : Prop where
  statements : ∀ {name held}, s.statements.get? name = some held → s.world.Knows held.statement
  tracked : ∀ {name tracked}, s.tracked.get? name = some tracked →
    s.world.Knows tracked.delegate

theorem mem_chest {name : Name} {tracked : Tracked} (h : s.tracked.get? name = some tracked) :
    tracked.facade ∈ s.chest :=
  Multiset.mem_map.mpr ⟨⟨name, tracked⟩, (Table.mem_bag _ _ _).mpr h, rfl⟩

theorem Depicts.grasped (hd : Depicts s S) (ht : S.Traced) : s.Grasped where
  statements {name held} h id hid := by
    rw [← hd.world]
    rcases hd.out h hid with hl | ⟨handle, hm, hh⟩
    · exact ht.loose id hl
    · exact ht.knows hm id hh
  tracked {name tracked} h id hid := by
    have hm : tracked.facade ∈ S.hands := by
      rw [hd.hands]
      exact Multiset.mem_add.mpr (Or.inr (mem_chest h))
    rw [← hd.world]
    exact ht.knows hm id hid

/-! ## Letting go of things and keeping them -/

theorem Grasped.inWorld (h : s.Grasped) {w : World} (hl : s.world.Later w) :
    (s.inWorld w).Grasped :=
  ⟨fun hn => (h.statements hn).later hl, fun hn => (h.tracked hn).later hl⟩

theorem Grasped.takeStatement (h : s.Grasped) (name : Name) : (s.takeStatement name).Grasped :=
  ⟨fun hn => h.statements (Table.get?_of_erase _ hn), fun hn => h.tracked hn⟩

theorem Grasped.takeTracked (h : s.Grasped) (name : Name) : (s.takeTracked name).Grasped :=
  ⟨fun hn => h.statements hn, fun hn => h.tracked (Table.get?_of_erase _ hn)⟩

theorem Grasped.insertStatement (h : s.Grasped) {held : Held} (hk : s.world.Knows held.statement)
    (name : Name) : (s.putStatement name held).Grasped := by
  refine ⟨fun hn => ?_, fun hn => h.tracked hn⟩
  rcases Table.get?_insert_eq_some _ hn with rfl | hn
  · exact hk
  · exact h.statements hn

theorem Grasped.insertTracked (h : s.Grasped) {tracked : Tracked}
    (hk : s.world.Knows tracked.delegate) (name : Name) :
    ({ s with tracked := s.tracked.insert name tracked } : Session).Grasped := by
  refine ⟨fun hn => h.statements hn, fun hn => ?_⟩
  rcases Table.get?_insert_eq_some _ hn with rfl | hn
  · exact hk
  · exact h.tracked hn

/-! ## Outcomes in turns of the client -/

/-- **An outcome is reached in turns of a client with caches of its own.** -/
def OwnReached (Fits : CachePolicy → Prop) (S : Scene) (outcome : Outcome) : Prop :=
  ∃ S', OwnTurns Fits S S' ∧ Depicts outcome.1 S'

theorem Reached.own {outcome : Outcome} (h : Reached S outcome) : OwnReached Fits S outcome := by
  obtain ⟨S', hturns, hd⟩ := h
  exact ⟨S', hturns.own, hd⟩

theorem Depicts.ownReached_same (hd : Depicts s S) (reply : Reply) :
    OwnReached Fits S (s, reply) :=
  ⟨S, .refl, hd⟩

/-- **The client's hands are put in order**: whatever was out on the way, just what it holds by
name is out in the end. -/
theorem Depicts.settle (hd : Depicts s S) (hS : S.Wired) {S' : Scene} (h : OwnTurns Fits S S')
    (hw : S'.world = s'.world) (ho : S'.owed = 0) (hg : s'.Grasped)
    (hraw : ∀ name id, s'.raw.get? name = some id → id ∈ S'.lines)
    (hcaches : ∀ name k, s'.caches.get? name = some k → k ∈ S'.own)
    (hguards : s'.guards = s.guards) (hshared : s'.shared = s.shared) (reply : Reply) :
    OwnReached Fits S (s', reply) := by
  have hsort : Scene.OwnTurn Fits S' { S' with
      hands := covered s'.pockets + s'.chest, loose := bares s'.pockets } := by
    have hpocket : ∀ handle ∈ s'.pockets, s'.world.Knows handle := by
      intro handle hm
      obtain ⟨entry, he, rfl⟩ := Multiset.mem_map.mp hm
      exact hg.statements ((Table.mem_bag _ _ _).mp he)
    refine .sort (fun handle hm => ?_) fun id hm => ?_
    · rw [hw]
      rcases Multiset.mem_add.mp hm with hm | hm
      · exact hpocket handle (Multiset.mem_filter.mp hm).1
      · obtain ⟨entry, he, rfl⟩ := Multiset.mem_map.mp hm
        exact hg.tracked ((Table.mem_bag _ _ _).mp he)
    · rw [hw]
      obtain ⟨handle, hm, hb⟩ := (Multiset.mem_filterMap _ _).mp hm
      obtain rfl := handle.eq_physical_of_bare? hb
      exact hpocket _ hm id rfl
  have hturns : OwnTurns Fits S _ := h.tail hsort
  exact ⟨_, hturns, hd.change (hturns.later_and_wired hS).1 hw rfl le_rfl ho hraw hcaches hguards
    hshared⟩

/-- The world has changed in turns that leave the hands as they are. -/
theorem Depicts.ownReached (hd : Depicts s S) (hS : S.Wired) {w : World}
    (h : OwnTurns Fits S (S.inWorld w)) (reply : Reply) :
    OwnReached Fits S (s.inWorld w, reply) :=
  ⟨_, h, hd.change (h.later_and_wired hS).1 rfl hd.hands hd.bare hd.owed hd.raw hd.caches rfl rfl⟩

/-- **A client works on a handle that the driver knows**, in steps after which nothing is owed. -/
theorem Depicts.ownReached_take (hd : Depicts s S) (hS : S.Wired) (ht : S.Traced)
    {handle : Statement} (hk : s.world.Knows handle) {w : World} {H : Multiset Statement}
    (h : Steps { S with hands := {handle}, loose := 0 }
      { S with world := w, hands := H, loose := 0 }) (reply : Reply) :
    OwnReached Fits S (s.inWorld w, reply) := by
  rw [← hd.world] at hk
  have hturns : OwnTurns Fits S _ := Scene.ownTurns_take hk h
  have hlater := (hturns.later_and_wired hS).1
  rw [hd.world] at hlater
  exact hd.settle hS hturns rfl hd.owed ((hd.grasped ht).inWorld hlater) hd.raw hd.caches rfl rfl
    reply

/-- What the client holds has changed, but nothing else. -/
theorem Depicts.ownReached_hold (hd : Depicts s S) (hS : S.Wired) (hg : s'.Grasped)
    (hw : s'.world = s.world) (hraw : s'.raw = s.raw) (hcaches : s'.caches = s.caches)
    (hguards : s'.guards = s.guards) (hshared : s'.shared = s.shared) (reply : Reply) :
    OwnReached Fits S (s', reply) := by
  refine hd.settle hS .refl (hd.world.trans hw.symm) hd.owed hg ?_ ?_ hguards hshared reply
  · rw [hraw]
    exact hd.raw
  · rw [hcaches]
    exact hd.caches

/-- One thing after the other. -/
theorem OwnReached.andThen {outcome outcome' : Outcome} (h : OwnReached Fits S outcome)
    (hS : S.Wired) (ht : S.Traced)
    (h' : ∀ S', Depicts outcome.1 S' → S'.Wired → S'.Traced → OwnReached Fits S' outcome') :
    OwnReached Fits S outcome' := by
  obtain ⟨S₁, hturns₁, hd₁⟩ := h
  obtain ⟨S₂, hturns₂, hd₂⟩ := h' S₁ hd₁ (hturns₁.later_and_wired hS).2 (hturns₁.traced hS ht)
  exact ⟨S₂, hturns₁.trans hturns₂, hd₂⟩

/-- **A tracked statement is kept under its name, or let go of.** -/
theorem ownReached_keepTracked (hd : Depicts s S) (hS : S.Wired) (ht : S.Traced)
    {tracked : Tracked} (hk : s.world.Knows tracked.delegate) (save : Option Name)
    (reply : Reply) : OwnReached Fits S (s.keepTracked save tracked, reply) := by
  cases save with
  | none =>
      have hdrop := Scene.steps_dropTracked (S := { S with
        hands := {tracked.facade}, loose := 0 }) tracked (H := 0) rfl
      rw [show s.keepTracked none tracked = s.inWorld (s.world.dropTracked tracked) from rfl,
        ← hd.world]
      have hk' : s.world.Knows tracked.facade := hk
      exact hd.ownReached_take hS ht hk' hdrop reply
  | some name =>
      have hg := (hd.grasped ht).insertTracked hk name
      show OwnReached Fits S ({ s with tracked := s.tracked.insert name tracked }, reply)
      exact hd.ownReached_hold hS hg rfl rfl rfl rfl rfl reply

/-- **A statement is kept under its name, or let go of.** -/
theorem ownReached_keepStatement (hd : Depicts s S) (hS : S.Wired) (ht : S.Traced)
    {handle : Statement} (hk : s.world.Knows handle) (save : Option Name) (origin : Origin)
    (reply : Reply) : OwnReached Fits S (s.keepStatement save handle origin, reply) := by
  cases save with
  | none =>
      rw [show s.keepStatement none handle origin = s.inWorld (s.world.dropHandle handle) from rfl,
        ← hd.world]
      cases hb : handle.bare? with
      | some id =>
          obtain rfl := handle.eq_physical_of_bare? hb
          rw [dropHandle_physical, hd.world]
          exact hd.ownReached_same reply
      | none =>
          have hdrop := steps_dropHandle (S := { S with hands := {handle}, loose := 0 })
            (H := 0) rfl hb
          exact hd.ownReached_take hS ht hk hdrop reply
  | some name =>
      have hg : (s.putStatement name ⟨handle, origin⟩).Grasped :=
        (hd.grasped ht).insertStatement hk name
      show OwnReached Fits S (s.putStatement name ⟨handle, origin⟩, reply)
      exact hd.ownReached_hold hS hg rfl rfl rfl rfl rfl reply

end Session

end ConnectionPool
