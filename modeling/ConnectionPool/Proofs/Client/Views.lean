import ConnectionPool.Proofs.Client.Answers
import ConnectionPool.Proofs.Scene.Stock
import ConnectionPool.Proofs.Session.Hits

/-!
# What a client sees of a session

Of what it holds, a client sees the looks. Two sessions are alike if their worlds are, if the
same names stand for the same pools and connections, and if what is held under a name looks the
same (`Session.Alike`).

A client without caches of its own comes to sessions that are served (`Session.Served`): there
every call is answered as it must be, and what is done with pools, connections and other handles
does not change the look of a handle (`Served.look?_of_turns`).
-/

set_option autoImplicit false

namespace ConnectionPool

namespace Scene

/-- The scene in which no more is out than some handles. -/
def handing (S : Scene) (H : Multiset Statement) : Scene := { S with hands := H, loose := 0 }

theorem Turns.stocked {S S' : Scene} (h : Turns S S') (hS : S.Sound) (hs : S.Stocked) :
    S'.Stocked := by
  induction h with
  | refl => exact hs
  | tail hturns hturn ih =>
      have hsound := Turns.sound hturns hS
      exact hturn.stocked hsound.wired hsound.traced hsound.owned hsound.own ih

theorem stocked_nothing : nothing.Stocked where
  rested {c key tracked} h := by
    rw [World.store, connection_nothing] at h
    cases h
  lines c h := absurd h (Registry.not_known_empty _)
  drained c _ := by
    left
    rw [connection_nothing]
    rfl

end Scene

namespace Session

/-- The look of what a client holds under a name, if it holds anything. -/
def look? (s : Session) (name : Name) : Option (Option Look) :=
  (s.statements.get? name).map fun held => s.world.look? held.statement

/-- **Sessions are alike** for a client that cannot see caches. -/
structure Alike (s t : Session) : Prop where
  world : s.world.Alike t.world
  pools : s.pools = t.pools
  guards : s.guards = t.guards
  shared : s.shared = t.shared
  looks : ∀ name, s.look? name = t.look? name

/-- **A session that a client without caches of its own has come to**, and a scene that depicts
what it has done. -/
structure Served (s : Session) (S : Scene) : Prop extends Keeps s S where
  sourced : S.Sourced
  stocked : S.Stocked

variable {s : Session} {S : Scene} {name : Name} {held : Held}

theorem served_empty : Served empty Scene.nothing where
  toKeeps := keeps_empty
  sourced := Scene.sourced_nothing
  stocked := Scene.stocked_nothing

theorem Served.run (h : Served s S) {command : Command} (hc : ∀ c, command ≠ .cache c) :
    ∃ S', Served (s.run command).1 S' := by
  obtain ⟨S', hturns, hkeeps⟩ := h.toKeeps.run hc
  exact ⟨S', hkeeps, hturns.sourced h.sound h.sourced, hturns.stocked h.sound h.stocked⟩

/-! ## What is left alone -/

theorem look?_eq_some (h : s.statements.get? name = some held) :
    s.look? name = some (s.world.look? held.statement) := by
  rw [look?, h]
  rfl

theorem look?_eq_none (h : s.statements.get? name = none) : s.look? name = none := by
  rw [look?, h]
  rfl

theorem look?_eq_none_iff : s.look? name = none ↔ s.statements.get? name = none := by
  rw [look?, Option.map_eq_none_iff]

theorem look?_inWorld (h : s.statements.get? name = some held) (w : World) :
    (s.inWorld w).look? name = some (w.look? held.statement) :=
  look?_eq_some (s := s.inWorld w) h

/-- A look stays as it is where the look of the handle does. -/
theorem look?_inWorld_eq {w : World} (h : ∀ held, s.statements.get? name = some held →
    w.look? held.statement = s.world.look? held.statement) :
    (s.inWorld w).look? name = s.look? name := by
  cases hg : s.statements.get? name with
  | none =>
      rw [look?_eq_none hg]
      exact look?_eq_none hg
  | some held => rw [look?_eq_some hg, look?_inWorld hg, h held hg]

/-- **What a client holds stands aside** from what is done with handles that do not reach it. -/
theorem Keeps.aside (h : Keeps s S) {id : StatementId} (hn : s.Holds name id)
    {H : Multiset Statement} (hH : ∀ handle ∈ H, handle.target? ≠ some id) :
    (S.handing H).Aside id := by
  obtain ⟨held, hg, ht⟩ := hn
  have hknown : S.world.driver.statements.Known id := by
    rcases h.depicts.out hg ht with hl | ⟨handle, hm, hhandle⟩
    · exact h.sound.traced.loose id hl
    · exact h.sound.traced.targets id (Scene.mem_targets.mpr (Or.inl ⟨handle, hm, hhandle⟩))
  refine ⟨hknown, fun hm => ?_, Multiset.notMem_zero _⟩
  rcases Scene.mem_targets.mp hm with ⟨handle, hm, hhandle⟩ | ⟨handle, hm, hhandle⟩
  · exact hH handle hm hhandle
  · obtain ⟨hhands, hloose⟩ := h.sound.owned.apart_of_parked hm hhandle
    rcases h.depicts.out hg ht with hl | ⟨handle, hm, hhandle⟩
    · exact hloose hl
    · exact hhands handle hm hhandle

/-- **What is done with other handles** does not change the look of a handle. -/
theorem Keeps.look?_of_turns (h : Keeps s S) {H : Multiset Statement} {S' : Scene}
    (hT : Scene.Turns (S.handing H) S') (hg : s.statements.get? name = some held)
    (hH : ∀ handle ∈ H, ∀ id, held.statement.target? = some id → handle.target? ≠ some id) :
    S'.world.look? held.statement = s.world.look? held.statement := by
  cases ht : held.statement.target? with
  | none => rw [World.look?_of_spent ht, World.look?_of_spent ht]
  | some id =>
      have haside := h.aside ⟨held, hg, ht⟩ fun handle hm => hH handle hm id ht
      have hS : (S.handing H).Wired := h.sound.wired
      rw [World.look?_eq ht, World.look?_eq ht, (hT.aside hS haside).2, ← h.depicts.world]
      rfl

/-- **What is done with no handle** does not change any look. -/
theorem Keeps.looks (h : Keeps s S) {S' : Scene} (hT : Scene.Turns (S.handing 0) S')
    (name : Name) : (s.inWorld S'.world).look? name = s.look? name :=
  look?_inWorld_eq fun _ hg =>
    h.look?_of_turns hT hg fun _ hm => absurd hm (Multiset.notMem_zero _)

/-- **A turn of events** in which no handle comes in does not change any look. -/
theorem Keeps.looks_of_turns (h : Keeps s S) {w : World}
    (hT : ∀ R : Scene, R.world = s.world → R.Wired → Scene.Turns R (R.inWorld w)) (name : Name) :
    (s.inWorld w).look? name = s.look? name :=
  h.looks (hT (S.handing 0) h.depicts.world h.sound.wired) name

/-- Two names reach different statements. -/
theorem Keeps.apart (h : Keeps s S) {name' : Name} {held' : Held}
    (hg : s.statements.get? name = some held) (hg' : s.statements.get? name' = some held')
    (hne : name' ≠ name) (id : StatementId) (ht : held'.statement.target? = some id) :
    held.statement.target? ≠ some id :=
  fun hid => hne (h.holds_unique ⟨held', hg', ht⟩ ⟨held, hg, hid⟩)

/-! ## Handles -/

/-- **A use of a statement** changes the look under its name alone. -/
theorem Keeps.look?_use (h : Keeps s S) (hg : s.statements.get? name = some held) (usage : Usage)
    (other : Name) :
    (s.inWorld (s.world.use usage held.statement)).look? other
      = if other = name then
          some ((s.world.look? held.statement).map (usage.onLook s.world.driver.faults))
        else s.look? other := by
  split
  · next he =>
      rw [he, look?_inWorld hg]
      exact congrArg some (s.world.look?_use held.statement usage)
  · next hne =>
      exact look?_inWorld_eq fun held' ho =>
        s.world.look?_use_of_ne held.statement usage fun id ht hid => h.apart hg ho hne id hid ht

/-- What is done with one handle in turns does not change the looks under other names. -/
theorem Keeps.look?_of_ne (h : Keeps s S) (hg : s.statements.get? name = some held) {S' : Scene}
    (hT : Scene.Turns (S.handing (held.statement ::ₘ 0)) S') {other : Name} (hne : other ≠ name) :
    (s.inWorld S'.world).look? other = s.look? other := by
  refine look?_inWorld_eq fun held' ho => h.look?_of_turns hT ho fun handle hm id ht => ?_
  rw [Multiset.mem_singleton.mp hm]
  exact h.apart hg ho hne id ht

/-- **A statement that a client closes** looks closed, and the others look as before. -/
theorem Keeps.look?_close (h : Keeps s S) (hg : s.statements.get? name = some held)
    (other : Name) :
    ((s.inWorld (World.close held.statement s.world).1).putStatement name
        { held with statement := held.statement.afterClose }).look? other
      = if other = name then some none else s.look? other := by
  split
  · next he =>
      rw [he, look?_eq_some (Table.get?_insert_self _ _ _)]
      exact congrArg some (s.world.look?_close held.statement)
  · next hne =>
      have hT := (Scene.steps_close held.statement
        (S := S.handing (held.statement ::ₘ 0)) (H := 0) rfl).turns
      have hlook := h.look?_of_ne hg hT hne
      rw [Scene.handing, h.depicts.world] at hlook
      rw [← hlook, look?, look?, putStatement, Table.get?_insert_of_ne _ _ (Ne.symm hne)]

/-- A statement that a client lets go of is gone, and the others look as before. -/
theorem Keeps.look?_drop (h : Keeps s S) (hg : s.statements.get? name = some held)
    (other : Name) :
    ((s.inWorld (s.world.dropHandle held.statement)).takeStatement name).look? other
      = if other = name then none else s.look? other := by
  have hlook : other ≠ name →
      (s.inWorld (s.world.dropHandle held.statement)).look? other = s.look? other := by
    intro hne
    cases hb : held.statement.bare? with
    | some id => rw [held.statement.eq_physical_of_bare? hb, dropHandle_physical]; rfl
    | none =>
        have hT := (steps_dropHandle (S := S.handing (held.statement ::ₘ 0)) (H := 0) rfl hb).turns
        have hlook := h.look?_of_ne hg hT hne
        rwa [Scene.handing, h.depicts.world] at hlook
  rw [look?, takeStatement, Table.get?_erase]
  split
  · rfl
  · next hne => exact hlook hne

/-- A statement that a client keeps under a free name looks as it is, and the others look as
before. -/
theorem look?_keepStatement (s : Session) (name : Name) (handle : Statement) (origin : Origin)
    (other : Name) :
    (s.keepStatement (some name) handle origin).look? other
      = if other = name then some (s.world.look? handle) else s.look? other := by
  rw [look?, keepStatement, Table.get?_insert]
  by_cases he : name = other
  · subst he
    rw [dif_pos rfl, if_pos rfl]
    rfl
  · rw [dif_neg he, if_neg (Ne.symm he)]
    rfl

/-! ## Calls -/

theorem Served.serves (h : Served s S) (hclear : s.world.Clear) (c : ConnectionId) :
    s.world.Serves c (s.world.connection c).chain := by
  have hwired := h.sound.wired
  have hstock : ∀ key tracked, (S.world.store c).entries.get? key = some tracked →
      (S.world.connection c).closed = false
        ∧ (S.world.driver.connection (S.world.connection c).physical).closed = false
        ∧ ∃ id, tracked.delegate.target? = some id ∧ (S.world.driver.statement id).Rested := by
    intro key tracked he
    obtain ⟨hconnection, hline⟩ := h.stocked.open_of_parked hwired h.sourced he
    exact ⟨hconnection, hline, h.stocked.rested he⟩
  rw [Scene.Wired, h.depicts.world] at hwired
  rw [h.depicts.world] at hstock
  refine ⟨hclear.links c, hclear.caches, fun interceptor hm k hk binding hb => ?_, hstock⟩
  refine hwired.binding_connection (List.mem_filterMap.mpr ⟨interceptor, hm, ?_⟩) hb
  rw [Interceptor.cache?, hk]

/-- **A call is answered as it must be.** -/
theorem Served.meets (h : Served s S) (hclear : s.world.Clear) (c : ConnectionId) (call : Call) :
    World.Meets (s.world.perform c call) (s.world.verdict c call) :=
  World.meets_send _ 0 call s.world (h.serves hclear c)

/-- A call does not change the look of what a client holds. -/
theorem Keeps.looks_perform (h : Keeps s S) (c : ConnectionId) (call : Call) (name : Name) :
    (s.inWorld (s.world.perform c call).1).look? name = s.look? name := by
  have hsteps := (Scene.steps_perform (S := S.handing 0) h.sound.wired c call).1
  have hlooks := h.looks hsteps.turns name
  rwa [Scene.handing, h.depicts.world] at hlooks

/-- Nor does letting go of the answer. -/
theorem Keeps.looks_dropAnswer (h : Keeps s S) {c : ConnectionId} {call : Call} {w : World}
    {handle : Statement} (hw : s.world.perform c call = (w, .ok (.statement handle)))
    (name : Name) : (s.inWorld (w.dropHandle handle)).look? name = s.look? name := by
  have hsteps := (Scene.steps_perform (S := S.handing 0) h.sound.wired c call).1
  rw [show (S.handing 0).world = s.world from h.depicts.world, hw] at hsteps
  cases hb : handle.bare? with
  | some id =>
      rw [handle.eq_physical_of_bare? hb, dropHandle_physical]
      exact h.looks hsteps.turns name
  | none =>
      have hhands : Answer.hands (.ok (.statement handle)) + (S.handing 0).hands
          = handle ::ₘ 0 := Multiset.singleton_add handle 0
      exact h.looks (hsteps.trans (steps_dropHandle hhands hb)).turns name

end Session

end ConnectionPool
