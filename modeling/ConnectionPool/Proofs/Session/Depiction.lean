import ConnectionPool.Proofs.Scene.Bare
import ConnectionPool.Proofs.Scene.Pooling
import ConnectionPool.Proofs.Session.Effects

/-!
# Sessions as scenes

A scene depicts a session when its world is that of the session and what is out is what the
client holds by name (`Session.Depicts`). Every command of a session that is not about caches
of the client's own is a sequence of turns of a scene that depicts it (`turns_run`).
-/

set_option autoImplicit false

namespace ConnectionPool

/-- The driver's statement, where a handle is nothing but that. -/
def Statement.bare? : Statement → Option StatementId
  | physical id => some id
  | _ => none

theorem Statement.eq_physical_of_bare? (handle : Statement) {id : StatementId}
    (h : handle.bare? = some id) : handle = .physical id := by
  cases handle with
  | physical id' => cases h; rfl
  | facade key k inner => exact nomatch h
  | spent => exact nomatch h

namespace Session

/-- The handles among some statements that are not bare. -/
def covered (held : Multiset Statement) : Multiset Statement :=
  held.filter fun handle => handle.bare? = none

/-- The bare statements among some statements. -/
def bares (held : Multiset Statement) : Multiset StatementId :=
  held.filterMap Statement.bare?

/-- The statements that a client holds. -/
def pockets (s : Session) : Multiset Statement :=
  s.statements.bag.map fun entry => entry.2.statement

/-- The tracked statements that a client holds, as facades. -/
def chest (s : Session) : Multiset Statement := s.tracked.bag.map fun entry => entry.2.facade

/-- **A scene depicts a session.** -/
structure Depicts (s : Session) (S : Scene) : Prop where
  world : S.world = s.world
  hands : S.hands = covered s.pockets + s.chest
  bare : bares s.pockets ≤ S.loose
  owed : S.owed = 0
  raw : ∀ name id, s.raw.get? name = some id → id ∈ S.lines
  caches : ∀ name k, s.caches.get? name = some k → k ∈ S.own
  guards : ∀ name c, s.guards.get? name = some c →
    s.world.connections.Known c ∧ s.world.Ready c
  shared : ∀ name c, s.shared.get? name = some c → s.world.connections.Known c

/-! ## What a client holds -/

section Held

variable {H : Multiset Statement}

@[simp] theorem covered_physical (id : StatementId) :
    covered (.physical id ::ₘ H) = covered H :=
  Multiset.filter_cons_of_neg _ (fun h => nomatch h)

theorem covered_cons {handle : Statement} (h : handle.bare? = none) :
    covered (handle ::ₘ H) = handle ::ₘ covered H :=
  Multiset.filter_cons_of_pos _ h

@[simp] theorem bares_physical (id : StatementId) :
    bares (.physical id ::ₘ H) = id ::ₘ bares H :=
  Multiset.filterMap_cons_some Statement.bare? _ _ rfl

theorem bares_cons {handle : Statement} (h : handle.bare? = none) :
    bares (handle ::ₘ H) = bares H :=
  Multiset.filterMap_cons_none (f := Statement.bare?) _ _ h

theorem mem_covered {handle : Statement} (hm : handle ∈ H) (h : handle.bare? = none) :
    handle ∈ covered H :=
  Multiset.mem_filter.mpr ⟨hm, h⟩

theorem mem_bares {id : StatementId} (hm : .physical id ∈ H) : id ∈ bares H :=
  (Multiset.mem_filterMap _ _).mpr ⟨_, hm, rfl⟩

variable {s : Session} {name : Name} {held : Held}

theorem pockets_insert_free (held : Held) (h : s.statements.get? name = none) :
    ({ s with statements := s.statements.insert name held } : Session).pockets
      = held.statement ::ₘ s.pockets := by
  rw [pockets, Table.bag_insert_of_free _ _ h, Multiset.map_cons, ← pockets]

theorem pockets_erase (h : s.statements.get? name = some held) :
    s.pockets = held.statement ::ₘ (s.takeStatement name).pockets := by
  have hbag := congrArg (Multiset.map fun entry : (_ : Name) × Held => entry.2.statement)
    (Table.bag_erase s.statements h)
  rw [Multiset.map_cons] at hbag
  exact hbag.symm

theorem pockets_putStatement (held' : Held) (h : s.statements.get? name = some held) :
    (s.putStatement name held').pockets
      = held'.statement ::ₘ (s.takeStatement name).pockets := by
  have hbag := congrArg (Multiset.map fun entry : (_ : Name) × Held => entry.2.statement)
    (Table.bag_insert_of_taken s.statements held' h)
  rw [Multiset.map_cons, Multiset.map_cons] at hbag
  have hput : held.statement ::ₘ (s.putStatement name held').pockets
      = held'.statement ::ₘ s.pockets := hbag
  rw [pockets_erase h, Multiset.cons_swap] at hput
  exact (Multiset.cons_inj_right _).mp hput

theorem mem_pockets (h : s.statements.get? name = some held) : held.statement ∈ s.pockets := by
  rw [pockets_erase h]
  exact Multiset.mem_cons_self _ _

end Held

/-! ## Changing a depicted session -/

variable {s s' : Session} {S S' : Scene}

/-- What a client holds and the world have changed, but nothing else. -/
theorem Depicts.change (hd : Depicts s S) (hl : S.world.Later S'.world)
    (hw : S'.world = s'.world) (hh : S'.hands = covered s'.pockets + s'.chest)
    (hb : bares s'.pockets ≤ S'.loose) (ho : S'.owed = 0)
    (hraw : ∀ name id, s'.raw.get? name = some id → id ∈ S'.lines)
    (hcaches : ∀ name k, s'.caches.get? name = some k → k ∈ S'.own)
    (hguards : s'.guards = s.guards) (hshared : s'.shared = s.shared) : Depicts s' S' where
  world := hw
  hands := hh
  bare := hb
  owed := ho
  raw := hraw
  caches := hcaches
  guards name c h := by
    obtain ⟨hk, hr⟩ := hd.guards name c (hguards ▸ h)
    rw [← hd.world] at hk hr
    rw [← hw]
    exact ⟨(hl.connections c hk).1, hl.ready c hk hr⟩
  shared name c h := by
    have hk := hd.shared name c (hshared ▸ h)
    rw [← hd.world] at hk
    rw [← hw]
    exact (hl.connections c hk).1

/-- The world has changed in a sequence of turns. -/
theorem Depicts.inWorld (hd : Depicts s S) (hS : S.Wired) {w : World}
    (h : Scene.Turns S (S.inWorld w)) : Depicts (s.inWorld w) (S.inWorld w) :=
  hd.change (h.later_and_wired hS).1 rfl hd.hands hd.bare hd.owed hd.raw hd.caches rfl rfl

/-- Letting go of a handle that is not bare. -/
theorem steps_dropHandle {handle : Statement} {H : Multiset Statement}
    (h : S.hands = handle ::ₘ H) (hb : handle.bare? = none) :
    Scene.Steps S { S with world := S.world.dropHandle handle, hands := H } := by
  cases handle with
  | physical id => exact nomatch hb
  | spent => exact .single (.lapse h)
  | facade key k inner => exact Scene.steps_close _ h

/-- Letting go of a handle that is bare has no effect. -/
theorem dropHandle_physical (w : World) (id : StatementId) :
    w.dropHandle (.physical id) = w := rfl

/-- **A statement that is out is kept under a free name, or let go of.** -/
theorem turns_keep (hd : Depicts s S) (hS : S.Wired) {w : World} {handle : Statement}
    (hT : Scene.Turns S { S with world := w, hands := handle ::ₘ S.hands })
    (hbare : ∀ id, handle = .physical id → ¬ w.Wrapped id) {save : Option Name}
    (hfree : ∀ name, save = some name → s.statements.get? name = none) (origin : Origin) :
    ∃ S', Scene.Turns S S' ∧ Depicts ((s.inWorld w).keepStatement save handle origin) S' := by
  have hlater := (hT.later_and_wired hS).1
  cases hb : handle.bare? with
  | some id =>
      -- a bare statement is given to the client, whether or not it is kept
      obtain rfl := handle.eq_physical_of_bare? hb
      have hgive : Scene.Turn { S with world := w, hands := .physical id ::ₘ S.hands }
          { S with world := w, loose := id ::ₘ S.loose } := .step (.give rfl (hbare id rfl))
      refine ⟨_, hT.trans (.single hgive), ?_⟩
      cases save with
      | none =>
          exact hd.change hlater rfl hd.hands (hd.bare.trans (Multiset.le_cons_self _ _)) hd.owed
            hd.raw hd.caches rfl rfl
      | some name =>
          have hp := pockets_insert_free (s := s.inWorld w) ⟨.physical id, origin⟩
            (hfree name rfl)
          refine hd.change hlater rfl ?_ ?_ hd.owed hd.raw hd.caches rfl rfl
          · rw [keepStatement, hp, covered_physical]
            exact hd.hands
          · rw [keepStatement, hp, bares_physical]
            exact (Multiset.cons_le_cons_iff _).mpr hd.bare
  | none =>
      cases save with
      | none =>
          have hdrop := steps_dropHandle (S := { S with world := w, hands := handle ::ₘ S.hands })
            rfl hb
          have hT' := hT.trans hdrop.turns
          exact ⟨_, hT', hd.change (hT'.later_and_wired hS).1 rfl hd.hands hd.bare hd.owed hd.raw
            hd.caches rfl rfl⟩
      | some name =>
          have hp := pockets_insert_free (s := s.inWorld w) ⟨handle, origin⟩ (hfree name rfl)
          refine ⟨_, hT, hd.change hlater rfl ?_ ?_ hd.owed hd.raw hd.caches rfl rfl⟩
          · rw [keepStatement, hp, covered_cons hb, Multiset.cons_add]
            exact congrArg (handle ::ₘ ·) hd.hands
          · rw [keepStatement, hp, bares_cons hb]
            exact hd.bare

end Session

end ConnectionPool
