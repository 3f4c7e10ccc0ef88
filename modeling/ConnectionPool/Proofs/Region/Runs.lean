import ConnectionPool.Proofs.Region.Commands
import ConnectionPool.Proofs.Session.Accounts

/-!
# Runs within a region that has everything

A region that has all pools, connections, caches and counters (`Region.Whole`) has everything that
a command can name, except perhaps some statements. As long as the client holds none of those, and
no command bears on what is kept, every command is confined to the region (`embraces_runAll`).

The region that has every statement as well gives what holds of every run: what caches are attached
to is known, and a client's own caches are in no chain (`embraces_everything`).
-/

set_option autoImplicit false

namespace ConnectionPool

namespace Session

/-! ## Names for connections and caches -/

/-- What the names of a client for connections and caches may come to stand for. Where a cache is
made, no connection is changed. -/
structure Renames (s s' : Session) : Prop where
  shared : ∀ name c, s'.shared.get? name = some c →
    (∃ name', s.shared.get? name' = some c) ∨ ∃ guard, s.guards.get? guard = some c
  caches : ∀ name k, s'.caches.get? name = some k →
    (∃ name', s.caches.get? name' = some k)
      ∨ (¬ s.world.caches.Known k ∧ s'.world.caches.Known k
        ∧ s'.world.connections = s.world.connections)

variable {s s' : Session}

theorem Renames.same (hs : s'.shared = s.shared) (hc : s'.caches = s.caches) : Renames s s' where
  shared name c h := Or.inl ⟨name, by rw [← hs]; exact h⟩
  caches name k h := Or.inl ⟨name, by rw [← hc]; exact h⟩

/-- What is shown of the session that a command ends in. -/
abbrev RenamesAfter (s : Session) : Outcome → Prop := fun outcome => Renames s outcome.1

theorem renames_runConnection (s : Session) (command : ConnectionCommand) :
    RenamesAfter s (s.runConnection command) := by
  have hsame : ∀ reply, RenamesAfter s (s, reply) := fun _ => .same rfl rfl
  have hcall : ∀ c call into save, RenamesAfter s (s.runCall c call into save) := by
    intro c call into save
    have heffect := s.callEffect c call into save
    unfold RenamesAfter
    generalize (s.runCall c call into save).1 = s' at heffect ⊢
    cases heffect with
    | passed => exact .same rfl rfl
    | kept => exact .same (keepStatement_shared _ _ _ _) (keepStatement_caches _ _ _ _)
  cases command with
  | share guard save =>
      refine withFresh_rule (P := RenamesAfter s) hsame fun _ =>
        withGuard_rule hsame fun c hc => ⟨fun name d h => ?_, fun name k h => Or.inl ⟨name, h⟩⟩
      rcases Table.get?_insert_eq_some _ h with rfl | h
      · exact Or.inr ⟨guard, hc⟩
      · exact Or.inl ⟨name, h⟩
  | unshare shared =>
      exact withShared_rule (P := RenamesAfter s) hsame fun c _ =>
        ⟨fun name d h => Or.inl ⟨name, Table.get?_of_erase _ h⟩, fun name k h => Or.inl ⟨name, h⟩⟩
  | prepare guard call save =>
      exact withFreshStatement_rule (P := RenamesAfter s) hsame fun _ =>
        withGuard_rule hsame fun c _ => hcall c _ _ _
  | isValid guard =>
      exact withGuard_rule (P := RenamesAfter s) hsame fun c _ => hcall c _ _ _
  | invoke via request into save =>
      exact withFreshStatement_rule (P := RenamesAfter s) hsame fun _ =>
        withCall_rule hsame fun call _ => withTarget_rule hsame fun c _ => hcall c _ _ _
  | checkIn guard | retire guard | inspectGuard guard =>
      exact withGuard_rule (P := RenamesAfter s) hsame fun c _ => .same rfl rfl
  | inspectConnection via =>
      exact withConnection_rule (P := RenamesAfter s) hsame fun _ _ => hsame _
  | inspectStore via =>
      refine withConnection_rule (P := RenamesAfter s) hsame fun _ _ => ?_
      split <;> exact hsame _

theorem Renames.insertCache {s' : Session} {save : Name} {k : CacheId}
    (hk : (∃ name, s.caches.get? name = some k) ∨ (¬ s.world.caches.Known k
      ∧ s'.world.caches.Known k ∧ s'.world.connections = s.world.connections))
    (hs : s'.shared = s.shared) (hc : s'.caches = s.caches.insert save k) : Renames s s' where
  shared name _ h := Or.inl ⟨name, hs ▸ h⟩
  caches name l h := by
    rw [hc] at h
    rcases Table.get?_insert_eq_some _ h with rfl | h
    · exact hk
    · exact Or.inl ⟨name, h⟩

theorem Renames.eraseCache {s' : Session} {cache : Name} (hs : s'.shared = s.shared)
    (hc : s'.caches = s.caches.erase cache) : Renames s s' where
  shared name _ h := Or.inl ⟨name, hs ▸ h⟩
  caches name _ h := Or.inl ⟨name, Table.get?_of_erase _ (hc ▸ h)⟩

theorem renames_dropCache (name : Name) (k : CacheId) : Renames s (s.dropCache name k) := by
  unfold dropCache
  simp only
  split
  · exact .eraseCache rfl rfl
  · exact .eraseCache rfl rfl

theorem StatementEffect.renames {command : StatementCommand} {s' : Session}
    (h : StatementEffect s command s') : Renames s s' := by
  cases h <;> exact .same rfl rfl

theorem TrackedEffect.renames {command : TrackedCommand} {s' : Session}
    (h : TrackedEffect s command s') : Renames s s' := by
  cases h with
  | faced hn => exact .same (keepStatement_shared _ _ _ _) (keepStatement_caches _ _ _ _)
  | _ => exact .same rfl rfl

theorem CacheEffect.renames {command : CacheCommand} {s' : Session}
    (h : CacheEffect s command s') : Renames s s' := by
  cases h with
  | created hread =>
      exact .insertCache (Or.inr ⟨s.world.caches.not_known_next,
        (Registry.known_register _ _ _).mpr (Or.inr rfl), rfl⟩) rfl rfl
  | cloned hk => exact .insertCache (Or.inl ⟨_, hk⟩) rfl rfl
  | dropped hk => exact renames_dropCache _ _
  | tracked k call t handle hk hcall hsource => exact .same hsource.names.1 hsource.names.2
  | unwrapped k call t handle hk hcall hsource h => exact .same hsource.names.1 hsource.names.2
  | wrapped k call t handle hk hcall hsource h =>
      exact .same ((keepStatement_shared _ _ _ _).trans hsource.names.1)
        ((keepStatement_caches _ _ _ _).trans hsource.names.2)
  | fetched k call hfree hk hcall h | withdrawn k key hfree hk hcall hkey h =>
      exact .same (keepTracked_shared _ _ _) (keepTracked_caches _ _ _)
  | _ => exact .same rfl rfl

/-- **What a command does to the names** of a client for connections and caches. -/
theorem renames_run (s : Session) (command : Command) : Renames s (s.run command).1 := by
  cases command with
  | advance span => exact .same rfl rfl
  | switch fault => exact .same rfl rfl
  | pool command =>
      cases command <;> simp only [run, runPool, withPool, withFresh] <;> (repeat' split)
        <;> exact .same rfl rfl
  | connection command => exact s.renames_runConnection command
  | statement command => exact (s.statementEffect command).renames
  | driver command =>
      cases command <;>
        simp only [run, runDriver, withFreshStatement, withFresh, withRaw, keepDriverStatement,
          keepStatement] <;> (repeat' split) <;> exact .same rfl rfl
  | cache command => exact (s.cacheEffect command).renames
  | tracked command => exact (s.trackedEffect command).renames

end Session

namespace Region

open Session

variable {R : Region} {s : Session}

/-! ## What a session can name -/

/-- **A region that has everything**, except perhaps some statements. -/
structure Whole (R : Region) : Prop where
  pools : ∀ p, R.pools p
  connections : ∀ c, R.connections c
  caches : ∀ k, R.caches k
  counters : ∀ n, R.counters n

/-- **A region embraces a session**: it is closed, and what the client holds lies in it. What a
client has names for is known, and its own caches are in no chain. -/
structure Embraces (R : Region) (s : Session) : Prop where
  closed : R.Closed s.world
  statement : ∀ name held, s.statements.get? name = some held → R.Holds held.statement
  tracked : ∀ name tracked, s.tracked.get? name = some tracked → R.Holds tracked.facade
  shared : ∀ name c, s.shared.get? name = some c → s.world.connections.Known c
  caches : ∀ name k, s.caches.get? name = some k →
    s.world.caches.Known k ∧ ∀ c, k ∉ (s.world.connection c).caches

/-- Whatever a command mentions is found in a region that has everything. -/
theorem Embraces.finds (hR : R.Whole) (h : R.Embraces s) (ha : s.Accounted) (mention : Mention) :
    R.Finds s mention := by
  cases mention with
  | pool name =>
      intro p hp
      exact ⟨hR.pools p, fun c hc => ⟨hR.connections c, (ha.balanced.waiting p c hc).live.known,
        hR.pools _⟩, ha.balanced.idle_nodup p⟩
  | connection via =>
      intro c hc d hd
      obtain rfl := List.mem_singleton.mp hd
      refine ⟨hR.connections d, ?_, hR.pools _⟩
      cases via with
      | guard name => exact (ha.live_guard hc).known
      | shared name => exact h.shared name d hc
  | statement name => exact h.statement name
  | cache name => exact fun k hk => ⟨hR.caches k, (h.caches name k hk).2⟩
  | tracked name => exact h.tracked name

theorem Embraces.admits (hR : R.Whole) (h : R.Embraces s) (ha : s.Accounted) {command : Command}
    (hl : R.Leaves s command) : R.Admits s command where
  roomy :=
    { pools := fun p _ => hR.pools p
      connections := fun c _ => hR.connections c
      caches := fun k _ => hR.caches k
      counters := fun n _ => hR.counters n }
  finds mention _ := h.finds hR ha mention
  leaves := hl

/-! ## One command -/

/-- **A session is embraced after a command** that does not bear on what is kept, and after which
what is kept is held. -/
theorem Embraces.run (hR : R.Whole) (h : R.Embraces s) (ha : s.Accounted) {command : Command}
    (hl : R.Leaves s command) (hs : R.SecuresAll (s.run command).1.world)
    (hq : R.Quiet s.world (s.run command).1.world) :
    R.Embraces (s.run command).1 ∧ R.Spares s.world (s.run command).1.world := by
  have hconfined := confined_run (R := R) s command
  have hgrows := hconfined.grows
  obtain ⟨hclosed, hspares, hgains⟩ :=
    hconfined.effect ⟨h.admits hR ha hl, hs⟩ h.closed hq
  have hnames := s.renames_run command
  refine ⟨⟨hclosed, fun name held hn => ?_, fun name tracked hn => ?_, fun name c hn => ?_,
    fun name k hn => ?_⟩, hspares⟩
  · exact (hgains.statement name held hn).elim (h.statement name held) id
  · exact (hgains.tracked name tracked hn).elim (h.tracked name tracked) id
  · obtain ⟨name', hc⟩ | ⟨guard, hc⟩ := hnames.shared name c hn
    · exact (h.shared name' c hc).mono hgrows.connections
    · exact (ha.live_guard hc).known.mono hgrows.connections
  · obtain ⟨name', hk⟩ | ⟨hnew, hknown, hsame⟩ := hnames.caches name k hn
    · obtain ⟨hknown, hfree⟩ := h.caches name' k hk
      exact ⟨hknown.mono hgrows.caches, fun c hm => hfree c (hgrows.linked c k hknown hm)⟩
    · refine ⟨hknown, fun c hm => hnew (h.closed.chain c k (hR.connections c) ?_).2⟩
      rw [World.connection, hsame] at hm
      exact hm

/-! ## Runs -/

/-- None of these commands bears on what is kept, and after each of them it is held. -/
def Peaceful (R : Region) : Session → List Command → Prop
  | _, [] => True
  | s, command :: rest =>
      (R.Leaves s command ∧ R.SecuresAll (s.run command).1.world
        ∧ R.Quiet s.world (s.run command).1.world)
        ∧ R.Peaceful (s.run command).1 rest

/-- **A session is embraced after commands** that do not bear on what is kept. -/
theorem Embraces.runAll (hR : R.Whole) (h : R.Embraces s) (ha : s.Accounted)
    {commands : List Command} (hp : R.Peaceful s commands) :
    R.Embraces (s.runAll commands) ∧ R.Spares s.world (s.runAll commands).world := by
  induction commands generalizing s with
  | nil => exact ⟨h, .refl R s.world⟩
  | cons command rest ih =>
      obtain ⟨hnext, hspares⟩ := h.run hR ha hp.1.1 hp.1.2.1 hp.1.2.2
      obtain ⟨hlast, hrest⟩ := ih hnext (ha.run command).accounted hp.2
      exact ⟨hlast, hspares.trans hrest⟩

/-! ## Everything -/

/-- A command bears on nothing where nothing is kept. -/
theorem leaves_of_none (hn : ∀ c key, ¬ R.kept c key) (s : Session) (command : Command) :
    R.Leaves s command := by
  unfold Leaves
  split
  · exact fun _ _ c _ _ _ => hn c
  · exact fun _ _ _ _ _ binding _ key hk => absurd hk (hn binding.connection key)
  · exact fun _ _ _ key _ _ _ binding _ => hn binding.connection key
  · trivial

theorem quiet_of_none (hn : ∀ c key, ¬ R.kept c key) (w w' : World) : R.Quiet w w' :=
  fun _ _ _ _ => ⟨fun {c} _ _ _ _ _ key _ _ _ hk => absurd hk (hn c key),
    fun {c} _ _ key _ => hn c key⟩

theorem securesAll_of_none (hn : ∀ c key, ¬ R.kept c key) (w : World) : R.SecuresAll w :=
  fun c key hk => absurd hk (hn c key)

theorem peaceful_of_none (hn : ∀ c key, ¬ R.kept c key) (s : Session) (commands : List Command) :
    R.Peaceful s commands := by
  induction commands generalizing s with
  | nil => trivial
  | cons command rest ih =>
      exact ⟨⟨leaves_of_none hn s command, securesAll_of_none hn _, quiet_of_none hn _ _⟩, ih _⟩

/-- **The region that has everything** and keeps nothing. -/
def everything : Region where
  pools _ := True
  connections _ := True
  caches _ := True
  counters _ := True
  statements _ := True

theorem whole_everything : everything.Whole :=
  ⟨fun _ => trivial, fun _ => trivial, fun _ => trivial, fun _ => trivial⟩

theorem holds_everything (handle : Statement) : everything.Holds handle := by
  induction handle with
  | physical id => trivial
  | facade key k inner ih => exact ⟨trivial, ih⟩
  | spent => trivial

theorem everything_embraces_empty : everything.Embraces empty := by
  have hconnection : ∀ c, empty.world.connection c = default := fun c =>
    Registry.get_of_not_known (Registry.not_known_empty c)
  have hcache : ∀ k, empty.world.cache k = default := fun k =>
    Registry.get_of_not_known (Registry.not_known_empty k)
  have hpool : ∀ p, empty.world.pool p = default := fun p =>
    Registry.get_of_not_known (Registry.not_known_empty p)
  have hnone : ∀ {c k}, k ∉ (empty.world.connection c).caches := by
    intro c k
    rw [hconnection]
    exact List.not_mem_nil
  exact
    { closed :=
        { statements := fun _ _ => trivial
          chain := fun c k _ hk => absurd hk hnone
          home := fun _ _ _ _ => trivial
          apart := fun c d k _ _ hk => absurd hk hnone
          bound := fun k binding _ hb => by
            rw [hcache] at hb
            cases hb
          tied := fun c k _ _ hk => absurd hk hnone
          counted := fun p n _ hn => by
            rw [hpool] at hn
            cases hn
          parked := fun _ _ tracked _ _ _ => holds_everything tracked.facade
          kept := fun _ _ hk => hk.elim
          policy := fun _ _ _ hk => hk.elim }
      statement := fun _ held _ => holds_everything held.statement
      tracked := fun _ tracked _ => holds_everything tracked.facade
      shared := fun _ _ h => by cases h
      caches := fun _ _ h => by cases h }

/-- **Everything embraces every session** that a client comes to. -/
theorem everything_embraces (commands : List Command) :
    everything.Embraces (empty.runAll commands) :=
  (everything_embraces_empty.runAll whole_everything accounted_empty
    (peaceful_of_none (fun _ _ hk => hk) empty commands)).1

end Region

end ConnectionPool
