import ConnectionPool.Proofs.Closing.Reaching
import ConnectionPool.Proofs.Region.Runs
import ConnectionPool.Proofs.Scene.Allotment

/-!
# Handles and the connections that they came from

A client remembers which connection a handle came from. All facades of the handle belong to caches
of the chain of that connection, and a handle that came from anywhere else has no facades
(`Held.Traced`). Where a handle comes from is read off the command that brought it
(`Session.arises_run`).

`Session.InPlace` gathers this, what is in order with a client that has no caches of its own, and
that every counter is one pool's; it holds of every session that is reached (`Reaches.inPlace`).
-/

set_option autoImplicit false

namespace ConnectionPool

theorem Statement.layers_afterClose (handle : Statement) : handle.afterClose.layers = [] := by
  cases handle <;> rfl

namespace Region

variable {R : Region}

/-- A handle lies in a region with the caches of its layers and the statement that it reaches. -/
theorem holds_iff {handle : Statement} : R.Holds handle
    ↔ (∀ layer ∈ handle.layers, R.caches layer.cache)
      ∧ ∀ id, handle.target? = some id → R.statements id := by
  induction handle with
  | physical id =>
      refine ⟨fun h => ⟨fun _ hm => absurd hm List.not_mem_nil, fun other hid => ?_⟩,
        fun h => h.2 id rfl⟩
      obtain rfl := Option.some.inj hid
      exact h
  | spent =>
      exact ⟨fun _ => ⟨fun _ hm => absurd hm List.not_mem_nil, fun _ hid => by cases hid⟩,
        fun _ => trivial⟩
  | facade key k inner ih =>
      rw [Holds, ih, Statement.layers, List.forall_mem_cons]
      exact and_assoc.symm

/-- **The chain of a connection**, with whatever is reached through it. -/
def chainOf (w : World) (c : ConnectionId) : Region where
  pools _ := True
  connections := (· = c)
  caches k := k ∈ (w.connection c).caches
  counters _ := True
  statements _ := True

theorem holds_chainOf {w : World} {c : ConnectionId} {handle : Statement} :
    (chainOf w c).Holds handle
      ↔ ∀ layer ∈ handle.layers, layer.cache ∈ (w.connection c).caches :=
  holds_iff.trans (and_iff_left fun _ _ => trivial)

end Region

namespace Scene

variable {S S' : Scene} {c : ConnectionId}

/-- All facades of what is parked on a connection belong to the chain of the connection. -/
theorem InOrder.layers_of_parked (hS : S.InOrder) {key : CacheKey} {tracked : Tracked}
    (hget : (S.world.store c).entries.get? key = some tracked) :
    ∀ layer ∈ tracked.facade.layers, layer.cache ∈ (S.world.connection c).caches := by
  have hshelved := hS.sourced.entries hget
  obtain ⟨id, hid⟩ := hshelved.target
  exact hS.sourced.layers hS.sound.wired
    (hshelved.rooted.obtained hS.sound.wired hshelved.cache hid) _ hshelved.rooted hid

/-- The chain of a connection reaches nothing but itself. -/
theorem InOrder.closed_chainOf (hS : S.InOrder) (hn : S.Numbered) (c : ConnectionId) :
    (Region.chainOf S.world c).Closed S.world where
  statements _ _ := trivial
  chain d k hd hk := by
    obtain rfl : d = c := hd
    exact ⟨hk, hS.sound.wired.chain_known hk⟩
  home _ _ _ _ := trivial
  apart _ _ _ hc hd _ _ := hc.trans hd.symm
  bound k binding hk hb :=
    { connection := hS.sound.wired.binding_connection hk hb
      known := by
        rw [hS.sound.wired.binding_connection hk hb]
        exact World.known_of_mem_caches hk
      counter := fun n hbn => ⟨trivial, hn.caches hb hbn⟩ }
  tied d k binding _ hk hb := hS.sound.wired.binding_connection hk hb
  counted _ n _ hpn := ⟨trivial, hn.pools hpn⟩
  parked d key tracked hd _ hget := by
    obtain rfl : d = c := hd
    exact Region.holds_chainOf.mpr (hS.layers_of_parked hget)
  kept _ _ hk := hk.elim
  policy _ _ _ hk := hk.elim

theorem Turns.allotted (h : Turns S S') (hS : S.Sound) (ha : S.Allotted) : S'.Allotted := by
  induction h with
  | refl => exact ha
  | tail hturns hturn ih =>
      have hsound := Turns.sound hturns hS
      exact hturn.allotted hsound.wired hsound.own ih

theorem allotted_nothing : nothing.Allotted := by
  have hregular : nothing.Regular fun _ => True := regular_nothing
  exact ⟨hregular.numbered, fun hn _ =>
    absurd (hregular.numbered.known hn) (Registry.not_known_empty _)⟩

end Scene

/-- **A handle is traced** to where it came from: if that is a connection, the connection is there,
and all facades of the handle are of its chain; otherwise the handle has no facades. -/
structure Held.Traced (held : Held) (w : World) : Prop where
  known : ∀ c, held.origin = .call c → w.connections.Known c
  layers : ∀ layer ∈ held.statement.layers,
    ∃ c, held.origin = .call c ∧ layer.cache ∈ (w.connection c).caches

theorem Held.Traced.grows {held : Held} {w w' : World} (h : held.Traced w) (hg : w.Grows w') :
    held.Traced w' where
  known c ho := (h.known c ho).mono hg.connections
  layers layer hm := by
    obtain ⟨c, ho, hk⟩ := h.layers layer hm
    refine ⟨c, ho, ?_⟩
    rw [Connection.caches_of_frame (hg.frame c (h.known c ho))]
    exact hk

namespace Session

open Scene (Turns)

variable {s t : Session} {S : Scene} {name : Name} {held : Held}

/-! ## Where the handles come from that a client has after a command -/

/-- **How a handle comes to be in the hands of a client.** -/
inductive Arises (s : Session) (held : Held) : Prop
  /-- The client has had it. -/
  | kept {name : Name} (h : s.statements.get? name = some held)
  /-- It is what closing has left. -/
  | ended {name : Name} {held₀ : Held} (h : s.statements.get? name = some held₀)
      (ho : held.origin = held₀.origin) (hl : held.statement.layers = [])
  /-- It did not come from a connection. -/
  | made (ho : ∀ c, held.origin ≠ .call c) (hl : held.statement.layers = [])
  /-- It is the answer to a call on a connection. -/
  | answered {c : ConnectionId} (hc : s.world.connections.Known c) (ho : held.origin = .call c)
      (hl : ∀ layer ∈ held.statement.layers, layer.cache ∈ (s.world.connection c).caches)

/-- What is shown of the session that a command ends in. -/
abbrev ArisesAfter (s : Session) : Outcome → Prop := fun outcome =>
  ∀ name held, outcome.1.statements.get? name = some held → s.Arises held

theorem arisesAfter_same (reply : Reply) : ArisesAfter s (s, reply) := fun _ _ hn => .kept hn

/-- What a call brings is remembered to come from its connection. -/
theorem CallEffect.origin {c : ConnectionId} {call : Call} {save : Option Name} {s' : Session}
    (h : CallEffect s c call save s') (hn : s'.statements.get? name = some held) :
    s.statements.get? name = some held ∨ held.origin = .call c := by
  cases h with
  | passed _ _ => exact Or.inl hn
  | @kept w handle _ kept _ =>
      cases kept with
      | none => exact Or.inl hn
      | some other =>
          rcases Table.get?_insert_eq_some _ hn with rfl | hn
          · exact Or.inr rfl
          · exact Or.inl hn

theorem arises_runCall {c : ConnectionId} (hc : s.world.connections.Known c)
    (hclosed : (Region.chainOf s.world c).Closed s.world) (call : Call) (into : Into)
    (save : Option Name) : ArisesAfter s (s.runCall c call into save) := by
  intro name held hn
  have hconfined : (Region.chainOf s.world c).ConfinedAfter True s (s.runCall c call into save) :=
    Region.confined_runCall s (fun _ => rfl) call into save
  obtain ⟨-, -, hgains⟩ := hconfined.effect
    ⟨trivial, Region.securesAll_of_none (fun _ _ hk => hk) _⟩ hclosed
    (Region.quiet_of_none (fun _ _ hk => hk) _ _)
  rcases hgains.statement name held hn with hn' | hheld
  · exact .kept hn'
  · rcases (s.callEffect c call into save).origin hn with hn' | ho
    · exact .kept hn'
    · exact .answered hc ho (Region.holds_chainOf.mp hheld)

theorem arises_runConnection
    (hconnection : ∀ via {c}, s.connection? via = some c → s.world.connections.Known c)
    (hclosed : ∀ c, (Region.chainOf s.world c).Closed s.world) (command : ConnectionCommand) :
    ArisesAfter s (s.runConnection command) := by
  have hsame := arisesAfter_same (s := s)
  have hguard : ∀ {guard c}, s.guards.get? guard = some c → s.world.connections.Known c :=
    fun {guard _} hg => hconnection (.guard guard) hg
  cases command with
  | prepare guard call save =>
      exact withFreshStatement_rule (P := ArisesAfter s) hsame fun _ =>
        withGuard_rule hsame fun c hg => arises_runCall (hguard hg) (hclosed c) call _ save
  | isValid guard =>
      exact withGuard_rule (P := ArisesAfter s) hsame fun c hg =>
        arises_runCall (hguard hg) (hclosed c) _ _ none
  | invoke via request into save =>
      refine withFreshStatement_rule (P := ArisesAfter s) hsame fun _ =>
        withCall_rule hsame fun call _ => withTarget_rule hsame fun c hc => ?_
      exact arises_runCall (hconnection via hc) (hclosed c) call into save
  | share guard save =>
      exact withFresh_rule (P := ArisesAfter s) hsame fun _ =>
        withGuard_rule hsame fun _ _ => hsame .done
  | unshare shared =>
      exact withShared_rule (P := ArisesAfter s) hsame fun _ _ => hsame .done
  | checkIn guard | retire guard | inspectGuard guard =>
      exact withGuard_rule (P := ArisesAfter s) hsame fun _ _ => hsame .done
  | inspectConnection via =>
      exact withConnection_rule (P := ArisesAfter s) hsame fun _ _ => hsame .done
  | inspectStore via =>
      refine withConnection_rule (P := ArisesAfter s) hsame fun _ _ => ?_
      split <;> exact hsame .done

theorem StatementEffect.arises {command : StatementCommand} {s' : Session}
    (h : StatementEffect s command s') (hn : s'.statements.get? name = some held) :
    s.Arises held := by
  cases h with
  | same | bound _ | cleared _ | executed _ | emptied _ => exact .kept hn
  | @closed _ before hb =>
      rcases Table.get?_insert_eq_some _ hn with rfl | hn
      · exact .ended hb rfl before.statement.layers_afterClose
      · exact .kept hn
  | dropped _ => exact .kept (Table.get?_of_erase _ hn)
  | forceClosed hb _ =>
      rcases Table.get?_insert_eq_some _ hn with rfl | hn
      · exact .ended hb rfl rfl
      · exact .kept hn

theorem arises_runDriver (command : DriverCommand) : ArisesAfter s (s.runDriver command) := by
  have hsame := arisesAfter_same (s := s)
  -- a statement of the driver is kept as it is
  have hkept : ∀ (w : World) (save : Option Name) (id : StatementId) (origin : Origin),
      (∀ c, origin ≠ .call c) →
      ArisesAfter s ((s.inWorld w).keepStatement save (.physical id) origin, .done) := by
    intro w save id origin ho name held hn
    cases save with
    | none => exact .kept hn
    | some other =>
        rcases Table.get?_insert_eq_some _ hn with rfl | hn
        · exact .made ho rfl
        · exact .kept hn
  have hdriver : ∀ (save : Option Name) (made : World × Except DriverError StatementId),
      ArisesAfter s (s.keepDriverStatement save made) := by
    intro save made
    unfold keepDriverStatement
    split
    · exact hsame .done
    · exact hkept _ save _ .driver fun _ ho => by cases ho
  cases command with
  | looseStatement sql save =>
      exact withFreshStatement_rule (P := ArisesAfter s) hsame fun _ =>
        hkept _ save _ .loose fun _ ho => by cases ho
  | openConnection save =>
      exact withFresh_rule (P := ArisesAfter s) hsame fun _ => hsame .done
  | prepareStatement raw args save | prepareCall raw args save | createStatement raw save =>
      exact withFreshStatement_rule (P := ArisesAfter s) hsame fun _ =>
        withRaw_rule hsame fun _ _ => hdriver save _
  | isValid raw | close raw =>
      exact withRaw_rule (P := ArisesAfter s) hsame fun _ _ => hsame .done
  | inspectLog statement => exact hsame .done

theorem arises_runPool (command : PoolCommand) : ArisesAfter s (s.runPool command) := by
  have hsame := arisesAfter_same (s := s)
  cases command with
  | start save request =>
      refine withFresh_rule (P := ArisesAfter s) hsame fun _ => ?_
      split
      · exact hsame .done
      · split <;> exact hsame .done
  | checkOut pool save =>
      refine withFresh_rule (P := ArisesAfter s) hsame fun _ => withPool_rule hsame fun _ _ => ?_
      split <;> exact hsame .done
  | shutDown pool | sweep pool | inspect pool =>
      exact withPool_rule (P := ArisesAfter s) hsame fun _ _ => hsame .done

/-! ## What is in place -/

/-- **Everything is in place** with a client without caches of its own: it is in order, every
counter is one pool's, and every handle is traced to where it came from. -/
structure InPlace (s : Session) (S : Scene) : Prop extends s.InOrder S where
  allotted : S.Allotted
  traced : ∀ name held, s.statements.get? name = some held → held.Traced s.world

theorem inPlace_empty : empty.InPlace Scene.nothing where
  toInOrder := inOrder_empty
  allotted := Scene.allotted_nothing
  traced _ _ hn := by cases hn

theorem InPlace.closed_chainOf (h : s.InPlace S) (c : ConnectionId) :
    (Region.chainOf s.world c).Closed s.world := by
  have hclosed := h.scene.closed_chainOf h.allotted.numbered c
  rwa [h.depicts.world] at hclosed

/-- **Where the handles come from** that a client has after a command. -/
theorem InPlace.arises_run (h : s.InPlace S) {command : Command} (hc : ∀ c, command ≠ .cache c) :
    ArisesAfter s (s.run command) := by
  cases command with
  | advance span => exact arisesAfter_same (s := s) .done
  | switch fault => exact arisesAfter_same (s := s) .done
  | pool command => exact arises_runPool command
  | connection command =>
      exact arises_runConnection (fun _ {_} hc => h.depicts.known_connection hc)
        h.closed_chainOf command
  | statement command => exact fun _ _ => (s.statementEffect command).arises
  | driver command => exact arises_runDriver command
  | cache command => exact absurd rfl (hc command)
  | tracked command =>
      intro name held hn
      rw [run_tracked h.tracked] at hn
      exact .kept hn

theorem Arises.traced (h : s.Arises held)
    (hs : ∀ name held, s.statements.get? name = some held → held.Traced s.world) :
    held.Traced s.world := by
  have hnone : ∀ {P : Tracked → Prop}, held.statement.layers = [] →
      ∀ layer ∈ held.statement.layers, P layer := by
    intro P hl layer hm
    rw [hl] at hm
    exact absurd hm List.not_mem_nil
  cases h with
  | kept hn => exact hs _ held hn
  | ended hn ho hl =>
      refine ⟨fun c hc => (hs _ _ hn).known c (ho.symm.trans hc), hnone hl⟩
  | made ho hl => exact ⟨fun c hc => absurd hc (ho c), hnone hl⟩
  | answered hk ho hl =>
      refine ⟨fun d hd => ?_, fun layer hm => ⟨_, ho, hl layer hm⟩⟩
      obtain rfl := Origin.call.inj (ho.symm.trans hd)
      exact hk

/-- **A command leaves everything in place.** -/
theorem InPlace.run (h : s.InPlace S) {command : Command} (hc : ∀ c, command ≠ .cache c) :
    ∃ S', (s.run command).1.InPlace S' := by
  obtain ⟨S', hturns, h'⟩ := h.toInOrder.run hc
  have hgrows := (Region.confined_run (R := Region.everything) s command).grows
  exact ⟨S', h', hturns.allotted h.sound h.allotted, fun name held hn =>
    ((h.arises_run hc name held hn).traced h.traced).grows hgrows⟩

theorem InPlace.reorder (h : s.InPlace S) (c : ConnectionId)
    {entries : Table fun _ : CacheKey => Tracked}
    (he : entries.bag = (s.world.store c).entries.bag) :
    ∃ S', (s.inWorld (s.world.setStore c { s.world.store c with entries })).InPlace S' := by
  obtain ⟨S', hturns, h'⟩ := h.toInOrder.reorder c he
  exact ⟨S', h', hturns.allotted h.sound h.allotted, fun name held hn =>
    (h.traced name held hn).grows (Region.grows_setStore s.world c _)⟩

/-- **Everything stays in place**, whatever a client does and however stores are visited. -/
theorem Reaches.inPlace (hr : Reaches s t) (h : s.InPlace S) : ∃ T, t.InPlace T := by
  induction hr with
  | refl => exact ⟨S, h⟩
  | run _ hc ih =>
      obtain ⟨T, hT⟩ := ih
      exact hT.run hc
  | reorder _ _ he ih =>
      obtain ⟨T, hT⟩ := ih
      exact hT.reorder _ he

end Session

end ConnectionPool
