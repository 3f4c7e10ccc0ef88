import ConnectionPool.Proofs.Session.Origins

/-!
# Pools and connections are isolated

What belongs to some pools and connections can be cut out of a world: what is left over is a closed
region (`Region.besides`). A command that mentions nothing of what was cut out is confined to the
rest, and therefore leaves all of it as it is (`InPlace.undisturbed`): the records, the stores, the
counters, what the caches are attached to, and the statements, whether parked or held.

`Session.isolation` says this of whole pools, for every command that does not concern them, and of
connections, for whatever is done with a handle that came from another one. What is done with a
handle stays on its connection, except that one counter may go up by one (`World.WritesAt`).
-/

set_option autoImplicit false

namespace ConnectionPool

/-- The connection that a handle came from. -/
def Origin.connection? : Origin → Option ConnectionId
  | .call c => some c
  | _ => none

namespace Session

variable {s t : Session} {S : Scene} {name : Name} {held : Held} {c d : ConnectionId}
  {id : StatementId} {Q : PoolId → Prop} {D : ConnectionId → Prop}

/-! ## The statements of a connection -/

/-- **A statement is on a connection**: a handle that came from there reaches it, or it is parked
there. -/
def StatementOn (s : Session) (c : ConnectionId) (id : StatementId) : Prop :=
  (∃ name held, s.statements.get? name = some held ∧ held.origin = .call c
    ∧ held.statement.target? = some id) ∨ ∃ key, s.world.Parks c key id

theorem InPlace.wired (h : s.InPlace S) : s.world.Wired S.lines [] := by
  have hwired := h.sound.wired
  unfold Scene.Wired at hwired
  rwa [h.depicts.world, h.sound.own] at hwired

theorem InPlace.counts_apart (h : s.InPlace S) {n : CounterId} {p q : PoolId}
    (hp : s.world.CountsFor n p) (hq : s.world.CountsFor n q) : p = q := by
  rw [← h.depicts.world] at hp hq
  exact h.allotted.apart hp hq

theorem InPlace.known_counter (h : s.InPlace S) {n : CounterId} {p : PoolId}
    (hp : s.world.CountsFor n p) : s.world.counters.Known n := by
  rw [← h.depicts.world] at hp ⊢
  exact h.allotted.numbered.known hp

theorem InPlace.wrapped_of_parks (h : s.InPlace S) {key : CacheKey}
    (hp : s.world.Parks c key id) : s.world.Wrapped id := by
  obtain ⟨tracked, hget, hid⟩ := hp
  rw [← h.depicts.world] at hget ⊢
  obtain ⟨⟨d, position, call, hsource⟩, -⟩ := (h.scene.sourced.entries hget).rooted
  exact ⟨d, position, _, call, _, hsource.link, hsource.prepares, hsource.answered, hid⟩

/-- A statement that a client holds is on the connection that the handle came from, or on none. -/
theorem InPlace.origin_of_statementOn (h : s.InPlace S)
    (hn : s.statements.get? name = some held) (hid : held.statement.target? = some id)
    (ho : s.StatementOn c id) : held.origin = .call c := by
  rcases ho with ⟨name', held', hn', ho, hid'⟩ | ⟨key, hp⟩
  · obtain rfl := h.holds_unique ⟨held, hn, hid⟩ ⟨held', hn', hid'⟩
    obtain rfl := Option.some.inj (hn.symm.trans hn')
    exact ho
  · exact absurd ⟨held, hn, hid⟩ (h.not_holds_of_parks (h.wrapped_of_parks hp) hp name)

/-- A parked statement is on the connection where it is parked. -/
theorem InPlace.statementOn_of_parks (h : s.InPlace S) {key : CacheKey}
    (hp : s.world.Parks c key id) (ho : s.StatementOn d id) : d = c := by
  rcases ho with ⟨name, held, hn, -, hid⟩ | ⟨key', tracked', hget', hid'⟩
  · exact absurd ⟨held, hn, hid⟩ (h.not_holds_of_parks (h.wrapped_of_parks hp) hp name)
  · obtain ⟨tracked, hget, hid⟩ := hp
    rw [← h.depicts.world] at hget hget'
    have hshelved := h.scene.sourced.entries hget
    have hshelved' := h.scene.sourced.entries hget'
    exact h.scene.sourced.obtained
      (hshelved'.rooted.obtained h.sound.wired hshelved'.cache hid')
      (hshelved.rooted.obtained h.sound.wired hshelved.cache hid)

theorem InPlace.known_of_statementOn (h : s.InPlace S) (ho : s.StatementOn c id) :
    s.world.driver.statements.Known id := by
  rcases ho with ⟨name, held, hn, -, hid⟩ | ⟨key, hp⟩
  · exact (h.depicts.grasped h.sound.traced).statements hn id hid
  · have hwrapped := h.wrapped_of_parks hp
    rw [← h.depicts.world] at hwrapped ⊢
    exact h.sound.traced.known_of_wrapped hwrapped

/-! ## Cutting out pools and connections -/

/-- Some pools, and some connections, all of the connections of the pools among them. -/
structure Part (s : Session) (Q : PoolId → Prop) (D : ConnectionId → Prop) : Prop where
  pools : ∀ q, Q q → s.world.pools.Known q
  connections : ∀ c, D c → s.world.connections.Known c
  whole : ∀ c, s.world.connections.Known c → Q (s.world.connection c).pool → D c

end Session

/-- **What does not belong to some pools and connections.** -/
def Region.besides (s : Session) (Q : PoolId → Prop) (D : ConnectionId → Prop) : Region where
  pools q := ¬ Q q
  connections c := ¬ D c
  caches k := ∀ c, D c → k ∉ (s.world.connection c).caches
  counters n := ∀ q, Q q → ¬ s.world.CountsFor n q
  statements id := ∀ c, D c → ¬ s.StatementOn c id

namespace Session

variable {s t : Session} {S : Scene} {name : Name} {held : Held} {c d : ConnectionId}
  {id : StatementId} {Q : PoolId → Prop} {D : ConnectionId → Prop}

/-- A cache of a connection that was not cut out is in none of the chains that were. -/
theorem InPlace.besides_cache (h : s.InPlace S) (hc : ¬ D c) {k : CacheId}
    (hk : k ∈ (s.world.connection c).caches) : (Region.besides s Q D).caches k := by
  intro d hd hkd
  obtain rfl := h.wired.apart hk hkd
  exact hc hd

/-- **What is left over is closed.** -/
theorem InPlace.closed_besides (h : s.InPlace S) (hpart : s.Part Q D) :
    (Region.besides s Q D).Closed s.world where
  statements id hid c _ ho := hid (h.known_of_statementOn ho)
  chain c k hc hk := ⟨h.besides_cache hc hk, h.wired.chain_known hk⟩
  home c k hc hk hq := hc (hpart.whole c (World.known_of_mem_caches hk) hq)
  apart c d k _ _ hkc hkd := h.wired.apart hkc hkd
  bound k binding hk hb := by
    -- the cache is a link of the chain of the connection that it is attached to
    have hkc : k ∈ (s.world.connection binding.connection).caches :=
      (h.wired.bound hb).2.resolve_left List.not_mem_nil
    have hknown := World.known_of_mem_caches hkc
    have hleft : ¬ D binding.connection := fun hd => hk _ hd hkc
    refine ⟨hleft, hknown, fun n hn => ?_⟩
    have hcounts : s.world.CountsFor n (s.world.connection binding.connection).pool :=
      Or.inr ⟨_, k, binding, rfl, hkc, hb, hn⟩
    refine ⟨fun q hq hcounts' => hleft (hpart.whole _ hknown ?_), h.known_counter hcounts⟩
    rw [h.counts_apart hcounts hcounts']
    exact hq
  tied c k binding _ hk hb := h.wired.binding_connection hk hb
  counted p n hp hn := by
    have hcounts : s.world.CountsFor n p := Or.inl hn
    refine ⟨fun q hq hcounts' => hp ?_, h.known_counter hcounts⟩
    rw [h.counts_apart hcounts hcounts']
    exact hq
  parked c key tracked hc _ hget := by
    refine Region.holds_iff.mpr ⟨fun layer hm => ?_, fun id hid d hd ho => ?_⟩
    · have hlayers := hget
      rw [← h.depicts.world] at hlayers
      have hk := h.scene.layers_of_parked hlayers layer hm
      rw [h.depicts.world] at hk
      exact h.besides_cache hc hk
    · obtain rfl := h.statementOn_of_parks ⟨tracked, hget, hid⟩ ho
      exact hc hd
  kept _ _ hk := hk.elim
  policy _ _ _ hk := hk.elim

theorem InPlace.roomy_besides (h : s.InPlace S) (hpart : s.Part Q D) :
    (Region.besides s Q D).Roomy s.world where
  pools q hq h' := hq (hpart.pools q h')
  connections c hc h' := hc (hpart.connections c h')
  caches _ hk _ _ hm := hk (h.wired.chain_known hm)
  counters _ hn _ _ hcounts := hn (h.known_counter hcounts)

/-- **A mention avoids some pools and connections.** -/
def Avoids (s : Session) (Q : PoolId → Prop) (D : ConnectionId → Prop) : Mention → Prop
  | .pool name => ∀ p, s.pools.get? name = some p → ¬ Q p ∧ ∀ c ∈ (s.world.pool p).idle, ¬ D c
  | .connection via => ∀ c, s.connection? via = some c →
      ¬ D c ∧ ¬ Q (s.world.connection c).pool
  | .statement name => ∀ held c, s.statements.get? name = some held → held.origin = .call c →
      ¬ D c
  | _ => True

/-- What avoids the things that were cut out lies in the rest. -/
theorem InPlace.finds_besides (h : s.InPlace S) {mention : Mention}
    (ha : s.Avoids Q D mention) : (Region.besides s Q D).Finds s mention := by
  cases mention with
  | pool name =>
      intro p hp
      obtain ⟨hq, hidle⟩ := ha p hp
      refine ⟨hq, fun c hc => ⟨hidle c hc, ?_⟩, h.accounted.balanced.idle_nodup p⟩
      obtain ⟨hknown, hpool, -⟩ := h.wired.idle p c hc
      refine ⟨hknown, ?_⟩
      rw [hpool]
      exact hq
  | connection via =>
      intro c hc d hd
      obtain rfl := List.mem_singleton.mp hd
      obtain ⟨hleft, hpool⟩ := ha d hc
      exact ⟨hleft, h.depicts.known_connection hc, hpool⟩
  | statement name =>
      intro held hn
      refine Region.holds_iff.mpr ⟨fun layer hm => ?_, fun id hid c hc ho => ?_⟩
      · obtain ⟨c, ho, hk⟩ := (h.traced name held hn).layers layer hm
        exact h.besides_cache (ha held c hn ho) hk
      · exact ha held c hn (h.origin_of_statementOn hn hid ho) hc
  | cache name =>
      intro k hk
      have hown := h.depicts.caches name k hk
      rw [h.sound.own] at hown
      exact absurd hown List.not_mem_nil
  | tracked name =>
      intro tracked hn
      rw [h.toKeeps.tracked] at hn
      cases hn

/-- **Some pools and connections are left undisturbed**: with all that is recorded of them, with
their stores and counters, with what their caches are attached to, with their statements and with
the handles that came from there. -/
structure Undisturbed (s s' : Session) (Q : PoolId → Prop) (D : ConnectionId → Prop) : Prop where
  pool : ∀ q, Q q → s'.world.pool q = s.world.pool q
  counter : ∀ q n, Q q → s.world.CountsFor n q → s'.world.counter n = s.world.counter n
  connection : ∀ c, D c → s'.world.connection c = s.world.connection c
  line : ∀ c, D c → (s'.world.driver.connection (s.world.connection c).physical).closed
    = (s.world.driver.connection (s.world.connection c).physical).closed
  attachment : ∀ c, D c → ∀ k ∈ (s.world.connection c).caches,
    s'.world.cache k = s.world.cache k
  handle : ∀ c, D c → ∀ name held, s.statements.get? name = some held →
    held.origin = .call c → s'.statements.get? name = some held
  statements : s.world.driver.Touches (fun id => ∀ c, D c → ¬ s.StatementOn c id)
    s'.world.driver

/-- A command that ends a handle mentions it. -/
theorem mentions_of_ends {command : Command} (he : command.ends? = some name) :
    .statement name ∈ command.mentions := by
  cases command with
  | statement command => cases command <;> cases he <;> exact List.mem_cons_self
  | _ => cases he

/-- **A command leaves undisturbed what it mentions nothing of.** -/
theorem InPlace.undisturbed (h : s.InPlace S) (hpart : s.Part Q D) {command : Command}
    (hc : ∀ c, command ≠ .cache c) (ha : ∀ mention ∈ command.mentions, s.Avoids Q D mention) :
    s.Undisturbed (s.run command).1 Q D := by
  have hnone : ∀ c key, ¬ (Region.besides s Q D).kept c key := fun _ _ hk => hk
  obtain ⟨-, hspares, -⟩ := (Region.confined_run (R := Region.besides s Q D) s command).effect
    ⟨{ roomy := h.roomy_besides hpart
       finds := fun mention hm => h.finds_besides (ha mention hm)
       leaves := Region.leaves_of_none hnone s command }, Region.securesAll_of_none hnone _⟩
    (h.closed_besides hpart) (Region.quiet_of_none hnone _ _)
  obtain ⟨S', h'⟩ := h.run hc
  -- a connection is closed just when its line is
  have hline : ∀ {t : Session} {T : Scene}, t.InPlace T → ∀ {d}, t.world.connections.Known d →
      (t.world.driver.connection (t.world.connection d).physical).closed
        = (t.world.connection d).closed := by
    intro t T hT d hd
    have hlines := hT.scene.stocked.lines d
    rw [hT.depicts.world] at hlines
    exact hlines hd
  have hsame : ∀ d, D d → (s.run command).1.world.connection d = s.world.connection d :=
    fun d hd => hspares.connection d fun hleft => hleft hd
  exact
    { pool := fun q hq => hspares.pool q fun hleft => hleft hq
      counter := fun q n hq hn => hspares.counter n fun hleft => hleft q hq hn
      connection := hsame
      line := fun d hd => by
        have hknown := hpart.connections d hd
        have hgrows := (Region.confined_run (R := Region.everything) s command).grows
        have hafter := hline h' (hknown.mono hgrows.connections)
        rw [hsame d hd] at hafter
        exact hafter.trans (hline h hknown).symm
      attachment := fun d hd k hk => hspares.cache k fun hleft => hleft d hd hk
      handle := fun d hd name held hn ho =>
        (handled_run hc h.toKeeps.tracked).statements.get?_of_not_ended hn fun he =>
          ha _ (mentions_of_ends he) held d hn ho hd
      statements := hspares.driver }

end Session

/-! ## What is done with a handle of a connection -/

namespace World

variable {w w' : World} {c : ConnectionId} {handle : Statement}

/-- **Beside the driver's statements, one connection is written to**, and of that only what
interceptors keep there; and one counter at most, which a cache of the connection counts with, goes
up by one. -/
structure WritesAt (c : ConnectionId) (w w' : World) : Prop where
  only : w' = { w with
    driver := w'.driver, counters := w'.counters, connections := w'.connections }
  others : ∀ d, d ≠ c → w'.connection d = w.connection d
  record : { w'.connection c with attributes := (w.connection c).attributes } = w.connection c
  lines : w'.driver.connections = w.driver.connections
  counter : w'.counters = w.counters
    ∨ ∃ k n, k ∈ (w.connection c).caches ∧ (w.cache k).binding = some ⟨c, some n⟩
      ∧ (w'.counter n).count = (w.counter n).count + 1
      ∧ ∀ m, m ≠ n → w'.counter m = w.counter m

theorem writesAt_driver {driver : Driver} (hd : w.driver.WindsDown driver) :
    w.WritesAt c { w with driver } where
  only := rfl
  others _ _ := rfl
  record := rfl
  lines := hd.connections
  counter := Or.inl rfl

theorem writesAt_refl (w : World) (c : ConnectionId) : w.WritesAt c w :=
  writesAt_driver (.refl w.driver)

theorem writesAt_onTarget {α : Type}
    {action : StatementId → Driver → Driver × Except DriverError α} (usage : Usage)
    (hu : ∀ id driver, (action id driver).1 = driver.use usage id) :
    w.WritesAt c (w.onTarget handle action).1 := by
  unfold onTarget
  split
  · exact writesAt_refl w c
  · next id _ =>
      refine writesAt_driver ?_
      rw [hu]
      exact w.driver.windsDown_use usage id

theorem writesAt_closeResultSet (w : World) (c : ConnectionId) (handle : Statement) :
    w.WritesAt c (w.closeResultSet handle).1 := by
  unfold closeResultSet
  split
  · exact writesAt_driver (w.driver.windsDown_use .closeResultSet _)
  · exact writesAt_refl w c

/-- **A handle of a connection is closed.** If one of its layers is parked, then by a cache of the
chain, which is attached to the connection. -/
theorem writesAt_close (hl : ∀ layer ∈ handle.layers, layer.cache ∈ (w.connection c).caches)
    (hb : ∀ k ∈ (w.connection c).caches, ∀ d n, (w.cache k).binding = some ⟨d, some n⟩ →
      d = c ∧ w.counters.Known n) : w.WritesAt c (close handle w).1 := by
  rcases close_cases handle w with ⟨⟨driver, he, hwinds⟩, -⟩ | ⟨layer, hm, hparks⟩
  · rw [he]
    exact writesAt_driver hwinds
  · obtain ⟨driver, key, d, n, -, hbinding, -, -, -, hwinds, he⟩ := hparks.parked
    obtain ⟨rfl, hn⟩ := hb _ (hl layer hm) d n hbinding
    -- apart from what interceptors keep on it, the connection stays as it is
    have hrecord : { (w.setStore d ((w.store d).park key layer)).connection d with
        attributes := (w.connection d).attributes } = w.connection d :=
      w.connection_updateConnection_congr d (fun connection => { connection with
          attributes := connection.attributes.insert .store ((w.store d).park key layer) })
        (fun connection => { connection with attributes := (w.connection d).attributes })
        (fun _ => rfl) d
    have hcount : ((w.updateCounter n fun _ => ⟨(w.counter n).count + 1⟩).counter n).count
        = (w.counter n).count + 1 := by
      rw [counter_updateCounter, if_pos ⟨rfl, hn⟩]
    rw [he]
    exact
      { only := rfl
        others := fun e hne => w.connections.get_modify_of_ne _ hne.symm
        record := hrecord
        lines := hwinds.connections
        counter := Or.inr ⟨layer.cache, n, hl layer hm, hbinding, hcount,
          fun m hne => w.counters.get_modify_of_ne _ hne.symm⟩ }

theorem writesAt_dropHandle
    (hl : ∀ layer ∈ handle.layers, layer.cache ∈ (w.connection c).caches)
    (hb : ∀ k ∈ (w.connection c).caches, ∀ d n, (w.cache k).binding = some ⟨d, some n⟩ →
      d = c ∧ w.counters.Known n) : w.WritesAt c (w.dropHandle handle) := by
  cases handle with
  | physical id => exact writesAt_refl w c
  | spent => exact writesAt_refl w c
  | facade key k inner => exact writesAt_close hl hb

end World

namespace Session

variable {s : Session} {S : Scene} {name : Name} {held : Held} {c : ConnectionId}

/-- **What is done with a handle that came from a connection stays there.** -/
theorem InPlace.writesAt (h : s.InPlace S) {command : StatementCommand}
    (hm : .statement name ∈ command.mentions) (hn : s.statements.get? name = some held)
    (ho : held.origin = .call c) : s.world.WritesAt c (s.run (.statement command)).1.world := by
  have hlayers : ∀ layer ∈ held.statement.layers,
      layer.cache ∈ (s.world.connection c).caches := by
    intro layer hlayer
    obtain ⟨d, ho', hk⟩ := (h.traced name held hn).layers layer hlayer
    obtain rfl := Origin.call.inj (ho.symm.trans ho')
    exact hk
  have hbound : ∀ k ∈ (s.world.connection c).caches, ∀ d n,
      (s.world.cache k).binding = some ⟨d, some n⟩ → d = c ∧ s.world.counters.Known n := by
    intro k hk d n hb
    exact ⟨h.wired.binding_connection hk hb,
      h.known_counter (Or.inr ⟨c, k, _, rfl, hk, hb, rfl⟩)⟩
  -- the one statement that the command mentions is this one
  have hfound : ∀ {name' held'}, command.mentions = [.statement name'] →
      s.statements.get? name' = some held' → held' = held := by
    intro name' held' hmentions hn'
    rw [hmentions] at hm
    cases List.mem_singleton.mp hm
    exact Option.some.inj (hn'.symm.trans hn)
  show s.world.WritesAt c (s.runStatement command).1.world
  have heffect := s.statementEffect command
  generalize (s.runStatement command).1 = s' at heffect ⊢
  cases heffect with
  | same => exact World.writesAt_refl s.world c
  | bound hn' => exact World.writesAt_onTarget (.bind _ _) fun _ _ => rfl
  | cleared hn' => exact World.writesAt_onTarget .clearParameters fun _ _ => rfl
  | executed hn' => exact World.writesAt_onTarget .execute fun _ _ => rfl
  | emptied hn' => exact s.world.writesAt_closeResultSet c _
  | closed hn' =>
      obtain rfl := hfound rfl hn'
      exact World.writesAt_close hlayers hbound
  | dropped hn' =>
      obtain rfl := hfound rfl hn'
      exact World.writesAt_dropHandle hlayers hbound
  | forceClosed hn' hfacade =>
      obtain rfl := hfound rfl hn'
      exact nomatch hfacade.symm.trans ho

/-! ## The theorem -/

/-- The pool of what is mentioned. -/
def poolOf? (s : Session) : Mention → Option PoolId
  | .pool name => s.pools.get? name
  | .connection via => (s.connection? via).map fun c => (s.world.connection c).pool
  | .statement name => (s.statements.get? name).bind fun held =>
      held.origin.connection?.map fun c => (s.world.connection c).pool
  | _ => none

/-- **A command concerns a pool**: it mentions the pool, a connection of the pool, or a handle that
came from such a connection. -/
def Concerns (s : Session) (command : Command) (p : PoolId) : Prop :=
  ∃ mention ∈ command.mentions, s.poolOf? mention = some p

/-- A command that is not about caches of the client's own mentions one thing at most. -/
theorem mentions_subsingleton {command : Command} (hc : ∀ c, command ≠ .cache c) :
    ∀ mention ∈ command.mentions, ∀ mention' ∈ command.mentions, mention = mention' := by
  have hone : ∀ {only mention mention' : Mention}, mention ∈ [only] → mention' ∈ [only] →
      mention = mention' := fun hm hm' =>
    (List.mem_singleton.mp hm).trans (List.mem_singleton.mp hm').symm
  intro mention hm mention' hm'
  cases command with
  | cache command => exact absurd rfl (hc command)
  | advance span => exact absurd hm List.not_mem_nil
  | switch fault => exact absurd hm List.not_mem_nil
  | driver command => exact absurd hm List.not_mem_nil
  | pool command =>
      cases command with
      | start save request => exact absurd hm List.not_mem_nil
      | _ => exact hone hm hm'
  | connection command => cases command <;> exact hone hm hm'
  | statement command => cases command <;> exact hone hm hm'
  | tracked command => cases command <;> exact hone hm hm'

/-- A command concerns one pool at most. -/
theorem concerns_unique {command : Command} (hc : ∀ c, command ≠ .cache c) {p q : PoolId}
    (hp : s.Concerns command p) (hq : s.Concerns command q) : p = q := by
  obtain ⟨mention, hm, hp⟩ := hp
  obtain ⟨mention', hm', hq⟩ := hq
  obtain rfl := mentions_subsingleton hc mention hm mention' hm'
  exact Option.some.inj (hp.symm.trans hq)

/-- What does not concern a pool avoids it and its connections. -/
theorem InPlace.avoids (h : s.InPlace S) {q : PoolId} {mention : Mention}
    (hm : s.poolOf? mention ≠ some q) :
    s.Avoids (· = q) (fun c => s.world.connections.Known c ∧ (s.world.connection c).pool = q)
      mention := by
  cases mention with
  | pool name =>
      intro p hp
      have hne : p ≠ q := fun he => hm (he ▸ hp)
      refine ⟨hne, fun c hc hcq => hne ?_⟩
      obtain ⟨-, hpool, -⟩ := h.wired.idle p c hc
      exact hpool.symm.trans hcq.2
  | connection via =>
      intro c hc
      have hne : (s.world.connection c).pool ≠ q := by
        rintro rfl
        exact hm (by rw [poolOf?, hc]; rfl)
      exact ⟨fun hcq => hne hcq.2, hne⟩
  | statement name =>
      intro held c hn ho hcq
      refine hm ?_
      rw [poolOf?, hn, Option.bind_some, ho]
      exact congrArg some hcq.2
  | cache name => trivial
  | tracked name => trivial

/-- **Pools and connections are isolated.** In whatever session a client without caches of its own
comes to, with any number of pools, with or without caches, and in whatever order stores are
visited: a command concerns one pool at most, and leaves every other one undisturbed, with its
connections and their statements; and what is done with a handle that came from a connection leaves
every other connection undisturbed, writes to nothing but the store of that connection and the
driver's statements, and at most one counter of the connection's caches goes up by one. -/
theorem isolation (hs : Reaches empty s) :
    (∀ command, (∀ c, command ≠ .cache c) →
      (∀ p q, s.Concerns command p → s.Concerns command q → p = q)
      ∧ ∀ q, s.world.pools.Known q → ¬ s.Concerns command q →
        s.Undisturbed (s.run command).1 (· = q)
          fun c => s.world.connections.Known c ∧ (s.world.connection c).pool = q)
    ∧ ∀ command name held c, .statement name ∈ StatementCommand.mentions command →
      s.statements.get? name = some held → held.origin = .call c →
      s.Undisturbed (s.run (.statement command)).1 (fun _ => False)
          (fun d => s.world.connections.Known d ∧ d ≠ c)
        ∧ s.world.WritesAt c (s.run (.statement command)).1.world := by
  obtain ⟨S, h⟩ := hs.inPlace inPlace_empty
  refine ⟨fun command hc => ⟨fun p q hp hq => concerns_unique hc hp hq, fun q hq hnot => ?_⟩,
    fun command name held c hm hn ho => ⟨?_, h.writesAt hm hn ho⟩⟩
  · refine h.undisturbed ⟨fun p hp => ?_, fun c hd => hd.1, fun c hk hp => ⟨hk, hp⟩⟩ hc
      fun mention hm => h.avoids fun hp => hnot ⟨mention, hm, hp⟩
    rw [hp]
    exact hq
  · have hcommand : ∀ k, Command.statement command ≠ .cache k := fun _ he => by cases he
    refine h.undisturbed ⟨fun _ hq => hq.elim, fun d hd => hd.1, fun _ _ hq => hq.elim⟩ hcommand
      fun mention hmention => ?_
    obtain rfl := mentions_subsingleton hcommand mention hmention _ hm
    intro held' d hn' ho' hd
    obtain rfl := Option.some.inj (hn.symm.trans hn')
    exact hd.2 (Origin.call.inj (ho'.symm.trans ho))

/-- Two pools with a cache each; a statement is parked in the second one. -/
def neighbours : List Command :=
  [.pool (.start "p" { interceptors := [{ name := "cache", role := .cache false }] }),
    .pool (.start "q" { interceptors := [{ name := "cache", role := .cache false }] }),
    .pool (.checkOut "p" "g"), .pool (.checkOut "q" "h"),
    .connection (.prepare "g" selection (some "a")),
    .connection (.prepare "h" selection (some "b")), .statement (.close "b")]

/-- A handle of the first pool is closed: the statement is counted there, and the other pool is left
undisturbed. -/
theorem isolation_neighbours :
    (empty.runAll neighbours).Undisturbed
        ((empty.runAll neighbours).run (.statement (.close "a"))).1 (· = 2)
        (fun c => (empty.runAll neighbours).world.connections.Known c
          ∧ ((empty.runAll neighbours).world.connection c).pool = 2)
      ∧ (empty.runAll neighbours).world.WritesAt 1
        ((empty.runAll neighbours).run (.statement (.close "a"))).1.world
      ∧ ((empty.runAll neighbours).world.counter 1).count = 0
      ∧ (((empty.runAll neighbours).run (.statement (.close "a"))).1.world.counter 1).count = 1
      ∧ (((empty.runAll neighbours).run (.statement (.close "a"))).1.world.counter 2).count
        = 1 := by
  have hcommands : ∀ c, .cache c ∉ neighbours := by simp [neighbours]
  obtain ⟨hpools, hconnections⟩ := isolation (Reaches.refl.runAll hcommands)
  obtain ⟨hone, hothers⟩ := hpools (.statement (.close "a")) fun _ he => by cases he
  have hfirst : (empty.runAll neighbours).Concerns (.statement (.close "a")) 1 :=
    ⟨.statement "a", List.mem_singleton_self _, by rfl⟩
  have hknown : (empty.runAll neighbours).world.pools.Known 2 := ⟨by decide, by decide⟩
  exact ⟨hothers 2 hknown fun hsecond => absurd (hone 1 2 hfirst hsecond) (by decide),
    (hconnections (.close "a") "a" _ 1 (List.mem_singleton_self _) (by rfl) (by rfl)).2,
    by rfl, by rfl, by rfl⟩

end Session

end ConnectionPool
