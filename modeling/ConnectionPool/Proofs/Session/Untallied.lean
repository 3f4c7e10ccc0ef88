import ConnectionPool.Proofs.Region.Runs
import ConnectionPool.Proofs.Session.Inquiries

/-!
# What commands leave untallied

A command tallies and prepares nothing except for the connection on which it makes a call, and
except on the lines that the client holds itself (`Untallied`, `untallied_run`). What is looked up
in a cache of the client's is tallied where the client has attached it (`attached?`). The caches of
the pools stay fastened to their connections.
-/

set_option autoImplicit false

namespace ConnectionPool

namespace Session

open Region (everything)

variable {own : ConnectionId → Prop} {s s' : Session} {touched : Option ConnectionId}

/-- **A change that tallies and prepares nothing**, except for one connection, and except on the
lines that the client holds. Where a client has attached caches of its own, it may tally something.
-/
structure Untallied (own : ConnectionId → Prop) (touched : Option ConnectionId) (s s' : Session) :
    Prop where
  fastened : s.world.Fastened own none → s'.world.Fastened own none
  recorded : s.world.driver.Recorded → s'.world.driver.Recorded
  tally : ∀ c, ¬ own c → touched ≠ some c → (s'.world.store c).tally = (s.world.store c).tally
  prepared : s.world.driver.Recorded → ∀ line, ¬ s.HoldsLine line →
    (∀ c, touched = some c → (s.world.connection c).physical ≠ line) →
    s'.world.driver.preparationsOn line = s.world.driver.preparationsOn line
  fallible : ∀ k, s.world.caches.Known k → (s'.world.cache k).fallible = (s.world.cache k).fallible

/-- **Nothing is tallied or prepared**, except for one connection, while the caches stay as they
are. -/
abbrev Calm (touched : Option ConnectionId) (s s' : Session) : Prop :=
  World.Calm touched s.world s'.world

/-- What is calm leaves everything untallied if connections stay as they are seen from outside. -/
theorem untallied_of_calm (h : Calm touched s s') (hstill : Still s s') :
    Untallied own touched s s' where
  fastened hw := hw.congr h.caches (hstill.world.read Connection.chain fun _ => rfl)
    (hstill.world.read Connection.closed fun _ => rfl)
  recorded := h.recorded
  tally c _ := h.tally c
  prepared hr line _ := h.prepared hr line
  fallible k _ := by rw [World.cache, h.caches, World.cache]

/-- What is steady leaves everything untallied, also after the driver has prepared something on the
lines that the client holds. -/
theorem untallied_of_prepares {driver : Driver} {more : PhysicalConnectionId → Nat}
    (hprepares : s.world.driver.Prepares more driver)
    (hmore : ∀ line, ¬ s.HoldsLine line → more line = 0)
    (h : World.Steady none none { s.world with driver } s'.world) : Untallied own touched s s' where
  fastened hw := h.fastened (hw.congr rfl (fun _ => rfl) fun _ => rfl)
  recorded hr := h.recorded (hprepares.recorded hr)
  tally c _ _ := h.tally c
  prepared hr line hline _ := by
    rw [h.prepared (hprepares.recorded hr), hprepares.count hr, hmore line hline, Nat.add_zero]
  fallible k hk := (h.caches k hk).2

theorem untallied_of_steady (h : World.Steady none none s.world s'.world) :
    Untallied own touched s s' :=
  untallied_of_prepares (.refl s.world.driver) (fun _ _ => rfl) h

/-! ## Commands that are calm -/

theorem calm_keepStatement {w : World} (h : World.Calm touched s.world w) (save : Option Name)
    (statement : Statement) (origin : Origin) :
    Calm touched s ((s.inWorld w).keepStatement save statement origin) := by
  cases save with
  | none => exact h.trans (w.calm_dropHandle statement)
  | some name => exact h

theorem calm_keepTracked {w : World} (h : World.Calm touched s.world w) (save : Option Name)
    (tracked : Tracked) : Calm touched s ((s.inWorld w).keepTracked save tracked) := by
  cases save with
  | none => exact h.trans (w.calm_dropTracked tracked)
  | some name => exact h

/-- Whatever becomes of the answer to a call is calm. -/
theorem CallEffect.calm {c : ConnectionId} {call : Call} {save : Option Name}
    (h : CallEffect s c call save s') :
    Calm touched (s.inWorld (s.world.perform c call).1) s' := by
  cases h with
  | passed h =>
      rw [h]
      exact World.Calm.refl _
  | @kept w handle h name _ =>
      rw [h]
      exact calm_keepStatement (s := s.inWorld w) (.refl w) name handle _

/-- **A call is calm** apart from its connection. -/
theorem calm_runCall (hs : s.world.Fastened own none) (c : ConnectionId) (call : Call) (into : Into)
    (save : Option Name) : Calm (some c) s (s.runCall c call into save).1 := by
  have hperform : Calm (some c) s (s.inWorld (s.world.perform c call).1) :=
    s.world.calm_perform (fun _ => rfl) (hs.boundTo c)
  exact hperform.trans (s.callEffect c call into save).calm

theorem StatementEffect.calm {command : StatementCommand} (h : StatementEffect s command s') :
    Calm touched s s' := by
  cases h with
  | same => exact World.Calm.refl s.world
  | bound hn => exact s.world.calm_onTarget _ (.bind _ _) fun _ _ => rfl
  | cleared hn => exact s.world.calm_onTarget _ .clearParameters fun _ _ => rfl
  | executed hn => exact s.world.calm_onTarget _ .execute fun _ _ => rfl
  | emptied hn => exact s.world.calm_closeResultSet _
  | closed hn => exact World.calm_close _ s.world
  | dropped hn => exact s.world.calm_dropHandle _
  | forceClosed hn ho => exact s.world.calm_forceCloseFacade _

theorem TrackedEffect.calm {command : TrackedCommand} (h : TrackedEffect s command s') :
    Calm touched s s' := by
  cases h with
  | same => exact World.Calm.refl s.world
  | closed hn | forceClosed hn | delegateClosed hn => exact World.calm_close _ s.world
  | dropped hn => exact s.world.calm_dropTracked _
  | bound hn => exact s.world.calm_onTarget _ (.bind _ _) fun _ _ => rfl
  | executed hn => exact s.world.calm_onTarget _ .execute fun _ _ => rfl
  | @faced name save tracked hn =>
      exact calm_keepStatement (s := s.takeTracked name) (.refl s.world) save tracked.facade .facade

/-! ## Commands about caches -/

theorem Sourced.calm {source : StatementSource} {t : Session} {handle : Statement}
    (h : Sourced s source t handle) : Calm touched s t := by
  cases h with
  | held hn => exact World.Calm.refl s.world
  | fresh sql => exact s.world.calm_looseStatement sql

/-- **The connection to which a command attaches a cache** of the client's. -/
def attached? (s : Session) : Command → Option ConnectionId
  | .cache (.attach _ _ via) => s.connection? via
  | _ => none

/-- Whatever is looked up in caches of the client's, the driver does nothing, and only where such
caches are attached anything is tallied. -/
structure Aside (own : ConnectionId → Prop) (w w' : World) : Prop where
  driver : w'.driver = w.driver
  caches : w'.caches = w.caches
  tally : ∀ c, ¬ own c → (w'.store c).tally = (w.store c).tally

/-- **What is looked up in a cache of the client's** is tallied where the client has attached it. -/
theorem aside_fetch (he : everything.Embraces s) (hw : s.world.Fastened own none) {name : Name}
    {k : CacheId} (hk : s.caches.get? name = some k) (call : Call) :
    Aside own s.world (s.world.fetch k call).1 := by
  obtain ⟨looked, hfetch, hlooks⟩ := s.world.looks_fetch k call
  generalize s.world.finds? k call = found at hfetch hlooks
  have hrest := hlooks.rest
  rw [hfetch]
  refine ⟨hrest ▸ rfl, hrest ▸ rfl, fun c hc => ?_⟩
  have hbound : ∀ binding, (s.world.cache k).binding = some binding →
      (looked.store c).tally = (s.world.store c).tally := by
    intro binding hb
    have hother : binding.connection ≠ c := by
      rintro rfl
      rcases hw.home k binding hb with hhome | ⟨hown, -⟩
      · exact (he.caches name k hk).2 _ hhome
      · exact hc hown
    have hcalm : World.Calm (some binding.connection) s.world (s.world.fetch k call).1 :=
      s.world.calm_fetch k call fun b h =>
        congrArg Binding.connection (Option.some.inj (h.symm.trans hb))
    rw [hfetch] at hcalm
    exact hcalm.tally c fun h => hother (Option.some.inj h)
  cases hlooks with
  | unasked _ => rfl
  | missed _ hb _ => exact hbound _ hb
  | found _ hb _ => exact hbound _ hb

/-- What is calm after such a look-up leaves everything untallied. -/
theorem untallied_of_aside {w : World} (h : Aside own s.world w)
    (hcalm : World.Calm none w s'.world) (hstill : Still s s') : Untallied own touched s s' where
  fastened hw := hw.congr (hcalm.caches.trans h.caches)
    (hstill.world.read Connection.chain fun _ => rfl)
    (hstill.world.read Connection.closed fun _ => rfl)
  recorded hr := hcalm.recorded (h.driver ▸ hr)
  tally c hc _ := (hcalm.tally_of_none c).trans (h.tally c hc)
  prepared hr line _ _ := by
    rw [hcalm.prepared_of_none (h.driver ▸ hr), h.driver]
  fallible k _ := by rw [World.cache, hcalm.caches, h.caches, World.cache]

/-- **A client attaches a cache of its own.** -/
theorem untallied_attach (he : everything.Embraces s) {name : Name} {k : CacheId}
    (hk : s.caches.get? name = some k) {c : ConnectionId} (hown : own c) (p : PoolId) :
    Untallied own touched s (s.inWorld (s.world.attach k p c)) := by
  have hprovided : World.Calm none s.world (s.world.provideStore c) := s.world.calm_provideStore c
  have hattached : World.Tame none s.world (s.world.attach k p c) :=
    hprovided.toTame.trans (World.rebind_rule (P := World.Tame none _)
      (World.tame_of_same rfl rfl) fun v d hv => hv.trans (v.calm_forget d).toTame)
  exact {
    fastened := fun hw => hw.attach (he.caches name k hk).2 hown p
    recorded := hattached.recorded
    tally := fun c _ _ => hattached.tally_of_none c
    prepared := fun hr line _ _ => hattached.prepared_of_none hr line
    fallible := fun l _ => (s.world.deeds_attach k p c).unseen.fallible l }

/-- The rule for what an outcome says of the session that a command ends in. -/
abbrev UntalliedAfter (own : ConnectionId → Prop) (touched : Option ConnectionId) (s : Session) :
    Outcome → Prop :=
  fun outcome => Untallied own touched s outcome.1

theorem Untallied.refl (s : Session) : Untallied own touched s s :=
  untallied_of_steady (.refl s.world)

theorem untalliedAfter_same (reply : Reply) : UntalliedAfter own touched s (s, reply) := .refl s

theorem untallied_dropCache (he : everything.Embraces s) {name : Name} {k : CacheId}
    (hk : s.caches.get? name = some k) : Untallied own touched s (s.dropCache name k) := by
  unfold dropCache
  simp only
  split
  · exact untallied_of_steady (.refl s.world)
  · exact untallied_of_steady (World.steady_detach (he.caches name k hk).2)

theorem untallied_cacheEffect (he : everything.Embraces s) (hw : s.world.Fastened own none)
    {command : CacheCommand} (ha : ∀ c, s.attached? (.cache command) = some c → own c)
    (h : CacheEffect s command s') : Untallied own touched s s' := by
  -- what is calm and leaves the books alone leaves everything untallied
  have hcalm : Calm touched s s' → Untallied own touched s s' := fun hcalm =>
    untallied_of_calm hcalm h.still
  have haside : ∀ {w}, Aside own s.world w → World.Calm none w s'.world →
      Untallied own touched s s' := fun haside hcalm => untallied_of_aside haside hcalm h.still
  cases h with
  | same => exact .refl s
  | created hread => exact untallied_of_steady (s.world.steady_newCache _ _)
  | cloned hk => exact untallied_of_steady (.refl s.world)
  | dropped hk => exact untallied_dropCache he hk
  | started hp => exact hcalm (s.world.calm_startCounting _)
  | stopped hp => exact hcalm (World.calm_of_same rfl rfl rfl)
  | attached hp hk hc => exact untallied_attach he hk (ha _ hc) _
  | drained hp hk hc => exact hcalm (s.world.calm_drain _ _ _)
  | detached hk => exact untallied_of_steady (World.steady_detach (he.caches _ _ hk).2)
  | failed k call hfree hk hcall h | missed k call hfree hk hcall h =>
      have hfetch := aside_fetch he hw hk call
      rw [h] at hfetch
      exact haside hfetch (.refl _)
  | fetched k call hfree hk hcall h =>
      have hfetch := aside_fetch he hw hk call
      rw [h] at hfetch
      exact haside hfetch (calm_keepTracked (s := s.inWorld _) (.refl _) _ _)
  | tracked k call t handle hk hcall hsource => exact hcalm hsource.calm
  | unwrapped k call t handle hk hcall hsource h =>
      have hwrap : World.Calm touched _ _ := t.world.calm_wrapPrepared k handle call
      rw [h] at hwrap
      exact hcalm (World.Calm.trans hsource.calm hwrap)
  | wrapped k call t handle hk hcall hsource h =>
      have hwrap : World.Calm touched _ _ := t.world.calm_wrapPrepared k handle call
      rw [h] at hwrap
      exact hcalm (World.Calm.trans hsource.calm (calm_keepStatement hwrap _ _ _))
  | admitted keep k tracked hk hn h =>
      have hoffer : World.Calm touched _ _ := s.world.calm_offer k tracked
      rw [h] at hoffer
      exact hcalm hoffer
  | kept k tracked hk hn h =>
      have hoffer : World.Calm touched _ _ := s.world.calm_offer k tracked
      rw [h] at hoffer
      exact hcalm hoffer
  | letGo k tracked hk hn h =>
      have hoffer : World.Calm touched _ _ := s.world.calm_offer k tracked
      rw [h] at hoffer
      exact hcalm (hoffer.trans (World.calm_dropTracked _ tracked))
  | absent k key hfree hk hcall hkey h =>
      have hwithdraw : World.Calm touched _ _ := s.world.calm_withdraw k key
      rw [h] at hwithdraw
      exact hcalm hwithdraw
  | withdrawn k key hfree hk hcall hkey h =>
      have hwithdraw : World.Calm touched _ _ := s.world.calm_withdraw k key
      rw [h] at hwithdraw
      exact hcalm (calm_keepTracked hwithdraw _ _)

/-! ## Commands of the driver -/

/-- **What the driver makes for the client** is prepared on a line of the client's. -/
theorem untallied_keepDriverStatement {driver : Driver} {more : PhysicalConnectionId → Nat}
    (hprepares : s.world.driver.Prepares more driver)
    (hmore : ∀ line, ¬ s.HoldsLine line → more line = 0) (save : Option Name)
    (made : Except DriverError StatementId) :
    UntalliedAfter own touched s (s.keepDriverStatement save ({ s.world with driver }, made)) := by
  cases made with
  | error error => exact untallied_of_prepares hprepares hmore (.refl _)
  | ok id =>
      cases save with
      | none =>
          have hcalm : World.Calm none { s.world with driver }
              (World.dropHandle { s.world with driver } (.physical id)) := World.calm_dropHandle _ _
          exact untallied_of_prepares hprepares hmore
            (hcalm.steady_of_unseen (World.deeds_dropHandle _ _).unseen)
      | some name => exact untallied_of_prepares hprepares hmore (.refl _)

theorem untallied_prepareBy {name : Name} {line : PhysicalConnectionId}
    (hline : s.raw.get? name = some line) (call : Call) {event : StatementId → String → DriverEvent}
    (he : ∀ id sql, (event id sql).made? = some id)
    (hp : ∀ id sql, (event id sql).isPreparation = true) (save : Option Name) :
    UntalliedAfter own touched s (s.keepDriverStatement save
      (s.world.onDriver fun driver => driver.prepareBy line call event)) := by
  refine untallied_keepDriverStatement (s.world.driver.prepares_prepareBy line call he hp)
    (fun l hl => ?_) save _
  have hne : (line == l) = false := beq_eq_false_iff_ne.mpr fun heq => hl ⟨name, heq ▸ hline⟩
  rw [hne, Bool.and_false]
  rfl

theorem untallied_runDriver (s : Session) (command : DriverCommand) :
    UntalliedAfter own touched s (s.runDriver command) := by
  cases command with
  | looseStatement sql save =>
      refine withFreshStatement_rule (P := UntalliedAfter own touched s) untalliedAfter_same
        fun _ => ?_
      have hloose : World.Calm touched s.world
          { s.world with driver := (s.world.driver.looseStatement sql).1 } :=
        s.world.calm_looseStatement sql
      exact untallied_of_calm (calm_keepStatement hloose save _ _)
        (still_keepStatement (s.world.deeds_issue (.fresh sql none)
          (fun id => .prepared id sql) fun _ => rfl).still save _ _)
  | openConnection save =>
      exact withFresh_rule (P := UntalliedAfter own touched s) untalliedAfter_same fun _ =>
        untallied_of_steady (World.steady_driver s.world.driver.prepares_openConnection)
  | prepareStatement name args save =>
      exact withFreshStatement_rule (P := UntalliedAfter own touched s) untalliedAfter_same fun _ =>
        withRaw_rule untalliedAfter_same fun line hline =>
          untallied_prepareBy hline ⟨.prepareStatement, args⟩ (fun _ _ => rfl) (fun _ _ => rfl) save
  | prepareCall name args save =>
      exact withFreshStatement_rule (P := UntalliedAfter own touched s) untalliedAfter_same fun _ =>
        withRaw_rule untalliedAfter_same fun line hline =>
          untallied_prepareBy hline ⟨.prepareCall, args⟩ (fun _ _ => rfl) (fun _ _ => rfl) save
  | createStatement name save =>
      exact withFreshStatement_rule (P := UntalliedAfter own touched s) untalliedAfter_same fun _ =>
        withRaw_rule untalliedAfter_same fun line _ =>
          untallied_keepDriverStatement (s.world.driver.prepares_createStatement line)
            (fun _ _ => rfl) save _
  | isValid name =>
      exact withRaw_rule (P := UntalliedAfter own touched s) untalliedAfter_same fun _ _ => .refl s
  | close name =>
      exact withRaw_rule (P := UntalliedAfter own touched s) untalliedAfter_same fun line _ =>
        untallied_of_steady (World.steady_driver (s.world.driver.prepares_closeConnection line))
  | inspectLog statement => exact .refl s

/-! ## Commands of pools -/

theorem Accounted.untallied_runPool (hs : s.Accounted) (command : PoolCommand) :
    UntalliedAfter own touched s (s.runPool command) := by
  cases command with
  | start save request =>
      refine withFresh_rule (P := UntalliedAfter own touched s) untalliedAfter_same fun _ => ?_
      split
      · exact .refl s
      · next config _ =>
          have hstart := s.world.steady_startPool config
          generalize s.world.startPool config = started at hstart ⊢
          obtain ⟨w, error | p⟩ := started
          · exact untallied_of_steady hstart
          · exact untallied_of_steady hstart
  | checkOut pool save =>
      refine withFresh_rule (P := UntalliedAfter own touched s) untalliedAfter_same fun _ =>
        withPool_rule untalliedAfter_same fun p _ => ?_
      have hcheckOut := hs.balanced.steady_checkOut hs.plugged p
      generalize s.world.checkOut p = checked at hcheckOut ⊢
      obtain ⟨w, error | c⟩ := checked
      · exact untallied_of_steady hcheckOut
      · exact untallied_of_steady hcheckOut
  | shutDown pool =>
      exact withPool_rule (P := UntalliedAfter own touched s) untalliedAfter_same fun p _ =>
        untallied_of_steady (s.world.steady_shutDown p)
  | sweep pool =>
      exact withPool_rule (P := UntalliedAfter own touched s) untalliedAfter_same fun p _ =>
        untallied_of_steady (s.world.steady_sweep p)
  | inspect pool =>
      exact withPool_rule (P := UntalliedAfter own touched s) untalliedAfter_same fun _ _ => .refl s

/-! ## Any command -/

variable {command : Command} {q : Inquiry}

theorem Asks.untallied (h : s.Asks command) (hw : s.world.Fastened own none) :
    Untallied own ((s.inquiry? command).map Inquiry.connection) s (s.run command).1 := by
  cases h with
  | call c call into save _ asked run =>
      rw [asked, run]
      exact untallied_of_calm (calm_runCall hw c call into save) (still_runCall s c call into save)
  | idle silent run =>
      rw [run]
      exact .refl s

theorem untallied_runConnection (hw : s.world.Fastened own none) (command : ConnectionCommand) :
    Untallied own ((s.inquiry? (.connection command)).map Inquiry.connection) s
      (s.run (.connection command)).1 := by
  cases command with
  | checkIn guard =>
      exact withGuard_rule (P := UntalliedAfter own none s) untalliedAfter_same fun c _ =>
        untallied_of_steady (s.world.steady_checkIn c)
  | retire guard =>
      exact withGuard_rule (P := UntalliedAfter own none s) untalliedAfter_same fun c _ =>
        untallied_of_steady (s.world.steady_retire c)
  | share guard save =>
      exact withFresh_rule (P := UntalliedAfter own none s) untalliedAfter_same fun _ =>
        withGuard_rule untalliedAfter_same fun c _ =>
          untallied_of_steady (s.world.steady_shares _)
  | unshare shared =>
      exact withShared_rule (P := UntalliedAfter own none s) untalliedAfter_same fun c _ =>
        untallied_of_steady ((s.world.steady_shares _).trans (World.steady_forget _ c))
  | prepare guard call save => exact (s.asks_prepare guard call save).untallied hw
  | isValid guard => exact (s.asks_isValid guard).untallied hw
  | invoke via request into save => exact (s.asks_invoke via request into save).untallied hw
  | inspectGuard guard =>
      exact withGuard_rule (P := UntalliedAfter own none s) untalliedAfter_same fun _ _ => .refl s
  | inspectConnection via =>
      exact withConnection_rule (P := UntalliedAfter own none s) untalliedAfter_same fun _ _ =>
        .refl s
  | inspectStore via =>
      refine withConnection_rule (P := UntalliedAfter own none s) untalliedAfter_same fun _ _ => ?_
      split <;> exact .refl s

/-- **A command tallies and prepares nothing**, except for the connection on which it makes a call,
and where clients attach caches of their own. -/
theorem untallied_run (he : everything.Embraces s) (hs : s.Accounted)
    (hw : s.world.Fastened own none) (command : Command)
    (ha : ∀ c, s.attached? command = some c → own c) :
    Untallied own ((s.inquiry? command).map Inquiry.connection) s (s.run command).1 := by
  cases command with
  | advance span =>
      have hadvance : World.Calm none s.world { s.world with now := s.world.now + span } :=
        World.calm_of_same rfl rfl rfl
      exact untallied_of_calm hadvance
        (still_inWorld { World.Still.refl s.world with
          clock := Nat.le_add_right _ _, silent := World.emits_none rfl rfl })
  | switch fault =>
      have hswitch : World.Calm none s.world (s.world.switch fault) :=
        ⟨⟨fun _ => rfl, fun _ _ => rfl, id, fun _ _ _ => rfl⟩, rfl⟩
      exact untallied_of_calm hswitch (still_inWorld (s.world.still_switch fault))
  | pool command => exact hs.untallied_runPool command
  | connection command => exact untallied_runConnection hw command
  | statement command =>
      exact untallied_of_calm (s.statementEffect command).calm (s.statementEffect command).still
  | driver command => exact s.untallied_runDriver command
  | cache command => exact untallied_cacheEffect he hw ha (s.cacheEffect command)
  | tracked command =>
      exact untallied_of_calm (s.trackedEffect command).calm (s.trackedEffect command).still

/-- **A command that makes a call** makes it in the world that there is, on a connection that the
client has a name for, and then does nothing but deal with the answer. -/
theorem calm_of_inquiry? (h : s.inquiry? command = some q) : q.world = s.world
    ∧ (∃ via, s.connection? via = some q.connection)
    ∧ World.Calm none (s.world.perform q.connection q.call).1 (s.run command).1.world := by
  cases asks_of_inquiry? h with
  | call c call into save named asked run =>
      rw [h] at asked
      obtain rfl := Option.some.inj asked
      rw [run]
      exact ⟨rfl, named, (s.callEffect c call into save).calm⟩
  | idle silent _ =>
      rw [h] at silent
      cases silent

end Session

end ConnectionPool
