import ConnectionPool.Proofs.Session.Still

/-!
# What a command has to do with pools

Most commands leave the books of all pools alone. `Session.Dealing` lists those that do not, with
what they come to, and `dealing_run` says that there are no others: what is to hold of every command
is proved of these.
-/

set_option autoImplicit false

namespace ConnectionPool

namespace Session

/-- **The dealings with pools** and with the lines of the driver. -/
inductive Dealing (s : Session) : Command → Session → Prop
  /-- The books are left alone. -/
  | still {command : Command} {s' : Session} (h : Still s s') : Dealing s command s'
  | start {save : Name} {request : PoolRequest} (config : PoolConfig) {s' : Session}
      (hworld : s'.world = (s.world.startPool config).1) (hguards : s'.guards = s.guards)
      (hraw : s'.raw = s.raw) : Dealing s (.pool (.start save request)) s'
  | refused {pool save : Name} {p : PoolId} {w : World} {error : PoolError}
      (hfree : s.guards.contains save = false) (hp : s.pools.get? pool = some p)
      (h : s.world.checkOut p = (w, .error error)) :
      Dealing s (.pool (.checkOut pool save)) (s.inWorld w)
  | granted {pool save : Name} {p : PoolId} {w : World} {c : ConnectionId}
      (hfree : s.guards.contains save = false) (hp : s.pools.get? pool = some p)
      (h : s.world.checkOut p = (w, .ok c)) :
      Dealing s (.pool (.checkOut pool save))
        { s.inWorld w with guards := s.guards.insert save c }
  | shutDown {pool : Name} {p : PoolId} (hp : s.pools.get? pool = some p) :
      Dealing s (.pool (.shutDown pool)) (s.inWorld (s.world.shutDown p))
  | sweep {pool : Name} {p : PoolId} (hp : s.pools.get? pool = some p) :
      Dealing s (.pool (.sweep pool)) (s.inWorld (s.world.sweep p).1)
  | checkIn {guard : Name} {c : ConnectionId} (hg : s.guards.get? guard = some c) :
      Dealing s (.connection (.checkIn guard))
        { s.inWorld (s.world.checkIn c) with guards := s.guards.erase guard }
  | retire {guard : Name} {c : ConnectionId} (hg : s.guards.get? guard = some c) :
      Dealing s (.connection (.retire guard))
        { s.inWorld (s.world.retire c) with guards := s.guards.erase guard }
  /-- The client opens a line for itself. -/
  | dial {save : Name} (hfree : s.raw.contains save = false) :
      Dealing s (.driver (.openConnection save))
      { s.inWorld { s.world with driver := s.world.driver.openConnection.1 } with
        raw := s.raw.insert save s.world.driver.connections.next }
  /-- The client closes a line of its own. -/
  | cut {name : Name} {line : PhysicalConnectionId} (hline : s.raw.get? name = some line) :
      Dealing s (.driver (.close name))
        (s.inWorld { s.world with driver := s.world.driver.closeConnection line })

variable (s : Session)

theorem dealing_runPool (command : PoolCommand) :
    Dealing s (.pool command) (s.runPool command).1 := by
  let P : Outcome → Prop := fun outcome => Dealing s (.pool command) outcome.1
  have hsame : ∀ reply, P (s, reply) := fun _ => .still (.refl s)
  cases command with
  | start save request =>
      refine withFresh_rule (P := P) hsame fun _ => ?_
      split
      · exact hsame _
      · next config _ =>
          obtain ⟨w, result, hw⟩ : ∃ w result, s.world.startPool config = (w, result) := ⟨_, _, rfl⟩
          have hworld : w = (s.world.startPool config).1 := by rw [hw]
          rw [hw]
          cases result <;> exact .start config hworld rfl rfl
  | checkOut pool save =>
      refine withFresh_rule (P := P) hsame fun hfree => withPool_rule hsame fun p hp => ?_
      obtain ⟨w, result, hw⟩ : ∃ w result, s.world.checkOut p = (w, result) := ⟨_, _, rfl⟩
      rw [hw]
      cases result with
      | error error => exact .refused hfree hp hw
      | ok c => exact .granted hfree hp hw
  | shutDown pool => exact withPool_rule (P := P) hsame fun p hp => .shutDown hp
  | sweep pool => exact withPool_rule (P := P) hsame fun p hp => .sweep hp
  | inspect pool => exact withPool_rule (P := P) hsame fun _ _ => hsame _

theorem dealing_runConnection (command : ConnectionCommand) :
    Dealing s (.connection command) (s.runConnection command).1 := by
  let P : Outcome → Prop := fun outcome => Dealing s (.connection command) outcome.1
  have hsame : ∀ reply, P (s, reply) := fun _ => .still (.refl s)
  cases command with
  | checkIn guard => exact withGuard_rule (P := P) hsame fun c hg => .checkIn hg
  | retire guard => exact withGuard_rule (P := P) hsame fun c hg => .retire hg
  | share guard save =>
      exact withFresh_rule (P := P) hsame fun _ => withGuard_rule hsame fun c _ =>
        .still ⟨s.world.still_share c, rfl, rfl⟩
  | unshare shared =>
      exact withShared_rule (P := P) hsame fun c _ =>
        .still ⟨s.world.still_unshare c, rfl, rfl⟩
  | prepare guard call save =>
      exact withFreshStatement_rule (P := P) hsame fun _ => withGuard_rule hsame fun c _ =>
        .still (still_runCall s c call _ _)
  | isValid guard =>
      exact withGuard_rule (P := P) hsame fun c _ => .still (still_runCall s c _ _ _)
  | invoke via request into save =>
      exact withFreshStatement_rule (P := P) hsame fun _ => withCall_rule hsame fun call _ =>
        withTarget_rule hsame fun c _ => .still (still_runCall s c call into save)
  | inspectGuard guard => exact withGuard_rule (P := P) hsame fun _ _ => hsame _
  | inspectConnection via => exact withConnection_rule (P := P) hsame fun _ _ => hsame _
  | inspectStore via =>
      refine withConnection_rule (P := P) hsame fun _ _ => ?_
      split <;> exact hsame _

theorem dealing_runDriver (command : DriverCommand) :
    Dealing s (.driver command) (s.runDriver command).1 := by
  let P : Outcome → Prop := fun outcome => Dealing s (.driver command) outcome.1
  have hsame : ∀ reply, P (s, reply) := fun _ => .still (.refl s)
  cases command with
  | looseStatement sql save =>
      exact withFreshStatement_rule (P := P) hsame fun _ =>
        .still (still_keepStatement (s.world.deeds_issue (.fresh sql none)
          (fun id => .prepared id sql) fun _ => rfl).still save _ _)
  | openConnection save => exact withFresh_rule (P := P) hsame fun hfree => .dial hfree
  | prepareStatement name args save =>
      exact withFreshStatement_rule (P := P) hsame fun _ => withRaw_rule hsame fun line _ =>
        .still (still_keepDriverStatement
          (World.deeds_prepareBy _ line _ fun _ _ => rfl).still save)
  | prepareCall name args save =>
      exact withFreshStatement_rule (P := P) hsame fun _ => withRaw_rule hsame fun line _ =>
        .still (still_keepDriverStatement
          (World.deeds_prepareBy _ line _ fun _ _ => rfl).still save)
  | createStatement name save =>
      exact withFreshStatement_rule (P := P) hsame fun _ => withRaw_rule hsame fun line _ =>
        .still (still_keepDriverStatement (World.deeds_createStatement _ line).still save)
  | isValid name => exact withRaw_rule (P := P) hsame fun _ _ => hsame _
  | close name => exact withRaw_rule (P := P) hsame fun line hline => .cut hline
  | inspectLog statement => exact hsame _

/-- **Every command is one of these dealings.** -/
theorem dealing_run (command : Command) : Dealing s command (s.run command).1 := by
  cases command with
  | advance span =>
      exact .still (still_inWorld { World.Still.refl s.world with
        clock := Nat.le_add_right _ _, silent := World.emits_none rfl rfl })
  | switch fault => exact .still (still_inWorld (s.world.still_switch fault))
  | pool command => exact s.dealing_runPool command
  | connection command => exact s.dealing_runConnection command
  | statement command => exact .still (s.statementEffect command).still
  | driver command => exact s.dealing_runDriver command
  | cache command => exact .still ((s.cacheEffect command).still)
  | tracked command => exact .still (s.trackedEffect command).still

end Session

end ConnectionPool
