import ConnectionPool.Proofs.Session.Dealings

/-!
# Pool accounting and exclusive checkout

Whatever a client does, the numbers of every pool agree with the connections that wait in it and
with the guards that the client holds; the same is seen from inside every hook that is delivered
on the way (`accounting`). No connection waits twice, or waits and is checked out, or is checked
out twice; what waits is idle and open, and what is checked out is in use and open. No
subtraction from the numbers of a pool is ever cut off at zero.
-/

set_option autoImplicit false

namespace ConnectionPool

namespace World

/-- The pool that a receiver belongs to. -/
def poolOf (w : World) : Receiver → PoolId
  | .listener p _ => p
  | .link c _ => (w.connection c).pool

theorem Belongs.poolOf {w : World} {p : PoolId} {receiver : Receiver}
    (h : w.Belongs p receiver) : w.poolOf receiver = p := by
  cases receiver with
  | listener q position => exact h
  | link c position => exact h.2

end World

namespace Session

/-- The connections that are checked out, one for each guard that the client holds. -/
def out (s : Session) : Multiset ConnectionId := s.guards.bag.map Sigma.snd

/-- The client has a name for a connection of the driver. -/
def HoldsLine (s : Session) (line : PhysicalConnectionId) : Prop :=
  ∃ name, s.raw.get? name = some line

/-- **The books of all pools are in order**: they are balanced when the connections that guards
hold are checked out, and these are in use. -/
structure Accounted (s : Session) : Prop where
  balanced : s.world.Balanced s.out
  busy : ∀ c ∈ s.out, (s.world.connection c).metadata.state = .inUse
  plugged : s.world.Plugged s.HoldsLine

/-- The connections that are checked out when a hook is delivered in the course of a command:
those that guards hold before the command and after it, and once a connection is handed out,
that one too. -/
def outDuring (s s' : Session) (hook : Hook) : Multiset ConnectionId :=
  if hook.isAttachment then s'.out else s.out ∩ s'.out

/-- **What every hook sees of its pool adds up**, in the course of a command that leads from one
session to the other. -/
def Fair (s s' : Session) : Prop :=
  World.Heard (fun receiver hook sight => sight.status.Sums
    (s'.world.taken (outDuring s s' hook) (s'.world.poolOf receiver))) s.world s'.world

/-- **No subtraction is cut off at zero** when a command is done. -/
def Solvent (s : Session) : Command → Prop
  | .pool (.checkOut pool _) => ∀ p, s.pools.get? pool = some p → s.world.CanCheckOut p
  | .pool (.sweep pool) => ∀ p, s.pools.get? pool = some p → s.world.CanSweep p
  | .pool (.shutDown pool) => ∀ p, s.pools.get? pool = some p → s.world.CanShutDown p
  | .connection (.checkIn guard) => ∀ c, s.guards.get? guard = some c → s.world.CanCheckIn c
  | .connection (.retire guard) => ∀ c, s.guards.get? guard = some c → s.world.CanRetire c
  | _ => True

section Steps

variable {s s' : Session} {name : Name} {p : PoolId} {c : ConnectionId}

/-! ## Guards -/

theorem out_insert (s : Session) (c : ConnectionId) (h : s.guards.get? name = none) :
    ({ s with guards := s.guards.insert name c } : Session).out = c ::ₘ s.out := by
  rw [out, Table.bag_insert_of_free _ _ h, Multiset.map_cons]
  rfl

theorem out_erase (h : s.guards.get? name = some c) :
    s.out = c ::ₘ ({ s with guards := s.guards.erase name } : Session).out := by
  rw [out, ← Table.bag_erase s.guards h, Multiset.map_cons]
  rfl

theorem mem_out (h : s.guards.get? name = some c) : c ∈ s.out := by
  rw [out_erase h]
  exact Multiset.mem_cons_self _ _

/-- A connection that a guard holds is open. -/
theorem Accounted.live_guard (hs : s.Accounted) (h : s.guards.get? name = some c) :
    s.world.Live c :=
  hs.balanced.out_live c (mem_out h)

/-! ## One command -/

/-- The session after a command is in order, and all that was heard meanwhile was fair. -/
structure Settled (s s' : Session) : Prop where
  accounted : s'.Accounted
  fair : Fair s s'

/-- A command that affects no connection of a pool, and of which nobody hears. -/
theorem Accounted.kept (hs : s.Accounted) (h : World.SparesAll s.world s'.world)
    (hq : World.Quiet s.world s'.world) (hg : s'.guards = s.guards) (hr : s'.raw = s.raw) :
    Settled s s' := by
  have hout : s'.out = s.out := by rw [out, hg, out]
  have hraw : s'.HoldsLine = s.HoldsLine := by
    funext line
    rw [HoldsLine, hr, HoldsLine]
  refine ⟨⟨?_, fun c hc => ?_, ?_⟩, hq.heard⟩
  · rw [hout]
    exact hs.balanced.sparesAll h
  · rw [hout] at hc
    exact (h.state c id).trans (hs.busy c hc)
  · rw [hraw]
    exact hs.plugged.spares h

theorem Accounted.still (hs : s.Accounted) (h : Still s s') : Settled s s' :=
  hs.kept h.world.spares h.world.quiet h.guards h.raw

/-- An operation of a pool that hands nothing out. -/
theorem Accounted.done (hs : s.Accounted) (h : World.Done s.HoldsLine s'.out p s.world s'.world)
    (hout : s'.out ≤ s.out) (hraw : s'.raw = s.raw) : Settled s s' := by
  have hholds : s'.HoldsLine = s.HoldsLine := by
    funext line
    rw [HoldsLine, hraw, HoldsLine]
  have hknown : ∀ c ∈ s'.out, s.world.connections.Known c := fun c hc =>
    (hs.balanced.out_live c (Multiset.mem_of_le hout hc)).known
  refine ⟨⟨h.balanced, fun c hc => ?_, hholds ▸ h.plugged⟩, ?_⟩
  · exact (h.undisturbed.state c hc).trans (hs.busy c (Multiset.mem_of_le hout hc))
  · refine h.heard.mono fun receiver hook sight hr => ?_
    have hduring : outDuring s s' hook = s'.out := by
      rw [outDuring, hr.attaching]
      exact inf_eq_right.mpr hout
    rw [hduring, hr.belongs.poolOf, h.undisturbed.taken hknown]
    exact hr.sums

/-- A checkout that hands a connection out. -/
theorem Accounted.handedOut (hs : s.Accounted)
    (h : World.HandedOut s.HoldsLine s.out p s.world s'.world c) (hout : s'.out = c ::ₘ s.out)
    (hraw : s'.raw = s.raw) : Settled s s' := by
  have hholds : s'.HoldsLine = s.HoldsLine := by
    funext line
    rw [HoldsLine, hraw, HoldsLine]
  have hknown : ∀ c ∈ s.out, s.world.connections.Known c := fun c hc =>
    (hs.balanced.out_live c hc).known
  refine ⟨⟨hout ▸ h.balanced, fun d hd => ?_, hholds ▸ h.plugged⟩, ?_⟩
  · rw [hout] at hd
    rcases Multiset.mem_cons.mp hd with rfl | hd
    · exact h.state
    · exact (h.undisturbed.state d hd).trans (hs.busy d hd)
  · refine h.heard.mono fun receiver hook sight hr => ?_
    rcases hr with hr | hr
    · -- the connection is not handed out yet
      have hduring : outDuring s s' hook = s.out := by
        rw [outDuring, hr.attaching, hout]
        exact inf_eq_left.mpr (Multiset.le_cons_self s.out c)
      rw [hduring, hr.belongs.poolOf, h.undisturbed.taken hknown]
      exact hr.sums
    · have hduring : outDuring s s' hook = c ::ₘ s.out := by
        rw [outDuring, hr.attaching, if_pos rfl, hout]
      rw [hduring, hr.belongs.poolOf]
      exact hr.sums

/-- A connection of the driver for the client is no connection of a pool. -/
theorem Accounted.openConnection (hs : s.Accounted) (name : Name) :
    Settled s { s.inWorld { s.world with driver := s.world.driver.openConnection.1 } with
      raw := s.raw.insert name s.world.driver.connections.next } := by
  have hopened := s.world.sparesAll_openLine
  have hplugged := hs.plugged.spares hopened
  have hknown := (Registry.known_register s.world.driver.connections {} _).mpr (Or.inr rfl)
  refine ⟨⟨hs.balanced.sparesAll hopened, hs.busy, hplugged.known, hplugged.injective, ?_, ?_⟩,
    World.heard_of_journal rfl⟩
  · rintro line ⟨other, hline⟩
    rcases Table.get?_insert_eq_some _ hline with rfl | hline
    · exact hknown
    · exact hplugged.raw_known line ⟨other, hline⟩
  · rintro line ⟨other, hline⟩ c hc
    rcases Table.get?_insert_eq_some _ hline with rfl | hline
    · intro he
      exact s.world.driver.connections.not_known_next (he ▸ hs.plugged.known c hc)
    · exact hplugged.raw_apart line ⟨other, hline⟩ c hc

/-- **One command keeps the books in order.** -/
theorem Accounted.run (hs : s.Accounted) (command : Command) : Settled s (s.run command).1 := by
  have hreturned : ∀ {guard : Name} {c : ConnectionId}, s.guards.get? guard = some c →
      s.world.Balanced (c ::ₘ ({ s with guards := s.guards.erase guard } : Session).out)
        ∧ ({ s with guards := s.guards.erase guard } : Session).out ≤ s.out := by
    intro guard c hg
    have hbalanced := hs.balanced
    rw [out_erase hg] at hbalanced
    refine ⟨hbalanced, ?_⟩
    rw [out_erase hg]
    exact Multiset.le_cons_self _ _
  have hdealing := s.dealing_run command
  generalize (s.run command).1 = s' at hdealing ⊢
  cases hdealing with
  | still h => exact hs.still h
  | start config hworld hguards hraw =>
      obtain ⟨p, hdone⟩ := hs.balanced.startPool hs.plugged config
      have hout : s'.out = s.out := by rw [out, hguards, out]
      rw [← hworld, ← hout] at hdone
      exact hs.done hdone hout.le hraw
  | @refused pool save p w error hfree hp h =>
      have hchecked := (hs.balanced.checkOut hs.plugged p).1
      rw [h] at hchecked
      exact hs.done hchecked le_rfl rfl
  | @granted pool save p w c hfree hp h =>
      have hchecked := (hs.balanced.checkOut hs.plugged p).1
      rw [h] at hchecked
      exact hs.handedOut hchecked
        (out_insert s c ((Table.contains_eq_false_iff _ _).mp hfree)) rfl
  | shutDown hp => exact hs.done (hs.balanced.shutDown hs.plugged _) le_rfl rfl
  | sweep hp => exact hs.done (hs.balanced.sweep hs.plugged _) le_rfl rfl
  | checkIn hg =>
      obtain ⟨hbalanced, hout⟩ := hreturned hg
      exact hs.done (hbalanced.checkIn hs.plugged) hout rfl
  | retire hg =>
      obtain ⟨hbalanced, hout⟩ := hreturned hg
      exact hs.done (hbalanced.retire hs.plugged) hout rfl
  | dial => exact hs.openConnection _
  | @cut name line hline =>
      exact hs.kept (s.world.sparesAll_closeLine (hs.plugged.raw_apart line ⟨name, hline⟩))
        (World.heard_of_journal rfl) rfl rfl

theorem Accounted.solvent (hs : s.Accounted) (command : Command) : s.Solvent command := by
  unfold Solvent
  split
  · exact fun p _ => (hs.balanced.checkOut hs.plugged p).2
  · exact fun p _ => hs.balanced.canSweep p
  · exact fun p _ => hs.balanced.canShutDown p
  · intro c hc
    have hbalanced := hs.balanced
    rw [out_erase hc] at hbalanced
    exact hbalanced.canCheckIn
  · intro c hc
    have hbalanced := hs.balanced
    rw [out_erase hc] at hbalanced
    exact hbalanced.canRetire
  · trivial

end Steps

/-! ## Whole runs -/

theorem accounted_empty : empty.Accounted where
  balanced :=
    have hpool : ∀ p, empty.world.pool p = default := fun p =>
      Registry.get_of_not_known (Registry.not_known_empty p)
    { sums := fun p => by
        rw [hpool]
        exact ⟨rfl, Nat.zero_le _, rfl⟩
      out_nodup := Multiset.nodup_zero
      out_live := fun c hc => absurd hc (Multiset.notMem_zero c)
      idle_nodup := fun p => by
        rw [hpool]
        exact List.nodup_nil
      waiting := fun p c hc => by
        rw [hpool] at hc
        exact nomatch hc
      apart := fun p c hc => by
        rw [hpool] at hc
        exact nomatch hc }
  busy c hc := absurd hc (Multiset.notMem_zero c)
  plugged :=
    { known := fun c hc => absurd hc (Registry.not_known_empty c)
      injective := fun c _ hc => absurd hc (Registry.not_known_empty c)
      raw_known := fun _ ⟨_, h⟩ => nomatch h
      raw_apart := fun _ ⟨_, h⟩ => nomatch h }

theorem Accounted.runAll {s : Session} (hs : s.Accounted) (commands : List Command) :
    (s.runAll commands).Accounted := by
  induction commands generalizing s with
  | nil => exact hs
  | cons command rest ih => exact ih (hs.run command).accounted

/-- **Pool accounting and exclusive checkout.** After any commands, whatever fails meanwhile, the
books of all pools are in order. When one more command is done, every hook that is delivered
sees the numbers of its pool add up with the connections that are checked out at that moment, and
no subtraction from these numbers is cut off at zero. -/
theorem accounting (commands : List Command) :
    (empty.runAll commands).Accounted
      ∧ ∀ command, Fair (empty.runAll commands) ((empty.runAll commands).run command).1
        ∧ (empty.runAll commands).Solvent command := by
  have haccounted := accounted_empty.runAll commands
  exact ⟨haccounted, fun command =>
    ⟨(haccounted.run command).fair, haccounted.solvent command⟩⟩

end Session

end ConnectionPool
