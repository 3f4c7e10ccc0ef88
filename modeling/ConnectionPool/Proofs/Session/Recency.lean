import ConnectionPool.Proofs.Session.Sweeping

/-!
# Idle connections in the order of use

A pool puts a connection that is returned in front of the others that wait, and never looks at the
moments that it has recorded of them. Still the list is in the order of these moments
(`World.ByUse`): time only moves forward, and what waits is not used. One command keeps the order
(`Recent.run`).

So the connections that have waited too long come last, whatever the timeout is, and a checkout
takes from the other end. `Session.RestsByUse` says what follows for sweeps and checkouts, and holds
after any commands (`idle_by_use`).
-/

set_option autoImplicit false

namespace ConnectionPool

/-- What holds of an entry only if it holds of those before it, holds of the first few. -/
theorem filter_prefix {α : Type} {f : α → Bool} {l : List α}
    (h : l.Pairwise fun a b => f b = true → f a = true) : l.filter f <+: l := by
  induction l with
  | nil => exact List.prefix_rfl
  | cons a rest ih =>
      obtain ⟨hfirst, hrest⟩ := List.pairwise_cons.mp h
      by_cases ha : f a = true
      · rw [List.filter_cons_of_pos ha]
        exact (List.prefix_cons_inj a).mpr (ih hrest)
      · have hnone : rest.filter f = [] :=
          List.filter_eq_nil_iff.mpr fun b hb hf => ha (hfirst b hb hf)
        rw [List.filter_cons_of_neg ha, hnone]
        exact List.nil_prefix

/-! ## The clock -/

namespace Custody

variable {K K' : Custody} {l : List Signal}

/-- No move turns the clock back. -/
theorem Move.clock (h : Move K l K') : K.world.now ≤ K'.world.now := by
  cases h with
  | still h => exact h.clock
  | @dismiss p hd => exact (K.world.unseen_tellListeners p .poolClosed).now.ge
  | @tearDown finalizing c hands hh hl => exact (World.now_teardown K.world c finalizing).ge
  | @handOut c hh hl =>
      have htold := (K.world.updateMetadata c fun metadata =>
        metadata.checkOut K.world.now).unseen_tellChain c (.attached c)
      exact htold.now.ge
  | @found pool ho hi hn =>
      have htold := ({ K.world with pools := K.world.pools.register pool } :
        World).unseen_tellListeners K.world.pools.next .poolStarted
      exact htold.now.ge
  | _ => exact le_rfl

theorem Moves.clock (h : Moves K l K') : K.world.now ≤ K'.world.now := by
  induction h with
  | refl => exact le_rfl
  | tail _ hm ih => exact ih.trans hm.clock

end Custody

namespace World

/-- The moment at which a connection was last checked out or put back, as its pool records it. -/
def lastUsed (w : World) (c : ConnectionId) : Millis := (w.connection c).metadata.lastUsedAt

/-- **The moments recorded of a connection** come one after the other: it was opened, then used, and
not later than now. -/
structure InTime (w : World) (c : ConnectionId) : Prop where
  opened : (w.connection c).metadata.createdAt ≤ w.lastUsed c
  used : w.lastUsed c ≤ w.now

/-- **Connections are in the order of use**, the one used last in front. -/
def ByUse (w : World) (l : List ConnectionId) : Prop :=
  l.Pairwise fun c d => w.lastUsed d ≤ w.lastUsed c

/-- An idle connection has waited for longer than a timeout. -/
def isOverdue (w : World) (timeout : Millis) (c : ConnectionId) : Bool :=
  (w.connection c).metadata.overdue timeout w.now

/-- The idle connections of a pool that have waited for longer than a timeout, the one returned
first in front. -/
def overdue (w : World) (p : PoolId) (timeout : Millis) : List ConnectionId :=
  (w.pool p).idle.reverse.filter (w.isOverdue timeout)

variable {w w' : World} {p : PoolId} {c d : ConnectionId} {l : List ConnectionId}
  {used : Option ConnectionId} {timeout : Millis}

/-! ## One operation -/

theorem Marks.inTime (h : Marks used w w') (hclock : w.now ≤ w'.now)
    (hw : ∀ c, w.connections.Known c → w.InTime c) (hc : w'.connections.Known c) :
    w'.InTime c := by
  by_cases hold : w.connections.Known c
  · have hbefore := hw c hold
    have hopened := h.opened c hold
    by_cases hused : used = some c
    · have hmarked : w'.lastUsed c = w.now := h.marked c hused
      exact
        { opened := by
            rw [hopened, hmarked]
            exact hbefore.opened.trans hbefore.used
          used := hmarked.le.trans hclock }
    · have hkept : w'.lastUsed c = w.lastUsed c := h.kept c hold hused
      exact
        { opened := by
            rw [hopened, hkept]
            exact hbefore.opened
          used := hkept.le.trans (hbefore.used.trans hclock) }
  · obtain ⟨hused, hopened⟩ := h.opens c hc hold
    have hmarked : w'.lastUsed c = w.now := h.marked c hused
    exact ⟨by rw [hopened, hmarked], hmarked.le.trans hclock⟩

/-- Connections that are not used stay in their order. -/
theorem Marks.byUse (h : Marks used w w') (hl : ∀ c ∈ l, w.connections.Known c)
    (hu : ∀ c ∈ l, used ≠ some c) (hw : w.ByUse l) : w'.ByUse l := by
  refine hw.imp_of_mem fun {c d} hc hd hle => ?_
  have hkept : ∀ e ∈ l, w'.lastUsed e = w.lastUsed e := fun e he => h.kept e (hl e he) (hu e he)
  rw [hkept c hc, hkept d hd]
  exact hle

/-- **The connection that is used comes in front** of others that are not. -/
theorem Marks.byUse_cons (h : Marks (some c) w w') (hl : ∀ d ∈ l, w.connections.Known d)
    (ht : ∀ d, w.connections.Known d → w.InTime d) (hc : c ∉ l) (hw : w.ByUse l) :
    w'.ByUse (c :: l) := by
  have hu : ∀ d ∈ l, some c ≠ some d := fun d hd he => hc (Option.some.inj he ▸ hd)
  refine List.pairwise_cons.mpr ⟨fun d hd => ?_, h.byUse hl hu hw⟩
  have hkept : w'.lastUsed d = w.lastUsed d := h.kept d (hl d hd) (hu d hd)
  have hmarked : w'.lastUsed c = w.now := h.marked c rfl
  rw [hkept, hmarked]
  exact (ht d (hl d hd)).used

/-! ## Those that have waited too long -/

theorem Waiting.isOverdue_iff (h : w.Waiting p c) :
    w.isOverdue timeout c = true ↔ w.lastUsed c + timeout < w.now := by
  rw [isOverdue, Metadata.overdue_iff, and_iff_right h.state]
  rfl

/-- What was used earlier has waited too long as well. -/
theorem isOverdue_of_lastUsed_le (hc : w.Waiting p c) (hd : w.Waiting p d)
    (hle : w.lastUsed d ≤ w.lastUsed c) (h : w.isOverdue timeout c = true) :
    w.isOverdue timeout d = true := by
  rw [hc.isOverdue_iff] at h
  rw [hd.isOverdue_iff]
  exact lt_of_le_of_lt (Nat.add_le_add_right hle timeout) h

/-- **Those that have waited too long come first** in the order of return, for every timeout. -/
theorem overdue_prefix (hw : ∀ c ∈ (w.pool p).idle, w.Waiting p c)
    (ho : w.ByUse (w.pool p).idle) (timeout : Millis) :
    w.overdue p timeout <+: (w.pool p).idle.reverse := by
  refine filter_prefix (List.pairwise_reverse.mpr ?_)
  exact ho.imp_of_mem fun hc hd hle hold =>
    isOverdue_of_lastUsed_le (hw _ hc) (hw _ hd) hle hold

/-! ## Checkouts -/

/-- **A checkout takes from the end that was used last**: no valid idle connection was used later
than the idle one that is handed out. -/
theorem Supplies.lastUsed_le {w' : World} (h : Supplies p w w' (.ok c))
    (hw : ∀ c ∈ (w.pool p).idle, w.Waiting p c) (ho : w.ByUse (w.pool p).idle)
    (hc : c ∈ (w.pool p).idle) (hd : d ∈ (w.pool p).idle)
    (hvalid : w.isConnectionValid d = true) : w.lastUsed d ≤ w.lastUsed c := by
  cases h with
  | @lends _ rest hremain =>
      have hsplit := w.passedOver_append_remaining p
      rw [hremain] at hsplit
      rw [← hsplit] at hd ho
      rcases List.mem_append.mp hd with hpassed | hleft
      · -- what was passed over is not valid
        have hunfit : w.unfit p d = true := List.mem_takeWhile_imp hpassed
        rw [unfit, hvalid, Bool.not_true, Bool.and_false] at hunfit
        exact absurd hunfit (by decide)
      · rcases List.mem_cons.mp hleft with rfl | hrest
        · exact le_rfl
        · exact (List.pairwise_cons.mp (List.pairwise_append.mp ho).2.1).1 d hrest
  | opens => exact absurd (hw _ hc).live.known w.connections.not_known_next

/-- A connection that was just opened has not waited. -/
theorem Supplies.mem_idle {w' : World} (h : Supplies p w w' (.ok c))
    (hold : w.isOverdue timeout c = true) : c ∈ (w.pool p).idle := by
  cases h with
  | lends hremain => exact mem_idle_of_remaining (hremain ▸ List.mem_cons_self)
  | opens =>
      have hnew : w.connection w.connections.next = default :=
        Registry.get_of_not_known w.connections.not_known_next
      rw [isOverdue, hnew] at hold
      exact absurd hold (by simp [Metadata.overdue, ConnectionState.isAvailable, default,
        Metadata.enter])

end World

namespace Session

variable {s s' : Session} {p : PoolId} {c : ConnectionId}

/-! ## One command -/

theorem Accounted.clock_run (hs : s.Accounted) (command : Command) :
    s.world.now ≤ (s.run command).1.world.now := by
  obtain ⟨l, hmoves⟩ := hs.moves command
  exact hmoves.clock

/-- **What a command uses** is put back by it, or checked out afterwards. -/
theorem returned_or_out {command : Command} (hu : s.used? command = some c) :
    (∃ p, s.returned? p command = some c) ∨ c ∈ (s.run command).1.out := by
  unfold used? at hu
  split at hu
  · next pool save =>
      cases hfree : s.guards.contains save with
      | true =>
          rw [hfree, if_pos rfl] at hu
          cases hu
      | false =>
          rw [hfree, if_neg Bool.false_ne_true, Option.bind_eq_some_iff] at hu
          obtain ⟨p, hp, hlent⟩ := hu
          refine Or.inr ?_
          obtain ⟨w, result, hchecked⟩ : ∃ w result, s.world.checkOut p = (w, result) := ⟨_, _, rfl⟩
          rw [hchecked] at hlent
          obtain error | d := result
          · cases hlent
          · obtain rfl := Option.some.inj hlent
            rw [run_checkOut_ok hfree hp hchecked]
            have hout := out_insert (s.inWorld w) d ((Table.contains_eq_false_iff _ _).mp hfree)
            exact hout ▸ Multiset.mem_cons_self _ _
  · next guard =>
      obtain ⟨hg, ht⟩ := Option.filter_eq_some_iff.mp hu
      refine Or.inl ⟨(s.world.connection c).pool, ?_⟩
      rw [returned?, hg, Option.filter_some, ht]
      simp
  · cases hu

/-- **A session whose idle connections are in the order of use**, and whose records are in time. -/
structure Recent (s : Session) : Prop where
  accounted : s.Accounted
  inTime : ∀ c, s.world.connections.Known c → s.world.InTime c
  byUse : ∀ p, s.world.ByUse (s.world.pool p).idle

/-- **One command keeps the idle connections in the order of use.** Those that stay are not used,
and the one that is put back is used now. -/
theorem Recent.byUse_run (h : s.Recent) (command : Command) (p : PoolId) :
    (s.run command).1.world.ByUse ((s.run command).1.world.pool p).idle := by
  have hs := h.accounted
  have hs' := (hs.run command).accounted
  have hmarks := hs.marks_run command
  have hused : ∀ c, s.used? command = some c →
      (∃ q, s.returned? q command = some c) ∨ c ∈ (s.run command).1.out :=
    fun _ hu => returned_or_out hu
  have hstirs := hs.stirs_run command
  generalize (s.run command).1 = s' at hs' hmarks hused hstirs ⊢
  have hless : (∀ q, s.returned? q command = none) →
      (s'.world.pool p).idle.Sublist (s.world.pool p).idle →
      s'.world.ByUse (s'.world.pool p).idle := by
    intro hr hidle
    refine hmarks.byUse (fun c hc => hs.known_idle p c (hidle.subset hc)) (fun c hc hu => ?_)
      ((h.byUse p).sublist hidle)
    rcases hused c hu with ⟨q, hq⟩ | hout
    · rw [hr q] at hq
      cases hq
    · exact hs'.balanced.apart p c hc hout
  cases hstirs with
  | thins hr hthins => exact hless hr (hthins.idle p)
  | supplies hr hsupplies => exact hless hr (hsupplies.idle p)
  | @returns guard c _ hg ht hroll hself hother =>
      have hmarks' : World.Marks (some c) s.world s'.world := by
        have hreturns : s.used? (.connection (.checkIn guard)) = some c := by
          rw [used?, hg, Option.filter_some, if_pos ht]
        rw [hreturns] at hmarks
        exact hmarks
      have hout : c ∈ s.out := mem_out hg
      have hnot : ∀ q, c ∉ (s.world.pool q).idle := fun q hc => hs.balanced.apart q c hc hout
      by_cases hp : (s.world.connection c).pool = p
      · rw [← hp, hself]
        exact hmarks'.byUse_cons (hs.known_idle _) h.inTime (hnot _) (h.byUse _)
      · rw [hother p hp]
        exact hmarks'.byUse (hs.known_idle p)
          (fun d hd he => hnot p (Option.some.inj he ▸ hd)) (h.byUse p)

theorem Recent.run (h : s.Recent) (command : Command) : (s.run command).1.Recent where
  accounted := (h.accounted.run command).accounted
  inTime _ hc :=
    (h.accounted.marks_run command).inTime (h.accounted.clock_run command) h.inTime hc
  byUse := h.byUse_run command

/-! ## Whole runs -/

theorem Recent.runAll (h : s.Recent) (commands : List Command) : (s.runAll commands).Recent := by
  induction commands generalizing s with
  | nil => exact h
  | cons command rest ih => exact ih (h.run command)

theorem recent_empty : empty.Recent where
  accounted := accounted_empty
  inTime c hc := absurd hc (Registry.not_known_empty c)
  byUse p := by
    have hpool : empty.world.pool p = default :=
      Registry.get_of_not_known (Registry.not_known_empty p)
    rw [hpool]
    exact List.Pairwise.nil

/-- **The idle connections of a pool go by use.** -/
structure RestsByUse (s : Session) (p : PoolId) : Prop where
  /-- In the order in which they were returned, none was used before the one in front of it. -/
  order : ((s.world.pool p).idle.reverse.map s.world.lastUsed).Pairwise (· ≤ ·)
  /-- No connection was used before it was opened, or is to be used in time to come. -/
  inTime : ∀ c, s.world.connections.Known c → s.world.InTime c
  /-- Whatever the timeout is, those that have waited for longer come first. -/
  overdue : ∀ timeout, s.world.overdue p timeout <+: (s.world.pool p).idle.reverse
  /-- A connection that a sweep takes out for having waited too long was used before all those
  that it leaves. -/
  sweep : ∀ c ∈ (s.world.pool p).idle, c ∉ ((s.world.sweep p).1.pool p).idle →
    s.world.isOverdue (s.world.pool p).config.idleTimeout c = true →
    ∀ d ∈ ((s.world.sweep p).1.pool p).idle, s.world.lastUsed c < s.world.lastUsed d
  /-- No valid idle connection was used later than the idle one that a checkout hands out. -/
  checkOut : ∀ c, (s.world.checkOut p).2 = .ok c → c ∈ (s.world.pool p).idle →
    ∀ d ∈ (s.world.pool p).idle, s.world.isConnectionValid d = true →
      s.world.lastUsed d ≤ s.world.lastUsed c
  /-- Where a valid one has not waited too long, whatever the timeout is, the one that is handed out
  has not either. -/
  fresh : ∀ timeout c, (s.world.checkOut p).2 = .ok c →
    (∃ d ∈ (s.world.pool p).idle, s.world.isConnectionValid d = true
      ∧ s.world.isOverdue timeout d = false) →
    s.world.isOverdue timeout c = false

/-- A checkout that hands something out was not refused. -/
theorem Accounted.supplies_of_ok (hs : s.Accounted) (h : (s.world.checkOut p).2 = .ok c) :
    World.Supplies p s.world (s.world.checkOut p).1 (.ok c) := by
  cases hclosed : (s.world.pool p).closed with
  | true =>
      rw [World.checkOut_of_closed hclosed] at h
      cases h
  | false =>
      by_cases hfull : s.world.taken s.out p = (s.world.pool p).config.maxConnections
      · rw [hs.balanced.checkOut_of_full hclosed hfull] at h
        cases h
      · rw [← h]
        exact hs.balanced.supplies_checkOut hs.plugged hclosed hfull

/-- What a sweep leaves has not waited too long. -/
theorem Accounted.not_overdue_of_kept (hs : s.Accounted)
    (hc : c ∈ ((s.world.sweep p).1.pool p).idle) :
    c ∈ (s.world.pool p).idle
      ∧ s.world.isOverdue (s.world.pool p).config.idleTimeout c = false := by
  have hdiscarded := World.discarded_sweep hs.balanced hs.plugged p
  rw [read_congr hdiscarded.books Pool.idle fun _ => rfl] at hc
  obtain ⟨hidle, hyoung⟩ := World.mem_unexpired.mp hc
  exact ⟨hidle, (Bool.or_eq_false_iff.mp hyoung).1⟩

theorem Recent.restsByUse (h : s.Recent) (p : PoolId) : s.RestsByUse p := by
  have hs := h.accounted
  have hwaits := hs.balanced.waiting p
  have hlent : ∀ c, (s.world.checkOut p).2 = .ok c → c ∈ (s.world.pool p).idle →
      ∀ d ∈ (s.world.pool p).idle, s.world.isConnectionValid d = true →
        s.world.lastUsed d ≤ s.world.lastUsed c := fun c hc hidle d hd hvalid =>
    (hs.supplies_of_ok hc).lastUsed_le hwaits (h.byUse p) hidle hd hvalid
  refine
    { order := List.pairwise_map.mpr (List.pairwise_reverse.mpr (h.byUse p))
      inTime := h.inTime
      overdue := World.overdue_prefix hwaits (h.byUse p)
      sweep := fun c hc _ hold d hd => ?_
      checkOut := hlent
      fresh := fun timeout c hc ⟨d, hd, hvalid, hyoung⟩ => ?_ }
  · obtain ⟨hidle, hyoung⟩ := hs.not_overdue_of_kept hd
    by_contra hle
    rw [World.isOverdue_of_lastUsed_le (hwaits c hc) (hwaits d hidle) (not_lt.mp hle) hold]
      at hyoung
    cases hyoung
  · refine Bool.eq_false_iff.mpr fun hold => ?_
    have hidle := (hs.supplies_of_ok hc).mem_idle hold
    rw [World.isOverdue_of_lastUsed_le (hwaits c hidle) (hwaits d hd)
      (hlent c hc hidle d hd hvalid) hold] at hyoung
    cases hyoung

/-- **Idle connections go by use.** After any commands, the idle connections of every pool are in the
order of their last use; so those that have waited too long are the first to have been returned, no
sweep takes out one for this and leaves another that has waited longer, and no checkout hands out
one that has waited too long where it could have handed out another. -/
theorem idle_by_use (commands : List Command) (p : PoolId) :
    (empty.runAll commands).RestsByUse p :=
  (recent_empty.runAll commands).restsByUse p

/-- Of three idle connections the one in the middle is the oldest. -/
def staggered : List Command :=
  [.pool (.start "p" { config := { idleTimeout := 5, maxLifetime := 9 } }),
    .pool (.checkOut "p" "f"), .advance 1, .pool (.checkOut "p" "g"), .pool (.checkOut "p" "h"),
    .connection (.checkIn "g"), .advance 5, .connection (.checkIn "f"), .advance 1,
    .connection (.checkIn "h")]

/-- One has waited too long and one has lived too long; the last is left. -/
example : (empty.runAll staggered).world.overdue 1 5 = [2]
    ∧ (((empty.runAll (staggered ++ [.advance 3])).world.sweep 1).1.pool 1).idle = [3] := by
  decide

end Session

end ConnectionPool
