import ConnectionPool.Proofs.Custody.Numbering
import ConnectionPool.Proofs.Session.Accounts
import Mathlib.Data.List.Dedup

/-!
# Checkouts are exact

After any commands the idle connections of a pool stand in the order in which they were last
returned (`InReturnOrder`), and its connections have the numbers from 1 on. So what a checkout does
is determined by the state of its pool and by what the driver reports: it is refused where the pool
is closed or full, and otherwise it ends in one of the ways that `World.Supplies` lists
(`checkOut_exact`).
-/

set_option autoImplicit false

namespace ConnectionPool

namespace Session

/-- The connection that a command puts back into a pool. -/
def returned? (s : Session) (p : PoolId) : Command → Option ConnectionId
  | .connection (.checkIn guard) => (s.guards.get? guard).filter fun c =>
      (s.world.connection c).pool = p && s.world.takesBack c
  | _ => none

/-- **The connections that commands put back into a pool**, in the order in which they do. -/
def returns (p : PoolId) : Session → List Command → List ConnectionId
  | _, [] => []
  | s, command :: rest => (s.returned? p command).toList ++ returns p (s.run command).1 rest

/-- **The idle connections stand in the order of their last return**, the latest in front:
`dedup` keeps the last of every connection in the history of returns. -/
def InReturnOrder (s : Session) (p : PoolId) (history : List ConnectionId) : Prop :=
  (s.world.pool p).idle.reverse.Sublist history.dedup

variable {s s' : Session} {p : PoolId} {c : ConnectionId} {history : List ConnectionId}

/-! ## The order of returns -/

/-- What is returned comes last in the history, and its earlier returns count no more. -/
theorem sublist_dedup_concat {l : List ConnectionId} (hc : c ∉ l)
    (h : l.Sublist history.dedup) : (l ++ [c]).Sublist (history ++ [c]).dedup := by
  induction history generalizing l with
  | nil =>
      rw [List.dedup_nil, List.sublist_nil] at h
      rw [h]
      exact .refl _
  | cons d rest ih =>
      by_cases hd : d ∈ rest
      · rw [List.dedup_cons_of_mem hd] at h
        rw [List.cons_append, List.dedup_cons_of_mem (List.mem_append_left _ hd)]
        exact ih hc h
      · rw [List.dedup_cons_of_notMem hd, List.sublist_cons_iff] at h
        by_cases hdc : d = c
        · subst hdc
          rw [List.cons_append,
            List.dedup_cons_of_mem (List.mem_append_right _ List.mem_cons_self)]
          rcases h with h | ⟨l', rfl, -⟩
          · exact ih hc h
          · exact absurd List.mem_cons_self hc
        · have hnew : d ∉ rest ++ [c] := by simp [hd, hdc]
          rw [List.cons_append, List.dedup_cons_of_notMem hnew]
          rcases h with h | ⟨l', rfl, h⟩
          · exact (ih hc h).cons d
          · exact (ih (fun hm => hc (List.mem_cons_of_mem d hm)) h).cons_cons d

/-- **How the two orders can change**: no connection is opened or put back; one is put back; or a
checkout is done. -/
inductive Stirs (s : Session) : Command → Session → Prop
  | thins {command : Command} {s' : Session} (hr : ∀ p, s.returned? p command = none)
      (h : s.world.Thins s'.world) : Stirs s command s'
  | returns {guard : Name} {c : ConnectionId} {s' : Session} (hg : s.guards.get? guard = some c)
      (ht : s.world.takesBack c = true) (hroll : s.world.SameRoll s'.world)
      (hself : (s'.world.pool (s.world.connection c).pool).idle
        = c :: (s.world.pool (s.world.connection c).pool).idle)
      (hother : ∀ q, (s.world.connection c).pool ≠ q →
        (s'.world.pool q).idle = (s.world.pool q).idle) :
      Stirs s (.connection (.checkIn guard)) s'
  | supplies {command : Command} {s' : Session} {p : PoolId}
      {result : Except PoolError ConnectionId} (hr : ∀ q, s.returned? q command = none)
      (h : World.Supplies p s.world s'.world result) : Stirs s command s'

theorem returned?_eq_none {command : Command}
    (h : ∀ guard, command ≠ .connection (.checkIn guard)) (p : PoolId) :
    s.returned? p command = none := by
  unfold returned?
  split
  · exact absurd rfl (h _)
  · rfl

theorem Accounted.stirs_checkOut (hs : s.Accounted) {command : Command}
    (hr : ∀ q, s.returned? q command = none) {w : World}
    {result : Except PoolError ConnectionId} (h : s.world.checkOut p = (w, result))
    (hw : s'.world = w) : Stirs s command s' := by
  have hsame : s.world.checkOut p = (s.world, result) → Stirs s command s' := by
    intro he
    obtain ⟨rfl, -⟩ := Prod.mk.inj (h.symm.trans he)
    exact .thins hr (hw ▸ .refl _)
  cases hclosed : (s.world.pool p).closed with
  | true =>
      have hrefused := World.checkOut_of_closed hclosed
      obtain ⟨-, rfl⟩ := Prod.mk.inj (h.symm.trans hrefused)
      exact hsame hrefused
  | false =>
      by_cases hfull : s.world.taken s.out p = (s.world.pool p).config.maxConnections
      · have hrefused := hs.balanced.checkOut_of_full hclosed hfull
        obtain ⟨-, rfl⟩ := Prod.mk.inj (h.symm.trans hrefused)
        exact hsame hrefused
      · have hsupplies := hs.balanced.supplies_checkOut hs.plugged hclosed hfull
        rw [h, ← hw] at hsupplies
        exact .supplies hr hsupplies

theorem stirs_checkIn (s : Session) (guard : Name) :
    Stirs s (.connection (.checkIn guard)) (s.run (.connection (.checkIn guard))).1 := by
  show Stirs s _ (s.withGuard guard fun c =>
    ({ s.inWorld (s.world.checkIn c) with guards := s.guards.erase guard }, .done)).1
  unfold withGuard
  cases hg : s.guards.get? guard with
  | none => exact .thins (fun p => by rw [returned?, hg]; rfl) (.refl _)
  | some c =>
      obtain ⟨ht, hthins⟩ | ⟨ht, hroll, hself, hother⟩ := s.world.checkIn_cases c
      · refine .thins (fun p => ?_) hthins
        rw [returned?, hg, Option.filter_some, ht, Bool.and_false]
        rfl
      · exact .returns hg ht hroll hself hother

/-- **What a command does to the two orders.** -/
theorem Accounted.stirs_run (hs : s.Accounted) (command : Command) :
    Stirs s command (s.run command).1 := by
  by_cases hcheck : ∃ guard, command = .connection (.checkIn guard)
  · obtain ⟨guard, rfl⟩ := hcheck
    exact s.stirs_checkIn guard
  · rw [not_exists] at hcheck
    have hr := fun p => returned?_eq_none (s := s) hcheck p
    have hdealing := s.dealing_run command
    generalize (s.run command).1 = s' at hdealing ⊢
    cases hdealing with
    | still h =>
        exact .thins hr (World.thins_of_exterior h.world.connections_size h.world.connection
          h.world.pool)
    | start config hworld => exact .thins hr (hworld ▸ s.world.thins_startPool config)
    | refused hfree hp h => exact hs.stirs_checkOut hr h rfl
    | granted hfree hp h => exact hs.stirs_checkOut hr h rfl
    | shutDown => exact .thins hr (s.world.thins_shutDown _)
    | sweep => exact .thins hr (s.world.thins_sweep _)
    | checkIn => exact absurd rfl (hcheck _)
    | retire => exact .thins hr (s.world.thins_retire _)
    | dial => exact .thins hr (World.thins_of_exterior rfl (fun _ => rfl) fun _ => rfl)
    | cut => exact .thins hr (World.thins_of_exterior rfl (fun _ => rfl) fun _ => rfl)

theorem Stirs.numbersAll {command : Command} (h : Stirs s command s')
    (hs : s.world.NumbersAll) : s'.world.NumbersAll := by
  cases h with
  | thins _ h => exact hs.sameRoll h.toSameRoll
  | returns _ _ hroll => exact hs.sameRoll hroll
  | supplies _ h => exact h.numbersAll hs

/-- **One command keeps the order of returns**, with what it puts back as the latest. -/
theorem Stirs.inReturnOrder {command : Command} (h : Stirs s command s') (hs : s.Accounted)
    (ho : s.InReturnOrder p history) :
    s'.InReturnOrder p (history ++ (s.returned? p command).toList) := by
  have hless : s.returned? p command = none →
      (s'.world.pool p).idle.Sublist (s.world.pool p).idle →
      s'.InReturnOrder p (history ++ (s.returned? p command).toList) := by
    intro hr hidle
    rw [hr, Option.toList_none, List.append_nil]
    exact (List.reverse_sublist.mpr hidle).trans ho
  cases h with
  | thins hr h => exact hless (hr p) (h.idle p)
  | supplies hr h => exact hless (hr p) (h.idle p)
  | @returns guard c _ hg ht hroll hself hother =>
      by_cases hp : (s.world.connection c).pool = p
      · have hreturned : s.returned? p (.connection (.checkIn guard)) = some c := by
          rw [returned?, hg, Option.filter_some, ht, hp]
          simp
        have hout : c ∈ s.out := mem_out hg
        rw [hreturned, Option.toList_some, InReturnOrder, ← hp, hself, hp, List.reverse_cons]
        exact sublist_dedup_concat (fun hm =>
          hs.balanced.apart p c (List.mem_reverse.mp hm) hout) ho
      · refine hless ?_ (hother p hp ▸ .refl _)
        rw [returned?, hg, Option.filter_some, decide_eq_false hp, Bool.false_and]
        rfl

/-! ## Whole runs -/

/-- A session whose pools keep their connections in order. -/
structure Ordered (s : Session) (history : PoolId → List ConnectionId) : Prop where
  accounted : s.Accounted
  numbers : s.world.NumbersAll
  returns : ∀ p, s.InReturnOrder p (history p)

theorem Ordered.runAll {history : PoolId → List ConnectionId} (hs : s.Ordered history)
    (commands : List Command) :
    (s.runAll commands).Ordered fun p => history p ++ s.returns p commands := by
  induction commands generalizing s history with
  | nil =>
      have hnone : (fun p => history p ++ s.returns p []) = history := by
        funext p
        exact List.append_nil _
      rw [hnone]
      exact hs
  | cons command rest ih =>
      have hstirs := hs.accounted.stirs_run command
      have hordered : (s.run command).1.Ordered fun p =>
          history p ++ (s.returned? p command).toList :=
        ⟨(hs.accounted.run command).accounted, hstirs.numbersAll hs.numbers,
          fun p => hstirs.inReturnOrder hs.accounted (hs.returns p)⟩
      have hnext := ih hordered
      simp only [List.append_assoc] at hnext
      exact hnext

/-- **What a checkout does** is determined by the state of its pool: it is refused, with nothing
changed, where the pool is closed or as many guards of it are alive as there may be connections;
and otherwise it ends in one of the ways of `World.Supplies`. A pool that does not test its idle
connections passes none over. -/
structure Serves (s : Session) (p : PoolId) : Prop where
  closed : (s.world.pool p).closed = true →
    s.world.checkOut p = (s.world, .error .poolClosed)
  full : (s.world.pool p).closed = false →
    ((∃ limit, (s.world.checkOut p).2 = .error (.maxConnectionsReached limit))
      ↔ s.world.taken s.out p = (s.world.pool p).config.maxConnections)
  refused : (s.world.pool p).closed = false →
    s.world.taken s.out p = (s.world.pool p).config.maxConnections →
    s.world.checkOut p = (s.world,
      .error (.maxConnectionsReached (s.world.pool p).config.maxConnections))
  supplied : (s.world.pool p).closed = false →
    s.world.taken s.out p ≠ (s.world.pool p).config.maxConnections →
    World.Supplies p s.world (s.world.checkOut p).1 (s.world.checkOut p).2
  untested : (s.world.pool p).config.testOnCheckout = false →
    s.world.passedOver p = [] ∧ s.world.remaining p = (s.world.pool p).idle

theorem Accounted.serves (hs : s.Accounted) (p : PoolId) : s.Serves p where
  closed := World.checkOut_of_closed
  full hopen := by
    constructor
    · rintro ⟨limit, hlimit⟩
      by_contra hroom
      exact (hs.balanced.supplies_checkOut hs.plugged hopen hroom).not_full limit hlimit
    · intro hfull
      rw [hs.balanced.checkOut_of_full hopen hfull]
      exact ⟨_, rfl⟩
  refused hopen hfull := hs.balanced.checkOut_of_full hopen hfull
  supplied hopen hroom := hs.balanced.supplies_checkOut hs.plugged hopen hroom
  untested := World.passedOver_of_untested

/-- Two connections are returned, and then the driver reports none valid any more. -/
def waning : List Command :=
  [.pool (.start "p" {}), .pool (.checkOut "p" "g"), .pool (.checkOut "p" "h"),
    .connection (.checkIn "h"), .connection (.checkIn "g"), .switch (.validity false)]

/-- The connection that was returned last is passed over first, and a third one is opened. -/
example : (empty.runAll waning).world.passedOver 1 = [1, 2]
    ∧ ((empty.runAll waning).world.checkOut 1).2 = .ok 3 := ⟨by decide, by rfl⟩

end Session

end ConnectionPool
