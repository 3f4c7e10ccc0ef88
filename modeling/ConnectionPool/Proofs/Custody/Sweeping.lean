import ConnectionPool.Proofs.Closing.Shutdown
import ConnectionPool.Proofs.Custody.Discarding

/-!
# Sweeping out the connections that are too old

A sweep strikes the idle connections that are too old off the books of their pool, and then tears
them down one after the other. What is left are the other idle connections, as they were
(`discarded_sweep`). Every hook on the way sees the books as they are in the end (`heard_sweep`), a
sweep that follows at once finds nothing (`sweep_again`), and one at a later time finds no fewer
(`expired_sublist_later`).
-/

set_option autoImplicit false

namespace ConnectionPool

namespace Metadata

theorem outlived_iff (metadata : Metadata) (lifetime now : Millis) :
    metadata.outlived lifetime now = true ↔ metadata.createdAt + lifetime < now := by
  rw [outlived, decide_eq_true_iff, age, Nat.lt_sub_iff_add_lt']

theorem overdue_iff (metadata : Metadata) (timeout now : Millis) :
    metadata.overdue timeout now = true
      ↔ metadata.state = .idle ∧ metadata.lastUsedAt + timeout < now := by
  rw [overdue, Bool.and_eq_true, decide_eq_true_iff, rest, Nat.lt_sub_iff_add_lt',
    ConnectionState.isAvailable, beq_iff_eq]

end Metadata

namespace World

/-- The idle connections of a pool that are not too old, the one returned last first. -/
def unexpired (w : World) (p : PoolId) : List ConnectionId :=
  (w.pool p).idle.filter fun c => !w.isExpired p c

/-- The connections that are too old are struck off the books of a pool. -/
def strikeOff (w : World) (p : PoolId) : World :=
  w.updatePool p fun pool =>
    { pool with
      idle := pool.idle.filter fun c => !w.isExpired p c
      total := pool.total - (w.expired p).length }

variable {w w' w'' : World} {p : PoolId} {c : ConnectionId} {l l' : List ConnectionId}
  {out : Multiset ConnectionId} {raw : PhysicalConnectionId → Prop} {finalizing : Bool}

theorem sweep_eq (w : World) (p : PoolId) :
    w.sweep p = ((w.expired p).foldl forget
      ((w.expired p).foldl (teardown false) (w.strikeOff p)), (w.expired p).length) := rfl

theorem mem_expired : c ∈ w.expired p ↔ c ∈ (w.pool p).idle ∧ w.isExpired p c = true := by
  rw [expired, List.mem_reverse, List.mem_filter]

theorem mem_unexpired : c ∈ w.unexpired p ↔ c ∈ (w.pool p).idle ∧ w.isExpired p c = false := by
  rw [unexpired, List.mem_filter, Bool.not_eq_true']

/-- **When an idle connection is too old**: strictly more than the timeout has passed since it was
last used, or strictly more than the lifetime since it was opened. -/
theorem isExpired_iff (h : w.Waiting p c) :
    w.isExpired p c = true
      ↔ (w.connection c).metadata.lastUsedAt + (w.pool p).config.idleTimeout < w.now
        ∨ (w.connection c).metadata.createdAt + (w.pool p).config.maxLifetime < w.now := by
  rw [isExpired, Bool.or_eq_true, Metadata.overdue_iff, Metadata.outlived_iff,
    and_iff_right h.state]

theorem nodup_expired (hw : w.Balanced out) (p : PoolId) : (w.expired p).Nodup :=
  List.nodup_reverse.mpr ((hw.idle_nodup p).filter _)

theorem live_of_expired (hw : w.Balanced out) (hc : c ∈ w.expired p) : w.Live c :=
  (hw.waiting p c (mem_expired.mp hc).1).live

/-! ## Tearing several connections down -/

/-- **Connections were torn down** one after the other, and everything else that can be seen from
outside the chains is as it was. -/
structure AllTornDown (finalizing : Bool) (l : List ConnectionId) (w w' : World) : Prop where
  now : w'.now = w.now
  faults : w'.driver.faults = w.driver.faults
  lines_size : w'.driver.connections.size = w.driver.connections.size
  connections_size : w'.connections.size = w.connections.size
  pools_size : w'.pools.size = w.pools.size
  pool : ∀ q, (w'.pool q).exterior = (w.pool q).exterior
  gone : ∀ c ∈ l, (w'.connection c).exterior = ((w.connection c).hungUp.enter .closed).exterior
  others : ∀ d, d ∉ l → (w'.connection d).exterior = (w.connection d).exterior
  lines : ∀ line, (w'.driver.connection line).closed = true
    ↔ (∃ c ∈ l, (w.connection c).physical = line) ∨ (w.driver.connection line).closed = true
  emits : Emits (l.flatMap fun c => (w.connection c).farewell c finalizing) w w'

theorem AllTornDown.nil (w : World) : AllTornDown finalizing [] w w where
  now := rfl
  faults := rfl
  lines_size := rfl
  connections_size := rfl
  pools_size := rfl
  pool _ := rfl
  gone _ hc := absurd hc List.not_mem_nil
  others _ _ := rfl
  lines _ := by simp
  emits := .refl w

/-- One connection is torn down, and then others. -/
theorem TornDown.cons (h : TornDown finalizing c w w') (hnow : w'.now = w.now)
    (hfaults : w'.driver.faults = w.driver.faults) (h' : AllTornDown finalizing l w' w'')
    (hc : c ∉ l) : AllTornDown finalizing (c :: l) w w'' := by
  have hne : ∀ d ∈ l, d ≠ c := fun d hd he => hc (he ▸ hd)
  have hphysical : ∀ d, (w'.connection d).physical = (w.connection d).physical := by
    intro d
    by_cases hd : d = c
    · rw [hd]
      exact h.alters.read Connection.physical fun _ => rfl
    · exact read_congr (h.alters.other d hd) Connection.physical fun _ => rfl
  exact
    { now := h'.now.trans hnow
      faults := h'.faults.trans hfaults
      lines_size := by
        rw [h'.lines_size, h.lines, Driver.size_connections_closeConnection]
      connections_size := h'.connections_size.trans h.alters.connections_size
      pools_size := h'.pools_size.trans h.alters.pools_size
      pool := fun q => (h'.pool q).trans (h.alters.pool q)
      gone := fun d hd => by
        rcases List.mem_cons.mp hd with rfl | hd
        · exact (h'.others d hc).trans h.alters.self
        · exact (h'.gone d hd).trans (read_congr (h.alters.other d (hne d hd)) (fun connection =>
            (connection.hungUp.enter .closed).exterior) fun _ => rfl)
      others := fun d hd => by
        rw [List.mem_cons, not_or] at hd
        exact (h'.others d hd.2).trans (h.alters.other d hd.1)
      lines := fun line => by
        rw [h'.lines, h.closed_line, Bool.or_eq_true, decide_eq_true_eq]
        simp only [hphysical, List.mem_cons, exists_eq_or_imp]
        exact or_left_comm.trans or_assoc.symm
      emits := by
        have hsame : (l.flatMap fun d => (w'.connection d).farewell d finalizing)
            = l.flatMap fun d => (w.connection d).farewell d finalizing :=
          List.flatMap_congr fun d hd => read_congr (h.alters.other d (hne d hd))
            (fun connection => connection.farewell d finalizing) fun _ => rfl
        have hemits := h'.emits
        rw [hsame] at hemits
        exact h.emits.trans hemits }

/-- **Open connections are torn down** one after the other. -/
theorem allTornDown (finalizing : Bool) (l : List ConnectionId) :
    ∀ {w : World}, w.Plugged raw → l.Nodup → (∀ c ∈ l, w.Live c) →
      AllTornDown finalizing l w (l.foldl (teardown finalizing) w) := by
  induction l with
  | nil => exact fun {w} _ _ _ => .nil w
  | cons c rest ih =>
      intro w hplug hnodup hlive
      obtain ⟨hc, hnodup⟩ := List.nodup_cons.mp hnodup
      have hl := hlive c List.mem_cons_self
      have hspared := spares_teardown hplug hl.known finalizing
      have hrest := ih (hplug.spares hspared) hnodup fun d hd =>
        hspared.live d (fun he => hc (he ▸ hd)) (hlive d (List.mem_cons_of_mem c hd))
      exact (tornDown_teardown hl finalizing).cons (now_teardown w c finalizing)
        (faults_teardown w c finalizing) hrest hc

/-! ## The sweep -/

/-- A pool that was never started has nothing to sweep. -/
theorem idle_of_not_known (h : ¬ w.pools.Known p) : (w.pool p).idle = [] := by
  rw [pool, Registry.get_of_not_known h]
  rfl

/-- **A sweep discards the connections that are too old**, and the others wait as before. -/
theorem discarded_sweep (hw : w.Balanced out) (hplug : w.Plugged raw) (p : PoolId) :
    Discarded p (w.expired p) (w.unexpired p) w (w.sweep p).1 := by
  by_cases hp : w.pools.Known p
  · have hall := allTornDown false (w.expired p) (hplug.updatePool p fun pool => { pool with
        idle := pool.idle.filter fun c => !w.isExpired p c
        total := pool.total - (w.expired p).length }) (nodup_expired hw p) fun c hc =>
      (live_of_expired hw hc).updatePool p _
    have hstruck : Emits [] w (w.strikeOff p) := emits_none rfl rfl
    have hdiscarded : Discarded p (w.expired p) (w.unexpired p) w
        ((w.expired p).foldl (teardown false) (w.strikeOff p)) :=
      { now := hall.now
        faults := hall.faults
        lines_size := hall.lines_size
        connections_size := hall.connections_size
        pools_size := hall.pools_size.trans (Registry.size_modify _ _ _)
        books := (hall.pool p).trans (by rw [pool_updatePool_self hp]; rfl)
        pools := fun q hq => (hall.pool q).trans (by rw [pool_updatePool_of_ne hq.symm])
        gone := hall.gone
        others := hall.others
        lines := hall.lines
        emits := hstruck.trans hall.emits }
    exact hdiscarded.deeds (deeds_forgetAll _ _)
  · have hidle := idle_of_not_known hp
    have hexpired : w.expired p = [] := by rw [expired, hidle]; rfl
    have hunexpired : w.unexpired p = [] := by rw [unexpired, hidle]; rfl
    rw [sweep_of_idle_nil hidle, hexpired, hunexpired]
    exact .none hidle

/-- **Every hook of a sweep sees the final books**: all connections that are too old are off them
before the first of them is torn down. -/
theorem heard_sweep (hw : w.Balanced out) (hplug : w.Plugged raw) (p : PoolId) :
    Heard (fun _ _ sight => sight.status = ((w.sweep p).1.pool p).status) w (w.sweep p).1 := by
  have hspared : Spares (· ∈ w.expired p) (w.strikeOff p) (w.sweep p).1 :=
    (spares_teardownAll (w := w.strikeOff p) false (hplug.updatePool p _)
      fun c hc => (live_of_expired hw hc).known).trans (unseen_forgetAll (w.expired p) _).spares
  have htorn : Heard (fun _ _ sight => sight.status = ((w.strikeOff p).pool p).status)
      (w.strikeOff p) ((w.expired p).foldl (teardown false) (w.strikeOff p)) :=
    (seen_teardownAll (p := p) false (hplug.updatePool p _) fun c hc =>
      ⟨(live_of_expired hw hc).known, (hw.waiting p c (mem_expired.mp hc).1).pool⟩).mono
      fun _ _ _ hr => hr.2.2
  have hheard : Heard (fun _ _ sight => sight.status = ((w.strikeOff p).pool p).status)
      (w.strikeOff p) (w.sweep p).1 :=
    htorn.trans (deeds_forgetAll _ (w.expired p)).quiet.heard
  have hstruck : Heard (fun _ _ sight => sight.status = ((w.sweep p).1.pool p).status) w
      (w.strikeOff p) := heard_of_journal rfl
  rw [← hspared.status p] at hheard
  exact hstruck.trans hheard

/-- What is not too old is not too old right after a sweep. -/
theorem Discarded.expired_eq_nil (h : Discarded p (w.expired p) (w.unexpired p) w w') :
    w'.expired p = [] := by
  have hidle : (w'.pool p).idle = w.unexpired p := read_congr h.books Pool.idle fun _ => rfl
  have hconfig : (w'.pool p).config = (w.pool p).config :=
    read_congr h.books Pool.config fun _ => rfl
  refine List.eq_nil_iff_forall_not_mem.mpr fun c hc => ?_
  obtain ⟨hc, hold⟩ := mem_expired.mp hc
  rw [hidle] at hc
  obtain ⟨hc, hyoung⟩ := mem_unexpired.mp hc
  have hkept : c ∉ w.expired p := fun hm => by
    rw [(mem_expired.mp hm).2] at hyoung
    cases hyoung
  have hmetadata : (w'.connection c).metadata = (w.connection c).metadata :=
    read_congr (h.others c hkept) Connection.metadata fun _ => rfl
  rw [isExpired, hconfig, hmetadata, h.now] at hold
  rw [isExpired] at hyoung
  exact absurd (hold.symm.trans hyoung) (by decide)

/-- Where nothing is too old, a sweep does nothing. -/
theorem sweep_of_expired_nil (h : w.expired p = []) : w.sweep p = (w, 0) := by
  have hkept : (w.pool p).idle.filter (fun c => !w.isExpired p c) = (w.pool p).idle := by
    refine List.filter_eq_self.mpr fun c hc => ?_
    rw [Bool.not_eq_true']
    refine Bool.eq_false_iff.mpr fun hold => ?_
    have hmem := mem_expired.mpr ⟨hc, hold⟩
    rw [h] at hmem
    exact List.not_mem_nil hmem
  rw [sweep_eq, h]
  refine Prod.ext (updatePool_eq_self ?_) rfl
  rw [h, hkept]
  rfl

/-- **A sweep that follows at once** finds nothing and changes nothing. -/
theorem sweep_again (hw : w.Balanced out) (hplug : w.Plugged raw) (p : PoolId) :
    (w.sweep p).1.sweep p = ((w.sweep p).1, 0) :=
  sweep_of_expired_nil (discarded_sweep hw hplug p).expired_eq_nil

/-- **What is too old stays too old** as time passes. -/
theorem expired_sublist_later (w : World) (p : PoolId) (span : Millis) :
    (w.expired p).Sublist (({ w with now := w.now + span } : World).expired p) := by
  refine List.reverse_sublist.mpr (List.monotone_filter_right _ fun c hold => ?_)
  rw [isExpired, Bool.or_eq_true, Metadata.overdue_iff, Metadata.outlived_iff] at hold ⊢
  exact hold.imp (And.imp_right fun h => Nat.lt_add_right span h) fun h => Nat.lt_add_right span h

end World

end ConnectionPool
