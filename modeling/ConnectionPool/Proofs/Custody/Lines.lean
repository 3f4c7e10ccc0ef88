import ConnectionPool.Proofs.Custody.Documented

/-!
# No line is leaked or closed twice

A line is opened for a pool when the driver opens it while a connection of the pool is checked out
(`Session.dialled`). Every line that was ever opened for a pool is closed, once, or belongs to a
connection of the pool that one guard of the client holds or one slot of the pool
(`no_line_leaked`). Lines that are opened for nothing, because a definition refuses to make its
interceptor, are closed before the checkout is answered.

What carries the proof is that the lines of a pool and its connections correspond
(`Session.LinesOf`); a new connection comes from a checkout only, which hands it out.
-/

set_option autoImplicit false

namespace ConnectionPool

namespace Driver

variable {driver driver' : Driver}

/-- **What is opened between two faithful ledgers** is what the later one has more. -/
theorem Faithful.newLines (h : driver.Faithful) (h' : driver'.Faithful)
    {lines : List PhysicalConnectionId}
    (ho : driver'.log.openings = driver.log.openings ++ lines) :
    lines.Nodup ∧ ∀ line, line ∈ lines
      ↔ driver'.connections.Known line ∧ ¬ driver.connections.Known line := by
  rw [h.openings, h'.openings] at ho
  have hall : (List.range' 1 driver.connections.size ++ lines).Nodup := by
    rw [← ho]
    exact List.nodup_range'
  obtain ⟨-, hnodup, hapart⟩ := List.nodup_append.mp hall
  refine ⟨hnodup, fun line => ?_⟩
  have hmem : line ∈ List.range' 1 driver'.connections.size
      ↔ line ∈ List.range' 1 driver.connections.size ∨ line ∈ lines := by
    rw [ho, List.mem_append]
  have hknown : ∀ n size : Nat, n ∈ List.range' 1 size ↔ n ≠ 0 ∧ n ≤ size := by
    intro n size
    rw [List.mem_range'_1]
    omega
  rw [hknown, hknown] at hmem
  constructor
  · intro hl
    refine ⟨hmem.mpr (Or.inr hl), fun hk => ?_⟩
    exact hapart line ((hknown _ _).mpr hk) line hl rfl
  · rintro ⟨hk, hn⟩
    exact (hmem.mp hk).resolve_left hn

/-- A line that was closed stays closed. -/
theorem Faithful.closed_of_hangUps (h : driver.Faithful) (h' : driver'.Faithful)
    {lines : List PhysicalConnectionId}
    (hh : driver'.log.hangUps = driver.log.hangUps ++ lines) {line : PhysicalConnectionId}
    (hk : driver.connections.Known line) (hc : (driver.connection line).closed = true) :
    (driver'.connection line).closed = true := by
  have hold : line ∈ driver'.log.hangUps := by
    rw [hh]
    exact List.mem_append_left _ ((h.mem_hangUps line).mpr ⟨hk, hc⟩)
  exact ((h'.mem_hangUps line).mp hold).2

end Driver

namespace Session

variable {s t : Session} {p : PoolId} {c : ConnectionId} {line : PhysicalConnectionId}
  {lines : List PhysicalConnectionId}

/-! ## The lines that are opened for a pool -/

/-- **The lines that a command opens for a pool**: those that the driver opens while a connection
of the pool is checked out. -/
def dialled (s : Session) (p : PoolId) : Command → List PhysicalConnectionId
  | .pool (.checkOut pool save) =>
      if s.pools.get? pool = some p then
        DriverLog.openings ((s.run (.pool (.checkOut pool save))).1.world.driver.log.drop
          s.world.driver.log.length)
      else []
  | _ => []

/-- The lines that commands open for a pool, one after the other. -/
def dialledAll (s : Session) (p : PoolId) : List Command → List PhysicalConnectionId
  | [] => []
  | command :: rest => s.dialled p command ++ (s.run command).1.dialledAll p rest

/-- **What any client may come to**, with all lines that were opened for a pool on the way. -/
inductive Dials (p : PoolId) (s : Session) : List PhysicalConnectionId → Session → Prop
  | refl : Dials p s [] s
  | run {lines : List PhysicalConnectionId} {t : Session} (h : Dials p s lines t)
      (command : Command) : Dials p s (lines ++ t.dialled p command) (t.run command).1
  | reorder {lines : List PhysicalConnectionId} {t : Session} (h : Dials p s lines t)
      {c : ConnectionId} {entries : Table fun _ : CacheKey => Tracked}
      (hs : ((t.world.connection c).store?).isSome = true)
      (he : entries.bag = (t.world.store c).entries.bag) :
      Dials p s lines (t.inWorld (t.world.setStore c { t.world.store c with entries }))

theorem Dials.proceeds (h : Dials p s lines t) : Proceeds s t := by
  induction h with
  | refl => exact .refl
  | run _ command ih => exact ih.run command
  | reorder _ hs he ih => exact ih.reorder hs he

theorem Dials.runAll (h : Dials p s lines t) (commands : List Command) :
    Dials p s (lines ++ t.dialledAll p commands) (t.runAll commands) := by
  induction commands generalizing lines t with
  | nil =>
      rw [dialledAll, List.append_nil]
      exact h
  | cons command rest ih =>
      rw [dialledAll, ← List.append_assoc]
      exact ih (h.run command)

/-- Whatever a client comes to, some lines were opened for a pool on the way. -/
theorem Proceeds.dials (h : Proceeds s t) (p : PoolId) : ∃ lines, Dials p s lines t := by
  induction h with
  | refl => exact ⟨[], .refl⟩
  | run _ command ih =>
      obtain ⟨lines, hdials⟩ := ih
      exact ⟨_, hdials.run command⟩
  | reorder _ hs he ih =>
      obtain ⟨lines, hdials⟩ := ih
      exact ⟨lines, hdials.reorder hs he⟩

/-- **What the driver opens in the course of a command** is what it has more afterwards. -/
theorem Documented.openings (h : s.Documented) (command : Command)
    {opened : List PhysicalConnectionId}
    (ho : opened = DriverLog.openings
      ((s.run command).1.world.driver.log.drop s.world.driver.log.length)) :
    opened.Nodup ∧ ∀ line, line ∈ opened
      ↔ (s.run command).1.world.driver.connections.Known line
        ∧ ¬ s.world.driver.connections.Known line := by
  obtain ⟨l, hmoves⟩ := h.accounted.moves command
  obtain ⟨events, _, hlog, -⟩ := hmoves.emits
  change (s.run command).1.world.driver.log = s.world.driver.log ++ events at hlog
  refine h.faithful.newLines (h.run command).faithful ?_
  rw [ho, hlog, List.drop_left]
  exact List.filterMap_append

/-- **A line is opened for a pool** by a checkout that names the pool. -/
theorem Documented.mem_dialled (h : s.Documented) {command : Command}
    (hl : line ∈ s.dialled p command) :
    (∃ pool save, command = .pool (.checkOut pool save) ∧ s.pools.get? pool = some p)
      ∧ (s.run command).1.world.driver.connections.Known line
      ∧ ¬ s.world.driver.connections.Known line := by
  unfold dialled at hl
  split at hl
  · next pool save =>
      split at hl
      · next hp => exact ⟨⟨pool, save, rfl, hp⟩, ((h.openings _ rfl).2 line).mp hl⟩
      · cases hl
  · cases hl

theorem Documented.nodup_dialled (h : s.Documented) (p : PoolId) (command : Command) :
    (s.dialled p command).Nodup := by
  unfold dialled
  split
  · split
    · exact (h.openings _ rfl).1
    · exact List.nodup_nil
  · exact List.nodup_nil

/-- A checkout that names a pool opens its new lines for the pool. -/
theorem Documented.mem_dialled_of_new (h : s.Documented) {pool save : Name}
    (hp : s.pools.get? pool = some p)
    (hk : (s.run (.pool (.checkOut pool save))).1.world.driver.connections.Known line)
    (hn : ¬ s.world.driver.connections.Known line) :
    line ∈ s.dialled p (.pool (.checkOut pool save)) := by
  rw [dialled, if_pos hp]
  exact ((h.openings _ rfl).2 line).mpr ⟨hk, hn⟩

/-! ## The lines of a pool and its connections -/

/-- **The lines that were opened for a pool**: those that are open are the lines of connections of
the pool, and these have no others. -/
structure LinesOf (p : PoolId) (lines : List PhysicalConnectionId) (s : Session) : Prop where
  nodup : lines.Nodup
  known : ∀ line ∈ lines, s.world.driver.connections.Known line
  owner : ∀ line ∈ lines, (s.world.driver.connection line).closed = false →
    ∃ c, s.world.connections.Known c ∧ (s.world.connection c).pool = p
      ∧ (s.world.connection c).physical = line
  complete : ∀ c, s.world.connections.Known c → (s.world.connection c).pool = p →
    (s.world.connection c).physical ∈ lines

/-- **A new connection of a pool** is what a checkout that names the pool hands out. -/
theorem Documented.newConnection (h : s.Documented) {command : Command}
    (hk : (s.run command).1.world.connections.Known c) (hn : ¬ s.world.connections.Known c) :
    ∃ pool save, command = .pool (.checkOut pool save)
      ∧ s.pools.get? pool = some ((s.run command).1.world.connection c).pool
      ∧ (s.run command).2 = .done
      ∧ ¬ s.world.driver.connections.Known ((s.run command).1.world.connection c).physical := by
  obtain ⟨l, hmoves⟩ := h.accounted.moves command
  have hline := (hmoves.continues.newConnections c hk hn).1
  obtain ⟨pool, save, q, w, rfl, hp, hfree, hchecked, hrun⟩ := h.accounted.newConnection hk hn
  have hpool := (Custody.handed_checkOut h.accounted.balanced h.accounted.plugged hchecked).1
  have hreply : (s.run (.pool (.checkOut pool save))).2 = .done := by
    rw [run_checkOut_ok hfree hp hchecked]
  refine ⟨pool, save, rfl, ?_, hreply, hline⟩
  rw [hrun, hp]
  exact congrArg some hpool.symm

/-- **An open line that a checkout has opened** belongs to a new connection. -/
theorem Documented.owner_of_dialled (h : s.Documented) {command : Command}
    (hl : line ∈ s.dialled p command)
    (hopen : ((s.run command).1.world.driver.connection line).closed = false) :
    ∃ c, (s.run command).1.world.connections.Known c ∧ ¬ s.world.connections.Known c
      ∧ ((s.run command).1.world.connection c).pool = p
      ∧ ((s.run command).1.world.connection c).physical = line := by
  obtain ⟨⟨pool, save, rfl, hp⟩, hk, hn⟩ := h.mem_dialled hl
  obtain ⟨l, hmoves⟩ := h.accounted.moves (.pool (.checkOut pool save))
  rcases (h.run (.pool (.checkOut pool save))).kept.owned line hk hopen with
    ⟨c, hc, hphysical⟩ | ⟨name, hraw⟩
  · have hnew : ¬ s.world.connections.Known c := by
      intro hold
      obtain ⟨-, -, hsame, -⟩ := hmoves.continues.connections c hold
      change ((s.run (.pool (.checkOut pool save))).1.world.connection c).physical
        = (s.world.connection c).physical at hsame
      change ((s.run (.pool (.checkOut pool save))).1.world.connection c).physical = line
        at hphysical
      rw [← hphysical, hsame] at hn
      exact hn (h.accounted.plugged.known c hold)
    obtain ⟨pool', save', he, hp', -⟩ := h.newConnection hc hnew
    cases he
    rw [hp] at hp'
    exact ⟨c, hc, hnew, (Option.some.inj hp').symm, hphysical⟩
  · -- the client has opened no line
    have hsame : (s.run (.pool (.checkOut pool save))).1.raw = s.raw := by
      have hdealing := s.dealing_run (.pool (.checkOut pool save))
      generalize (s.run (.pool (.checkOut pool save))).1 = s' at hdealing
      cases hdealing with
      | still h => exact h.raw
      | refused => rfl
      | granted => rfl
    rw [hsame] at hraw
    exact absurd (h.accounted.plugged.raw_known line ⟨name, hraw⟩) hn

/-- **A command keeps the lines of a pool.** -/
theorem LinesOf.run (hl : LinesOf p lines s) (h : s.Documented) (command : Command) :
    LinesOf p (lines ++ s.dialled p command) (s.run command).1 := by
  obtain ⟨l, hmoves⟩ := h.accounted.moves command
  have hstays := hmoves.continues
  have hafter := h.run command
  refine ⟨?_, fun line hm => ?_, fun line hm hopen => ?_, fun c hc hp => ?_⟩
  · refine List.nodup_append.mpr ⟨hl.nodup, h.nodup_dialled p command, fun a ha b hb he => ?_⟩
    exact (h.mem_dialled hb).2.2 (he ▸ hl.known a ha)
  · rcases List.mem_append.mp hm with hm | hm
    · exact hstays.lines line (hl.known line hm)
    · exact (h.mem_dialled hm).2.1
  · -- an old line is its old owner's, a new one belongs to what the checkout hands out
    rcases List.mem_append.mp hm with hm | hm
    · have hknown := hl.known line hm
      have hopened : (s.world.driver.connection line).closed = false :=
        Bool.eq_false_of_not_eq_true fun hclosed => by
          rw [h.faithful.closed_of_hangUps hafter.faithful hmoves.emits.hangUps hknown hclosed]
            at hopen
          exact nomatch hopen
      obtain ⟨c, hc, hp, hphysical⟩ := hl.owner line hm hopened
      obtain ⟨hc', hp', hphysical', -⟩ := hstays.connections c hc
      exact ⟨c, hc', hp'.trans hp, hphysical'.trans hphysical⟩
    · obtain ⟨c, hc, -, hp, hphysical⟩ := h.owner_of_dialled hm hopen
      exact ⟨c, hc, hp, hphysical⟩
  · by_cases hold : s.world.connections.Known c
    · obtain ⟨-, hp', hphysical, -⟩ := hstays.connections c hold
      change ((s.run command).1.world.connection c).pool = (s.world.connection c).pool at hp'
      change ((s.run command).1.world.connection c).physical
        = (s.world.connection c).physical at hphysical
      rw [hphysical]
      exact List.mem_append_left _ (hl.complete c hold (hp'.symm.trans hp))
    · obtain ⟨pool, save, rfl, hnamed, -, hn⟩ := h.newConnection hc hold
      rw [hp] at hnamed
      exact List.mem_append_right _
        (h.mem_dialled_of_new hnamed (hafter.accounted.plugged.known c hc) hn)

/-- The lines of a pool are what they are when nothing happens to connections. -/
theorem LinesOf.still (hl : LinesOf p lines s) {s' : Session} (h : Still s s') :
    LinesOf p lines s' := by
  have hknown : ∀ c, s'.world.connections.Known c ↔ s.world.connections.Known c :=
    Registry.known_congr h.world.connections_size
  have hpool := h.world.read Connection.pool fun _ => rfl
  have hphysical := h.world.read Connection.physical fun _ => rfl
  refine ⟨hl.nodup, fun line hm => ?_, fun line hm hopen => ?_, fun c hc hp => ?_⟩
  · rw [h.world.lines]
    exact hl.known line hm
  · rw [Driver.connection, h.world.lines] at hopen
    obtain ⟨c, hc, hp, hline⟩ := hl.owner line hm hopen
    exact ⟨c, (hknown c).mpr hc, (hpool c).trans hp, (hphysical c).trans hline⟩
  · rw [hphysical c]
    exact hl.complete c ((hknown c).mp hc) ((hpool c).symm.trans hp)

theorem Dials.linesOf (hd : Dials p empty lines t) : LinesOf p lines t := by
  induction hd with
  | refl =>
      exact ⟨List.nodup_nil, nofun, nofun, fun c hc => absurd hc (Registry.not_known_empty c)⟩
  | run hd command ih => exact ih.run (hd.proceeds.documented documented_empty) command
  | reorder _ _ _ ih => exact ih.still (still_reorder _ _ _)

/-! ## Who holds a line -/

/-- **A connection of a pool is held once**: by one guard of the client, or in one slot of the
pool. -/
inductive HeldOnce (s : Session) (p : PoolId) (c : ConnectionId) : Prop
  | guard (name : Name) (hg : ∀ other, s.guards.get? other = some c ↔ other = name)
      (hi : ∀ q, c ∉ (s.world.pool q).idle)
  | slot (hg : ∀ name, s.guards.get? name ≠ some c) (hi : (s.world.pool p).idle.count c = 1)
      (ho : ∀ q, q ≠ p → c ∉ (s.world.pool q).idle)

theorem exists_guard (h : c ∈ s.out) : ∃ name, s.guards.get? name = some c := by
  obtain ⟨⟨name, d⟩, hm, rfl⟩ := Multiset.mem_map.mp h
  exact ⟨name, (Table.mem_bag _ _ _).mp hm⟩

/-- **No two guards hold one connection.** -/
theorem Accounted.guard_unique (hs : s.Accounted) {name name' : Name}
    (hg : s.guards.get? name = some c) (hg' : s.guards.get? name' = some c) : name' = name := by
  by_contra hne
  have hrest : ({ s with guards := s.guards.erase name } : Session).guards.get? name' = some c := by
    show (s.guards.erase name).get? name' = some c
    rw [Table.get?_erase, if_neg hne]
    exact hg'
  have hnodup := hs.balanced.out_nodup
  rw [out_erase hg] at hnodup
  exact (Multiset.nodup_cons.mp hnodup).1 (mem_out hrest)

/-- **A connection that is open is held once.** -/
theorem Documented.heldOnce (h : s.Documented) (hc : s.world.connections.Known c)
    (hp : (s.world.connection c).pool = p)
    (hopen : (s.world.driver.connection (s.world.connection c).physical).closed = false) :
    s.HeldOnce p c := by
  have hbalanced := h.accounted.balanced
  rcases h.kept.placed c hc with hout | hidle | hgone
  · obtain ⟨name, hg⟩ := exists_guard hout
    refine .guard name (fun other => ⟨fun hg' => h.accounted.guard_unique hg hg', ?_⟩)
      fun q hq => hbalanced.apart q c hq hout
    rintro rfl
    exact hg
  · change c ∈ (s.world.pool (s.world.connection c).pool).idle at hidle
    rw [hp] at hidle
    refine .slot (fun name hg => hbalanced.apart p c hidle (mem_out hg))
      (List.count_eq_one_of_mem (hbalanced.idle_nodup p) hidle) fun q hq hm => hq ?_
    exact (hbalanced.waiting q c hm).pool.symm.trans hp
  · have hclosed : (s.world.driver.connection (s.world.connection c).physical).closed = true :=
      hgone.line
    rw [hclosed] at hopen
    exact nomatch hopen

/-- The connections of a pool that are checked out or wait. -/
def roster (s : Session) (p : PoolId) : Multiset ConnectionId :=
  s.out.filter (fun c => (s.world.connection c).pool = p) + (s.world.pool p).idle

theorem Accounted.card_roster (hs : s.Accounted) (p : PoolId) :
    (s.roster p).card = (s.world.pool p).status.total := by
  have hsums := hs.balanced.sums p
  rw [hsums.total, hsums.inUse, roster, Multiset.card_add, World.taken,
    Multiset.countP_eq_card_filter, Multiset.coe_card]
  rfl

theorem Accounted.nodup_roster (hs : s.Accounted) (p : PoolId) : (s.roster p).Nodup := by
  refine Multiset.nodup_add.mpr ⟨hs.balanced.out_nodup.filter _, ?_, ?_⟩
  · exact Multiset.coe_nodup.mpr (hs.balanced.idle_nodup p)
  · refine Multiset.disjoint_left.mpr fun hout hidle => ?_
    exact hs.balanced.apart p _ hidle (Multiset.mem_filter.mp hout).1

theorem Accounted.live_of_mem_roster (hs : s.Accounted) (hm : c ∈ s.roster p) :
    s.world.Live c ∧ (s.world.connection c).pool = p := by
  rcases Multiset.mem_add.mp hm with hout | hidle
  · obtain ⟨hout, hp⟩ := Multiset.mem_filter.mp hout
    exact ⟨hs.balanced.out_live c hout, hp⟩
  · have hwaits := hs.balanced.waiting p c hidle
    exact ⟨hwaits.live, hwaits.pool⟩

/-- **The open lines of a pool** are those of the connections that are checked out or wait. -/
theorem LinesOf.card_open (hl : LinesOf p lines s) (h : s.Documented) :
    (lines.filter fun line => !(s.world.driver.connection line).closed).length
      = (s.world.pool p).status.total := by
  -- the lines of the roster and the open lines are the same, and neither has a line twice
  have hlines : ((s.roster p).map fun c => (s.world.connection c).physical)
      = ↑(lines.filter fun line => !(s.world.driver.connection line).closed) := by
    refine (Multiset.Nodup.ext ?_ (Multiset.coe_nodup.mpr (hl.nodup.filter _))).mpr fun line => ?_
    · refine (Multiset.nodup_map_iff_of_inj_on fun c hc d hd he => ?_).mpr
        (h.accounted.nodup_roster p)
      exact h.accounted.plugged.injective c d (h.accounted.live_of_mem_roster hc).1.known
        (h.accounted.live_of_mem_roster hd).1.known he
    · rw [Multiset.mem_map, Multiset.mem_coe, List.mem_filter, Bool.not_eq_true']
      constructor
      · rintro ⟨c, hc, rfl⟩
        obtain ⟨hlive, hp⟩ := h.accounted.live_of_mem_roster hc
        exact ⟨hl.complete c hlive.known hp, hlive.line⟩
      · rintro ⟨hm, hopen⟩
        obtain ⟨c, hc, hp, rfl⟩ := hl.owner line hm hopen
        refine ⟨c, Multiset.mem_add.mpr ?_, rfl⟩
        rcases h.heldOnce hc hp hopen with ⟨name, hg, -⟩ | ⟨-, hi, -⟩
        · exact Or.inl (Multiset.mem_filter.mpr ⟨mem_out ((hg name).mpr rfl), hp⟩)
        · exact Or.inr (List.count_pos_iff.mp (hi ▸ Nat.one_pos))
  rw [← h.accounted.card_roster p, ← Multiset.coe_card, ← hlines, Multiset.card_map]

/-- **The closed lines of a pool** are those of its lines that the driver has closed. -/
theorem LinesOf.card_closed (hl : LinesOf p lines s) (h : s.Documented) :
    (lines.filter fun line => (s.world.driver.connection line).closed).length
      = (s.world.driver.log.hangUps.filter fun line => decide (line ∈ lines)).length := by
  refine ((List.perm_ext_iff_of_nodup (hl.nodup.filter _)
    (h.faithful.hangUps_nodup.filter _)).mpr fun line => ?_).length_eq
  rw [List.mem_filter, List.mem_filter, h.faithful.mem_hangUps, decide_eq_true_iff]
  exact ⟨fun ⟨hm, hc⟩ => ⟨⟨hl.known line hm, hc⟩, hm⟩, fun ⟨⟨_, hc⟩, hm⟩ => ⟨hm, hc⟩⟩

/-! ## The theorem -/

/-- **No line is leaked or closed twice.** Whatever a client does and whatever fails meanwhile: the
lines that were ever opened for a pool, less those of them that were closed, are as many as the
pool counts; none is closed twice; and each that is open belongs to one connection, which is the
pool's and is held once, by a guard or in a slot. A checkout that is answered with an error has
closed every line that it opened. -/
theorem no_line_leaked (hd : Dials p empty lines t) :
    lines.Nodup
    ∧ lines.length = (t.world.pool p).status.total
        + (t.world.driver.log.hangUps.filter fun line => decide (line ∈ lines)).length
    ∧ (∀ line, t.world.driver.log.hangUps.count line ≤ 1)
    ∧ (∀ line ∈ lines, (t.world.driver.connection line).closed = false →
        line ∉ t.world.driver.log.hangUps
        ∧ ∃ c, (∀ d, t.world.connections.Known d ∧ (t.world.connection d).physical = line ↔ d = c)
          ∧ (t.world.connection c).pool = p ∧ t.HeldOnce p c)
    ∧ ∀ command error, (t.run command).2 = .poolError error → ∀ line ∈ t.dialled p command,
        ((t.run command).1.world.driver.connection line).closed = true := by
  have h := hd.proceeds.documented documented_empty
  have hl := hd.linesOf
  refine ⟨hl.nodup, ?_, fun line => List.nodup_iff_count_le_one.mp h.faithful.hangUps_nodup line,
    fun line hm hopen => ⟨fun hh => ?_, ?_⟩, fun command error hreply line hm => ?_⟩
  · rw [← hl.card_open h, ← hl.card_closed h, Nat.add_comm]
    exact List.length_eq_length_filter_add _
  · rw [((h.faithful.mem_hangUps line).mp hh).2] at hopen
    exact nomatch hopen
  · obtain ⟨c, hc, hp, rfl⟩ := hl.owner line hm hopen
    refine ⟨c, fun d => ⟨fun ⟨hd, he⟩ => h.accounted.plugged.injective d c hd hc he, ?_⟩, hp,
      h.heldOnce hc hp hopen⟩
    rintro rfl
    exact ⟨hc, rfl⟩
  · -- an open line would have a new connection, and then the checkout would be answered with it
    by_contra hopen
    obtain ⟨c, hc, hn, -⟩ := h.owner_of_dialled hm (Bool.eq_false_of_not_eq_true hopen)
    obtain ⟨-, -, -, -, hdone, -⟩ := h.newConnection hc hn
    rw [hreply] at hdone
    exact nomatch hdone

/-- The interceptor of the first connection is refused, and the driver fails to close its line;
the second connection is opened, returned, taken out again and held. -/
def refusing : List Command :=
  [.pool (.start "p" { interceptors := [{ name := "i", role := .pass, refusals := [2] }] }),
    .switch (.connectionClosing true), .pool (.checkOut "p" "g"), .pool (.checkOut "p" "g"),
    .connection (.checkIn "g"), .pool (.checkOut "p" "g")]

/-- Two lines were opened. The first was closed when its checkout was answered with an error; the
second is counted by the pool and held by the guard. -/
theorem no_line_leaked_refusing :
    (empty.runAll refusing).world.driver.log.hangUps = [1]
      ∧ (empty.runAll refusing).world.driver.log.hangUps.count 1 ≤ 1
      ∧ 2 = ((empty.runAll refusing).world.pool 1).status.total + 1
      ∧ (((empty.runAll refusing).world.driver.connection 2).closed = false
        ∧ ∃ c, (empty.runAll refusing).HeldOnce 1 c)
      ∧ ((empty.runAll (refusing.take 2)).run (.pool (.checkOut "p" "g"))).2
        = .poolError (.configuration (.refusedInterceptor "i"))
      ∧ (((empty.runAll (refusing.take 2)).run
          (.pool (.checkOut "p" "g"))).1.world.driver.connection 1).closed = true := by
  have hlater : Dials 1 empty [1, 2] (empty.runAll refusing) := by
    have hlines : [] ++ empty.dialledAll 1 refusing = [1, 2] := by rfl
    rw [← hlines]
    exact Dials.refl.runAll refusing
  have hbefore : Dials 1 empty [] (empty.runAll (refusing.take 2)) :=
    Dials.refl.runAll (refusing.take 2)
  obtain ⟨-, hlength, honce, hheld, -⟩ := no_line_leaked hlater
  obtain ⟨-, -, -, -, hrefused⟩ := no_line_leaked hbefore
  have hopen : ((empty.runAll refusing).world.driver.connection 2).closed = false := by rfl
  obtain ⟨-, c, -, -, hc⟩ := hheld 2 (by decide) hopen
  exact ⟨by rfl, honce 1, hlength, ⟨hopen, c, hc⟩, by rfl,
    hrefused (.pool (.checkOut "p" "g")) _ (by rfl) 1 List.mem_cons_self⟩

end Session

end ConnectionPool
