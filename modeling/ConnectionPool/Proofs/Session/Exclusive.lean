import ConnectionPool.Proofs.Session.Places

/-!
# Exclusive ownership over whole runs

Whatever clients without caches of their own do, and whatever fails meanwhile, every statement
that came to a cache is in exactly one place (`exclusive_ownership`), and a handle that was
closed or let go of has no effect any more.
-/

set_option autoImplicit false

namespace ConnectionPool

namespace Session

variable {s : Session} {S : Scene} {name : Name}

/-- A handle is over: it is spent, or a closed statement of the driver. -/
def Over (w : World) (handle : Statement) : Prop :=
  handle = .spent ∨ ∃ id, handle = .physical id ∧ w.driver.statements.Known id
    ∧ (w.driver.statement id).closed = true

/-- **A name is idle** when it stands for no handle that is open. -/
def Idle (s : Session) (name : Name) : Prop :=
  ∀ held, s.statements.get? name = some held → Over s.world held.statement

theorem Over.isClosed {w : World} {handle : Statement} (h : Over w handle) :
    w.isClosed handle = true := by
  obtain rfl | ⟨id, rfl, -, hc⟩ := h
  · rfl
  · exact hc

theorem Over.later {w w' : World} {handle : Statement} (h : Over w handle) (hl : w.Later w') :
    Over w' handle := by
  obtain rfl | ⟨id, rfl, hk, hc⟩ := h
  · exact Or.inl rfl
  · obtain ⟨hk', -, hc'⟩ := hl.statements id hk
    exact Or.inr ⟨id, rfl, hk', hc' hc⟩

theorem Over.afterClose {w : World} {handle : Statement} (h : Over w handle) :
    handle.afterClose = handle := by
  obtain rfl | ⟨id, rfl, -, -⟩ := h <;> rfl

/-! ## Using a handle that is over -/

section Over

variable {w : World} {handle : Statement}

theorem Over.onTarget (h : Over w handle) {α : Type}
    {action : StatementId → Driver → Driver × Except DriverError α}
    (ha : ∀ id driver, (Driver.statement driver id).closed = true → (action id driver).1 = driver) :
    (w.onTarget handle action).1 = w := by
  obtain rfl | ⟨id, rfl, -, hc⟩ := h
  · rfl
  · show ({ w with driver := (action id w.driver).1 } : World) = w
    rw [ha id w.driver hc]

theorem Over.closeResultSet (h : Over w handle) (hs : w.driver.Settled) :
    (w.closeResultSet handle).1 = w := by
  obtain rfl | ⟨id, rfl, -, hc⟩ := h
  · rfl
  · have hr : w.resultSet? (.physical id) = none := hs id hc
    rw [World.closeResultSet, hr]
    rfl

theorem Over.close (h : Over w handle) : (World.close handle w).1 = w := by
  obtain rfl | ⟨id, rfl, -, hc⟩ := h
  · rfl
  · show ({ w with driver := (w.driver.closeStatement id).1 } : World) = w
    rw [Driver.closeStatement_of_closed _ hc]

end Over

/-- **A handle that is over has no effect**, whichever way it is used. -/
theorem Idle.run (h : s.Idle name) (hs : s.world.driver.Settled) {command : StatementCommand}
    (hu : command.uses? = some name) : (s.run (.statement command)).1 = s := by
  have hworld : ∀ {w : World}, w = s.world → s.inWorld w = s := by
    rintro _ rfl
    rfl
  show (s.runStatement command).1 = s
  have heffect := s.statementEffect command
  generalize (s.runStatement command).1 = s' at heffect ⊢
  cases heffect with
  | same => rfl
  | bound hg =>
      cases hu
      exact hworld ((h _ hg).onTarget fun id driver hc => by simp [Driver.bind, hc])
  | cleared hg =>
      cases hu
      exact hworld ((h _ hg).onTarget fun id driver hc => by simp [Driver.clearParameters, hc])
  | executed hg =>
      cases hu
      exact hworld ((h _ hg).onTarget fun id driver hc => by simp [Driver.execute, hc])
  | emptied hg =>
      cases hu
      exact hworld ((h _ hg).closeResultSet hs)
  | @closed _ held hg =>
      cases hu
      have hover := h held hg
      rw [hover.close, hover.afterClose, putStatement]
      show { s with statements := s.statements.insert name held } = s
      rw [Table.insert_eq_self _ hg]
  | dropped | forceClosed => cases hu

/-! ## Handles that were closed or let go of -/

theorem Keeps.known_of_physical (h : Keeps s S) {held : Held} {id : StatementId}
    (hg : s.statements.get? name = some held) (he : held.statement = .physical id) :
    s.world.driver.statements.Known id := by
  have hid : id ∈ bares s.pockets := mem_bares (he ▸ mem_pockets hg)
  have hk := h.sound.traced.loose id (Multiset.mem_of_le h.depicts.bare hid)
  rwa [h.depicts.world] at hk

theorem Keeps.idle_close (h : Keeps s S) {held : Held} (hg : s.statements.get? name = some held) :
    (s.run (.statement (.close name))).1.Idle name := by
  have hrun : (s.run (.statement (.close name))).1
      = (s.inWorld (World.close held.statement s.world).1).putStatement name
        { held with statement := held.statement.afterClose } := by
    rw [Session.run, runStatement, withStatement, hg]
  intro held' hg'
  rw [hrun, putStatement, Table.get?_insert_self] at hg'
  cases hg'
  rw [hrun]
  cases he : held.statement with
  | physical id =>
      refine Or.inr ⟨id, rfl, ?_, ?_⟩
      · exact (Driver.known_closeStatement _ _ _).mpr (h.known_of_physical hg he)
      · show ((s.world.driver.closeStatement id).1.statement id).closed = true
        rw [Driver.closed_closeStatement, decide_eq_true rfl, Bool.true_or]
  | facade key k inner => exact Or.inl rfl
  | spent => exact Or.inl rfl

theorem get?_drop : (s.run (.statement (.drop name))).1.statements.get? name = none := by
  rw [run, runStatement, withStatement]
  split
  · exact (Table.get?_erase _ _ _).trans (if_pos rfl)
  · next hn => exact hn

/-- A closed handle stays as it is. -/
theorem Keeps.idle_run (h : Keeps s S) {command : Command} (hc : ∀ c, command ≠ .cache c)
    (hi : s.Idle name) {held : Held} (hg : s.statements.get? name = some held)
    (hdrop : command ≠ .statement (.drop name)) :
    (s.run command).1.Idle name
      ∧ ∃ held', (s.run command).1.statements.get? name = some held' := by
  obtain ⟨S', hturns, h'⟩ := h.run hc
  have hlater := (hturns.later_and_wired h.sound.wired).1
  rw [h.depicts.world, h'.depicts.world] at hlater
  obtain ⟨held', hg', hs⟩ :=
    (handled_run hc h.tracked).statements.get?_eq_some hg hdrop
  have hover := (hi held hg).later hlater
  refine ⟨fun held'' hg'' => ?_, held', hg'⟩
  rw [hg'] at hg''
  cases hg''
  obtain hs | hs | hs := hs
  · rwa [hs]
  · rwa [hs, hover.afterClose]
  · exact Or.inl hs

theorem Keeps.idle_runAll (h : Keeps s S) {commands : List Command} (hc : ∀ c, .cache c ∉ commands)
    (hi : s.Idle name) {held : Held} (hg : s.statements.get? name = some held)
    (hdrop : .statement (.drop name) ∉ commands) : (s.runAll commands).Idle name := by
  induction commands generalizing s S held with
  | nil => exact hi
  | cons command rest ih =>
      have hne : ∀ c, command ≠ .cache c := fun c he => hc c (he ▸ List.mem_cons_self)
      obtain ⟨hi', held', hg'⟩ := h.idle_run hne hi hg fun he => hdrop (he ▸ List.mem_cons_self)
      obtain ⟨S', -, h'⟩ := h.run hne
      exact ih h' (fun c hr => hc c (List.mem_cons_of_mem _ hr)) hi' hg'
        fun hr => hdrop (List.mem_cons_of_mem _ hr)

/-- A name without a handle stays without one until one is kept under it. -/
theorem Keeps.get?_runAll_eq_none (h : Keeps s S) {commands : List Command}
    (hc : ∀ c, .cache c ∉ commands) (hn : s.statements.get? name = none)
    (hkeep : ∀ command ∈ commands, command.keeps? ≠ some name) :
    (s.runAll commands).statements.get? name = none := by
  induction commands generalizing s S with
  | nil => exact hn
  | cons command rest ih =>
      have hne : ∀ c, command ≠ .cache c := fun c he => hc c (he ▸ List.mem_cons_self)
      obtain ⟨S', -, h'⟩ := h.run hne
      exact ih h' (fun c hr => hc c (List.mem_cons_of_mem _ hr))
        ((handled_run hne h.tracked).statements.get?_eq_none hn
          (hkeep command List.mem_cons_self))
        fun c hr => hkeep c (List.mem_cons_of_mem _ hr)

/-! ## The theorem -/

/-- **A name is inert**: what it stands for, if anything, is closed, and no use of it changes
anything. -/
structure Inert (s : Session) (name : Name) : Prop where
  closed : ∀ held, s.statements.get? name = some held → s.world.isClosed held.statement = true
  unchanged : ∀ command : StatementCommand, command.uses? = some name →
    (s.run (.statement command)).1 = s

theorem Idle.inert (h : s.Idle name) (hs : s.world.driver.Settled) : s.Inert name where
  closed held hg := (h held hg).isClosed
  unchanged _ hu := h.run hs hu

/-- **Exclusive ownership.** After any commands of a client without caches of its own, whatever
faults were switched, every statement that ever came to a cache is in exactly one place; no two
names stand for one statement; and a handle that was closed is inert for as long as it is there,
as is a name whose handle was dropped until it is given to another one. -/
theorem exclusive_ownership {commands : List Command} (hc : ∀ c, .cache c ∉ commands) :
    (∀ id, (empty.runAll commands).world.Wrapped id → (empty.runAll commands).Placed id)
    ∧ (∀ name name' id, (empty.runAll commands).Holds name id →
        (empty.runAll commands).Holds name' id → name = name')
    ∧ (∀ earlier later name held, commands = earlier ++ .statement (.close name) :: later →
        (empty.runAll earlier).statements.get? name = some held →
        .statement (.drop name) ∉ later → (empty.runAll commands).Inert name)
    ∧ ∀ earlier later name, commands = earlier ++ .statement (.drop name) :: later →
        (∀ command ∈ later, command.keeps? ≠ some name) →
        (empty.runAll commands).Inert name := by
  obtain ⟨S, -, h⟩ := keeps_empty.runAll hc
  have hsettled := h.sound.settled
  rw [h.depicts.world] at hsettled
  -- a session on the way, and the one after it has done one more command
  have hsplit : ∀ {earlier later : List Command} {command : Command},
      commands = earlier ++ command :: later →
      ∃ S₁ S₂, Keeps (empty.runAll earlier) S₁ ∧ Keeps ((empty.runAll earlier).run command).1 S₂
        ∧ (∀ c, .cache c ∉ later)
        ∧ empty.runAll commands = ((empty.runAll earlier).run command).1.runAll later := by
    rintro earlier later command rfl
    obtain ⟨S₁, -, h₁⟩ := keeps_empty.runAll fun c hm => hc c (List.mem_append_left _ hm)
    obtain ⟨S₂, -, h₂⟩ := h₁.run fun c he =>
      hc c (List.mem_append_right _ (he ▸ List.mem_cons_self))
    exact ⟨S₁, S₂, h₁, h₂,
      fun c hm => hc c (List.mem_append_right _ (List.mem_cons_of_mem _ hm)), runAll_append _ _ _⟩
  refine ⟨fun id hw => h.placed hw, fun _ _ _ hn hn' => h.holds_unique hn hn', ?_, ?_⟩
  · intro earlier later name held he hg hdrop
    obtain ⟨S₁, S₂, h₁, h₂, hlater, hrun⟩ := hsplit he
    have hclose : Handled (empty.runAll earlier) (.statement (.close name))
        ((empty.runAll earlier).run (.statement (.close name))).1 :=
      handled_run (fun _ h => nomatch h) h₁.tracked
    obtain ⟨held', hg', -⟩ := hclose.statements.get?_eq_some hg fun h => nomatch h
    have hidle := h₂.idle_runAll hlater (h₁.idle_close hg) hg' hdrop
    rw [← hrun] at hidle
    exact hidle.inert hsettled
  · intro earlier later name he hkeep
    obtain ⟨S₁, S₂, h₁, h₂, hlater, hrun⟩ := hsplit he
    have hnone := h₂.get?_runAll_eq_none hlater get?_drop hkeep
    rw [← hrun] at hnone
    have hidle : (empty.runAll commands).Idle name := fun held hg => by
      rw [hnone] at hg
      exact nomatch hg
    exact hidle.inert hsettled

/-- A call that prepares a statement. -/
def selection : Call := ⟨.prepareStatement, [.text "SELECT 1"]⟩

/-- A client prepares a statement, closes its handle and prepares the statement again. -/
def recycling : List Command :=
  [.pool (.start "p" { interceptors := [{ name := "cache", role := .cache false }] }),
    .pool (.checkOut "p" "g"), .connection (.prepare "g" selection (some "a")),
    .statement (.close "a"), .connection (.prepare "g" selection (some "b"))]

/-- The statement is in the hands of the client under the second name only, and the first name
is inert though it once stood for the same statement. -/
theorem exclusive_ownership_recycling :
    (empty.runAll recycling).world.Wrapped 1 ∧ (empty.runAll recycling).Holds "b" 1
      ∧ (empty.runAll recycling).Placed 1 ∧ (empty.runAll recycling).Inert "a" := by
  have hc : ∀ c, .cache c ∉ recycling := by simp [recycling]
  have hwrapped : (empty.runAll recycling).world.Wrapped 1 :=
    ⟨1, 0, 2, selection, .physical 1, by rfl, by rfl, Or.inr ⟨by rfl, 1, rfl, by rfl⟩, rfl⟩
  obtain ⟨hplaced, -, hclosed, -⟩ := exclusive_ownership hc
  exact ⟨hwrapped, ⟨_, by rfl, by rfl⟩, hplaced 1 hwrapped,
    hclosed (recycling.take 3) [.connection (.prepare "g" selection (some "b"))] "a" _ rfl
      (by rfl) (by simp)⟩

end Session

end ConnectionPool
