import ConnectionPool.Proofs.Session.Depiction

/-!
# Commands as turns

Every command of a client that holds no caches of its own is a sequence of turns
(`reached_run`), so that what every turn keeps, every command keeps.
-/

set_option autoImplicit false

namespace ConnectionPool

namespace Session

open Scene (Turns Steps)

variable {s : Session} {S : Scene}

/-- **An outcome is reached in turns** of a scene, the last of which depicts it. -/
def Reached (S : Scene) (outcome : Outcome) : Prop :=
  ∃ S', Turns S S' ∧ Depicts outcome.1 S'

theorem Depicts.reached_same (hd : Depicts s S) (reply : Reply) : Reached S (s, reply) :=
  ⟨S, .refl, hd⟩

theorem Depicts.reached (hd : Depicts s S) (hS : S.Wired) {w : World}
    (h : Turns S (S.inWorld w)) (reply : Reply) : Reached S (s.inWorld w, reply) :=
  ⟨_, h, hd.inWorld hS h⟩

/-! ## Pools and checkouts -/

theorem reached_runPool (hd : Depicts s S) (hS : S.Wired) (command : PoolCommand) :
    Reached S (s.runPool command) := by
  have hsame := hd.reached_same
  cases command with
  | start save request =>
      refine withFresh_rule hsame fun _ => ?_
      split
      · exact hsame _
      · next config _ =>
          have hturns := Scene.turns_startPool (S := S) config
          rw [hd.world] at hturns
          split
          · next h =>
              rw [h] at hturns
              exact hd.reached hS hturns _
          · next h =>
              rw [h] at hturns
              exact ⟨_, hturns, { hd.inWorld hS hturns with }⟩
  | checkOut pool save =>
      refine withFresh_rule hsame fun _ => withPool_rule hsame fun p _ => ?_
      obtain ⟨hsteps, htidy⟩ := Scene.steps_checkOut hS p
      rw [hd.world] at hsteps htidy
      split
      · next h =>
          rw [h] at hsteps
          exact hd.reached hS hsteps.turns _
      · next w c h =>
          rw [h] at hsteps htidy
          have hc := htidy c rfl
          have hd' := hd.inWorld hS hsteps.turns
          refine ⟨_, hsteps.turns, { hd' with guards := fun name d hg => ?_ }⟩
          rcases Table.get?_insert_eq_some _ hg with rfl | hg
          · exact ⟨hc.known, hc.ready⟩
          · exact hd'.guards name d hg
  | shutDown pool =>
      refine withPool_rule hsame fun p _ => ?_
      have hturns := Scene.turns_shutDown hS p
      rw [hd.world] at hturns
      exact hd.reached hS hturns _
  | sweep pool =>
      refine withPool_rule hsame fun p _ => ?_
      have hsteps := Scene.steps_sweep hS p
      rw [hd.world] at hsteps
      exact hd.reached hS hsteps.turns _
  | inspect pool => exact withPool_rule hsame fun p _ => hsame _

/-! ## Calls -/

/-- A call brings a statement, which never came to a cache if it is bare, or none. -/
theorem turns_perform (hS : S.Wired) (ht : S.Traced) (c : ConnectionId) (call : Call)
    {w : World} {answer : Answer} (h : S.world.perform c call = (w, answer)) :
    (∃ handle, answer = .ok (.statement handle)
      ∧ Turns S { S with world := w, hands := handle ::ₘ S.hands }
      ∧ ∀ id, handle = .physical id → ¬ w.Wrapped id)
    ∨ ((∀ handle, answer ≠ .ok (.statement handle)) ∧ Turns S (S.inWorld w)) := by
  have hsteps := (Scene.steps_perform hS c call).1
  rw [h] at hsteps
  by_cases hn : ∃ handle, answer = .ok (.statement handle)
  · obtain ⟨handle, rfl⟩ := hn
    refine Or.inl ⟨handle, rfl, hsteps.turns, ?_⟩
    rintro id rfl
    have hbare : ¬ (S.world.perform c call).1.Wrapped id :=
      Scene.not_wrapped_of_perform hS ht c call (by rw [h])
    rwa [h] at hbare
  · have hn : ∀ handle, answer ≠ .ok (.statement handle) := fun handle h => hn ⟨handle, h⟩
    rw [Answer.hands_eq_zero hn, Multiset.zero_add] at hsteps
    exact Or.inr ⟨hn, hsteps.turns⟩

theorem reached_runCall (hd : Depicts s S) (hS : S.Wired) (ht : S.Traced) (c : ConnectionId)
    (call : Call) (into : Into) {save : Option Name}
    (hfree : ∀ name, save = some name → s.statements.get? name = none) :
    Reached S (s.runCall c call into save) := by
  have hperform : ∀ {w answer}, s.world.perform c call = (w, answer) → _ := fun h =>
    turns_perform hS ht c call ((congrArg (fun v : World => v.perform c call) hd.world).trans h)
  have heffect := s.callEffect c call into save
  unfold Reached
  generalize (s.runCall c call into save).1 = s' at heffect ⊢
  cases heffect with
  | passed h hne =>
      obtain ⟨handle, ha, -⟩ | ⟨-, hturns⟩ := hperform h
      · exact absurd ha (hne handle)
      · exact ⟨_, hturns, hd.inWorld hS hturns⟩
  | kept h hname =>
      obtain ⟨_, ha, hturns, hbare⟩ | ⟨hne, -⟩ := hperform h
      · cases ha
        exact turns_keep hd hS hturns hbare (fun n hn => hfree n (hname n hn)) _
      · exact absurd rfl (hne _)

theorem reached_runConnection (hd : Depicts s S) (hS : S.Wired) (ht : S.Traced)
    (command : ConnectionCommand) : Reached S (s.runConnection command) := by
  have hsame := hd.reached_same
  -- a connection that a client gives back
  have htidy : ∀ {name c}, s.guards.get? name = some c → Scene.Tidy c S := by
    intro name c hg
    obtain ⟨hk, hr⟩ := hd.guards name c hg
    rw [← hd.world] at hk hr
    exact ⟨hS, hk, hr⟩
  have herase : ∀ {w : World} {name : Name} {reply : Reply}, Turns S (S.inWorld w) →
      Reached S ({ s.inWorld w with guards := s.guards.erase name }, reply) := by
    intro w name reply hturns
    have hd' := hd.inWorld hS hturns
    refine ⟨_, hturns, { hd' with guards := fun q d hg => ?_ }⟩
    exact hd'.guards q d (Table.get?_of_erase _ hg)
  cases command with
  | checkIn guard =>
      refine withGuard_rule hsame fun c hg => ?_
      have hsteps := Scene.steps_checkIn (htidy hg)
      rw [hd.world] at hsteps
      exact herase hsteps.turns
  | retire guard =>
      refine withGuard_rule hsame fun c hg => ?_
      have hsteps := Scene.steps_retire (htidy hg)
      rw [hd.world] at hsteps
      exact herase hsteps.turns
  | share guard save =>
      refine withFresh_rule hsame fun _ => withGuard_rule hsame fun c hg => ?_
      have hstep : Turns S (S.inWorld (s.world.share c)) :=
        hd.world ▸ (Scene.steps_share S c).turns
      have hd' := hd.inWorld hS hstep
      refine ⟨_, hstep, { hd' with shared := fun q d hq => ?_ }⟩
      rcases Table.get?_insert_eq_some _ hq with rfl | hq
      · exact (hd'.guards guard d hg).1
      · exact hd'.shared q d hq
  | unshare shared =>
      refine withShared_rule hsame fun c _ => ?_
      have hstep : Turns S (S.inWorld (s.world.unshare c)) :=
        hd.world ▸ (Scene.steps_unshare hS c).turns
      have hd' := hd.inWorld hS hstep
      refine ⟨_, hstep, { hd' with shared := fun q d hq => ?_ }⟩
      exact hd'.shared q d (Table.get?_of_erase _ hq)
  | prepare guard call save =>
      exact withFreshStatement_rule hsame fun hfree => withGuard_rule hsame fun c _ =>
        reached_runCall hd hS ht c call _ hfree
  | isValid guard =>
      exact withGuard_rule hsame fun c _ =>
        reached_runCall hd hS ht c _ _ fun _ h => nomatch h
  | invoke via request into save =>
      exact withFreshStatement_rule hsame fun hfree => withCall_rule hsame fun call _ =>
        withTarget_rule hsame fun c _ => reached_runCall hd hS ht c call into hfree
  | inspectGuard guard => exact withGuard_rule hsame fun c _ => hsame _
  | inspectConnection via => exact withConnection_rule hsame fun c _ => hsame _
  | inspectStore via =>
      refine withConnection_rule hsame fun c _ => ?_
      split
      · exact hsame _
      · exact hsame _

/-! ## Statements -/

section Statements

variable {name : Name} {held : Held}

/-- What a client holds is out: bare, or as a handle. -/
theorem Depicts.out (hd : Depicts s S) (h : s.statements.get? name = some held)
    {id : StatementId} (ht : held.statement.target? = some id) :
    id ∈ S.loose ∨ ∃ handle ∈ S.hands, handle.target? = some id := by
  have hm := mem_pockets h
  cases hb : held.statement.bare? with
  | some id' =>
      have he := held.statement.eq_physical_of_bare? hb
      rw [he] at hm ht
      cases ht
      exact Or.inl (Multiset.mem_of_le hd.bare (mem_bares hm))
  | none =>
      refine Or.inr ⟨held.statement, ?_, ht⟩
      rw [hd.hands]
      exact Multiset.mem_add.mpr (Or.inl (mem_covered hm hb))

theorem turns_onTarget {α : Type} (hd : Depicts s S) (h : s.statements.get? name = some held)
    {action : StatementId → Driver → Driver × Except DriverError α} (usage : Usage)
    (hu : ∀ id driver, (action id driver).1 = driver.use usage id) :
    Turns S (S.inWorld (s.world.onTarget held.statement action).1) := by
  rw [← hd.world]
  unfold World.onTarget
  split
  · exact .refl
  · next id ht =>
      have huse := Scene.Step.use usage (hd.out h ht)
      rw [← hu id S.world.driver] at huse
      exact .single (.step huse)

theorem turns_closeResultSet (hd : Depicts s S) (h : s.statements.get? name = some held) :
    Turns S (S.inWorld (s.world.closeResultSet held.statement).1) := by
  rw [← hd.world]
  unfold World.closeResultSet
  split
  · next id _ ht _ => exact .single (.step (.use .closeResultSet (hd.out h ht)))
  · exact .refl

/-- The handles that are out, with the one under a name first. -/
theorem Depicts.hands_eq (hd : Depicts s S) (h : s.statements.get? name = some held)
    (hb : held.statement.bare? = none) :
    S.hands = held.statement ::ₘ (covered (s.takeStatement name).pockets + s.chest) := by
  rw [hd.hands, pockets_erase h, covered_cons hb, Multiset.cons_add]

/-- **A handle that is not bare is worked on until it is gone**, and a spent one is put in its
place. -/
theorem reached_spent (hd : Depicts s S) (hS : S.Wired) (h : s.statements.get? name = some held)
    (hb : held.statement.bare? = none) {w : World}
    (hT : Turns S { S with world := w, hands := covered (s.takeStatement name).pockets + s.chest })
    (origin : Origin) (reply : Reply) :
    Reached S ((s.inWorld w).putStatement name ⟨.spent, origin⟩, reply) := by
  have hT' := hT.trans (.single (.step .spend))
  have hput := pockets_putStatement (s := s.inWorld w) ⟨.spent, origin⟩ h
  refine ⟨_, hT', hd.change (hT'.later_and_wired hS).1 rfl ?_ ?_ hd.owed hd.raw hd.caches rfl rfl⟩
  · show (_ : Multiset Statement) = covered (pockets (putStatement _ _ _)) + _
    rw [hput, covered_cons rfl, Multiset.cons_add]
    rfl
  · show bares (pockets (putStatement _ _ _)) ≤ S.loose
    rw [hput, bares_cons rfl]
    have hle := hd.bare
    rwa [pockets_erase h, bares_cons hb] at hle

theorem reached_close (hd : Depicts s S) (hS : S.Wired) (h : s.statements.get? name = some held)
    (reply : Reply) :
    Reached S ((s.inWorld (World.close held.statement s.world).1).putStatement name
      { held with statement := held.statement.afterClose }, reply) := by
  rw [← hd.world]
  cases hb : held.statement.bare? with
  | some id =>
      -- a client keeps a bare statement that it closes
      have he := held.statement.eq_physical_of_bare? hb
      have hT : Turns S { S with
          world := { S.world with driver := (S.world.driver.closeStatement id).1 } } :=
        .single (.step (.shut (Multiset.mem_of_le hd.bare (mem_bares (he ▸ mem_pockets h)))))
      have hclose : (World.close held.statement S.world).1
          = { S.world with driver := (S.world.driver.closeStatement id).1 } := by rw [he]; rfl
      have hput : s.statements.insert name
          { held with statement := held.statement.afterClose } = s.statements := by
        refine Table.insert_eq_self _ ?_
        rw [h, he, Statement.afterClose, ← he]
      rw [hclose, putStatement]
      refine ⟨_, hT, hd.change (hT.later_and_wired hS).1 rfl ?_ ?_ hd.owed hd.raw hd.caches rfl rfl⟩
      · show S.hands = covered (pockets { s with statements := s.statements.insert name _ }) + _
        rw [hput]
        exact hd.hands
      · show bares (pockets { s with statements := s.statements.insert name _ }) ≤ _
        rw [hput]
        exact hd.bare
  | none =>
      have hafter : held.statement.afterClose = .spent := by
        cases hs : held.statement with
        | physical id => rw [hs] at hb; exact nomatch hb
        | facade _ _ _ => rfl
        | spent => rfl
      rw [hafter]
      exact reached_spent hd hS h hb (Scene.steps_close _ (hd.hands_eq h hb)).turns _ _

theorem reached_drop (hd : Depicts s S) (hS : S.Wired) (h : s.statements.get? name = some held)
    (reply : Reply) :
    Reached S ((s.inWorld (s.world.dropHandle held.statement)).takeStatement name, reply) := by
  rw [← hd.world]
  have hbare := hd.bare
  rw [pockets_erase h] at hbare
  cases hb : held.statement.bare? with
  | some id =>
      have he := held.statement.eq_physical_of_bare? hb
      have hdrop : S.world.dropHandle held.statement = S.world := by
        rw [he, dropHandle_physical]
      rw [hdrop]
      rw [he, bares_physical] at hbare
      refine ⟨S, .refl, hd.change (.refl _) rfl ?_ ((Multiset.le_cons_self _ _).trans hbare)
        hd.owed hd.raw hd.caches rfl rfl⟩
      rw [hd.hands, pockets_erase h, he, covered_physical]
      rfl
  | none =>
      rw [bares_cons hb] at hbare
      have hT := (steps_dropHandle (hd.hands_eq h hb) hb).turns
      exact ⟨_, hT, hd.change (hT.later_and_wired hS).1 rfl rfl hbare hd.owed hd.raw hd.caches
        rfl rfl⟩

theorem reached_forceClose (hd : Depicts s S) (hS : S.Wired)
    (h : s.statements.get? name = some held) (origin : Origin) (reply : Reply) :
    Reached S ((s.inWorld (s.world.forceCloseFacade held.statement).1).putStatement name
      ⟨.spent, origin⟩, reply) := by
  rw [← hd.world]
  cases hs : held.statement with
  | physical id =>
      -- what it stands for is left open, in nobody's hands
      have hT : Turns S { S with hands := .spent ::ₘ S.hands } := .single (.step .spend)
      have hput := pockets_putStatement (s := s.inWorld S.world) ⟨.spent, origin⟩ h
      have hbare := hd.bare
      rw [pockets_erase h, hs, bares_physical] at hbare
      have hforce : (S.world.forceCloseFacade (.physical id)).1 = S.world := rfl
      rw [hforce]
      refine ⟨_, hT, hd.change (.refl _) rfl ?_ ?_ hd.owed hd.raw hd.caches rfl rfl⟩
      · show Statement.spent ::ₘ S.hands = covered (pockets (putStatement _ _ _)) + _
        rw [hput, covered_cons rfl, Multiset.cons_add, hd.hands, pockets_erase h, hs,
          covered_physical]
        rfl
      · show bares (pockets (putStatement _ _ _)) ≤ S.loose
        rw [hput, bares_cons rfl]
        exact (Multiset.le_cons_self _ _).trans hbare
  | spent =>
      have hb : held.statement.bare? = none := by rw [hs]; rfl
      have hhands := hd.hands_eq h hb
      rw [hs] at hhands
      exact reached_spent hd hS h hb (.single (.step (.lapse hhands))) _ _
  | facade key k inner =>
      have hb : held.statement.bare? = none := by rw [hs]; rfl
      have hhands := hd.hands_eq h hb
      rw [hs] at hhands
      exact reached_spent hd hS h hb (Scene.steps_dropTracked ⟨key, k, inner⟩ hhands).turns _ _

theorem StatementEffect.reached {command : StatementCommand} {s' : Session}
    (h : StatementEffect s command s') (hd : Depicts s S) (hS : S.Wired) (reply : Reply) :
    Reached S (s', reply) := by
  cases h with
  | same => exact hd.reached_same reply
  | bound hn => exact hd.reached hS (turns_onTarget hd hn (.bind _ _) fun _ _ => rfl) reply
  | cleared hn => exact hd.reached hS (turns_onTarget hd hn .clearParameters fun _ _ => rfl) reply
  | executed hn => exact hd.reached hS (turns_onTarget hd hn .execute fun _ _ => rfl) reply
  | emptied hn => exact hd.reached hS (turns_closeResultSet hd hn) reply
  | closed hn => exact reached_close hd hS hn reply
  | dropped hn => exact reached_drop hd hS hn reply
  | forceClosed hn ho => exact reached_forceClose hd hS hn _ reply

end Statements

/-! ## The driver -/

/-- What a connection of the driver makes for a client, if anything. -/
def Makes (driver : Driver) (line : PhysicalConnectionId)
    (made : Driver × Except DriverError StatementId) : Prop :=
  (∃ error, made = (driver, .error error))
    ∨ ∃ (call : Call) (sql : String) (event : StatementId → DriverEvent),
      (∀ id, (event id).made? = some id)
      ∧ made = ((driver.issue { sql, origin := some (line, call) } event).1,
        .ok driver.statements.next)

theorem makes_prepareBy (driver : Driver) (line : PhysicalConnectionId) (call : Call)
    {event : StatementId → String → DriverEvent} (he : ∀ id sql, (event id sql).made? = some id) :
    Makes driver line (driver.prepareBy line call event) := by
  unfold Driver.prepareBy
  split
  · exact Or.inl ⟨_, rfl⟩
  · split
    · exact Or.inl ⟨_, rfl⟩
    · next sql _ => exact Or.inr ⟨call, sql, fun id => event id sql, fun id => he id sql, rfl⟩

theorem makes_createStatement (driver : Driver) (line : PhysicalConnectionId) :
    Makes driver line (driver.createStatement line) := by
  unfold Driver.createStatement
  split
  · exact Or.inl ⟨_, rfl⟩
  · exact Or.inr ⟨⟨.createStatement, []⟩, "", .created, fun _ => rfl, rfl⟩

/-- A statement that the driver has just made for a client never came to a cache. -/
theorem not_wrapped_issue (hS : S.Wired) (ht : S.Traced) {statement : PhysicalStatement}
    {event : StatementId → DriverEvent}
    (ho : ∀ line call, statement.origin = some (line, call) → line ∈ S.lines) :
    ¬ ({ S.world with driver := (S.world.driver.issue statement event).1 } : World).Wrapped
      S.world.driver.statements.next := by
  rintro ⟨c, position, k, call, handle, hk, -, hl | ⟨hp, id, rfl, hid⟩, hh⟩
  · exact ht.not_answered (Registry.not_known_next _) hl hh
  · cases hh
    have hc : S.world.connections.Known c :=
      World.known_of_mem_caches ((Connection.mem_caches _ k).mpr ⟨position, hk⟩)
    rw [Driver.statement_issue, if_pos rfl] at hid
    exact hS.lines_apart _ (ho _ _ hid) c hc rfl

/-- **A statement that the driver makes for a client.** -/
theorem reached_issue (hd : Depicts s S) (hS : S.Wired) (ht : S.Traced)
    (statement : PhysicalStatement) {event : StatementId → DriverEvent}
    (hr : statement.Rested) (he : ∀ id, (event id).made? = some id)
    (ho : ∀ line call, statement.origin = some (line, call) → line ∈ S.lines)
    {save : Option Name} (hfree : ∀ name, save = some name → s.statements.get? name = none)
    (origin : Origin) (reply : Reply) :
    Reached S ((s.inWorld { s.world with driver := (s.world.driver.issue statement event).1 }
      ).keepStatement save (.physical s.world.driver.statements.next) origin, reply) := by
  rw [← hd.world]
  refine turns_keep hd hS
    (.single (.step (.issue hr he fun line call h => Or.inl (ho line call h))))
    ?_ hfree origin
  rintro id ⟨⟩
  exact not_wrapped_issue hS ht ho

theorem reached_keepDriverStatement (hd : Depicts s S) (hS : S.Wired) (ht : S.Traced)
    {name : Name} {line : PhysicalConnectionId} (hline : s.raw.get? name = some line)
    {action : Driver → Driver × Except DriverError StatementId}
    (hm : Makes s.world.driver line (action s.world.driver)) {save : Option Name}
    (hfree : ∀ name, save = some name → s.statements.get? name = none) :
    Reached S (s.keepDriverStatement save (s.world.onDriver action)) := by
  have hon : s.world.onDriver action = ({ s.world with driver := (action s.world.driver).1 },
      (action s.world.driver).2) := rfl
  rw [hon]
  obtain ⟨error, h⟩ | ⟨call, sql, event, he, h⟩ := hm
  · rw [h]
    exact hd.reached_same _
  · rw [h]
    refine reached_issue hd hS ht { sql, origin := some (line, call) }
      ⟨rfl, rfl, fun h => nomatch h⟩ he ?_ hfree _ _
    rintro _ _ ⟨⟩
    exact hd.raw name line hline

theorem reached_runDriver (hd : Depicts s S) (hS : S.Wired) (ht : S.Traced)
    (command : DriverCommand) : Reached S (s.runDriver command) := by
  have hsame := hd.reached_same
  cases command with
  | looseStatement sql save =>
      exact withFreshStatement_rule hsame fun hfree =>
        reached_issue hd hS ht { sql } ⟨rfl, rfl, fun h => nomatch h⟩
          (fun id => show (DriverEvent.prepared id sql).made? = some id from rfl)
          (fun _ _ h => nomatch h) hfree _ _
  | openConnection save =>
      refine withFresh_rule hsame fun _ => ?_
      have hT : Turns S _ := .single (.step .dial)
      refine ⟨_, hT, hd.change (hT.later_and_wired hS).1 ?_ hd.hands hd.bare hd.owed ?_ hd.caches
        rfl rfl⟩
      · rw [hd.world]
        rfl
      · intro name id h
        rw [hd.world]
        rcases Table.get?_insert_eq_some _ h with rfl | h
        · exact List.mem_cons_self
        · exact List.mem_cons_of_mem _ (hd.raw name id h)
  | prepareStatement name args save =>
      exact withFreshStatement_rule hsame fun hfree => withRaw_rule hsame fun line hline =>
        reached_keepDriverStatement hd hS ht hline (makes_prepareBy _ _ _ fun _ _ => rfl) hfree
  | prepareCall name args save =>
      exact withFreshStatement_rule hsame fun hfree => withRaw_rule hsame fun line hline =>
        reached_keepDriverStatement hd hS ht hline (makes_prepareBy _ _ _ fun _ _ => rfl) hfree
  | createStatement name save =>
      exact withFreshStatement_rule hsame fun hfree => withRaw_rule hsame fun line hline =>
        reached_keepDriverStatement hd hS ht hline (makes_createStatement _ _) hfree
  | isValid name => exact withRaw_rule hsame fun _ _ => hsame _
  | close name =>
      refine withRaw_rule hsame fun line hline => ?_
      have hcut := Scene.Step.cut (hd.raw name line hline)
      rw [hd.world] at hcut
      exact hd.reached hS (.single (.step hcut)) _
  | inspectLog statement => exact hsame _

/-! ## All commands -/

theorem reached_switch (hd : Depicts s S) (hS : S.Wired) (fault : Switch) (reply : Reply) :
    Reached S (s.inWorld (s.world.switch fault), reply) := by
  refine hd.reached hS (.single (.step (.book (w := s.world.switch fault) ?_))) _
  rw [hd.world]
  exact { s.world.sameCaching_refl with
    journal := ⟨[], (List.append_nil _).symm, fun _ h => nomatch h⟩ }

/-- **A command about no cache of the client's is a sequence of turns.** -/
theorem reached_run (hd : Depicts s S) (hS : S.Wired) (ht : S.Traced) {command : Command}
    (hcache : ∀ c, command ≠ .cache c) (htracked : ∀ c, command ≠ .tracked c) :
    Reached S (s.run command) := by
  cases command with
  | advance span =>
      refine hd.reached hS (.single (.step (.book ?_))) _
      rw [hd.world]
      exact { s.world.sameCaching_refl with
        journal := ⟨[], (List.append_nil _).symm, fun _ h => nomatch h⟩ }
  | switch fault => exact reached_switch hd hS fault _
  | pool command => exact reached_runPool hd hS command
  | connection command => exact reached_runConnection hd hS ht command
  | statement command => exact (s.statementEffect command).reached hd hS _
  | driver command => exact reached_runDriver hd hS ht command
  | cache command => exact absurd rfl (hcache command)
  | tracked command => exact absurd rfl (htracked command)

end Session

end ConnectionPool
