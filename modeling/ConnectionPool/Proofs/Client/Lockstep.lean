import ConnectionPool.Proofs.Client.Views

/-!
# Commands in lockstep

A client does the same command in two sessions that are alike. It gets replies that agree
(`Session.Agree`), and the sessions are alike afterwards (`Session.Alike.run`).
-/

set_option autoImplicit false

namespace ConnectionPool

/-! ## Ordinary commands -/

/-- A client uses a pool, and neither adds nor inspects one. -/
def PoolCommand.ordinary : PoolCommand → Bool
  | .checkOut _ _ => true
  | .shutDown _ => true
  | .sweep _ => true
  | _ => false

/-- A client uses a connection, and does not inspect it. -/
def ConnectionCommand.ordinary : ConnectionCommand → Bool
  | .inspectGuard _ => false
  | .inspectConnection _ => false
  | .inspectStore _ => false
  | _ => true

/-- A client uses a statement, and does not inspect it or take its facade off. -/
def StatementCommand.ordinary : StatementCommand → Bool
  | .forceClose _ => false
  | .inspect _ => false
  | _ => true

/-- **A command of an ordinary client**: it lets time pass, switches faults, and uses pools,
connections and statements. -/
def Command.ordinary : Command → Bool
  | .advance _ => true
  | .switch _ => true
  | .pool command => command.ordinary
  | .connection command => command.ordinary
  | .statement command => command.ordinary
  | _ => false

namespace World.Alike

variable {v w : World}

theorem advance (h : v.Alike w) (span : Millis) :
    ({ v with now := v.now + span } : World).Alike { w with now := w.now + span } :=
  { h with
    now := congrArg (· + span) h.now
    clear := ⟨h.clear.caches, h.clear.links, h.clear.definitions⟩
    clear' := ⟨h.clear'.caches, h.clear'.links, h.clear'.definitions⟩ }

theorem switch (h : v.Alike w) (fault : Switch) : (v.switch fault).Alike (w.switch fault) :=
  { h with
    faults := congrArg fault.onFaults h.faults
    clear := ⟨h.clear.caches, h.clear.links, h.clear.definitions⟩
    clear' := ⟨h.clear'.caches, h.clear'.links, h.clear'.definitions⟩ }

end World.Alike

namespace Session

/-- The reply to closing a statement: it is done, or the driver has failed for a text for which
it is to fail. -/
def ClosingReply (faults : Faults) (reply : Reply) : Prop :=
  reply = .done ∨ ∃ sql ∈ faults.statementClosing,
    reply = .driverError (Driver.statementClosingFailed sql)

/-- **Two replies to a command agree.** Of a result set a client sees whether it is open, and it
closes one that is open. Whether the driver fails to close a statement is not compared. -/
def Agree (s : Session) : Command → Reply → Reply → Prop
  | .statement (.resultSet _), reply, reply' =>
      reply = .resultSet .opened ↔ reply' = .resultSet .opened
  | .statement (.closeResultSet name), reply, reply' =>
      (s.run (.statement (.resultSet name))).2 = .resultSet .opened → reply = reply'
  | .statement (.close _), reply, reply' =>
      reply = reply'
        ∨ ClosingReply s.world.driver.faults reply ∧ ClosingReply s.world.driver.faults reply'
  | _, reply, reply' => reply = reply'

/-- Outcomes are the same for a client that cannot see caches. -/
def SameOutcome (outcome outcome' : Outcome) : Prop :=
  outcome.1.Alike outcome'.1 ∧ outcome.2 = outcome'.2

variable {s t : Session} {S T : Scene} {name : Name}

/-! ## Naming -/

section Naming

variable {P : Outcome → Outcome → Prop}

theorem Alike.withPool (h : s.Alike t) {f g : PoolId → Outcome}
    (hn : ∀ reply, P (s, reply) (t, reply)) (hf : ∀ p, P (f p) (g p)) :
    P (s.withPool name f) (t.withPool name g) := by
  unfold Session.withPool
  rw [h.pools]
  cases t.pools.get? name with
  | none => exact hn _
  | some p => exact hf p

theorem Alike.withGuard (h : s.Alike t) {f g : ConnectionId → Outcome}
    (hn : ∀ reply, P (s, reply) (t, reply))
    (hf : ∀ c, s.guards.get? name = some c → t.guards.get? name = some c → P (f c) (g c)) :
    P (s.withGuard name f) (t.withGuard name g) := by
  unfold Session.withGuard
  rw [h.guards] at hf ⊢
  cases hg : t.guards.get? name with
  | none => exact hn _
  | some c => exact hf c hg hg

theorem Alike.withShared (h : s.Alike t) {f g : ConnectionId → Outcome}
    (hn : ∀ reply, P (s, reply) (t, reply)) (hf : ∀ c, P (f c) (g c)) :
    P (s.withShared name f) (t.withShared name g) := by
  unfold Session.withShared
  rw [h.shared]
  cases t.shared.get? name with
  | none => exact hn _
  | some c => exact hf c

theorem Alike.withTarget (h : s.Alike t) {via : Via} {f g : ConnectionId → Outcome}
    (hn : ∀ reply, P (s, reply) (t, reply)) (hf : ∀ c, P (f c) (g c)) :
    P (s.withTarget via f) (t.withTarget via g) := by
  cases via with
  | guard name => exact h.withGuard hn fun c _ _ => hf c
  | shared name => exact h.withShared hn hf

theorem withCall_both {request : CallRequest} {f g : Call → Outcome}
    (hn : ∀ reply, P (s, reply) (t, reply)) (hf : ∀ call, P (f call) (g call)) :
    P (s.withCall request f) (t.withCall request g) := by
  unfold Session.withCall
  cases request.read with
  | error error => exact hn _
  | ok call => exact hf call

theorem Alike.get?_eq_none_iff (h : s.Alike t) (name : Name) :
    s.statements.get? name = none ↔ t.statements.get? name = none := by
  rw [← look?_eq_none_iff, h.looks, look?_eq_none_iff]

/-- Something is held under a name in both sessions or in none. -/
theorem Alike.held_cases (h : s.Alike t) (name : Name) :
    (s.statements.get? name = none ∧ t.statements.get? name = none)
      ∨ ∃ held held', s.statements.get? name = some held
        ∧ t.statements.get? name = some held' := by
  cases hg : s.statements.get? name with
  | none => exact Or.inl ⟨rfl, (h.get?_eq_none_iff name).mp hg⟩
  | some held =>
      cases hg' : t.statements.get? name with
      | none => exact nomatch hg.symm.trans ((h.get?_eq_none_iff name).mpr hg')
      | some held' => exact Or.inr ⟨held, held', rfl, rfl⟩

theorem Alike.withStatement (h : s.Alike t) {f g : Held → Outcome}
    (hn : ∀ reply, P (s, reply) (t, reply))
    (hf : ∀ held held', s.statements.get? name = some held →
      t.statements.get? name = some held' → P (f held) (g held')) :
    P (s.withStatement name f) (t.withStatement name g) := by
  unfold Session.withStatement
  obtain ⟨hg, hg'⟩ | ⟨held, held', hg, hg'⟩ := h.held_cases name
  · rw [hg, hg']
    exact hn _
  · rw [hg, hg']
    exact hf held held' hg hg'

theorem withFresh_both {taken : Bool} {f g : Unit → Outcome}
    (hn : ∀ reply, P (s, reply) (t, reply)) (hf : P (f ()) (g ())) :
    P (s.withFresh name taken f) (t.withFresh name taken g) := by
  unfold Session.withFresh
  cases taken with
  | true => exact hn _
  | false => exact hf

theorem Alike.contains (h : s.Alike t) (name : Name) :
    s.statements.contains name = t.statements.contains name := by
  rw [Table.contains_eq_isSome_get?, Table.contains_eq_isSome_get?, Bool.eq_iff_iff,
    Option.isSome_iff_ne_none, Option.isSome_iff_ne_none, Ne, h.get?_eq_none_iff]

theorem Alike.withFreshStatement (h : s.Alike t) {save : Option Name} {f g : Unit → Outcome}
    (hn : ∀ reply, P (s, reply) (t, reply))
    (hf : (∀ name, save = some name → s.statements.get? name = none) → P (f ()) (g ())) :
    P (s.withFreshStatement save f) (t.withFreshStatement save g) := by
  unfold Session.withFreshStatement
  cases save with
  | none => exact hf nofun
  | some name =>
      unfold Session.withFresh
      dsimp only
      rw [← h.contains name]
      cases hfree : s.statements.contains name with
      | true => exact hn _
      | false =>
          refine hf fun name' he => ?_
          cases he
          exact (Table.contains_eq_false_iff _ _).mp hfree

end Naming

/-! ## Pools and connections -/

theorem Alike.same (h : s.Alike t) (reply : Reply) : SameOutcome (s, reply) (t, reply) := ⟨h, rfl⟩

/-- The worlds have changed, but no look has. -/
theorem Alike.inWorld (h : s.Alike t) {v w : World} (hw : v.Alike w)
    (hs : ∀ name, (s.inWorld v).look? name = s.look? name)
    (ht : ∀ name, (t.inWorld w).look? name = t.look? name) : (s.inWorld v).Alike (t.inWorld w) :=
  { h with
    world := hw
    looks := fun name => (hs name).trans ((h.looks name).trans (ht name).symm) }

theorem Alike.runPool (h : s.Alike t) (hs : Keeps s S) (ht : Keeps t T) {command : PoolCommand}
    (hc : command.ordinary = true) : SameOutcome (s.runPool command) (t.runPool command) := by
  cases command with
  | start save request => exact nomatch hc
  | inspect pool => exact nomatch hc
  | checkOut pool save =>
      simp only [Session.runPool, h.guards]
      refine withFresh_both h.same (h.withPool h.same fun p => ?_)
      have hlooks : ∀ {s : Session} {S : Scene}, Keeps s S → ∀ name,
          (s.inWorld (s.world.checkOut p).1).look? name = s.look? name := fun hs =>
        hs.looks_of_turns fun R hR hw => hR ▸ (Scene.steps_checkOut hw p).1.turns
      have hls := hlooks hs
      have hlt := hlooks ht
      obtain ⟨hw, hresult⟩ := h.world.checkOut p
      generalize s.world.checkOut p = outcome at hls hw hresult ⊢
      generalize t.world.checkOut p = outcome' at hlt hw hresult ⊢
      obtain ⟨v, result⟩ := outcome
      obtain ⟨w, result'⟩ := outcome'
      cases hresult
      have h' := h.inWorld hw hls hlt
      cases result with
      | error error => exact ⟨h', rfl⟩
      | ok c => exact ⟨{ h' with guards := rfl }, rfl⟩
  | shutDown pool =>
      refine h.withPool h.same fun p => ⟨h.inWorld (h.world.shutDown p) ?_ ?_, rfl⟩
      · exact hs.looks_of_turns fun R hR hw => hR ▸ Scene.turns_shutDown hw p
      · exact ht.looks_of_turns fun R hR hw => hR ▸ Scene.turns_shutDown hw p
  | sweep pool =>
      refine h.withPool h.same fun p => ⟨h.inWorld (h.world.sweep p).1 ?_ ?_,
        congrArg Reply.count (h.world.sweep p).2⟩
      · exact hs.looks_of_turns fun R hR hw => hR ▸ (Scene.steps_sweep hw p).turns
      · exact ht.looks_of_turns fun R hR hw => hR ▸ (Scene.steps_sweep hw p).turns

/-- A connection that a client gives back. -/
theorem Alike.giveBack (h : s.Alike t) (hs : Keeps s S) (ht : Keeps t T) {c : ConnectionId}
    (hg : s.guards.get? name = some c) (hg' : t.guards.get? name = some c)
    {action : World → ConnectionId → World}
    (ha : ∀ {v w : World}, v.Alike w → (action v c).Alike (action w c))
    (hsteps : ∀ {R : Scene}, Scene.Tidy c R → Scene.Steps R (R.inWorld (action R.world c))) :
    SameOutcome ({ s.inWorld (action s.world c) with guards := s.guards.erase name }, .done)
      ({ t.inWorld (action t.world c) with guards := t.guards.erase name }, .done) := by
  have hlooks : ∀ {s : Session} {S : Scene}, Keeps s S → s.guards.get? name = some c → ∀ name,
      (s.inWorld (action s.world c)).look? name = s.look? name := by
    intro s S hs hg
    obtain ⟨hknown, hready⟩ := hs.depicts.guards name c hg
    exact hs.looks_of_turns fun R hR hw =>
      hR ▸ (hsteps ⟨hw, hR ▸ hknown, hR ▸ hready⟩).turns
  have h' := h.inWorld (ha h.world) (hlooks hs hg) (hlooks ht hg')
  exact ⟨{ h' with guards := congrArg (Table.erase · name) h.guards }, rfl⟩

/-! ## Calls -/

/-- A call that is answered with a statement, which is let go of. -/
theorem Alike.dropAnswer (h : s.Alike t) (hs : Keeps s S) (ht : Keeps t T) {c : ConnectionId}
    {call : Call} {v w : World} (hw : v.Alike w) {handle handle' : Statement}
    (hv : s.world.perform c call = (v, .ok (.statement handle)))
    (hv' : t.world.perform c call = (w, .ok (.statement handle'))) :
    (s.inWorld (v.dropHandle handle)).Alike (t.inWorld (w.dropHandle handle')) :=
  h.inWorld (hw.unseen₂ (v.deeds_dropHandle handle).unseen (w.deeds_dropHandle handle').unseen)
    (hs.looks_dropAnswer hv) (ht.looks_dropAnswer hv')

/-- **A call is answered alike**, whatever becomes of the answer. -/
theorem Alike.runCall (h : s.Alike t) (hs : Served s S) (ht : Served t T) (c : ConnectionId)
    (call : Call) (into : Into) {save : Option Name} :
    SameOutcome (s.runCall c call into save) (t.runCall c call into save) := by
  have hmeets := hs.meets h.world.clear c call
  have hmeets' := ht.meets h.world.clear' c call
  rw [← h.world.verdict c call] at hmeets'
  have hw := h.world.unseen₂ (s.world.deeds_perform c call).unseen
    (t.world.deeds_perform c call).unseen
  have h' := h.inWorld hw (hs.looks_perform c call) (ht.looks_perform c call)
  have hdrop : ∀ {v w : World} {handle handle' : Statement}, v.Alike w →
      s.world.perform c call = (v, .ok (.statement handle)) →
      t.world.perform c call = (w, .ok (.statement handle')) →
      (s.inWorld (v.dropHandle handle)).Alike (t.inWorld (w.dropHandle handle')) :=
    fun hw hv hv' => h.dropAnswer hs.toKeeps ht.toKeeps hw hv hv'
  unfold Session.runCall World.performForTruth World.performForStatement
  generalize s.world.perform c call = outcome at hmeets hw h' hdrop ⊢
  generalize t.world.perform c call = outcome' at hmeets' hw h' hdrop ⊢
  obtain ⟨v, answer⟩ := outcome
  obtain ⟨w, answer'⟩ := outcome'
  match s.world.verdict c call, hmeets, hmeets' with
  | .error error, hmeets, hmeets' =>
      cases hmeets
      cases hmeets'
      cases into <;> exact h'.same _
  | .ok (some value), hmeets, hmeets' =>
      cases hmeets
      cases hmeets'
      cases into <;> exact h'.same _
  | .ok none, ⟨handle, ha, hlook⟩, ⟨handle', ha', hlook'⟩ =>
      cases ha
      cases ha'
      have hdropped := (hdrop hw rfl rfl).same
      cases into with
      | shown => exact hdropped _
      | truth => exact hdropped _
      | statement =>
          cases save with
          | none => exact hdropped _
          | some name =>
              refine ⟨{ h' with looks := fun other => ?_ }, rfl⟩
              refine (look?_keepStatement _ _ _ _ other).trans
                (Eq.trans ?_ (look?_keepStatement _ _ _ _ other).symm)
              split
              · exact congrArg some (hlook.trans hlook'.symm)
              · exact h'.looks other

theorem Alike.runConnection (h : s.Alike t) (hs : Served s S) (ht : Served t T)
    {command : ConnectionCommand} (hc : command.ordinary = true) :
    SameOutcome (s.runConnection command) (t.runConnection command) := by
  cases command with
  | checkIn guard =>
      exact h.withGuard h.same fun c hg hg' => h.giveBack hs.toKeeps ht.toKeeps hg hg'
        (fun h => h.checkIn c) fun hR => Scene.steps_checkIn hR
  | retire guard =>
      exact h.withGuard h.same fun c hg hg' => h.giveBack hs.toKeeps ht.toKeeps hg hg'
        (fun h => h.retire c) fun hR => Scene.steps_retire hR
  | share guard save =>
      simp only [Session.runConnection, h.shared]
      exact withFresh_both h.same (h.withGuard h.same fun c _ _ =>
        ⟨{ h with world := h.world.share c, shared := rfl }, rfl⟩)
  | unshare shared =>
      refine h.withShared h.same fun c => ?_
      have hlooks : ∀ {s : Session} {S : Scene}, Keeps s S → ∀ name,
          (s.inWorld (s.world.unshare c)).look? name = s.look? name := fun hs =>
        hs.looks_of_turns fun R hR hw => hR ▸ (Scene.steps_unshare hw c).turns
      have h' := h.inWorld (h.world.unshare c) (hlooks hs.toKeeps) (hlooks ht.toKeeps)
      exact ⟨{ h' with shared := congrArg (Table.erase · shared) h.shared }, rfl⟩
  | prepare guard call save =>
      exact h.withFreshStatement h.same fun _ => h.withGuard h.same fun c _ _ =>
        h.runCall hs ht c call .statement
  | isValid guard =>
      exact h.withGuard h.same fun c _ _ => h.runCall hs ht c ⟨.isValid, []⟩ .truth
  | invoke via request into save =>
      exact h.withFreshStatement h.same fun _ => withCall_both h.same fun call =>
        h.withTarget h.same fun c => h.runCall hs ht c call into
  | inspectGuard guard => cases hc
  | inspectConnection via => cases hc
  | inspectStore via => cases hc

/-! ## Statements -/

section Statements

variable {held held' : Held}

/-- What is held under one name looks the same. -/
theorem Alike.look?_eq (h : s.Alike t) (hg : s.statements.get? name = some held)
    (hg' : t.statements.get? name = some held') :
    s.world.look? held.statement = t.world.look? held'.statement := by
  have hlook := h.looks name
  rw [look?_eq_some hg, look?_eq_some hg'] at hlook
  exact Option.some.inj hlook

/-- **A statement is used** in both sessions. -/
theorem Alike.use (h : s.Alike t) (hs : Keeps s S) (ht : Keeps t T)
    (hg : s.statements.get? name = some held) (hg' : t.statements.get? name = some held')
    (usage : Usage) :
    (s.inWorld (s.world.use usage held.statement)).Alike
      (t.inWorld (t.world.use usage held'.statement)) :=
  { h with
    world := h.world.unseen₂ (s.world.unseen_useThrough _ usage) (t.world.unseen_useThrough _ usage)
    looks := fun other => by
      rw [hs.look?_use hg, ht.look?_use hg', h.look?_eq hg hg', h.world.faults, h.looks other] }

theorem Alike.reply_eq (h : s.Alike t) (hg : s.statements.get? name = some held)
    (hg' : t.statements.get? name = some held') (usage : Usage) :
    usage.reply s.world.driver.faults (s.world.look? held.statement)
      = usage.reply t.world.driver.faults (t.world.look? held'.statement) := by
  rw [h.look?_eq hg hg', h.world.faults]

/-- A statement is closed in both sessions. -/
theorem Alike.close (h : s.Alike t) (hs : Keeps s S) (ht : Keeps t T)
    (hg : s.statements.get? name = some held) (hg' : t.statements.get? name = some held') :
    ((s.inWorld (World.close held.statement s.world).1).putStatement name
      { held with statement := held.statement.afterClose }).Alike
    ((t.inWorld (World.close held'.statement t.world).1).putStatement name
      { held' with statement := held'.statement.afterClose }) :=
  { h with
    world := h.world.unseen₂ (World.deeds_close _ _).unseen (World.deeds_close _ _).unseen
    looks := fun other => by
      rw [hs.look?_close hg, ht.look?_close hg', h.looks other] }

/-- A statement is let go of in both sessions. -/
theorem Alike.drop (h : s.Alike t) (hs : Keeps s S) (ht : Keeps t T)
    (hg : s.statements.get? name = some held) (hg' : t.statements.get? name = some held') :
    ((s.inWorld (s.world.dropHandle held.statement)).takeStatement name).Alike
    ((t.inWorld (t.world.dropHandle held'.statement)).takeStatement name) :=
  { h with
    world := h.world.unseen₂ (World.deeds_dropHandle _ _).unseen (World.deeds_dropHandle _ _).unseen
    looks := fun other => by
      rw [hs.look?_drop hg, ht.look?_drop hg', h.looks other] }

/-- Looking at a result set leaves a session as it was. -/
theorem runStatement_resultSet (hg : s.statements.get? name = some held) :
    s.runStatement (.resultSet name)
      = (s, ((s.world.resultSet? held.statement).map Reply.resultSet).getD .nothing) := by
  simp only [runStatement, withStatement, hg]
  cases s.world.resultSet? held.statement with
  | none => rfl
  | some state => rfl

theorem resultSet_reply (hg : s.statements.get? name = some held) :
    (s.runStatement (.resultSet name)).2 = .resultSet .opened
      ↔ s.world.resultSet? held.statement = some .opened := by
  rw [runStatement_resultSet hg]
  cases s.world.resultSet? held.statement with
  | none => exact ⟨nofun, nofun⟩
  | some state => simp

/-- A result set is open in both sessions or in none. -/
theorem Alike.resultSet (h : s.Alike t) (hs : Keeps s S) (ht : Keeps t T)
    (hg : s.statements.get? name = some held) (hg' : t.statements.get? name = some held') :
    s.world.resultSet? held.statement = some .opened
      ↔ t.world.resultSet? held'.statement = some .opened := by
  have hsettled := hs.sound.settled
  have hsettled' := ht.sound.settled
  rw [hs.depicts.world] at hsettled
  rw [ht.depicts.world] at hsettled'
  rw [World.resultSet?_eq_opened_iff hsettled, World.resultSet?_eq_opened_iff hsettled',
    h.look?_eq hg hg']

theorem closingReply (w : World) (handle : Statement) :
    ClosingReply w.driver.faults (.ofDriver (World.close handle w).2) := by
  rcases w.close_result handle with hr | ⟨sql, hsql, hr⟩
  · rw [hr]
    exact Or.inl rfl
  · rw [hr]
    exact Or.inr ⟨sql, hsql, rfl⟩

/-- **A use of a statement** is done and answered by the look of the statement. -/
theorem runStatement_use (hg : s.statements.get? name = some held) {usage : Usage}
    (hu : usage ≠ .closeResultSet) :
    s.runStatement (usage.command name)
      = (s.inWorld (s.world.use usage held.statement),
        usage.reply s.world.driver.faults (s.world.look? held.statement)) := by
  cases usage with
  | bind position value =>
      obtain ⟨hw, hr⟩ := s.world.bind_eq held.statement position value
      simp only [Usage.command, runStatement, withStatement, hg, ← hw, ← hr]
  | clearParameters =>
      obtain ⟨hw, hr⟩ := s.world.clearParameters_eq held.statement
      simp only [Usage.command, runStatement, withStatement, hg, ← hw, ← hr]
  | execute =>
      obtain ⟨hw, hr⟩ := s.world.execute_eq held.statement
      simp only [Usage.command, runStatement, withStatement, hg, ← hw]
      generalize s.world.execute held.statement = outcome at hr ⊢
      obtain ⟨w, result⟩ := outcome
      cases hl : s.world.look? held.statement with
      | none =>
          rw [hl] at hr
          cases hr
          rfl
      | some look =>
          rw [hl] at hr
          cases hr
          rfl
  | closeResultSet => exact absurd rfl hu

/-- Closing a result set, open or not. -/
theorem runStatement_closeResultSet (hg : s.statements.get? name = some held) :
    s.runStatement (.closeResultSet name)
      = (s.inWorld (s.world.use .closeResultSet held.statement),
        ((s.world.closeResultSet held.statement).2.map Reply.ofDriver).getD .nothing) := by
  simp only [runStatement, withStatement, hg, ← s.world.closeResultSet_fst held.statement]
  generalize s.world.closeResultSet held.statement = outcome
  obtain ⟨w, _ | result⟩ := outcome <;> rfl

theorem agree_refl (s : Session) (command : Command) (reply : Reply) :
    s.Agree command reply reply := by
  unfold Agree
  split
  · exact Iff.rfl
  · exact fun _ => rfl
  · exact Or.inl rfl
  · rfl

theorem agree_of_eq {command : Command} {reply reply' : Reply} (h : reply = reply') :
    s.Agree command reply reply' :=
  h ▸ agree_refl s command reply

/-- Outcomes of a command are the same but for what a client does not see of the replies. -/
def Matches (s : Session) (command : Command) (outcome outcome' : Outcome) : Prop :=
  outcome.1.Alike outcome'.1 ∧ s.Agree command outcome.2 outcome'.2

theorem SameOutcome.matches {outcome outcome' : Outcome} (h : SameOutcome outcome outcome')
    (command : Command) : s.Matches command outcome outcome' :=
  ⟨h.1, agree_of_eq h.2⟩

theorem Alike.runUse (h : s.Alike t) (hs : Keeps s S) (ht : Keeps t T) (usage : Usage)
    (hu : usage ≠ .closeResultSet) (name : Name) :
    SameOutcome (s.runStatement (usage.command name)) (t.runStatement (usage.command name)) := by
  obtain ⟨hg, hg'⟩ | ⟨held, held', hg, hg'⟩ := h.held_cases name
  · cases usage <;>
      simp only [Usage.command, Session.runStatement, Session.withStatement, hg, hg'] <;>
      exact h.same _
  · rw [runStatement_use hg hu, runStatement_use hg' hu]
    exact ⟨h.use hs ht hg hg' usage, h.reply_eq hg hg' usage⟩

/-- A client looks at a result set in both sessions. -/
theorem Alike.runResultSet (h : s.Alike t) (hs : Keeps s S) (ht : Keeps t T) (name : Name) :
    s.Matches (.statement (.resultSet name)) (s.runStatement (.resultSet name))
      (t.runStatement (.resultSet name)) := by
  obtain ⟨hg, hg'⟩ | ⟨held, held', hg, hg'⟩ := h.held_cases name
  · simp only [Session.runStatement, Session.withStatement, hg, hg']
    exact (h.same _).matches _
  · refine ⟨?_, (resultSet_reply hg).trans
      ((h.resultSet hs ht hg hg').trans (resultSet_reply hg').symm)⟩
    rw [runStatement_resultSet hg, runStatement_resultSet hg']
    exact h

/-- A client closes a result set in both sessions. -/
theorem Alike.runCloseResultSet (h : s.Alike t) (hs : Keeps s S) (ht : Keeps t T) (name : Name) :
    s.Matches (.statement (.closeResultSet name)) (s.runStatement (.closeResultSet name))
      (t.runStatement (.closeResultSet name)) := by
  obtain ⟨hg, hg'⟩ | ⟨held, held', hg, hg'⟩ := h.held_cases name
  · simp only [Session.runStatement, Session.withStatement, hg, hg']
    exact (h.same _).matches _
  · rw [runStatement_closeResultSet hg, runStatement_closeResultSet hg']
    refine ⟨h.use hs ht hg hg' .closeResultSet, fun hopen => ?_⟩
    -- a result set that is open is part of the look of the statement
    have hsettled := hs.sound.settled
    rw [hs.depicts.world] at hsettled
    obtain ⟨look, hl, hr⟩ :=
      (World.resultSet?_eq_opened_iff hsettled).mp ((resultSet_reply hg).mp hopen)
    have hl' := (h.look?_eq hg hg').symm.trans hl
    rw [World.closeResultSet_snd hl hr, World.closeResultSet_snd hl' hr, h.world.faults]

theorem Alike.runStatement (h : s.Alike t) (hs : Keeps s S) (ht : Keeps t T)
    {command : StatementCommand} (hc : command.ordinary = true) :
    s.Matches (.statement command) (s.runStatement command) (t.runStatement command) := by
  have hsame : ∀ reply, s.Matches (.statement command) (s, reply) (t, reply) :=
    fun reply => (h.same reply).matches _
  cases command with
  | bind name position value => exact (h.runUse hs ht (.bind position value) nofun name).matches _
  | clearParameters name => exact (h.runUse hs ht .clearParameters nofun name).matches _
  | execute name => exact (h.runUse hs ht .execute nofun name).matches _
  | resultSet name => exact h.runResultSet hs ht name
  | closeResultSet name => exact h.runCloseResultSet hs ht name
  | close name =>
      exact h.withStatement hsame fun held held' hg hg' =>
        ⟨h.close hs ht hg hg', Or.inr ⟨closingReply _ _, h.world.faults ▸ closingReply _ _⟩⟩
  | drop name => exact h.withStatement hsame fun held held' hg hg' => ⟨h.drop hs ht hg hg', rfl⟩
  | forceClose name => exact nomatch hc
  | inspect name => exact nomatch hc

end Statements

/-- **A command in lockstep**: it leads to sessions that are alike, with replies that agree. -/
theorem Alike.run (h : s.Alike t) (hs : Served s S) (ht : Served t T) {command : Command}
    (hc : command.ordinary = true) : s.Matches command (s.run command) (t.run command) := by
  cases command with
  | advance span =>
      have h' := h.inWorld (h.world.advance span) (fun _ => rfl) fun _ => rfl
      exact (h'.same .done).matches _
  | switch fault =>
      have h' := h.inWorld (h.world.switch fault) (fun _ => rfl) fun _ => rfl
      exact (h'.same .done).matches _
  | pool command => exact (h.runPool hs.toKeeps ht.toKeeps hc).matches _
  | connection command => exact (h.runConnection hs ht hc).matches _
  | statement command => exact h.runStatement hs.toKeeps ht.toKeeps hc
  | driver command => exact nomatch hc
  | cache command => exact nomatch hc
  | tracked command => exact nomatch hc

theorem Served.runAll (h : Served s S) {commands : List Command}
    (hc : ∀ command ∈ commands, command.ordinary = true) :
    ∃ S', Served (s.runAll commands) S' := by
  obtain ⟨S', hturns, hkeeps⟩ := h.toKeeps.runAll fun c hm => nomatch hc _ hm
  exact ⟨S', hkeeps, hturns.sourced h.sound h.sourced, hturns.stocked h.sound h.stocked⟩

/-- **Any number of commands in lockstep.** -/
theorem Alike.runAll (h : s.Alike t) (hs : Served s S) (ht : Served t T) {commands : List Command}
    (hc : ∀ command ∈ commands, command.ordinary = true) :
    (s.runAll commands).Alike (t.runAll commands) := by
  induction commands generalizing s t S T with
  | nil => exact h
  | cons command rest ih =>
      have hfirst := hc command List.mem_cons_self
      have hcache : ∀ c, command ≠ .cache c := by
        rintro c rfl
        exact nomatch hfirst
      obtain ⟨S', hs'⟩ := hs.run hcache
      obtain ⟨T', ht'⟩ := ht.run hcache
      exact ih (h.run hs ht hfirst).1 hs' ht' fun c hm => hc c (List.mem_cons_of_mem _ hm)

end Session

end ConnectionPool
