import ConnectionPool.Proofs.Session.Naming

/-!
# What calls, and commands about statements and caches, come to

A command that finds what it names goes on in one of a few ways. `Session.CallEffect`,
`Session.StatementEffect`, `Session.TrackedEffect` and `Session.CacheEffect` list them for calls on
a connection and for the commands about statements, about tracked statements and about caches, each
with what was found and the session it leads to. That there are no others is said once for each
(`callEffect`, `statementEffect`, `trackedEffect`, `cacheEffect`); what is to hold after every such
command is proved by cases of the effects.
-/

set_option autoImplicit false

namespace ConnectionPool

namespace Session

/-! ## Calls -/

/-- **What becomes of the answer to a call.** -/
inductive CallEffect (s : Session) (c : ConnectionId) (call : Call) (save : Option Name) :
    Session → Prop
  /-- It is no statement, and is passed on. -/
  | passed {w : World} {answer : Answer} (h : s.world.perform c call = (w, answer))
      (hne : ∀ handle, answer ≠ .ok (.statement handle)) : CallEffect s c call save (s.inWorld w)
  /-- It is a statement, which is let go of or kept under the name that was asked for. -/
  | kept {w : World} {handle : Statement} (h : s.world.perform c call = (w, .ok (.statement handle)))
      {name : Option Name} (hname : ∀ n, name = some n → save = some n) :
      CallEffect s c call save ((s.inWorld w).keepStatement name handle (.call c))

theorem callEffect (s : Session) (c : ConnectionId) (call : Call) (into : Into)
    (save : Option Name) : CallEffect s c call save (s.runCall c call into save).1 := by
  obtain ⟨w, answer, hw⟩ : ∃ w answer, s.world.perform c call = (w, answer) := ⟨_, _, rfl⟩
  rcases answer with error | handle | value
  · have hpassed : CallEffect s c call save (s.inWorld w) := .passed hw (by rintro _ ⟨⟩)
    cases into <;>
      simp only [runCall, World.performForTruth, World.performForStatement, hw] <;> exact hpassed
  · have hdropped : CallEffect s c call save ((s.inWorld w).keepStatement none handle (.call c)) :=
      .kept hw fun _ h => nomatch h
    cases into with
    | shown | truth =>
        simp only [runCall, World.performForTruth, Response.asTruth, hw]
        exact hdropped
    | statement =>
        simp only [runCall, World.performForStatement, Response.asStatement, hw]
        exact .kept hw fun _ => id
  · have hpassed : CallEffect s c call save (s.inWorld w) := .passed hw (by rintro _ ⟨⟩)
    cases into <;>
      simp only [runCall, World.performForTruth, World.performForStatement, Response.asTruth,
        Response.asStatement, hw] <;> exact hpassed

/-! ## Commands about statements -/

/-- **What a command about a statement does** once it has found the statement. -/
inductive StatementEffect (s : Session) : StatementCommand → Session → Prop
  /-- The statement is missing, or the command only looks, or it is for facades alone. -/
  | same {command : StatementCommand} : StatementEffect s command s
  | bound {name : Name} {position : Nat} {value : Arg} {held : Held}
      (hn : s.statements.get? name = some held) :
      StatementEffect s (.bind name position value)
        (s.inWorld (s.world.bind held.statement position value).1)
  | cleared {name : Name} {held : Held} (hn : s.statements.get? name = some held) :
      StatementEffect s (.clearParameters name)
        (s.inWorld (s.world.clearParameters held.statement).1)
  | executed {name : Name} {held : Held} (hn : s.statements.get? name = some held) :
      StatementEffect s (.execute name) (s.inWorld (s.world.execute held.statement).1)
  | emptied {name : Name} {held : Held} (hn : s.statements.get? name = some held) :
      StatementEffect s (.closeResultSet name)
        (s.inWorld (s.world.closeResultSet held.statement).1)
  | closed {name : Name} {held : Held} (hn : s.statements.get? name = some held) :
      StatementEffect s (.close name)
        ((s.inWorld (World.close held.statement s.world).1).putStatement name
          { held with statement := held.statement.afterClose })
  | dropped {name : Name} {held : Held} (hn : s.statements.get? name = some held) :
      StatementEffect s (.drop name)
        ((s.inWorld (s.world.dropHandle held.statement)).takeStatement name)
  | forceClosed {name : Name} {held : Held} (hn : s.statements.get? name = some held)
      (ho : held.origin = .facade) :
      StatementEffect s (.forceClose name)
        ((s.inWorld (s.world.forceCloseFacade held.statement).1).putStatement name
          { held with statement := .spent })

theorem statementEffect (s : Session) (command : StatementCommand) :
    StatementEffect s command (s.runStatement command).1 := by
  let P : Outcome → Prop := fun outcome => StatementEffect s command outcome.1
  have hsame : ∀ reply, P (s, reply) := fun _ => .same
  cases command with
  | bind name position value => exact withStatement_rule (P := P) hsame fun held hn => .bound hn
  | clearParameters name => exact withStatement_rule (P := P) hsame fun held hn => .cleared hn
  | execute name =>
      refine withStatement_rule (P := P) hsame fun held hn => ?_
      have heffect : StatementEffect s (.execute name) _ := .executed hn
      split <;> (next hw => rw [hw] at heffect; exact heffect)
  | resultSet name =>
      refine withStatement_rule (P := P) hsame fun held _ => ?_
      split <;> exact hsame _
  | closeResultSet name =>
      refine withStatement_rule (P := P) hsame fun held hn => ?_
      have heffect : StatementEffect s (.closeResultSet name) _ := .emptied hn
      split <;> (next hw => rw [hw] at heffect; exact heffect)
  | close name => exact withStatement_rule (P := P) hsame fun held hn => .closed hn
  | drop name => exact withStatement_rule (P := P) hsame fun held hn => .dropped hn
  | forceClose name =>
      refine withStatement_rule (P := P) hsame fun held hn => ?_
      split
      · next ho => exact .forceClosed hn ho
      · exact hsame _
  | inspect name => exact withStatement_rule (P := P) hsame fun held _ => hsame _

/-! ## Commands about tracked statements -/

/-- **What a command about a tracked statement does** once it has found the statement. -/
inductive TrackedEffect (s : Session) : TrackedCommand → Session → Prop
  /-- Something is missing, or the command only looks. -/
  | same {command : TrackedCommand} : TrackedEffect s command s
  | closed {name : Name} {tracked : Tracked} (hn : s.tracked.get? name = some tracked) :
      TrackedEffect s (.close name) ((s.inWorld (s.world.closeTracked tracked)).takeTracked name)
  | forceClosed {name : Name} {tracked : Tracked} (hn : s.tracked.get? name = some tracked) :
      TrackedEffect s (.forceClose name)
        ((s.inWorld (s.world.forceClose tracked).1).takeTracked name)
  | dropped {name : Name} {tracked : Tracked} (hn : s.tracked.get? name = some tracked) :
      TrackedEffect s (.drop name) ((s.inWorld (s.world.dropTracked tracked)).takeTracked name)
  | bound {name : Name} {position : Nat} {value : Arg} {tracked : Tracked}
      (hn : s.tracked.get? name = some tracked) :
      TrackedEffect s (.bind name position value)
        (s.inWorld (s.world.bind tracked.delegate position value).1)
  | executed {name : Name} {tracked : Tracked} (hn : s.tracked.get? name = some tracked) :
      TrackedEffect s (.execute name) (s.inWorld (s.world.execute tracked.delegate).1)
  | delegateClosed {name : Name} {tracked : Tracked} (hn : s.tracked.get? name = some tracked) :
      TrackedEffect s (.closeDelegate name)
        { s.inWorld (World.close tracked.delegate s.world).1 with
          tracked := s.tracked.insert name
            { tracked with delegate := tracked.delegate.afterClose } }
  | faced {name : Name} {save : Option Name} {tracked : Tracked}
      (hn : s.tracked.get? name = some tracked) :
      TrackedEffect s (.facade name save)
        ((s.takeTracked name).keepStatement save tracked.facade .facade)

theorem trackedEffect (s : Session) (command : TrackedCommand) :
    TrackedEffect s command (s.runTracked command).1 := by
  let P : Outcome → Prop := fun outcome => TrackedEffect s command outcome.1
  have hsame : ∀ reply, P (s, reply) := fun _ => .same
  cases command with
  | close name => exact withTracked_rule (P := P) hsame fun tracked hn => .closed hn
  | forceClose name => exact withTracked_rule (P := P) hsame fun tracked hn => .forceClosed hn
  | drop name => exact withTracked_rule (P := P) hsame fun tracked hn => .dropped hn
  | inspect name => exact withTracked_rule (P := P) hsame fun _ _ => hsame _
  | bind name position value => exact withTracked_rule (P := P) hsame fun tracked hn => .bound hn
  | execute name =>
      refine withTracked_rule (P := P) hsame fun tracked hn => ?_
      have heffect : TrackedEffect s (.execute name) _ := .executed hn
      split <;> (next hw => rw [hw] at heffect; exact heffect)
  | closeDelegate name =>
      exact withTracked_rule (P := P) hsame fun tracked hn => .delegateClosed hn
  | facade name save =>
      exact withFreshStatement_rule (P := P) hsame fun _ =>
        withTracked_rule hsame fun tracked hn => .faced hn

/-! ## Commands about caches -/

/-- **Where a statement to be tracked comes from**: out of the client's hands, or made by the
driver for this purpose. -/
inductive Sourced (s : Session) : StatementSource → Session → Statement → Prop
  | held {name : Name} {held : Held} (hn : s.statements.get? name = some held) :
      Sourced s (.held name) (s.takeStatement name) held.statement
  | fresh (sql : String) :
      Sourced s (.fresh sql)
        (s.inWorld { s.world with driver := (s.world.driver.looseStatement sql).1 })
        (.physical (s.world.driver.looseStatement sql).2)

/-- **What a command about caches does** once it has found what it names. -/
inductive CacheEffect (s : Session) : CacheCommand → Session → Prop
  /-- Something is missing, or the command only looks. -/
  | same {command : CacheCommand} : CacheEffect s command s
  | created {save : Name} {request : PolicyRequest} {fallible : Bool} {policy : CachePolicy}
      (hread : request.read = .ok policy) :
      CacheEffect s (.create save request fallible)
        { s.inWorld (s.world.newCache policy fallible).1 with
          caches := s.caches.insert save (s.world.newCache policy fallible).2 }
  | cloned {cache save : Name} {k : CacheId} (hk : s.caches.get? cache = some k) :
      CacheEffect s (.clone cache save) { s with caches := s.caches.insert save k }
  | dropped {cache : Name} {k : CacheId} (hk : s.caches.get? cache = some k) :
      CacheEffect s (.drop cache) (s.dropCache cache k)
  | started {pool cache : Name} {p : PoolId} (hp : s.pools.get? pool = some p) :
      CacheEffect s (.poolStarted pool cache) (s.inWorld (s.world.startCounting p))
  | stopped {pool cache : Name} {p : PoolId} (hp : s.pools.get? pool = some p) :
      CacheEffect s (.poolClosed pool cache) (s.inWorld (s.world.stopCounting p))
  | attached {pool cache : Name} {via : Via} {p : PoolId} {k : CacheId} {c : ConnectionId}
      (hp : s.pools.get? pool = some p) (hk : s.caches.get? cache = some k)
      (hc : s.connection? via = some c) :
      CacheEffect s (.attach pool cache via) (s.inWorld (s.world.attach k p c))
  | drained {pool cache : Name} {via : Via} {p : PoolId} {k : CacheId} {c : ConnectionId}
      (hp : s.pools.get? pool = some p) (hk : s.caches.get? cache = some k)
      (hc : s.connection? via = some c) :
      CacheEffect s (.drain pool cache via) (s.inWorld (s.world.drain k p c))
  | detached {cache : Name} {k : CacheId} (hk : s.caches.get? cache = some k) :
      CacheEffect s (.detach cache) (s.inWorld (s.world.detach k))
  /-- A call of an eligible method that has no key. -/
  | failed {cache : Name} {request : CallRequest} {save : Option Name} {w : World}
      {error : PoolError} (k : CacheId) (call : Call)
      (hfree : ∀ name, save = some name → s.tracked.get? name = none)
      (hk : s.caches.get? cache = some k) (hcall : request.read = .ok call)
      (h : s.world.fetch k call = (w, .error error)) :
      CacheEffect s (.fetch cache request save) (s.inWorld w)
  | missed {cache : Name} {request : CallRequest} {save : Option Name} {w : World}
      (k : CacheId) (call : Call) (hfree : ∀ name, save = some name → s.tracked.get? name = none)
      (hk : s.caches.get? cache = some k) (hcall : request.read = .ok call)
      (h : s.world.fetch k call = (w, .ok none)) :
      CacheEffect s (.fetch cache request save) (s.inWorld w)
  | fetched {cache : Name} {request : CallRequest} {save : Option Name} {w : World}
      {tracked : Tracked} (k : CacheId) (call : Call)
      (hfree : ∀ name, save = some name → s.tracked.get? name = none)
      (hk : s.caches.get? cache = some k) (hcall : request.read = .ok call)
      (h : s.world.fetch k call = (w, .ok (some tracked))) :
      CacheEffect s (.fetch cache request save) ((s.inWorld w).keepTracked save tracked)
  | tracked {cache : Name} {request : CallRequest} {source : StatementSource} {save : Name}
      (k : CacheId) (call : Call) (t : Session) (handle : Statement)
      (hk : s.caches.get? cache = some k) (hcall : request.read = .ok call)
      (hsource : Sourced s source t handle) :
      CacheEffect s (.track cache request source save)
        (t.keepTracked (some save)
          (World.track k ((t.world.cache k).policy.keyFor call) handle))
  /-- The statement that was to be wrapped cannot be wrapped, and is gone. -/
  | unwrapped {cache : Name} {request : CallRequest} {source : StatementSource}
      {save : Option Name} {w : World} {error : DriverError} (k : CacheId) (call : Call)
      (t : Session) (handle : Statement) (hk : s.caches.get? cache = some k)
      (hcall : request.read = .ok call) (hsource : Sourced s source t handle)
      (h : t.world.wrapPrepared k handle call = (w, .error error)) :
      CacheEffect s (.wrapPrepared cache request source save) (t.inWorld w)
  | wrapped {cache : Name} {request : CallRequest} {source : StatementSource}
      {save : Option Name} {w : World} {facade : Statement} (k : CacheId) (call : Call)
      (t : Session) (handle : Statement) (hk : s.caches.get? cache = some k)
      (hcall : request.read = .ok call) (hsource : Sourced s source t handle)
      (h : t.world.wrapPrepared k handle call = (w, .ok facade)) :
      CacheEffect s (.wrapPrepared cache request source save)
        ((t.inWorld w).keepStatement save facade (.cache k))
  | admitted {cache name : Name} {w : World} (keep : Bool) (k : CacheId) (tracked : Tracked)
      (hk : s.caches.get? cache = some k) (hn : s.tracked.get? name = some tracked)
      (h : s.world.offer k tracked = (w, none)) :
      CacheEffect s (.offer cache name keep) ((s.inWorld w).takeTracked name)
  /-- The cache turns a statement down and the client keeps it. -/
  | kept {cache name : Name} {w : World} {reason : RejectReason} (k : CacheId) (tracked : Tracked)
      (hk : s.caches.get? cache = some k) (hn : s.tracked.get? name = some tracked)
      (h : s.world.offer k tracked = (w, some reason)) :
      CacheEffect s (.offer cache name true) (s.inWorld w)
  /-- The cache turns a statement down and the client lets go of it. -/
  | letGo {cache name : Name} {w : World} {reason : RejectReason} (k : CacheId)
      (tracked : Tracked) (hk : s.caches.get? cache = some k)
      (hn : s.tracked.get? name = some tracked)
      (h : s.world.offer k tracked = (w, some reason)) :
      CacheEffect s (.offer cache name false)
        ((s.inWorld (w.dropTracked tracked)).takeTracked name)
  | absent {cache : Name} {request : CallRequest} {save : Option Name} {call : Call} {w : World}
      (k : CacheId) (key : CacheKey)
      (hfree : ∀ name, save = some name → s.tracked.get? name = none)
      (hk : s.caches.get? cache = some k) (hcall : request.read = .ok call)
      (hkey : CacheKey.ofCall? call = some key) (h : s.world.withdraw k key = (w, none)) :
      CacheEffect s (.withdraw cache request save) (s.inWorld w)
  | withdrawn {cache : Name} {request : CallRequest} {save : Option Name} {call : Call}
      {w : World} {tracked : Tracked} (k : CacheId) (key : CacheKey)
      (hfree : ∀ name, save = some name → s.tracked.get? name = none)
      (hk : s.caches.get? cache = some k) (hcall : request.read = .ok call)
      (hkey : CacheKey.ofCall? call = some key)
      (h : s.world.withdraw k key = (w, some tracked)) :
      CacheEffect s (.withdraw cache request save) ((s.inWorld w).keepTracked save tracked)

variable {s : Session} {source : StatementSource} {P : Outcome → Prop}

theorem Sourced.names {t : Session} {handle : Statement} (h : Sourced s source t handle) :
    t.shared = s.shared ∧ t.caches = s.caches := by
  cases h with
  | held hn => exact ⟨rfl, rfl⟩
  | fresh sql => exact ⟨rfl, rfl⟩

theorem withSource_rule {f : Session → Statement → Outcome}
    (hs : ∀ reply, P (s, reply))
    (hf : ∀ t handle, Sourced s source t handle → P (f t handle)) : P (s.withSource source f) := by
  cases source with
  | held name => exact withStatement_rule hs fun held hn => hf _ _ (.held hn)
  | fresh sql => exact hf _ _ (.fresh sql)

theorem cacheEffect (s : Session) (command : CacheCommand) :
    CacheEffect s command (s.runCache command).1 := by
  let P : Outcome → Prop := fun outcome => CacheEffect s command outcome.1
  have hsame : ∀ reply, P (s, reply) := fun _ => .same
  cases command with
  | create save request fallible =>
      refine withFresh_rule (P := P) hsame fun _ => ?_
      split
      · exact hsame _
      · next policy hread => exact .created hread
  | clone cache save =>
      exact withFresh_rule (P := P) hsame fun _ => withCache_rule hsame fun k hk => .cloned hk
  | drop cache => exact withCache_rule (P := P) hsame fun k hk => .dropped hk
  | poolStarted pool cache =>
      exact withPool_rule (P := P) hsame fun p hp => withCache_rule hsame fun _ _ => .started hp
  | poolClosed pool cache =>
      exact withPool_rule (P := P) hsame fun p hp => withCache_rule hsame fun _ _ => .stopped hp
  | attach pool cache via =>
      exact withPool_rule (P := P) hsame fun p hp => withCache_rule hsame fun k hk =>
        withConnection_rule hsame fun c hc => .attached hp hk hc
  | drain pool cache via =>
      exact withPool_rule (P := P) hsame fun p hp => withCache_rule hsame fun k hk =>
        withConnection_rule hsame fun c hc => .drained hp hk hc
  | detach cache => exact withCache_rule (P := P) hsame fun k hk => .detached hk
  | keyFor cache request =>
      refine withCache_rule (P := P) hsame fun k _ => withCall_rule hsame fun call _ => ?_
      split <;> exact hsame _
  | fetch cache request save =>
      refine withFreshTracked_rule (P := P) hsame fun hfree => withCache_rule hsame fun k hk =>
        withCall_rule hsame fun call hcall => ?_
      obtain ⟨w, result, hw⟩ : ∃ w result, s.world.fetch k call = (w, result) := ⟨_, _, rfl⟩
      rw [hw]
      obtain error | none | tracked := result
      · exact .failed k call hfree hk hcall hw
      · exact .missed k call hfree hk hcall hw
      · exact .fetched k call hfree hk hcall hw
  | track cache request source save =>
      exact withFreshTracked_rule (P := P) hsame fun _ => withCache_rule hsame fun k hk =>
        withCall_rule hsame fun call hcall => withSource_rule hsame fun t handle hsource =>
          .tracked k call t handle hk hcall hsource
  | wrapPrepared cache request source save =>
      refine withFreshStatement_rule (P := P) hsame fun _ => withCache_rule hsame fun k hk =>
        withCall_rule hsame fun call hcall => withSource_rule hsame fun t handle hsource => ?_
      obtain ⟨w, result, hw⟩ : ∃ w result, t.world.wrapPrepared k handle call = (w, result) :=
        ⟨_, _, rfl⟩
      rw [hw]
      cases result with
      | error error => exact .unwrapped k call t handle hk hcall hsource hw
      | ok facade => exact .wrapped k call t handle hk hcall hsource hw
  | offer cache name keep =>
      refine withCache_rule (P := P) hsame fun k hk => withTracked_rule hsame fun tracked hn => ?_
      obtain ⟨w, refusal, hw⟩ : ∃ w refusal, s.world.offer k tracked = (w, refusal) := ⟨_, _, rfl⟩
      rw [hw]
      cases refusal with
      | none => exact .admitted keep k tracked hk hn hw
      | some reason =>
          cases keep with
          | true => exact .kept k tracked hk hn hw
          | false => exact .letGo k tracked hk hn hw
  | withdraw cache request save =>
      refine withFreshTracked_rule (P := P) hsame fun hfree => withCache_rule hsame fun k hk =>
        withCall_rule hsame fun call hcall => ?_
      split
      · exact hsame _
      · next key hkey =>
          obtain ⟨w, found, hw⟩ : ∃ w found, s.world.withdraw k key = (w, found) := ⟨_, _, rfl⟩
          rw [hw]
          cases found with
          | none => exact .absent k key hfree hk hcall hkey hw
          | some tracked => exact .withdrawn k key hfree hk hcall hkey hw
  | inspect cache => exact withCache_rule (P := P) hsame fun _ _ => hsame _

end Session

end ConnectionPool
