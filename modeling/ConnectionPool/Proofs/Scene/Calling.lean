import ConnectionPool.Proofs.Chain.Conduct
import ConnectionPool.Proofs.Scene.Handing
import ConnectionPool.Proofs.Scene.Wiring

/-!
# Calls, step by step

A call on a connection is a sequence of steps of a scene after which the statement that it was
answered with, if any, is out (`steps_send`). What the rest of a chain does is an assumption
about the `next` of each link (`Carries`), so that the links are treated one by one.
-/

set_option autoImplicit false

namespace ConnectionPool

/-- The handle that an answer brings. -/
def Answer.hands : Answer → Multiset Statement
  | .ok (.statement handle) => {handle}
  | _ => 0

theorem Answer.hands_eq_zero {answer : Answer}
    (h : ∀ handle, answer ≠ .ok (.statement handle)) : answer.hands = 0 := by
  unfold Answer.hands
  split
  · next handle => exact absurd rfl (h handle)
  · rfl

namespace World

/-! ## What single operations do -/

theorem sameCaching_refl (w : World) : w.SameCaching w where
  caches := rfl
  counters := rfl
  statements := rfl
  lines := rfl
  log := rfl
  connections_size := rfl
  pools_size := rfl
  connection _ := rfl
  pool _ := rfl
  idle _ _ hc := Or.inl hc
  journal := ⟨[], (List.append_nil _).symm, fun _ h => nomatch h⟩

theorem sameCaching_note (w : World) (receiver : Receiver) (interceptor : Interceptor)
    {content : NoticeContent}
    (h : ∀ call handle, content ≠ .leave call (.ok (.statement handle))) :
    w.SameCaching (w.note receiver interceptor content) :=
  { w.sameCaching_refl with
    journal := ⟨_, rfl, fun notice hn call handle => by
      rw [List.mem_singleton.mp hn]
      exact h call handle⟩ }

/-- **One link of a chain** notes that a call entered, does its part, and notes what left. -/
theorem send_cons {c : ConnectionId} {position : Nat} {interceptor : Interceptor}
    {rest : List Interceptor} {call : Call} {w entered : World}
    (h : entered = w.note (.link c position) interceptor
      (.enter call rest.length (w.connection c).metadata.number)) :
    send c (interceptor :: rest) position call w
      = ((handle interceptor (send c rest (position + 1)) call entered).1.note
          (.link c position) interceptor
          (.leave call (handle interceptor (send c rest (position + 1)) call entered).2),
        (handle interceptor (send c rest (position + 1)) call entered).2) := by
  rw [h]
  rfl

theorem left_note (w : World) (c : ConnectionId) (position : Nat) (interceptor : Interceptor)
    (call : Call) (handle : Statement) :
    (w.note (.link c position) interceptor (.leave call (.ok (.statement handle)))).Left
      c position call handle :=
  ⟨_, List.mem_append_right _ (List.mem_singleton.mpr rfl), rfl, rfl⟩

theorem entered_note (w : World) (c : ConnectionId) (position : Nat) (interceptor : Interceptor)
    (call : Call) (remaining number : Nat) :
    (w.note (.link c position) interceptor (.enter call remaining number)).Entered
      c position call :=
  ⟨_, List.mem_append_right _ (List.mem_singleton.mpr rfl), rfl, remaining, number, rfl⟩

/-- Putting a facade before a statement has no effect, or fails and lets go of it. -/
theorem wrap_cases (w : World) (k : CacheId) (tracked : Tracked) :
    w.wrap k tracked = (w, .ok tracked.facade)
      ∨ ∃ due, w.wrap k tracked
        = (({ w with wrapFaults := due } : World).dropTracked tracked, .error wrapFailed) := by
  unfold wrap
  split
  · next due _ _ => exact Or.inr ⟨due, rfl⟩
  · exact Or.inl rfl

theorem setStore_releaseSlot (w : World) (n : Option CounterId) (c : ConnectionId)
    (store : Store) : (w.releaseSlot n).setStore c store = (w.setStore c store).releaseSlot n := by
  cases n <;> rfl

/-- A look-up has no effect, or tallies a miss, or takes a statement out of the store. -/
theorem fetch_cases (w : World) (k : CacheId) (call : Call) :
    (w.fetch k call = (w, .ok none) ∨ ∃ error, w.fetch k call = (w, .error error))
    ∨ (∃ key binding, (w.cache k).policy.keyFor call = some key
      ∧ (w.cache k).binding = some binding
      ∧ (w.store binding.connection).entries.get? key = none
      ∧ w.fetch k call = (w.setStore binding.connection (w.store binding.connection).recordMiss,
        .ok none))
    ∨ ∃ key binding tracked, (w.cache k).policy.keyFor call = some key
      ∧ (w.cache k).binding = some binding
      ∧ (w.store binding.connection).entries.get? key = some tracked
      ∧ w.fetch k call = (w.found binding key, .ok (some tracked)) := by
  by_cases hskip : (!(w.cache k).policy.keeps call.method || call.sql?.isNone) = true
  · exact Or.inl (Or.inl (by simp only [fetch]; rw [if_pos hskip]))
  · cases hkey : (w.cache k).policy.keyFor call with
    | none => exact Or.inl (Or.inr ⟨_, by simp only [fetch]; rw [if_neg hskip, hkey]⟩)
    | some key =>
        cases hb : (w.cache k).binding with
        | none => exact Or.inl (Or.inl (by simp only [fetch]; rw [if_neg hskip, hkey, hb]))
        | some binding =>
            cases hf : (w.store binding.connection).entries.get? key with
            | none =>
                refine Or.inr (Or.inl ⟨key, binding, rfl, rfl, hf, ?_⟩)
                simp only [fetch]
                rw [if_neg hskip, hkey, hb]
                simp only [hf]
            | some tracked =>
                refine Or.inr (Or.inr ⟨key, binding, tracked, rfl, rfl, hf, ?_⟩)
                simp only [fetch]
                rw [if_neg hskip, hkey, hb]
                simp only [hf, setStore_releaseSlot, found]

/-- The driver's connection answers with a statement that it makes for the call, or with no
statement and no effect. -/
theorem ask_cases (w : World) (c : ConnectionId) (call : Call) :
    ((w.ask c call).1 = w ∧ ∀ handle, (w.ask c call).2 ≠ .ok (.statement handle))
    ∨ ∃ made sql, ∃ event : StatementId → DriverEvent, made.method = call.method
      ∧ (call.method.prepares = true → made = call) ∧ (∀ id, (event id).made? = some id)
      ∧ (w.connection c).closed = false
      ∧ w.ask c call = ({ w with driver := (w.driver.issue
            { sql, origin := some ((w.connection c).physical, made) } event).1 },
          .ok (.statement (.physical w.driver.statements.next))) := by
  obtain ⟨method, args⟩ := call
  cases hc : (w.connection c).closed with
  | true =>
      left
      simp [ask, hc]
  | false =>
      cases hl : (w.driver.connection (w.connection c).physical).closed with
      | true =>
          left
          cases method <;>
            simp [ask, hc, hl, onDriver, Driver.prepareStatement, Driver.prepareCall,
              Driver.createStatement, Driver.prepareBy, answered]
      | false =>
          cases method with
          | isValid =>
              left
              simp [ask, hc]
          | createStatement =>
              exact Or.inr ⟨⟨.createStatement, []⟩, "", .created, rfl,
                by rintro ⟨⟩, fun _ => rfl, rfl, by
                  simp [ask, hc, hl, onDriver, Driver.createStatement, answered, Driver.issue]⟩
          | prepareStatement =>
              cases hs : Call.sql? ⟨.prepareStatement, args⟩ with
              | none =>
                  left
                  simp [ask, hc, hl, onDriver, Driver.prepareStatement, Driver.prepareBy, hs,
                    answered]
              | some sql =>
                  exact Or.inr ⟨⟨.prepareStatement, args⟩, sql, fun id => .prepared id sql, rfl,
                    fun _ => rfl, fun _ => rfl, rfl, by
                      simp [ask, hc, hl, onDriver, Driver.prepareStatement, Driver.prepareBy, hs,
                        answered, Driver.issue]⟩
          | prepareCall =>
              cases hs : Call.sql? ⟨.prepareCall, args⟩ with
              | none =>
                  left
                  simp [ask, hc, hl, onDriver, Driver.prepareCall, Driver.prepareBy, hs, answered]
              | some sql =>
                  exact Or.inr ⟨⟨.prepareCall, args⟩, sql, fun id => .preparedCall id sql, rfl,
                    fun _ => rfl, fun _ => rfl, rfl, by
                      simp [ask, hc, hl, onDriver, Driver.prepareCall, Driver.prepareBy, hs,
                        answered, Driver.issue]⟩

/-- A connection that was never opened is closed. -/
theorem perform_of_not_known (w : World) {c : ConnectionId} (h : ¬ w.connections.Known c)
    (call : Call) : w.perform c call = (w, .error .connectionClosed) := by
  have hconn : w.connection c = default := Registry.get_of_not_known h
  rw [perform, hconn]
  show w.ask c call = _
  rw [ask, if_pos (by rw [hconn]; rfl)]

end World

namespace Scene

variable {S : Scene}

theorem steps_note (S : Scene) (receiver : Receiver) (interceptor : Interceptor)
    {content : NoticeContent}
    (h : ∀ call handle, content ≠ .leave call (.ok (.statement handle))) :
    Step S (S.inWorld (S.world.note receiver interceptor content)) :=
  .book (S.world.sameCaching_note receiver interceptor h)

theorem steps_found {k : CacheId} {binding : Binding} {key : CacheKey} {tracked : Tracked}
    (hb : (S.world.cache k).binding = some binding)
    (hf : (S.world.store binding.connection).entries.get? key = some tracked) :
    Steps S { S with
      world := S.world.found binding key, hands := tracked.facade ::ₘ S.hands } :=
  have htake : Step S { S with
      world := S.world.setStore binding.connection
        ((S.world.store binding.connection).remove key).recordHit
      hands := tracked.facade ::ₘ S.hands
      owed := binding.counter ::ₘ S.owed } := .take hb hf rfl rfl
  .tail (.single htake) (.repay rfl)

/-- A look-up of a cache takes a statement out of the store, if it finds one. -/
theorem steps_fetch (S : Scene) (k : CacheId) (call : Call) :
    (∃ tracked, (S.world.fetch k call).2 = .ok (some tracked)
      ∧ Steps S { S with
        world := (S.world.fetch k call).1, hands := tracked.facade ::ₘ S.hands })
    ∨ ((∀ tracked, (S.world.fetch k call).2 ≠ .ok (some tracked))
      ∧ Steps S (S.inWorld (S.world.fetch k call).1)) := by
  obtain (h | ⟨error, h⟩) | ⟨_, ⟨c, _⟩, -, -, -, h⟩ | ⟨key, binding, tracked, hkey, hb, hf, h⟩ :=
    S.world.fetch_cases k call
  · rw [h]
    exact Or.inr ⟨fun _ h => (nomatch h), .refl⟩
  · rw [h]
    exact Or.inr ⟨fun _ h => (nomatch h), .refl⟩
  · rw [h]
    exact Or.inr ⟨fun _ h => (nomatch h), .single (.tally c rfl rfl)⟩
  · rw [h]
    exact Or.inl ⟨tracked, rfl, steps_found hb hf⟩

/-! ## What the rest of a chain does -/

/-- What a chain does from a position on is a sequence of steps, and a statement that comes of
it is answered there. -/
def Carries (c : ConnectionId) (chain : List Interceptor) (position : Nat)
    (next : Call → World → World × Answer) : Prop :=
  ∀ (S : Scene) (call : Call), S.Wired → S.world.connections.Known c →
    (S.world.connection c).chain = chain →
    Steps S { S with
      world := (next call S.world).1, hands := Answer.hands (next call S.world).2 + S.hands }
    ∧ ∀ handle, (next call S.world).2 = .ok (.statement handle) →
      ∃ call', call'.method = call.method ∧ (call.method.prepares = true → call' = call)
        ∧ (next call S.world).1.Answered c position call' handle

/-- Steps keep the wiring, and the chain of every connection. -/
theorem Steps.later_and_wired {S S' : Scene} (h : Steps S S') (hS : S.Wired) :
    S.world.Later S'.world ∧ S'.Wired := by
  induction h with
  | refl => exact ⟨.refl _, hS⟩
  | tail _ hstep ih =>
      obtain ⟨hl, hw⟩ := hstep.later_and_wired ih.2
      exact ⟨ih.1.trans hl, hw⟩

theorem carries_ask (c : ConnectionId) (chain : List Interceptor) :
    Carries c chain chain.length fun call w => w.ask c call := by
  intro S call hS hc hchain
  beta_reduce
  obtain ⟨hw, hne⟩ | ⟨made, sql, event, hm, hp, he, -, ha⟩ := S.world.ask_cases c call
  · rw [hw, Answer.hands_eq_zero hne, Multiset.zero_add]
    exact ⟨.refl, fun handle h => absurd h (hne handle)⟩
  · rw [ha]
    have hissue : Step S { S with
        world := { S.world with driver := (S.world.driver.issue
          { sql, origin := some ((S.world.connection c).physical, made) } event).1 }
        hands := .physical S.world.driver.statements.next ::ₘ S.hands } :=
      .issue ⟨rfl, rfl, fun h => nomatch h⟩ he
        (by rintro line call ⟨⟩; exact Or.inr ⟨c, hc, rfl⟩)
    refine ⟨.single hissue, ?_⟩
    rintro handle ⟨⟩
    refine ⟨made, hm, hp, Or.inr ⟨congrArg List.length hchain.symm, _, rfl, ?_⟩⟩
    show ((S.world.driver.issue _ _).1.statement _).origin = _
    rw [Driver.statement_issue, if_pos rfl]
    rfl

/-! ## The links of a chain -/

section Links

variable {c : ConnectionId} {chain : List Interceptor} {position : Nat}
  {next : Call → World → World × Answer} {call : Call}

/-- A statement that a link answers with came from behind it, by a link that passed the call
on, or the cache there put a facade before it. -/
def Brings (w : World) (c : ConnectionId) (position : Nat) (interceptor : Interceptor)
    (call : Call) (handle : Statement) : Prop :=
  (∃ call', call'.method = call.method
    ∧ (call.method.prepares = true → interceptor.handsOn? call = some call')
    ∧ w.Answered c (position + 1) call' handle)
  ∨ ∃ key k inner, handle = .facade key k inner ∧ interceptor.cache? = some k
    ∧ w.Answered c (position + 1) call inner

theorem steps_fill (hnext : Carries c chain (position + 1) next) {k : CacheId}
    (hk : (chain[position]?).bind Interceptor.cache? = some k)
    (hp : call.method.prepares = true) (hS : S.Wired) (hc : S.world.connections.Known c)
    (hchain : (S.world.connection c).chain = chain) (he : S.world.Entered c position call) :
    Steps S { S with
      world := (World.fill k next call S.world).1
      hands := Answer.hands (World.fill k next call S.world).2 + S.hands }
    ∧ ∀ handle, (World.fill k next call S.world).2 = .ok (.statement handle) →
      ∃ key inner, handle = .facade key k inner
        ∧ (World.fill k next call S.world).1.Answered c (position + 1) call inner := by
  obtain ⟨hsteps, hanswered⟩ := hnext S call hS hc hchain
  unfold World.fill
  split
  · next w statement hw =>
      rw [hw] at hsteps hanswered
      obtain ⟨hl, hS'⟩ := hsteps.later_and_wired hS
      have hhands : Answer.hands (.ok (.statement statement)) + S.hands
          = statement ::ₘ S.hands := Multiset.singleton_add _ _
      rw [hhands] at hsteps hl hS'
      obtain ⟨call', -, hcall, ha⟩ := hanswered statement rfl
      rw [hcall hp] at ha
      have hk' : (w.connection c).cacheAt? position = some k := by
        rw [Connection.cacheAt?_of_frame (hl.connections c hc).2, Connection.cacheAt?, hchain]
        exact hk
      have hfill := Step.fill (S := { S with world := w, hands := statement ::ₘ S.hands })
        rfl hk' hp (hl.entered he) ha
      rcases w.wrap_cases k (World.track k ((w.cache k).policy.keyFor call) statement) with
        hwrap | ⟨due, hwrap⟩
      · rw [World.wrapPrepared, hwrap]
        refine ⟨?_, fun handle h => ?_⟩
        · show Steps S { S with
            world := w, hands := {(World.track k _ statement).facade} + S.hands }
          rw [Multiset.singleton_add]
          exact hsteps.tail hfill
        · cases h
          exact ⟨_, _, rfl, ha⟩
      · rw [World.wrapPrepared, hwrap]
        refine ⟨?_, by rintro _ ⟨⟩⟩
        have hbook : Step { S with world := w, hands := statement ::ₘ S.hands }
            { S with world := { w with wrapFaults := due }, hands := statement ::ₘ S.hands } :=
          .book { w.sameCaching_refl with
            journal := ⟨[], (List.append_nil _).symm, fun _ h => absurd h List.not_mem_nil⟩ }
        exact (hsteps.tail hbook).trans ((steps_close statement
          (S := { S with
            world := { w with wrapFaults := due }, hands := statement ::ₘ S.hands }) rfl).trans
          (by rw [Answer.hands_eq_zero (by rintro _ ⟨⟩), Multiset.zero_add]; exact .refl))
  · next hother =>
      have hne : ∀ handle, (next call S.world).2 ≠ .ok (.statement handle) :=
        fun handle h => hother (next call S.world).1 handle (Prod.ext rfl h)
      exact ⟨hsteps, fun handle h => absurd h (hne handle)⟩

/-- A cache answers with the statement that it finds, or what it does is a sequence of steps. -/
theorem steps_serve (hnext : Carries c chain (position + 1) next) {interceptor : Interceptor}
    {k : CacheId} (hl : chain[position]? = some interceptor) (hk : interceptor.cache? = some k)
    (hS : S.Wired) (hc : S.world.connections.Known c)
    (hchain : (S.world.connection c).chain = chain) (he : S.world.Entered c position call) :
    (∃ binding key tracked, (S.world.cache k).binding = some binding
      ∧ (S.world.cache k).policy.keyFor call = some key
      ∧ (S.world.store binding.connection).entries.get? key = some tracked
      ∧ World.serve k next call S.world
        = (S.world.found binding key, .ok (.statement tracked.facade)))
    ∨ (Steps S { S with
        world := (World.serve k next call S.world).1
        hands := Answer.hands (World.serve k next call S.world).2 + S.hands }
      ∧ ∀ handle, (World.serve k next call S.world).2 = .ok (.statement handle) →
        Brings (World.serve k next call S.world).1 c position interceptor call handle) := by
  have hbind : (chain[position]?).bind Interceptor.cache? = some k := by rw [hl]; exact hk
  -- a call that goes on to the rest of the chain after the look-up
  have hon : ∀ w, call.method.prepares = true → Steps S (S.inWorld w) →
      Steps S { S with
        world := (World.fill k next call w).1
        hands := Answer.hands (World.fill k next call w).2 + S.hands }
      ∧ ∀ handle, (World.fill k next call w).2 = .ok (.statement handle) →
        Brings (World.fill k next call w).1 c position interceptor call handle := by
    intro w hp hsteps
    obtain ⟨hlater, hS'⟩ := hsteps.later_and_wired hS
    have hf := hlater.connections c hc
    obtain ⟨hfill, hfacade⟩ := steps_fill (S := S.inWorld w) hnext hbind hp hS'
      hf.1 ((Connection.chain_of_frame hf.2).trans hchain) (hlater.entered he)
    refine ⟨hsteps.trans hfill, fun handle h => Or.inr ?_⟩
    obtain ⟨key, inner, rfl, ha⟩ := hfacade handle h
    exact ⟨key, k, inner, rfl, hk, ha⟩
  by_cases hp : call.method.prepares = true
  · obtain (h | ⟨error, h⟩) | ⟨_, ⟨d, _⟩, -, -, -, h⟩ | ⟨key, binding, tracked, hkey, hb, hf, h⟩ :=
      S.world.fetch_cases k call
    · have hw : World.serve k next call S.world = World.fill k next call S.world := by
        simp only [World.serve, hp, if_true, h]
      rw [hw]
      exact Or.inr (hon _ hp .refl)
    · have hw : World.serve k next call S.world = (S.world, .error error) := by
        simp only [World.serve, hp, if_true, h]
      rw [hw, Answer.hands_eq_zero (by rintro _ ⟨⟩), Multiset.zero_add]
      exact Or.inr ⟨.refl, fun handle h => nomatch h⟩
    · have hw : World.serve k next call S.world
          = World.fill k next call (S.world.setStore d (S.world.store d).recordMiss) := by
        simp only [World.serve, hp, if_true, h]
      rw [hw]
      exact Or.inr (hon _ hp (.single (.tally d rfl rfl)))
    · rcases (S.world.found binding key).wrap_cases k tracked with hwrap | ⟨due, hwrap⟩
      · exact Or.inl ⟨binding, key, tracked, hb, hkey, hf, by
          simp only [World.serve, hp, if_true, h, hwrap]⟩
      · -- the statement found cannot be given a facade, and is closed
        have hw : World.serve k next call S.world = World.fill k next call
            (({ S.world.found binding key with wrapFaults := due } : World).dropTracked
              tracked) := by
          simp only [World.serve, hp, if_true, h, hwrap]
        rw [hw]
        refine Or.inr (hon _ hp ?_)
        have hbook : Step
            { S with world := S.world.found binding key, hands := tracked.facade ::ₘ S.hands }
            { S with
              world := { S.world.found binding key with wrapFaults := due }
              hands := tracked.facade ::ₘ S.hands } :=
          .book { World.sameCaching_refl _ with
            journal := ⟨[], (List.append_nil _).symm, fun _ h => absurd h List.not_mem_nil⟩ }
        exact ((steps_found hb hf).tail hbook).trans (steps_dropTracked tracked
          (S := { S with
            world := { S.world.found binding key with wrapFaults := due }
            hands := tracked.facade ::ₘ S.hands }) rfl)
  · obtain ⟨hsteps, hanswered⟩ := hnext S call hS hc hchain
    have hw : World.serve k next call S.world = next call S.world := by
      simp only [World.serve, hp]
      rfl
    rw [hw]
    refine Or.inr ⟨hsteps, fun handle h => Or.inl ?_⟩
    obtain ⟨call', hm, -, ha⟩ := hanswered handle h
    exact ⟨call', hm, fun h => absurd h hp, ha⟩

/-- A link answers with a new statement, or with one that it finds, or what it does is a
sequence of steps. -/
theorem steps_handle (hnext : Carries c chain (position + 1) next) {interceptor : Interceptor}
    (hl : chain[position]? = some interceptor) (hS : S.Wired)
    (hc : S.world.connections.Known c) (hchain : (S.world.connection c).chain = chain)
    (he : S.world.Entered c position call) :
    (interceptor.Supplies call.method ∧ World.handle interceptor next call S.world
      = ({ S.world with driver := (S.world.driver.looseStatement "answered").1 },
        .ok (.statement (.physical S.world.driver.statements.next))))
    ∨ (∃ k binding key tracked, interceptor.cache? = some k
      ∧ (S.world.cache k).binding = some binding
      ∧ (S.world.cache k).policy.keyFor call = some key
      ∧ (S.world.store binding.connection).entries.get? key = some tracked
      ∧ World.handle interceptor next call S.world
        = (S.world.found binding key, .ok (.statement tracked.facade)))
    ∨ (Steps S { S with
        world := (World.handle interceptor next call S.world).1
        hands := Answer.hands (World.handle interceptor next call S.world).2 + S.hands }
      ∧ ∀ handle, (World.handle interceptor next call S.world).2 = .ok (.statement handle) →
        Brings (World.handle interceptor next call S.world).1 c position interceptor call
          handle) := by
  cases interceptor.conduct call with
  | serves k hk h =>
      rw [h]
      rcases steps_serve hnext hl hk hS hc hchain he with
        ⟨binding, key, tracked, hb, hkey, hf, hw⟩ | hw
      · exact Or.inr (Or.inl ⟨k, binding, key, tracked, hk, hb, hkey, hf, hw⟩)
      · exact Or.inr (Or.inr hw)
  | handsOn passed hk hon hm h =>
      rw [h]
      obtain ⟨hsteps, hanswered⟩ := hnext S passed hS hc hchain
      refine Or.inr (Or.inr ⟨hsteps, fun handle ha => Or.inl ?_⟩)
      obtain ⟨call', hm', hsame, ha⟩ := hanswered handle ha
      refine ⟨call', hm'.trans hm, fun hp => ?_, ha⟩
      rw [hsame (by rw [hm]; exact hp)]
      exact hon
  | supplies hk hon hs h => exact Or.inl ⟨hs, h next S.world⟩
  | answers answer hk hon hne h =>
      rw [h, Answer.hands_eq_zero hne, Multiset.zero_add]
      exact Or.inr (Or.inr ⟨.refl, fun handle ha => absurd ha (hne handle)⟩)

/-- A link does its part of a call that has entered, and notes what leaves. -/
theorem steps_link (hnext : Carries c chain (position + 1) next) {interceptor : Interceptor}
    (hl : chain[position]? = some interceptor) (hS : S.Wired)
    (hc : S.world.connections.Known c) (hchain : (S.world.connection c).chain = chain)
    (he : S.world.Entered c position call) {w : World} {answer : Answer}
    (hhandle : World.handle interceptor next call S.world = (w, answer)) :
    Steps S { S with
      world := w.note (.link c position) interceptor (.leave call answer)
      hands := answer.hands + S.hands } := by
  have hlink : (S.world.connection c).chain[position]? = some interceptor := by
    rw [hchain]
    exact hl
  obtain ⟨hs, h⟩ | ⟨k, binding, key, tracked, hk, hb, hkey, hf, h⟩ | ⟨hsteps, hbrings⟩ :=
    steps_handle hnext hl hS hc hchain he
  · cases hhandle.symm.trans h
    exact .single (.answer call "answered" hlink hs)
  · cases hhandle.symm.trans h
    exact .single (.hit call hlink hk hb hkey hf)
  · rw [hhandle] at hsteps hbrings
    have hlater := (hsteps.later_and_wired hS).1
    have hlink' : (w.connection c).chain[position]? = some interceptor := by
      rw [Connection.chain_of_frame (hlater.connections c hc).2]
      exact hlink
    refine hsteps.tail ?_
    cases answer with
    | error error => exact steps_note _ _ _ (by rintro _ _ ⟨⟩)
    | ok response =>
        cases response with
        | truth value => exact steps_note _ _ _ (by rintro _ _ ⟨⟩)
        | statement handle =>
            have hmem : handle ∈ Answer.hands (.ok (.statement handle)) + S.hands :=
              Multiset.mem_add.mpr (Or.inl (Multiset.mem_singleton_self _))
            rcases hbrings handle rfl with ⟨call', hm, hon, hans⟩ | ⟨key, k, inner, rfl, hk, hans⟩
            · exact .passUp hmem hlink' hm hon hans
            · exact .handOut call hmem hlink' hk hans

theorem carries_link {interceptor : Interceptor} {rest : List Interceptor}
    (hnext : Carries c chain (position + 1) (World.send c rest (position + 1)))
    (hl : chain[position]? = some interceptor) :
    Carries c chain position (World.send c (interceptor :: rest) position) := by
  intro S call hS hc hchain
  obtain ⟨w₁, hw₁⟩ : ∃ w₁, w₁ = S.world.note (.link c position) interceptor
      (.enter call rest.length (S.world.connection c).metadata.number) := ⟨_, rfl⟩
  have henter : Steps S (S.inWorld w₁) := by
    rw [hw₁]
    exact .single (steps_note S _ _ (by rintro _ _ ⟨⟩))
  have hentered : w₁.Entered c position call := by
    rw [hw₁]
    exact S.world.entered_note c position interceptor call rest.length _
  have hc₁ : w₁.connections.Known c := by rw [hw₁]; exact hc
  have hchain₁ : (w₁.connection c).chain = chain := by rw [hw₁]; exact hchain
  have hlink := steps_link (S := S.inWorld w₁) hnext hl (henter.later_and_wired hS).2 hc₁ hchain₁
    hentered (Prod.mk.eta).symm
  rw [World.send_cons hw₁]
  refine ⟨henter.trans hlink, fun handle h => ?_⟩
  rw [h]
  exact ⟨call, rfl, fun _ => rfl, Or.inl (World.left_note _ c position interceptor call handle)⟩

theorem drop_eq_cons {interceptor : Interceptor} {rest : List Interceptor}
    (h : chain.drop position = interceptor :: rest) :
    chain[position]? = some interceptor ∧ chain.drop (position + 1) = rest
      ∧ position + 1 ≤ chain.length := by
  refine ⟨by rw [← List.head?_drop, h]; rfl, by rw [← List.tail_drop, h]; rfl, ?_⟩
  by_contra hlt
  rw [List.drop_eq_nil_of_le (by omega)] at h
  exact nomatch h

theorem carries_send (rest : List Interceptor) :
    ∀ position, chain.drop position = rest → position ≤ chain.length →
      Carries c chain position (World.send c rest position) := by
  induction rest with
  | nil =>
      intro position hdrop hle
      have hlen : chain.length ≤ position := by
        simpa using hdrop
      rw [Nat.le_antisymm hle hlen]
      exact carries_ask c chain
  | cons interceptor rest ih =>
      intro position hdrop _
      obtain ⟨hl, hrest, hlt⟩ := drop_eq_cons hdrop
      exact carries_link (ih (position + 1) hrest hlt) hl

end Links

/-- **A call on a connection is a sequence of steps**, after which the statement that it was
answered with is out. -/
theorem steps_perform (hS : S.Wired) (c : ConnectionId) (call : Call) :
    Steps S { S with
      world := (S.world.perform c call).1
      hands := Answer.hands (S.world.perform c call).2 + S.hands }
    ∧ ∀ handle, (S.world.perform c call).2 = .ok (.statement handle) →
      ∃ call', call'.method = call.method ∧ (call.method.prepares = true → call' = call)
        ∧ (S.world.perform c call).1.Answered c 0 call' handle := by
  by_cases hc : S.world.connections.Known c
  · exact carries_send _ 0 rfl (Nat.zero_le _) S call hS hc rfl
  · rw [S.world.perform_of_not_known hc, Answer.hands_eq_zero (by rintro _ ⟨⟩),
      Multiset.zero_add]
    exact ⟨.refl, fun handle h => nomatch h⟩

end Scene

end ConnectionPool
