import ConnectionPool.Proofs.Client.Looks

/-!
# Answers to calls

What a call comes to can be told without the chain that it goes through: whether the connection
and its line are open and whether there is a text decides it (`World.verdict`). A chain of which
no link interferes answers accordingly, and a statement that it answers with looks like one just
prepared, whether it was made for the call or parked before (`meets_send`).
-/

set_option autoImplicit false

namespace ConnectionPool

/-- The error of a call for which the driver is missing a text. -/
def Call.lacksText (call : Call) : Bool := call.method.prepares && call.sql?.isNone

namespace World

/-- **What a call comes to**: an error, a truth value, or a statement. -/
def verdict (w : World) (c : ConnectionId) (call : Call) : Except PoolError (Option Bool) :=
  let line := (w.connection c).physical
  if (w.connection c).closed then .error .connectionClosed
  else if call.method = .isValid then .ok (some (w.driver.isValid line))
  else if (w.driver.connection line).closed then .error (.driver Driver.connectionClosed)
  else if call.lacksText then .error (.driver Driver.missingText)
  else .ok none

/-- **An outcome meets a verdict.** A statement looks like one just prepared. -/
def Meets (outcome : World × Answer) : Except PoolError (Option Bool) → Prop
  | .error error => outcome.2 = .error error
  | .ok (some value) => outcome.2 = .ok (.truth value)
  | .ok none => ∃ handle, outcome.2 = .ok (.statement handle)
      ∧ outcome.1.look? handle = some Look.fresh

variable {v w w' : World} {c : ConnectionId} {call : Call}

theorem verdict_congr (hc : (v.connection c).closed = (w.connection c).closed)
    (hp : (v.connection c).physical = (w.connection c).physical)
    (hl : v.driver.connections = w.driver.connections) (hf : v.driver.faults = w.driver.faults)
    (call : Call) : v.verdict c call = w.verdict c call := by
  unfold verdict Driver.isValid Driver.connection
  rw [hc, hp, hl, hf]

theorem Unseen.verdict (h : w.Unseen w') (c : ConnectionId) (call : Call) :
    w'.verdict c call = w.verdict c call :=
  verdict_congr (h.read Connection.closed (fun _ => rfl) c)
    (h.read Connection.physical (fun _ => rfl) c) h.lines h.faults call

theorem Alike.verdict (h : v.Alike w) (c : ConnectionId) (call : Call) :
    v.verdict c call = w.verdict c call :=
  verdict_congr (h.closed c) (h.physical c) h.lines h.faults call

/-- A statement just made looks fresh. -/
theorem look?_issue (w : World) (sql : String) (origin : Option (PhysicalConnectionId × Call))
    (event : StatementId → DriverEvent) :
    ({ w with driver := (w.driver.issue { sql, origin } event).1 } : World).look?
      (.physical w.driver.statements.next) = some Look.fresh := by
  show ((w.driver.issue { sql, origin } event).1.statement _).look? = _
  rw [Driver.statement_issue, if_pos rfl]
  rfl

/-- The driver's connection answers as it must. -/
theorem meets_ask (w : World) (c : ConnectionId) (call : Call) :
    Meets (w.ask c call) (w.verdict c call) := by
  obtain ⟨method, args⟩ := call
  -- a statement is made for the call
  have hmade : ∀ (sql : String) (made : Call) (event : StatementId → DriverEvent),
      w.verdict c ⟨method, args⟩ = .ok none →
      w.ask c ⟨method, args⟩ = ({ w with driver := (w.driver.issue
          { sql, origin := some ((w.connection c).physical, made) } event).1 },
        .ok (.statement (.physical w.driver.statements.next))) →
      Meets (w.ask c ⟨method, args⟩) (w.verdict c ⟨method, args⟩) := by
    intro sql made event hverdict hask
    rw [hverdict, hask]
    exact ⟨_, rfl, w.look?_issue sql _ event⟩
  cases hc : (w.connection c).closed with
  | true =>
      simp only [verdict, ask, hc, if_true]
      rfl
  | false =>
      cases hl : (w.driver.connection (w.connection c).physical).closed with
      | true =>
          cases method <;>
            simp [verdict, ask, hc, hl, onDriver, Driver.prepareStatement, Driver.prepareCall,
              Driver.createStatement, Driver.prepareBy, answered, Meets]
      | false =>
          cases method with
          | isValid => simp [verdict, ask, hc, Meets]
          | createStatement =>
              refine hmade "" ⟨.createStatement, []⟩ .created ?_ ?_
              · simp [verdict, hc, hl, Call.lacksText, Method.prepares]
              · simp [ask, hc, hl, onDriver, Driver.createStatement, answered, Driver.issue]
          | prepareStatement =>
              cases hs : Call.sql? ⟨.prepareStatement, args⟩ with
              | none =>
                  simp [verdict, ask, hc, hl, onDriver, Driver.prepareStatement, Driver.prepareBy,
                    hs, answered, Meets, Call.lacksText, Method.prepares]
              | some sql =>
                  refine hmade sql ⟨.prepareStatement, args⟩ (fun id => .prepared id sql) ?_ ?_
                  · simp [verdict, hc, hl, Call.lacksText, hs]
                  · simp [ask, hc, hl, onDriver, Driver.prepareStatement, Driver.prepareBy, hs,
                      answered, Driver.issue]
          | prepareCall =>
              cases hs : Call.sql? ⟨.prepareCall, args⟩ with
              | none =>
                  simp [verdict, ask, hc, hl, onDriver, Driver.prepareCall, Driver.prepareBy,
                    hs, answered, Meets, Call.lacksText, Method.prepares]
              | some sql =>
                  refine hmade sql ⟨.prepareCall, args⟩ (fun id => .preparedCall id sql) ?_ ?_
                  · simp [verdict, hc, hl, Call.lacksText, hs]
                  · simp [ask, hc, hl, onDriver, Driver.prepareCall, Driver.prepareBy, hs,
                      answered, Driver.issue]

/-! ## Chains that serve a connection -/

/-- **Links serve a connection**: none of them interferes, their caches are attached to no other
connection, and what is parked there looks like a statement just prepared. -/
structure Serves (w : World) (c : ConnectionId) (links : List Interceptor) : Prop where
  clear : ∀ interceptor ∈ links, interceptor.Clear
  fallible : ∀ k, (w.cache k).fallible = false
  bound : ∀ interceptor ∈ links, ∀ k, interceptor.role = .cache k → ∀ binding,
    (w.cache k).binding = some binding → binding.connection = c
  stock : ∀ key tracked, (w.store c).entries.get? key = some tracked →
    (w.connection c).closed = false
      ∧ (w.driver.connection (w.connection c).physical).closed = false
      ∧ ∃ id, tracked.delegate.target? = some id ∧ (w.driver.statement id).Rested

theorem Serves.rest {interceptor : Interceptor} {rest : List Interceptor}
    (h : w.Serves c (interceptor :: rest)) : w.Serves c rest :=
  { h with
    clear := fun i hi => h.clear i (List.mem_cons_of_mem _ hi)
    bound := fun i hi => h.bound i (List.mem_cons_of_mem _ hi) }

theorem Serves.note {links : List Interceptor} (h : w.Serves c links) (receiver : Receiver)
    (interceptor : Interceptor) (content : NoticeContent) :
    (w.note receiver interceptor content).Serves c links :=
  ⟨h.clear, h.fallible, h.bound, h.stock⟩

/-- A miss is tallied. -/
theorem Serves.tally {links : List Interceptor} (h : w.Serves c links) (d : ConnectionId) :
    (w.setStore d (w.store d).recordMiss).Serves c links := by
  have hread : ∀ {β : Type} (read : Connection → β),
      (∀ connection : Connection, read connection.exterior = read connection) →
      read ((w.setStore d (w.store d).recordMiss).connection c) = read (w.connection c) :=
    fun read hr => (Deed.store w d _).unseen.read read hr c
  have hentries : ((w.setStore d (w.store d).recordMiss).store c).entries
      = (w.store c).entries := by
    rw [store_setStore]
    split
    · next hd =>
        rw [hd.1]
        rfl
    · rfl
  refine ⟨h.clear, h.fallible, h.bound, fun key tracked he => ?_⟩
  rw [hentries] at he
  rw [hread Connection.closed fun _ => rfl, hread Connection.physical fun _ => rfl]
  exact h.stock key tracked he

/-- A cache that cannot be made to fail puts a facade before every statement. -/
theorem wrap_eq {k : CacheId} (h : (w.cache k).fallible = false) (tracked : Tracked) :
    w.wrap k tracked = (w, .ok tracked.facade) := by
  unfold wrap
  rw [h]

/-- The operations whose statements are kept prepare them. -/
theorem prepares_of_keeps {policy : CachePolicy} {method : Method} (h : policy.keeps method) :
    method.prepares = true := by
  obtain ⟨prepared, callable, limit⟩ := policy
  cases prepared <;> cases callable <;> cases method <;>
    simp_all [CachePolicy.keeps, CachePolicy.keptMethods, Method.prepares]

/-- A call whose statement is kept and that has a text has a key. -/
theorem keyFor_ne_none {policy : CachePolicy} (hk : policy.keeps call.method)
    (hs : call.sql?.isSome) : policy.keyFor call ≠ none := by
  have hp := prepares_of_keeps hk
  rw [CachePolicy.keyFor, if_pos (Bool.and_eq_true_iff.mpr ⟨hk, hs⟩), CacheKey.ofCall?]
  cases hm : call.method with
  | prepareStatement => exact Option.some_ne_none _
  | prepareCall => exact Option.some_ne_none _
  | createStatement => cases hm ▸ hp
  | isValid => cases hm ▸ hp

/-- A look-up never fails. -/
theorem fetch_ne_error (w : World) (k : CacheId) (call : Call) (error : PoolError) :
    (w.fetch k call).2 ≠ .error error := by
  unfold fetch
  dsimp only
  split
  · rintro ⟨⟩
  · next h =>
      rw [Bool.or_eq_true, not_or, Bool.not_eq_true', Bool.not_eq_false, ← Option.not_isSome,
        Bool.not_eq_true', Bool.not_eq_false] at h
      have hkey := keyFor_ne_none h.1 h.2
      split
      · next hk => exact absurd hk hkey
      · split
        · rintro ⟨⟩
        · split <;> rintro ⟨⟩

/-- An interceptor whose role passes every call on does nothing else. -/
theorem handle_of_passesOn {interceptor : Interceptor} (h : interceptor.role.PassesOn)
    (next : Call → World → World × Answer) (call : Call) (w : World) :
    handle interceptor next call w = next call w := by
  obtain ⟨name, role⟩ := interceptor
  cases role with
  | pass => rfl
  | trace => rfl
  | answerTruth scope value => simp only [handle, h call.method, Bool.false_eq_true, if_false]
  | answerStatement scope => simp only [handle, h call.method, Bool.false_eq_true, if_false]
  | reject scope => simp only [handle, h call.method, Bool.false_eq_true, if_false]
  | appendFlag scope => simp only [handle, h call.method, Bool.false_eq_true, if_false]
  | cache k => exact absurd h id

section Links

variable {next : Call → World → World × Answer} {k : CacheId}

theorem meets_fill {verdict : Except PoolError (Option Bool)} (h : Meets (next call w) verdict)
    (hf : ∀ k, ((next call w).1.cache k).fallible = false) :
    Meets (fill k next call w) verdict := by
  unfold fill
  generalize next call w = outcome at h hf ⊢
  obtain ⟨v, answer⟩ := outcome
  cases answer with
  | error error => exact h
  | ok response =>
      cases response with
      | truth value => exact h
      | statement handle =>
          simp only [wrapPrepared, wrap_eq (hf k)]
          rcases verdict with _ | _ | _
          · cases h
          · obtain ⟨handle', he, hlook⟩ := h
            cases he
            exact ⟨_, rfl, hlook⟩
          · cases h

/-- A cache answers as the rest of the chain must, from the store or not. -/
theorem meets_serve {rest : List Interceptor} (hs : w.Serves c rest)
    (hb : ∀ binding, (w.cache k).binding = some binding → binding.connection = c)
    (hnext : ∀ w : World, w.Serves c rest → Meets (next call w) (w.verdict c call))
    (hunseen : ∀ w : World, w.Unseen (next call w).1) :
    Meets (serve k next call w) (w.verdict c call) := by
  unfold serve
  split
  · next hp =>
      obtain (h | ⟨error, h⟩) | ⟨_, ⟨d, _⟩, -, -, -, h⟩ |
          ⟨key, binding, tracked, hkey, hbinding, hf, h⟩ :=
        w.fetch_cases k call
      · rw [h]
        exact meets_fill (hnext w hs) fun k => ((hunseen w).fallible k).trans (hs.fallible k)
      · exact absurd (congrArg Prod.snd h) (w.fetch_ne_error k call error)
      · rw [h]
        rw [← (Deed.store w d (w.store d).recordMiss).unseen.verdict c call]
        have hs' := hs.tally d
        exact meets_fill (hnext _ hs') fun k =>
          ((hunseen _).fallible k).trans (hs'.fallible k)
      · rw [h]
        obtain rfl := hb binding hbinding
        obtain ⟨hopen, hline, id, hid, hr⟩ := hs.stock key tracked hf
        have hsql : call.sql?.isSome = true := by
          rw [CachePolicy.keyFor] at hkey
          split at hkey
          · next hkeeps => exact (Bool.and_eq_true_iff.mp hkeeps).2
          · exact nomatch hkey
        have hverdict : w.verdict binding.connection call = .ok none := by
          have hm : call.method ≠ .isValid := by
            rintro hm
            rw [hm] at hp
            exact nomatch hp
          have ht : call.lacksText = false := by
            rw [Call.lacksText, ← Option.not_isSome, hsql, Bool.not_true, Bool.and_false]
          simp [verdict, hopen, hline, hm, ht]
        have hfallible : ((w.found binding key).cache k).fallible = false := by
          refine Eq.trans ?_ (hs.fallible k)
          exact ((Deed.store w _ _).deeds.trans (deeds_releaseSlot _ _)).unseen.fallible k
        rw [hverdict]
        simp only [wrap_eq hfallible]
        refine ⟨_, rfl, ?_⟩
        have hdriver : (w.found binding key).driver = w.driver := by
          rcases binding with ⟨c, _ | n⟩ <;> rfl
        have hlook : (w.found binding key).look? tracked.facade
            = (w.driver.statement id).look? := by
          rw [look?_eq (show tracked.facade.target? = some id from hid), hdriver]
        rw [hlook, hr.look?]
  · exact hnext w hs

end Links

/-- **A chain that serves a connection answers a call as it must.** -/
theorem meets_send (chain : List Interceptor) : ∀ (position : Nat) (call : Call) (w : World),
    w.Serves c chain → Meets (send c chain position call w) (w.verdict c call) := by
  induction chain with
  | nil => exact fun _ call w _ => w.meets_ask c call
  | cons interceptor rest ih =>
      intro position call w hs
      unfold send
      dsimp only
      have hnote := w.unseen_note (.link c position) interceptor
        (.enter call rest.length (w.connection c).metadata.number)
      have hs' := hs.note (.link c position) interceptor
        (.enter call rest.length (w.connection c).metadata.number)
      rw [← hnote.verdict c call]
      revert hs'
      generalize w.note _ interceptor (.enter call _ _) = v
      intro hs'
      have hnext := fun (w : World) (hw : w.Serves c rest) => ih (position + 1) call w hw
      -- the notice that the call has left changes nothing that the client sees
      suffices h : Meets (handle interceptor (send c rest (position + 1)) call v)
          (v.verdict c call) from h
      rcases hs'.clear interceptor List.mem_cons_self with hpass | ⟨k, hr⟩
      · rw [handle_of_passesOn hpass]
        exact hnext v hs'.rest
      · simp only [handle, hr]
        exact meets_serve hs'.rest (hs'.bound interceptor List.mem_cons_self k hr) hnext
          fun w => (deeds_send c rest (position + 1) call w).unseen

end World

end ConnectionPool
