import ConnectionPool.Proofs.Driver.Touching
import ConnectionPool.Proofs.Session.Hits

/-!
# Calls that no cache takes part in

A call that goes through links without a cache among them makes the driver make a statement, which
is then the answer, or has no effect but for what the links note (`World.Plain`). What it is
answered with depends on the connection and on the driver, but not on what is parked or noted
anywhere (`send_alike`).

A call that is handed on by the links before a cache comes out behind the cache as what the cache
makes of it (`perform_at`), and one that is not handed on is such a call as well (`plain_perform`).
-/

set_option autoImplicit false

namespace ConnectionPool

/-- **The driver answers a call**: with a statement that it makes, or with no statement and without
doing anything. -/
inductive Driver.Gives (driver : Driver) : Driver → Answer → Prop
  | made (statement : PhysicalStatement) (event : StatementId → DriverEvent)
      (hopen : statement.closed = false) (he : ∀ id, (event id).made? = some id) :
      Gives driver (driver.issue statement event).1
        (.ok (.statement (.physical driver.statements.next)))
  | nothing {answer : Answer} (h : ∀ handle, answer ≠ .ok (.statement handle)) :
      Gives driver driver answer

/-- The driver gives bare statements only, which are new. -/
theorem Driver.Gives.fresh {driver driver' : Driver} {handle : Statement}
    (h : driver.Gives driver' (.ok (.statement handle))) :
    handle = .physical driver.statements.next
      ∧ (driver'.statement driver.statements.next).closed = false := by
  generalize ha : (.ok (.statement handle) : Answer) = answer at h
  cases h with
  | made statement event hopen _ =>
      cases ha
      refine ⟨rfl, ?_⟩
      rw [Driver.statement_issue, if_pos rfl]
      exact hopen
  | nothing h => exact absurd ha.symm (h handle)

/-- Nothing but a new statement is touched. -/
theorem Driver.Gives.touches {driver driver' : Driver} {answer : Answer}
    (h : driver.Gives driver' answer) :
    driver.Touches (fun id => ¬ driver.statements.Known id) driver' := by
  cases h with
  | made statement event _ he => exact driver.touches_issue statement he
  | nothing _ => exact .refl _ driver

/-- What the driver makes is closed, or it is the answer. -/
theorem Driver.Gives.owned {driver driver' : Driver} {answer : Answer}
    (h : driver.Gives driver' answer) {id : StatementId} (hid : ¬ driver.statements.Known id) :
    (driver'.statement id).closed = true
      ∨ ∃ handle, answer = .ok (.statement handle) ∧ handle.target? = some id := by
  have hnone : (driver.statement id).closed = true := by
    rw [driver.statement_of_not_known hid]
    rfl
  cases h with
  | nothing _ => exact Or.inl hnone
  | made statement event _ _ =>
      by_cases hnext : id = driver.statements.next
      · exact Or.inr ⟨_, rfl, congrArg some hnext.symm⟩
      · rw [Driver.statement_issue, if_neg hnext]
        exact Or.inl hnone

namespace World

variable {w w' : World} {c : ConnectionId} {k : CacheId} {call call' : Call}
  {next : Call → World → World × Answer} {interceptor : Interceptor}

/-- **A call is answered plainly**: the driver answers it, and nothing else is written to but the
journal. -/
structure Plain (w w' : World) (answer : Answer) : Prop where
  driver : w.driver.Gives w'.driver answer
  rest : w' = { w with driver := w'.driver, journal := w'.journal }

theorem plain_of_same {answer : Answer} (h : ∀ handle, answer ≠ .ok (.statement handle)) :
    w.Plain w answer :=
  ⟨.nothing h, rfl⟩

/-- What is noted before and after makes no difference. -/
theorem Plain.noted {answer : Answer} {journal journal' : Journal}
    (h : ({ w with journal } : World).Plain w' answer) :
    w.Plain { w' with journal := journal' } answer where
  driver := h.driver
  rest := by
    show ({ w' with journal := journal' } : World) = _
    rw [h.rest]

theorem plain_ask (w : World) (c : ConnectionId) (call : Call) :
    w.Plain (w.ask c call).1 (w.ask c call).2 := by
  obtain ⟨hw, hne⟩ | ⟨made, sql, event, -, -, he, -, ha⟩ := w.ask_cases c call
  · rw [hw]
    exact plain_of_same hne
  · rw [ha]
    exact ⟨.made _ event rfl he, rfl⟩

/-- A link that does not hand a call on, and is no cache, answers it by itself. -/
theorem plain_of_handsOn? (hk : interceptor.cache? = none) (h : interceptor.handsOn? call = none)
    (next : Call → World → World × Answer) (w : World) :
    w.Plain (handle interceptor next call w).1 (handle interceptor next call w).2 := by
  cases interceptor.conduct call with
  | serves k hserves _ => exact nomatch hserves.symm.trans hk
  | handsOn passed _ hon _ _ => exact nomatch hon.symm.trans h
  | supplies _ _ _ hsupplies =>
      rw [hsupplies]
      exact ⟨.made { sql := "answered" } (fun id => .prepared id "answered") rfl fun _ => rfl, rfl⟩
  | answers answer _ _ hne hanswers =>
      rw [hanswers]
      exact plain_of_same hne

/-- **Links without a cache** answer a call plainly. -/
theorem plain_send (chain : List Interceptor)
    (hchain : ∀ interceptor ∈ chain, interceptor.cache? = none) :
    ∀ (position : Nat) (call : Call) (w : World),
      w.Plain (send c chain position call w).1 (send c chain position call w).2 := by
  induction chain with
  | nil =>
      intro position call w
      exact w.plain_ask c call
  | cons interceptor rest ih =>
      intro position call w
      have hrest := ih fun i hi => hchain i (List.mem_cons_of_mem _ hi)
      have hhandle : ∀ v : World,
          v.Plain (handle interceptor (send c rest (position + 1)) call v).1
            (handle interceptor (send c rest (position + 1)) call v).2 := by
        intro v
        cases hon : interceptor.handsOn? call with
        | none => exact plain_of_handsOn? (hchain interceptor List.mem_cons_self) hon _ v
        | some passed =>
            rw [handle_of_handsOn? hon]
            exact hrest (position + 1) passed v
      exact (hhandle _).noted

/-! ## What an answer depends on -/

/-- **Two worlds answer alike** on a connection: the connection stands in both at the same line of
the driver, and the driver would do the same in both. -/
structure AnswersAlike (c : ConnectionId) (w w' : World) : Prop where
  closed : (w'.connection c).closed = (w.connection c).closed
  physical : (w'.connection c).physical = (w.connection c).physical
  lines : w'.driver.connections = w.driver.connections
  faults : w'.driver.faults = w.driver.faults
  next : w'.driver.statements.next = w.driver.statements.next

theorem ask_alike (h : AnswersAlike c w w') (call : Call) :
    (w'.ask c call).2 = (w.ask c call).2 := by
  obtain ⟨method, args⟩ := call
  have hline : w'.driver.connection (w'.connection c).physical
      = w.driver.connection (w.connection c).physical := by
    rw [Driver.connection, Driver.connection, h.lines, h.physical]
  unfold ask
  rw [h.closed]
  cases (w.connection c).closed with
  | true => rfl
  | false =>
      have hopen : ∀ {α : Type} (a b : α), (if (false : Bool) = true then a else b) = b :=
        fun _ _ => rfl
      rw [hopen, hopen]
      cases method with
      | prepareStatement =>
          simp only [onDriver, Driver.prepareStatement, Driver.prepareBy, hline]
          cases (w.driver.connection (w.connection c).physical).closed with
          | true => rfl
          | false =>
              cases Call.sql? ⟨.prepareStatement, args⟩ with
              | none => rfl
              | some sql => exact congrArg (fun id => answered (.ok id)) h.next
      | prepareCall =>
          simp only [onDriver, Driver.prepareCall, Driver.prepareBy, hline]
          cases (w.driver.connection (w.connection c).physical).closed with
          | true => rfl
          | false =>
              cases Call.sql? ⟨.prepareCall, args⟩ with
              | none => rfl
              | some sql => exact congrArg (fun id => answered (.ok id)) h.next
      | createStatement =>
          simp only [onDriver, Driver.createStatement, hline]
          cases (w.driver.connection (w.connection c).physical).closed with
          | true => rfl
          | false => exact congrArg (fun id => answered (.ok id)) h.next
      | isValid =>
          simp only [Driver.isValid, hline, h.faults]

/-- **The answer of links without a cache** depends on the connection and the driver only. -/
theorem send_alike (chain : List Interceptor)
    (hchain : ∀ interceptor ∈ chain, interceptor.cache? = none) :
    ∀ (position : Nat) (call : Call) {w w' : World}, AnswersAlike c w w' →
      (send c chain position call w').2 = (send c chain position call w).2 := by
  induction chain with
  | nil =>
      intro position call w w' h
      exact ask_alike h call
  | cons interceptor rest ih =>
      intro position call w w' h
      have hrest := ih fun i hi => hchain i (List.mem_cons_of_mem _ hi)
      have hk := hchain interceptor List.mem_cons_self
      -- what a link notes of the call makes no difference
      have hhandle : ∀ {v v' : World}, AnswersAlike c v v' →
          (handle interceptor (send c rest (position + 1)) call v').2
            = (handle interceptor (send c rest (position + 1)) call v).2 := by
        intro v v' hv
        cases interceptor.conduct call with
        | serves k hserves _ => exact nomatch hserves.symm.trans hk
        | handsOn passed _ _ _ hhands =>
            rw [hhands, hhands]
            exact hrest (position + 1) passed hv
        | supplies _ _ _ hsupplies =>
            rw [hsupplies, hsupplies]
            exact congrArg (fun id => (.ok (.statement (.physical id)) : Answer)) hv.next
        | answers answer _ _ _ hanswers => rw [hanswers, hanswers]
      exact hhandle ⟨h.closed, h.physical, h.lines, h.faults, h.next⟩

/-! ## The links before a cache -/

/-- A call that comes through some links is what comes out behind them, but for what the links
note. -/
theorem send_before (before rest : List Interceptor) :
    ∀ (position : Nat) (call : Call) (w : World), comesThrough before call = some call' →
      ∃ journal journal', send c (before ++ rest) position call w
        = ({ (send c rest (position + before.length) call' { w with journal }).1 with
            journal := journal' },
          (send c rest (position + before.length) call' { w with journal }).2) := by
  induction before with
  | nil =>
      intro position call w h
      cases h
      exact ⟨w.journal, (send c rest position call' w).1.journal, rfl⟩
  | cons interceptor before ih =>
      intro position call w h
      obtain ⟨passed, hon, hrest⟩ := Option.bind_eq_some_iff.mp h
      obtain ⟨journal, journal', hsend⟩ := ih (position + 1) passed
        (w.note (.link c position) interceptor
          (.enter call (before ++ rest).length (w.connection c).metadata.number)) hrest
      rw [List.cons_append, send]
      simp only [handle_of_handsOn? hon]
      rw [hsend, List.length_cons, Nat.add_assoc, Nat.add_comm 1]
      exact ⟨journal, _, rfl⟩

/-- A call that does not come through links without a cache is answered plainly by them. -/
theorem plain_send_before (before rest : List Interceptor)
    (hbefore : ∀ interceptor ∈ before, interceptor.cache? = none) :
    ∀ (position : Nat) (call : Call) (w : World), comesThrough before call = none →
      w.Plain (send c (before ++ rest) position call w).1
        (send c (before ++ rest) position call w).2 := by
  induction before with
  | nil =>
      intro position call w h
      cases h
  | cons interceptor before ih =>
      intro position call w h
      have hhandle : ∀ v : World,
          v.Plain (handle interceptor (send c (before ++ rest) (position + 1)) call v).1
            (handle interceptor (send c (before ++ rest) (position + 1)) call v).2 := by
        intro v
        cases hon : interceptor.handsOn? call with
        | none => exact plain_of_handsOn? (hbefore interceptor List.mem_cons_self) hon _ v
        | some passed =>
            rw [handle_of_handsOn? hon]
            rw [comesThrough, hon] at h
            exact ih (fun i hi => hbefore i (List.mem_cons_of_mem _ hi)) (position + 1) passed v h
      exact (hhandle _).noted

/-- The links of a chain behind a position. -/
def behind (w : World) (c : ConnectionId) (position : Nat) : List Interceptor :=
  (w.connection c).chain.drop (position + 1)

/-- **A call that comes to a cache** is what the cache makes of it, but for what the links before
it note. -/
theorem perform_at {position : Nat} (hlink : (w.connection c).cacheAt? position = some k)
    (hthrough : comesThrough ((w.connection c).chain.take position) call = some call') :
    ∃ journal journal', w.perform c call
      = ({ (serve k (send c (w.behind c position) (position + 1)) call' { w with journal }).1 with
          journal := journal' },
        (serve k (send c (w.behind c position) (position + 1)) call' { w with journal }).2) := by
  obtain ⟨interceptor, hl, hk⟩ := Option.bind_eq_some_iff.mp hlink
  obtain ⟨hlt, hget⟩ := List.getElem?_eq_some_iff.mp hl
  have hsplit : (w.connection c).chain = (w.connection c).chain.take position
      ++ interceptor :: w.behind c position := by
    rw [behind, ← hget, ← List.drop_eq_getElem_cons hlt, List.take_append_drop]
  have hlength : ((w.connection c).chain.take position).length = position :=
    List.length_take_of_le (Nat.le_of_lt hlt)
  have hsend : ∃ journal journal', send c ((w.connection c).chain.take position
        ++ interceptor :: w.behind c position) 0 call w
      = ({ (send c (interceptor :: w.behind c position) position call' { w with journal }).1 with
            journal := journal' },
          (send c (interceptor :: w.behind c position) position call' { w with journal }).2) := by
    have hbefore := send_before (c := c) _ (interceptor :: w.behind c position) 0 call w hthrough
    rwa [hlength, Nat.zero_add] at hbefore
  obtain ⟨journal, journal', hsend⟩ := hsend
  rw [World.perform, hsplit, hsend, send]
  simp only [handle, Interceptor.role_of_cache hk]
  exact ⟨_, journal', rfl⟩

/-- The links before and behind the only cache of a chain are no caches. -/
theorem cache?_eq_none_of_only {position : Nat}
    (hlink : (w.connection c).cacheAt? position = some k)
    (honly : (w.connection c).caches = [k]) :
    (∀ interceptor ∈ (w.connection c).chain.take position, interceptor.cache? = none)
      ∧ ∀ interceptor ∈ w.behind c position, interceptor.cache? = none := by
  have hnodup : (w.connection c).caches.Nodup := honly ▸ List.nodup_singleton k
  -- a cache at another place of the chain would be the same one
  have hother : ∀ q, q ≠ position → ∀ interceptor,
      (w.connection c).chain[q]? = some interceptor → interceptor.cache? = none := by
    intro q hq interceptor hl
    cases hk : interceptor.cache? with
    | none => rfl
    | some k' =>
        have hat := cacheAt?_of_link hl hk
        have hmem : k' ∈ (w.connection c).caches := (Connection.mem_caches _ k').mpr ⟨q, hat⟩
        rw [honly, List.mem_singleton] at hmem
        exact absurd (Connection.cacheAt?_inj hnodup (hmem ▸ hat) hlink) hq
  constructor
  · intro interceptor hm
    obtain ⟨q, hq⟩ := List.mem_iff_getElem?.mp hm
    rw [List.getElem?_take] at hq
    split at hq
    · next hlt => exact hother q (Nat.ne_of_lt hlt) interceptor hq
    · cases hq
  · intro interceptor hm
    obtain ⟨q, hq⟩ := List.mem_iff_getElem?.mp hm
    rw [behind, List.getElem?_drop] at hq
    exact hother (position + 1 + q) (by omega) interceptor hq

/-- A call that does not come to the cache is answered plainly. -/
theorem plain_perform {position : Nat} (hlink : (w.connection c).cacheAt? position = some k)
    (honly : (w.connection c).caches = [k])
    (hthrough : comesThrough ((w.connection c).chain.take position) call = none) :
    w.Plain (w.perform c call).1 (w.perform c call).2 := by
  have hplain := plain_send_before (c := c) _ ((w.connection c).chain.drop position)
    (cache?_eq_none_of_only hlink honly).1 0 call w hthrough
  rwa [List.take_append_drop] at hplain

end World

end ConnectionPool
