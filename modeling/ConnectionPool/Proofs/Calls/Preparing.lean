import ConnectionPool.Proofs.Calls.Looking
import ConnectionPool.Proofs.Calls.Plain
import ConnectionPool.Proofs.Closing.Deciding

/-!
# Preparing through a cache that can fail

A call that prepares comes to the only cache of a chain. Putting a facade before a statement may
fail, once for the statement that was found, and once for the one that the links behind the cache
answer with. Whichever fails, and whatever the links behind it answer, nothing is lost
(`World.Safe`): what cannot be handed out is closed, every other answer goes back as it is, and
beside the driver nothing has changed but what the look-up does (`safe_perform`).
-/

set_option autoImplicit false

namespace ConnectionPool

theorem Driver.next_closeStatement (driver : Driver) (id : StatementId) :
    (driver.closeStatement id).1.statements.next = driver.statements.next := by
  cases hc : (driver.statement id).closed with
  | true => rw [driver.closeStatement_of_closed hc]
  | false =>
      rw [driver.closeStatement_of_open hc]
      exact congrArg (· + 1) (Registry.size_modify _ _ _)

namespace World

variable {w u v : World} {c : ConnectionId} {position : Nat} {k : CacheId} {call call' : Call}
  {answer : Answer} {tracked : Tracked} {next : Call → World → World × Answer}

/-! ## Facades that fail -/

/-- After as many other attempts, putting a facade before a statement fails. -/
def Breaks (w : World) (k : CacheId) (earlier : Nat) : Prop :=
  (w.cache k).fallible = true ∧ earlier < w.wrapFaults

/-- A bare statement that cannot be given a facade is closed. -/
theorem wrap_of_breaks (h : w.Breaks k 0) {id : StatementId}
    (hid : tracked.delegate = .physical id) :
    w.wrap k tracked
      = ({ w with driver := (w.driver.closeStatement id).1, wrapFaults := w.wrapFaults - 1 },
        .error wrapFailed) := by
  obtain ⟨hfallible, hfaults⟩ := h
  obtain ⟨due, hdue⟩ : ∃ due, w.wrapFaults = due + 1 := ⟨w.wrapFaults - 1, by omega⟩
  unfold wrap
  rw [hfallible, hdue]
  simp only [dropTracked, forceClose, hid]
  rfl

theorem wrap_of_not_breaks (h : ¬ w.Breaks k 0) (tracked : Tracked) :
    w.wrap k tracked = (w, .ok tracked.facade) := by
  unfold wrap
  split
  · next due hfallible hdue => exact absurd ⟨hfallible, by omega⟩ h
  · rfl

/-- How many facades are tried before the links behind the cache are asked. -/
def tries (w : World) (k : CacheId) (call : Call) : Nat :=
  if (w.finds? k call).isSome then 1 else 0

/-- The links behind the cache are asked: nothing is found, or it cannot be handed out. -/
def Asks (w : World) (k : CacheId) (call : Call) : Prop :=
  w.finds? k call = none ∨ w.Breaks k 0

/-- What the links of a chain behind a position answer a call with. -/
def answerBehind (w : World) (c : ConnectionId) (position : Nat) (call : Call) : Answer :=
  (send c (w.behind c position) (position + 1) call w).2

/-- **A call that prepares is safe** at a cache: `v` and `answer` are what it leads to from `w`. -/
structure Safe (w : World) (c : ConnectionId) (position : Nat) (k : CacheId) (call : Call)
    (v : World) (answer : Answer) : Prop where
  /-- What is found is handed out, if it can be, and the driver does nothing. -/
  reissues : ∀ tracked, w.finds? k call = some tracked → ¬ w.Breaks k 0 →
    answer = .ok (.statement tracked.facade) ∧ v.driver = w.driver
  /-- What is found and cannot be handed out is closed. -/
  spoils : ∀ tracked id, w.finds? k call = some tracked → w.Breaks k 0 →
    tracked.delegate.target? = some id → (v.driver.statement id).closed = true
  /-- An error, or a truth value, goes back as it is. -/
  passes : w.Asks k call → (∀ handle, w.answerBehind c position call ≠ .ok (.statement handle)) →
    answer = w.answerBehind c position call
  /-- A new statement is handed out behind a facade with the key of the call. -/
  wraps : w.Asks k call → ∀ handle, w.answerBehind c position call = .ok (.statement handle) →
    ¬ w.Breaks k (w.tries k call) →
      answer = .ok (.statement (.facade ((w.cache k).policy.keyFor call) k handle))
  /-- A new statement that cannot be handed out is closed, and the failure is reported. -/
  breaks : w.Asks k call → ∀ handle, w.answerBehind c position call = .ok (.statement handle) →
    w.Breaks k (w.tries k call) →
      answer = .error (.driver wrapFailed)
        ∧ ∃ id, handle = .physical id ∧ ¬ w.driver.statements.Known id
          ∧ v.driver.statements.Known id ∧ (v.driver.statement id).closed = true
  /-- Beside the driver nothing has changed but what the look-up does. -/
  books : ∃ looked, w.Looks k call looked (w.finds? k call)
    ∧ v = { looked with driver := v.driver, wrapFaults := v.wrapFaults, journal := v.journal }
  /-- The driver touches what it makes, and what is found and cannot be handed out. -/
  touches : w.driver.Touches (fun id => ¬ w.driver.statements.Known id
    ∨ ∃ tracked, w.finds? k call = some tracked ∧ w.Breaks k 0
      ∧ tracked.delegate.target? = some id) v.driver
  /-- What it makes is closed, or is what the caller gets. -/
  owned : ∀ id, ¬ w.driver.statements.Known id → (v.driver.statement id).closed = true
    ∨ ∃ handle, answer = .ok (.statement handle) ∧ handle.target? = some id

/-! ## The world in which the links behind the cache are asked -/

/-- **The links behind the cache are asked** in `u`: the call was looked up, and what was found was
closed. -/
structure AskedIn (w : World) (k : CacheId) (call : Call) (u : World) : Prop where
  looked : ∃ looked, w.Looks k call looked (w.finds? k call)
    ∧ u = { looked with driver := u.driver, wrapFaults := u.wrapFaults, journal := u.journal }
  faults : u.wrapFaults = w.wrapFaults - w.tries k call
  driver : (w.finds? k call = none ∧ u.driver = w.driver)
    ∨ ∃ tracked id, w.finds? k call = some tracked ∧ w.Breaks k 0
      ∧ tracked.delegate = .physical id ∧ u.driver = (w.driver.closeStatement id).1

/-- A cache hands out what it finds, or asks the links behind it. -/
theorem serve_asks (hp : call.method.prepares = true)
    (hbare : ∀ tracked, w.finds? k call = some tracked → ∃ id, tracked.delegate = .physical id)
    (next : Call → World → World × Answer) (journal : Journal) :
    (∃ tracked looked, w.finds? k call = some tracked ∧ ¬ w.Breaks k 0
      ∧ w.Looks k call looked (w.finds? k call)
      ∧ serve k next call { w with journal }
        = ({ looked with journal }, .ok (.statement tracked.facade)))
    ∨ (w.Asks k call ∧ ∃ u, w.AskedIn k call u
      ∧ serve k next call { w with journal } = fill k next call u) := by
  obtain ⟨looked, hlooked, hlooks⟩ := w.looks_fetch k call
  have hfetch : ({ w with journal } : World).fetch k call
      = ({ looked with journal }, .ok (w.finds? k call)) := by
    rw [fetch_journal, hlooked]
  cases hfinds : w.finds? k call with
  | none =>
      rw [hfinds] at hfetch
      refine Or.inr ⟨Or.inl hfinds, { looked with journal },
        ⟨⟨looked, hlooks, rfl⟩, ?_, Or.inl ⟨hfinds, ?_⟩⟩, ?_⟩
      · rw [tries, hfinds, hlooks.rest]
        rfl
      · rw [hlooks.rest]
      · simp only [serve, hp, if_true, hfetch]
  | some tracked =>
      rw [hfinds] at hfetch
      have hcache : looked.cache k = w.cache k := by
        rw [hlooks.rest]
        rfl
      have hfaults : looked.wrapFaults = w.wrapFaults := by rw [hlooks.rest]
      have hdriver : looked.driver = w.driver := by rw [hlooks.rest]
      have hbreaks : ({ looked with journal } : World).Breaks k 0 ↔ w.Breaks k 0 := by
        show ((looked.cache k).fallible = true ∧ 0 < looked.wrapFaults) ↔ _
        rw [hcache, hfaults, Breaks]
      by_cases hbreak : w.Breaks k 0
      · obtain ⟨id, hid⟩ := hbare tracked hfinds
        have hwrap := wrap_of_breaks (hbreaks.mpr hbreak) hid
        refine Or.inr ⟨Or.inr hbreak, { looked with
          driver := (looked.driver.closeStatement id).1, wrapFaults := looked.wrapFaults - 1
          journal }, ⟨⟨looked, hlooks, rfl⟩, ?_, Or.inr ⟨tracked, id, hfinds, hbreak, hid, ?_⟩⟩, ?_⟩
        · rw [tries, hfinds]
          exact congrArg (· - 1) hfaults
        · rw [hdriver]
        · simp only [serve, hp, if_true, hfetch, hwrap]
      · have hwrap := wrap_of_not_breaks (fun h => hbreak (hbreaks.mp h)) tracked
        refine Or.inl ⟨tracked, looked, rfl, hbreak, hfinds ▸ hlooks, ?_⟩
        simp only [serve, hp, if_true, hfetch, hwrap]

section AskedIn

variable (h : w.AskedIn k call u)
include h

theorem AskedIn.cache : u.cache = w.cache := by
  obtain ⟨looked, hlooks, hu⟩ := h.looked
  rw [hu, hlooks.rest]
  rfl

theorem AskedIn.breaks : u.Breaks k 0 ↔ w.Breaks k (w.tries k call) := by
  rw [Breaks, Breaks, h.cache, h.faults]
  exact and_congr_right fun _ => by omega

/-- What was done at the driver before. -/
theorem AskedIn.touches : w.driver.Touches (fun id => ∃ tracked, w.finds? k call = some tracked
    ∧ w.Breaks k 0 ∧ tracked.delegate.target? = some id) u.driver := by
  obtain ⟨-, hd⟩ | ⟨tracked, id, hfinds, hbreak, hid, hd⟩ := h.driver
  · rw [hd]
    exact .refl _ _
  · rw [hd]
    refine (w.driver.touches_closeStatement id).mono fun other ho => ?_
    rw [ho]
    exact ⟨tracked, hfinds, hbreak, by rw [hid]; rfl⟩

theorem AskedIn.known (id : StatementId) :
    u.driver.statements.Known id ↔ w.driver.statements.Known id := by
  obtain ⟨-, hd⟩ | ⟨tracked, other, -, -, -, hd⟩ := h.driver
  · rw [hd]
  · rw [hd, Driver.known_closeStatement]

/-- The links behind the cache answer as they would have answered before. -/
theorem AskedIn.alike (c : ConnectionId) : AnswersAlike c w u := by
  obtain ⟨looked, hlooks, hu⟩ := h.looked
  have hconnection : u.connection c = looked.connection c := by
    rw [hu]
    rfl
  have hdriver : u.driver.connections = w.driver.connections ∧ u.driver.faults = w.driver.faults
      ∧ u.driver.statements.next = w.driver.statements.next := by
    obtain ⟨-, hd⟩ | ⟨tracked, id, -, -, -, hd⟩ := h.driver
    · rw [hd]
      exact ⟨rfl, rfl, rfl⟩
    · have hkeeps := w.driver.keepsTo_closeStatement id
      rw [hd]
      exact ⟨hkeeps.connections, hkeeps.faults, w.driver.next_closeStatement id⟩
  refine ⟨?_, ?_, hdriver.1, hdriver.2.1, hdriver.2.2⟩
  · rw [hconnection]
    exact hlooks.connection c fun _ _ => rfl
  · rw [hconnection]
    exact hlooks.connection c fun _ _ => rfl

end AskedIn

/-! ## What becomes of the answer from behind the cache -/

/-- An answer from behind the cache that is no statement goes back as it is. -/
theorem fill_of_ne (h : ∀ handle, (next call u).2 ≠ .ok (.statement handle)) :
    fill k next call u = next call u := by
  unfold fill
  split
  · next hw => exact absurd (by rw [hw]) (h _)
  · rfl

section Fresh

variable (hplain : u.Plain (next call u).1 (next call u).2) {handle : Statement}
  (ha : (next call u).2 = .ok (.statement handle))
include hplain ha

/-- A new statement is handed out behind a facade. -/
theorem fill_of_not_breaks (h : ¬ u.Breaks k 0) :
    fill k next call u = ((next call u).1,
      .ok (.statement (.facade ((u.cache k).policy.keyFor call) k handle))) := by
  have hcache : (next call u).1.cache k = u.cache k := by
    rw [hplain.rest]
    rfl
  have hbreaks : ¬ (next call u).1.Breaks k 0 := by
    rwa [Breaks, hcache, hplain.rest]
  unfold fill
  split
  · next v statement hv =>
      rw [hv] at ha hcache hbreaks
      cases ha
      rw [wrapPrepared, wrap_of_not_breaks hbreaks, hcache, hv]
      rfl
  · next hother => exact (hother _ handle (Prod.ext rfl ha)).elim

/-- A new statement that cannot be handed out is closed. -/
theorem fill_of_breaks (h : u.Breaks k 0) :
    fill k next call u = ({ (next call u).1 with
        driver := ((next call u).1.driver.closeStatement u.driver.statements.next).1
        wrapFaults := u.wrapFaults - 1 }, .error (.driver wrapFailed)) := by
  have hcache : (next call u).1.cache k = u.cache k := by
    rw [hplain.rest]
    rfl
  have hbreaks : (next call u).1.Breaks k 0 := by
    rwa [Breaks, hcache, hplain.rest]
  have hfresh := hplain.driver
  rw [ha] at hfresh
  have hfaults : (next call u).1.wrapFaults = u.wrapFaults := by rw [hplain.rest]
  unfold fill
  split
  · next v statement hv =>
      rw [hv] at ha hbreaks hfaults
      cases ha
      have hwrap : v.wrap k (track k ((v.cache k).policy.keyFor call) handle) = _ :=
        wrap_of_breaks hbreaks hfresh.fresh.1
      rw [wrapPrepared, hwrap, hfaults, hv]
  · next hother => exact (hother _ handle (Prod.ext rfl ha)).elim

end Fresh

/-! ## The theorem -/

/-- The links behind the cache answer plainly, and as they would have answered before. -/
theorem AskedIn.answered (h : w.AskedIn k call u)
    (hchain : ∀ interceptor ∈ w.behind c position, interceptor.cache? = none) :
    u.Plain (send c (w.behind c position) (position + 1) call u).1
        (send c (w.behind c position) (position + 1) call u).2
      ∧ (send c (w.behind c position) (position + 1) call u).2 = w.answerBehind c position call :=
  ⟨plain_send _ hchain (position + 1) call u, send_alike _ hchain (position + 1) call (h.alike c)⟩

/-- What was found is closed in the world in which the links behind the cache are asked, and stays
so. -/
theorem AskedIn.spoiled (h : w.AskedIn k call u) {id : StatementId}
    (hfinds : w.finds? k call = some tracked) (hid : tracked.delegate.target? = some id) :
    (u.driver.statement id).closed = true := by
  obtain ⟨hnone, -⟩ | ⟨tracked', id', hfinds', -, hid', hd⟩ := h.driver
  · rw [hfinds] at hnone
    cases hnone
  · rw [hfinds] at hfinds'
    cases hfinds'
    rw [hid'] at hid
    cases hid
    rw [hd, Driver.closed_closeStatement, decide_eq_true rfl, Bool.true_or]

/-- **A call is safe** whatever the links behind the cache answer. -/
theorem AskedIn.safe (h : w.AskedIn k call u) (hasks : w.Asks k call)
    (hknown : ∀ tracked id, w.finds? k call = some tracked → tracked.delegate.target? = some id →
      w.driver.statements.Known id)
    (hrest : v = { u with driver := v.driver, wrapFaults := v.wrapFaults, journal := v.journal })
    (htouches : u.driver.Touches (fun id => ¬ u.driver.statements.Known id) v.driver)
    (howned : ∀ id, ¬ u.driver.statements.Known id → (v.driver.statement id).closed = true
      ∨ ∃ handle, answer = .ok (.statement handle) ∧ handle.target? = some id)
    (hpasses : (∀ handle, w.answerBehind c position call ≠ .ok (.statement handle)) →
      answer = w.answerBehind c position call)
    (hwraps : ∀ handle, w.answerBehind c position call = .ok (.statement handle) →
      ¬ u.Breaks k 0 →
        answer = .ok (.statement (.facade ((u.cache k).policy.keyFor call) k handle)))
    (hbreaks : ∀ handle, w.answerBehind c position call = .ok (.statement handle) →
      u.Breaks k 0 → answer = .error (.driver wrapFailed)
        ∧ ∃ id, handle = .physical id ∧ ¬ u.driver.statements.Known id
          ∧ v.driver.statements.Known id ∧ (v.driver.statement id).closed = true) :
    w.Safe c position k call v answer where
  reissues tracked hfinds hbreak :=
    absurd hasks (not_or.mpr ⟨by rw [hfinds]; exact Option.some_ne_none tracked, hbreak⟩)
  spoils tracked id hfinds _ hid := by
    rw [htouches.statement id fun hnew => hnew ((h.known id).mpr (hknown tracked id hfinds hid))]
    exact h.spoiled hfinds hid
  passes _ := hpasses
  wraps _ handle ha hbreak := by
    have hfacade := hwraps handle ha fun hb => hbreak (h.breaks.mp hb)
    rwa [h.cache] at hfacade
  breaks _ handle ha hbreak := by
    obtain ⟨hanswer, id, hid, hnew, hclosed⟩ := hbreaks handle ha (h.breaks.mpr hbreak)
    exact ⟨hanswer, id, hid, fun hk => hnew ((h.known id).mpr hk), hclosed⟩
  books := by
    obtain ⟨looked, hlooks, hu⟩ := h.looked
    refine ⟨looked, hlooks, hrest.trans ?_⟩
    rw [hu]
  touches := (h.touches.mono fun _ => Or.inr).trans
    (htouches.mono fun id hnew => Or.inl fun hk => hnew ((h.known id).mpr hk))
  owned id hnew := howned id fun hk => hnew ((h.known id).mp hk)

section Fill

variable {handle : Statement} (h : w.AskedIn k call u) (hasks : w.Asks k call)
  (hknown : ∀ tracked id, w.finds? k call = some tracked → tracked.delegate.target? = some id →
    w.driver.statements.Known id)
  (hplain : u.Plain (next call u).1 (next call u).2)
  (halike : (next call u).2 = w.answerBehind c position call) (journal : Journal)
include h hasks hknown hplain halike

/-- A new statement that cannot be handed out is closed, and the call fails. -/
theorem AskedIn.safe_of_breaks (ha : (next call u).2 = .ok (.statement handle))
    (hbreak : u.Breaks k 0) :
    w.Safe c position k call { (fill k next call u).1 with journal } (fill k next call u).2 := by
  have hnew := u.driver.statements.not_known_next
  have hgives := hplain.driver
  rw [ha] at hgives
  obtain ⟨rfl, hopen⟩ := hgives.fresh
  have hanswer := halike.symm.trans ha
  have hclosed := (next call u).1.driver.closed_closeStatement u.driver.statements.next
  rw [fill_of_breaks hplain ha hbreak]
  refine h.safe hasks hknown (by rw [hplain.rest]) ?_ (fun id hid => Or.inl ?_)
    (fun hne => absurd hanswer (hne _)) (fun _ _ hnot => absurd hbreak hnot) ?_
  · refine hgives.touches.trans (((next call u).1.driver.touches_closeStatement _).mono ?_)
    intro id hid
    rw [hid]
    exact hnew
  · show (((next call u).1.driver.closeStatement _).1.statement id).closed = true
    rw [hclosed]
    by_cases hnext : u.driver.statements.next = id
    · rw [decide_eq_true hnext, Bool.true_or]
    · obtain hc | ⟨handle, he, ht⟩ := hgives.owned hid
      · rw [hc, Bool.or_true]
      · cases he
        exact absurd (Option.some.inj ht) hnext
  · intro handle he _
    rw [hanswer] at he
    cases he
    refine ⟨rfl, _, rfl, hnew, ?_, ?_⟩
    · exact (Driver.known_closeStatement _ _ _).mpr (Driver.known_of_open _ hopen)
    · show (((next call u).1.driver.closeStatement _).1.statement _).closed = true
      rw [hclosed, decide_eq_true rfl, Bool.true_or]

/-- A new statement is handed out behind a facade. -/
theorem AskedIn.safe_of_not_breaks (ha : (next call u).2 = .ok (.statement handle))
    (hbreak : ¬ u.Breaks k 0) :
    w.Safe c position k call { (fill k next call u).1 with journal } (fill k next call u).2 := by
  have hgives := hplain.driver
  rw [ha] at hgives
  obtain ⟨rfl, -⟩ := hgives.fresh
  have hanswer := halike.symm.trans ha
  rw [fill_of_not_breaks hplain ha hbreak]
  refine h.safe hasks hknown (by rw [hplain.rest]) hgives.touches (fun id hid => ?_)
    (fun hne => absurd hanswer (hne _)) ?_ (fun _ _ hb => absurd hb hbreak)
  · obtain hc | ⟨handle, he, ht⟩ := hgives.owned hid
    · exact Or.inl hc
    · cases he
      exact Or.inr ⟨_, rfl, ht⟩
  · intro handle he _
    rw [hanswer] at he
    cases he
    rfl

/-- What is no statement is passed on. -/
theorem AskedIn.safe_of_ne (hne : ∀ handle, (next call u).2 ≠ .ok (.statement handle)) :
    w.Safe c position k call { (fill k next call u).1 with journal } (fill k next call u).2 := by
  rw [fill_of_ne hne]
  exact h.safe hasks hknown (by rw [hplain.rest]) hplain.driver.touches
    (fun id hid => hplain.driver.owned hid) (fun _ => halike)
    (fun handle he => absurd (halike.trans he) (hne handle))
    (fun handle he => absurd (halike.trans he) (hne handle))

end Fill

/-- What a cache makes of the answer from behind it is safe. -/
theorem AskedIn.safe_fill (h : w.AskedIn k call u) (hasks : w.Asks k call)
    (hknown : ∀ tracked id, w.finds? k call = some tracked → tracked.delegate.target? = some id →
      w.driver.statements.Known id)
    (hchain : ∀ interceptor ∈ w.behind c position, interceptor.cache? = none)
    (journal : Journal) :
    w.Safe c position k call
      { (fill k (send c (w.behind c position) (position + 1)) call u).1 with journal }
      (fill k (send c (w.behind c position) (position + 1)) call u).2 := by
  obtain ⟨hplain, halike⟩ := h.answered hchain
  generalize send c (w.behind c position) (position + 1) = next at hplain halike ⊢
  by_cases hstatement : ∃ handle, (next call u).2 = .ok (.statement handle)
  · obtain ⟨handle, ha⟩ := hstatement
    by_cases hbreak : u.Breaks k 0
    · exact h.safe_of_breaks hasks hknown hplain halike journal ha hbreak
    · exact h.safe_of_not_breaks hasks hknown hplain halike journal ha hbreak
  · exact h.safe_of_ne hasks hknown hplain halike journal fun handle ha =>
      hstatement ⟨handle, ha⟩

/-- **A call that prepares is safe** at the only cache of a chain, if what is parked for it is a
statement of the driver. -/
theorem safe_perform (hlink : (w.connection c).cacheAt? position = some k)
    (honly : (w.connection c).caches = [k])
    (hthrough : comesThrough ((w.connection c).chain.take position) call = some call')
    (hp : call'.method.prepares = true)
    (hbare : ∀ tracked, w.finds? k call' = some tracked →
      ∃ id, tracked.delegate = .physical id ∧ w.driver.statements.Known id) :
    w.Safe c position k call' (w.perform c call).1 (w.perform c call).2 := by
  obtain ⟨journal, journal', hperform⟩ := perform_at hlink hthrough
  have hknown : ∀ tracked id, w.finds? k call' = some tracked →
      tracked.delegate.target? = some id → w.driver.statements.Known id := by
    intro tracked id hfinds hid
    obtain ⟨id', hid', hk⟩ := hbare tracked hfinds
    rw [hid'] at hid
    cases hid
    exact hk
  rw [hperform]
  obtain ⟨tracked, looked, hfinds, hbreak, hlooks, hserve⟩ | ⟨hasks, u, hu, hserve⟩ :=
    serve_asks hp (fun tracked hfinds => (hbare tracked hfinds).imp fun _ h => h.1)
      (send c (w.behind c position) (position + 1)) journal
  · rw [hserve]
    have hdriver : looked.driver = w.driver := by rw [hlooks.rest]
    have hnot : ¬ w.Asks k call' :=
      not_or.mpr ⟨by rw [hfinds]; exact Option.some_ne_none tracked, hbreak⟩
    exact
      { reissues := fun tracked' hfinds' _ => by
          rw [hfinds] at hfinds'
          cases hfinds'
          exact ⟨rfl, hdriver⟩
        spoils := fun _ _ _ hb => absurd hb hbreak
        passes := fun hasks => absurd hasks hnot
        wraps := fun hasks => absurd hasks hnot
        breaks := fun hasks => absurd hasks hnot
        books := ⟨looked, hlooks, rfl⟩
        touches := by
          show w.driver.Touches _ looked.driver
          rw [hdriver]
          exact .refl _ _
        owned := fun id hid => Or.inl (by
          show (looked.driver.statement id).closed = true
          rw [hdriver, Driver.statement_of_not_known _ hid]
          rfl) }
  · rw [hserve]
    exact hu.safe_fill hasks hknown (cache?_eq_none_of_only hlink honly).2 journal'

/-- A call that comes to the cache and does not prepare is answered as the links behind the cache
answer it. -/
theorem plain_perform_through (hlink : (w.connection c).cacheAt? position = some k)
    (honly : (w.connection c).caches = [k])
    (hthrough : comesThrough ((w.connection c).chain.take position) call = some call')
    (hp : call'.method.prepares = false) :
    w.Plain (w.perform c call).1 (w.perform c call).2
      ∧ (w.perform c call).2 = w.answerBehind c position call' := by
  obtain ⟨journal, journal', hperform⟩ := perform_at hlink hthrough
  have hchain := (cache?_eq_none_of_only hlink honly).2
  have hserve : ∀ next v, serve k next call' v = next call' v := by
    intro next v
    rw [serve, hp]
    rfl
  rw [hperform, hserve]
  exact ⟨(plain_send _ hchain (position + 1) call' { w with journal }).noted,
    send_alike _ hchain (position + 1) call' ⟨rfl, rfl, rfl, rfl, rfl⟩⟩

end World

end ConnectionPool
