import ConnectionPool.Proofs.Scene.Whereabouts

/-!
# Exclusive ownership

An open statement of the driver is in exactly one place: reached by one handle, out or parked,
or given to a client bare. A closed one is reached by no handle, and was closed once. What was
given bare never came to a cache. `Scene.Owned` says this, `Scene.Turn.owned` that every turn
keeps it.

That a statement answers a call is read off the journal and the driver's records. A turn adds
such facts only about statements that are reached afterwards (`Scene.Turn.answered`).
-/

set_option autoImplicit false

namespace ConnectionPool

theorem World.left_note_iff {w : World} {receiver : Receiver} {interceptor : Interceptor}
    {content : NoticeContent} {c : ConnectionId} {position : Nat} {call : Call}
    {handle : Statement} :
    (w.note receiver interceptor content).Left c position call handle
      ↔ w.Left c position call handle
        ∨ (receiver = .link c position ∧ content = .leave call (.ok (.statement handle))) := by
  constructor
  · rintro ⟨notice, hm, hr, hc⟩
    rcases List.mem_append.mp hm with hm | hm
    · exact Or.inl ⟨notice, hm, hr, hc⟩
    · obtain rfl := List.mem_singleton.mp hm
      exact Or.inr ⟨hr, hc⟩
  · rintro (⟨notice, hm, h⟩ | ⟨hr, hc⟩)
    · exact ⟨notice, List.mem_append_left _ hm, h⟩
    · exact ⟨_, List.mem_append_right _ (List.mem_singleton.mpr rfl), hr, hc⟩

theorem World.SameCaching.left {w w' : World} (h : w.SameCaching w') {c : ConnectionId}
    {position : Nat} {call : Call} {handle : Statement}
    (hl : w'.Left c position call handle) : w.Left c position call handle := by
  obtain ⟨notices, hj, hn⟩ := h.journal
  obtain ⟨notice, hm, hr, hc⟩ := hl
  rw [hj] at hm
  rcases List.mem_append.mp hm with hm | hm
  · exact ⟨notice, hm, hr, hc⟩
  · exact absurd hc (hn notice hm call handle)

namespace Scene

variable {S S' : Scene}

theorem mem_targets_of_hands {handle : Statement} (h : handle ∈ S.hands) {id : StatementId}
    (ht : handle.target? = some id) : id ∈ S.targets :=
  (Multiset.mem_filterMap _ _).mpr ⟨handle, Multiset.mem_add.mpr (Or.inl h), ht⟩

/-! ## What is recorded -/

/-- **What journal and handles are about is known.** -/
structure Traced (S : Scene) : Prop where
  left : ∀ {c position call handle}, S.world.Left c position call handle →
    S.world.connections.Known c ∧ position < (S.world.connection c).chain.length
      ∧ ∀ id, handle.target? = some id → S.world.driver.statements.Known id
  targets : ∀ id ∈ S.targets, S.world.driver.statements.Known id
  loose : ∀ id ∈ S.loose, S.world.driver.statements.Known id

/-- What answers a call is known. -/
theorem Traced.known_of_answered (ht : Traced S) {c : ConnectionId} {position : Nat} {call : Call}
    {handle : Statement} (ha : S.world.Answered c position call handle) {id : StatementId}
    (hid : handle.target? = some id) : S.world.driver.statements.Known id := by
  rcases ha with hl | ⟨-, id', rfl, ho⟩
  · exact (ht.left hl).2.2 id hid
  · cases hid
    by_contra hk
    rw [Driver.statement_of_not_known _ hk] at ho
    exact nomatch ho

/-- **How a statement came to leave a link** as the answer to a call in the course of a step. -/
inductive Departs (S S' : Scene) (c : ConnectionId) (position : Nat) (call : Call)
    (handle : Statement) : Prop
  | kept (h : S.world.Left c position call handle)
  /-- It is a new statement of the link itself, and nothing else left a link. -/
  | supplied {interceptor : Interceptor}
      (hl : (S.world.connection c).chain[position]? = some interceptor)
      (hs : interceptor.Supplies call.method) (hm : handle ∈ S'.hands)
      (hh : handle = .physical S.world.driver.statements.next)
      (ho : (S'.world.driver.statement S.world.driver.statements.next).origin = none)
      (hone : ∀ {d q call' handle'}, S'.world.Left d q call' handle' →
        S.world.Left d q call' handle' ∨ d = c)
  /-- The link handed the call on, and it came from behind. -/
  | passed {interceptor : Interceptor} {call' : Call}
      (hl : (S.world.connection c).chain[position]? = some interceptor) (hm : handle ∈ S'.hands)
      (hcall : call'.method = call.method)
      (ho : call.method.prepares = true → interceptor.handsOn? call = some call')
      (ha : S.world.Answered c (position + 1) call' handle)
  /-- The link is a cache, which put a facade before what came from behind. -/
  | covered {interceptor : Interceptor} {key : Option CacheKey} {k : CacheId} {inner : Statement}
      (hl : (S.world.connection c).chain[position]? = some interceptor)
      (hk : interceptor.cache? = some k) (hm : .facade key k inner ∈ S.hands)
      (hm' : handle ∈ S'.hands) (hh : handle = .facade key k inner)
      (ha : S.world.Answered c (position + 1) call inner)
  /-- The link is a cache, which found it under the key of the call. -/
  | found {interceptor : Interceptor} {k : CacheId} {binding : Binding} {key : CacheKey}
      {tracked : Tracked} (hl : (S.world.connection c).chain[position]? = some interceptor)
      (hk : interceptor.cache? = some k) (hb : (S.world.cache k).binding = some binding)
      (hkey : (S.world.cache k).policy.keyFor call = some key)
      (hf : (S.world.store binding.connection).entries.get? key = some tracked)
      (hm : handle ∈ S'.hands) (hh : handle = tracked.facade)

theorem Step.departs (h : Step S S') {c : ConnectionId} {position : Nat} {call : Call}
    {handle : Statement} (hl : S'.world.Left c position call handle) :
    Departs S S' c position call handle := by
  cases h with
  | book hw => exact .kept (hw.left hl)
  | @answer d q interceptor call' sql hlink hs =>
      rcases World.left_note_iff.mp hl with hl | ⟨hr, hc⟩
      · exact .kept hl
      · cases hr
        cases hc
        refine .supplied hlink hs (Multiset.mem_cons_self _ _) rfl ?_ fun hl' => ?_
        · show ((S.world.driver.looseStatement sql).1.statement _).origin = none
          rw [Driver.looseStatement, Driver.statement_issue, if_pos rfl]
        · refine (World.left_note_iff.mp hl').imp_right fun hnoted => ?_
          cases hnoted.1
          rfl
  | passUp hmem hlink hcall ho ha =>
      rcases World.left_note_iff.mp hl with hl | ⟨hr, hc⟩
      · exact .kept hl
      · cases hr
        cases hc
        exact .passed hlink hmem hcall ho ha
  | handOut call' hmem hlink hk ha =>
      rcases World.left_note_iff.mp hl with hl | ⟨hr, hc⟩
      · exact .kept hl
      · cases hr
        cases hc
        exact .covered hlink hk hmem hmem rfl ha
  | @hit d q interceptor k binding key tracked call' hlink hk hb hkey hf =>
      have hl' : ((S.world.found binding key).note (.link d q) interceptor
          (.leave call' (.ok (.statement tracked.facade)))).Left c position call handle := hl
      rcases World.left_note_iff.mp hl' with hl | ⟨hr, hc⟩
      · refine .kept ?_
        rcases binding with ⟨d, _ | n⟩ <;> exact hl
      · cases hr
        cases hc
        exact .found hlink hk hb hkey hf (Multiset.mem_cons_self _ _) rfl
  | @repay n _ _ => cases n <;> exact .kept hl
  | _ => exact .kept hl

/-- A statement that leaves a link in a step is reached after it. -/
theorem Step.left (h : Step S S') {c : ConnectionId} {position : Nat} {call : Call}
    {handle : Statement} (hl : S'.world.Left c position call handle) :
    S.world.Left c position call handle
      ∨ (position < (S.world.connection c).chain.length
        ∧ ∀ id, handle.target? = some id → id ∈ S'.targets) := by
  cases h.departs hl with
  | kept hl => exact Or.inl hl
  | supplied hlink _ hmem _ _ _ | passed hlink hmem _ _ _ | covered hlink _ _ hmem _ _
  | found hlink _ _ _ _ hmem _ =>
      exact Or.inr ⟨(List.getElem?_eq_some_iff.mp hlink).1,
        fun id hid => mem_targets_of_hands hmem hid⟩

theorem Turn.left (h : Turn S S') {c : ConnectionId} {position : Nat} {call : Call}
    {handle : Statement} (hl : S'.world.Left c position call handle) :
    S.world.Left c position call handle
      ∨ (position < (S.world.connection c).chain.length
        ∧ ∀ id, handle.target? = some id → id ∈ S'.targets) := by
  cases h with
  | step h => exact h.left hl
  | @count p _ hn _ =>
      rw [S.world.startCounting_of_none hn] at hl
      exact Or.inl hl
  | _ => exact Or.inl hl

/-- A statement becomes known in a turn only by being made, and then it is reached. -/
theorem Effect.known (h : Effect S S') {id : StatementId}
    (hk : S'.world.driver.statements.Known id) :
    S.world.driver.statements.Known id ∨ id ∈ S'.targets := by
  cases h with
  | kept _ _ hd => exact Or.inl ((hd.known id).mp hk)
  | made statement event ht hl hr he hd =>
      rw [hd] at hk
      rcases (S.world.driver.known_issue statement event id).mp hk with hk | rfl
      · exact Or.inl hk
      · rw [ht]
        exact Or.inr (Multiset.mem_cons_self _ _)
  | disposed _ _ _ hd => rw [hd, Driver.known_closeStatement] at hk; exact Or.inl hk
  | shut _ _ _ _ hd => rw [hd, Driver.known_closeStatement] at hk; exact Or.inl hk
  | given _ _ _ _ hs => rw [hs] at hk; exact Or.inl hk

theorem Effect.known_of_mem (h : Effect S S') (ht : ∀ id ∈ S.targets,
      S.world.driver.statements.Known id) (hl : S.world.Later S'.world) :
    ∀ id ∈ S'.targets, S'.world.driver.statements.Known id := by
  intro id hid
  cases h with
  | kept ht' _ _ => rw [ht'] at hid; exact (hl.statements id (ht id hid)).1
  | made statement event ht' _ _ _ hd =>
      rw [ht'] at hid
      rcases Multiset.mem_cons.mp hid with rfl | hid
      · rw [hd]
        exact (S.world.driver.known_issue statement event _).mpr (Or.inr rfl)
      · exact (hl.statements id (ht id hid)).1
  | disposed _ ht' _ _ =>
      exact (hl.statements id (ht id (by rw [ht']; exact Multiset.mem_cons_of_mem hid))).1
  | shut _ _ ht' _ _ => rw [ht'] at hid; exact (hl.statements id (ht id hid)).1
  | given _ ht' _ _ _ =>
      exact (hl.statements id (ht id (by rw [ht']; exact Multiset.mem_cons_of_mem hid))).1

theorem Turn.traced (h : Turn S S') (hS : S.Wired) (ht : Traced S) : Traced S' := by
  have heffect := h.effect hS
  have hlater := (h.later_and_wired hS).1
  have htargets := heffect.known_of_mem ht.targets hlater
  refine ⟨fun {c position call handle} hl => ?_, htargets, fun id hid => ?_⟩
  · rcases h.left hl with hl | ⟨hp, hid⟩
    · obtain ⟨hc, hp, hid⟩ := ht.left hl
      have hf := hlater.connections c hc
      exact ⟨hf.1, by rw [Connection.chain_of_frame hf.2]; exact hp,
        fun id h => (hlater.statements id (hid id h)).1⟩
    · have hc : S.world.connections.Known c := S.world.known_of_chain_ne_nil fun h => by
        rw [h] at hp
        exact nomatch hp
      have hf := hlater.connections c hc
      exact ⟨hf.1, by rw [Connection.chain_of_frame hf.2]; exact hp,
        fun id h => htargets id (hid id h)⟩
  · have hold : id ∈ S.loose ∨ id ∈ S.targets := by
      cases heffect with
      | kept _ hl _ => exact Or.inl (hl ▸ hid)
      | made _ _ _ hl _ _ _ => exact Or.inl (hl ▸ hid)
      | disposed _ _ hl _ => exact Or.inl (hl ▸ hid)
      | shut _ _ _ hl _ => exact Or.inl (hl ▸ hid)
      | given id' ht' hl _ _ =>
          rw [hl] at hid
          rcases Multiset.mem_cons.mp hid with rfl | hid
          · exact Or.inr (by rw [ht']; exact Multiset.mem_cons_self _ _)
          · exact Or.inl hid
    exact (hlater.statements id (hold.elim (ht.loose id) (ht.targets id))).1

/-- What is reached is out or parked. -/
theorem mem_targets {id : StatementId} :
    id ∈ S.targets ↔ (∃ handle ∈ S.hands, handle.target? = some id)
      ∨ ∃ handle ∈ S.world.parkedHandles, handle.target? = some id := by
  rw [targets, handles, Multiset.mem_filterMap]
  constructor
  · rintro ⟨handle, hm, ht⟩
    rcases Multiset.mem_add.mp hm with hm | hm
    · exact Or.inl ⟨handle, hm, ht⟩
    · exact Or.inr ⟨handle, hm, ht⟩
  · rintro (⟨handle, hm, ht⟩ | ⟨handle, hm, ht⟩)
    · exact ⟨handle, Multiset.mem_add.mpr (Or.inl hm), ht⟩
    · exact ⟨handle, Multiset.mem_add.mpr (Or.inr hm), ht⟩

/-- What a client does with caches of its own leaves no trace in the journal. -/
theorem OwnTurn.traced {Fits : CachePolicy → Prop} (h : OwnTurn Fits S S') (hS : S.Wired)
    (ht : Traced S) : Traced S' := by
  cases h with
  | turn h => exact h.traced hS ht
  | @sort H L hH hL =>
      refine ⟨ht.left, fun id hid => ?_, hL⟩
      rcases mem_targets.mp hid with ⟨handle, hm, hh⟩ | hparked
      · exact hH handle hm id hh
      · exact ht.targets id (mem_targets.mpr (Or.inr hparked))
  | adopt _ _ => exact ⟨ht.left, ht.targets, ht.loose⟩
  | @offer key k tracked c n H h hb hn hc hf =>
      refine ⟨fun {d position call handle} hl => ?_, fun id hid => ?_, ht.loose⟩
      · obtain ⟨hd, hp, hid⟩ := ht.left hl
        have hframe := (S.world.updateCounter n fun _ =>
          ⟨(S.world.counter n).count + 1⟩).frame_setStore c
            ((S.world.store c).park key tracked) d
        refine ⟨(World.known_setStore _ c _ d).mpr hd, ?_, hid⟩
        rw [Connection.chain_of_frame hframe]
        exact hp
      · -- what was out is parked
        have hparked := World.parkedHandles_park (w := S.world.updateCounter n fun _ =>
          ⟨(S.world.counter n).count + 1⟩) tracked (World.known_of_binding hS hb) hf
        refine ht.targets id ?_
        rcases mem_targets.mp hid with ⟨handle, hm, hh⟩ | ⟨handle, hm, hh⟩
        · refine mem_targets.mpr (Or.inl ⟨handle, ?_, hh⟩)
          rw [h]
          exact Multiset.mem_cons_of_mem hm
        · rcases Multiset.mem_cons.mp (Multiset.mem_of_le (le_of_eq hparked) hm) with rfl | hm
          · refine mem_targets.mpr (Or.inl ⟨tracked.facade, ?_, hh⟩)
            rw [h]
            exact Multiset.mem_cons_self _ _
          · exact mem_targets.mpr (Or.inr ⟨handle, hm, hh⟩)

/-- What answers a call after a turn answered it before, or is reached afterwards. -/
theorem Turn.answered (h : Turn S S') (hS : S.Wired) (ht : Traced S) {c : ConnectionId}
    {position : Nat} {call : Call} {handle : Statement} {id : StatementId}
    (ha : S'.world.Answered c position call handle) (hid : handle.target? = some id) :
    (S.world.connections.Known c ∧ S.world.Answered c position call handle) ∨ id ∈ S'.targets := by
  have hlater := (h.later_and_wired hS).1
  have hS' := (h.later_and_wired hS).2
  rcases ha with hl | ⟨hp, id', rfl, ho⟩
  · rcases h.left hl with hl | ⟨-, hnew⟩
    · exact Or.inl ⟨(ht.left hl).1, Or.inl hl⟩
    · exact Or.inr (hnew id hid)
  · cases hid
    have hk' : S'.world.driver.statements.Known id := by
      by_contra hk
      rw [Driver.statement_of_not_known _ hk] at ho
      exact nomatch ho
    rcases (h.effect hS).known hk' with hk | hk
    · left
      -- the connection is known, since a new one has a line on which nothing was made
      have ho' := ho
      rw [(hlater.statements id hk).2.1] at ho'
      have hline := hS.origin_known ho'
      have hc : S.world.connections.Known c := by
        by_cases hc' : S'.world.connections.Known c
        · exact (h.known_connection hc').resolve_right fun h => h.line hline
        · rw [World.connection, Registry.get_of_not_known hc'] at hline
          exact absurd rfl hline.1
      have hf := (hlater.connections c hc).2
      rw [Connection.physical_of_frame hf] at ho'
      rw [Connection.chain_of_frame hf] at hp
      exact ⟨hc, Or.inr ⟨hp, id, rfl, ho'⟩⟩
    · exact Or.inr hk

/-! ## Ownership -/

/-- **A statement has one owner** as long as it is open, and none that could reach it once it
is closed. -/
structure OwnedAt (S : Scene) (id : StatementId) : Prop where
  opened : (S.world.driver.statement id).closed = false →
    S.targets.count id + S.loose.count id = 1
  closed : (S.world.driver.statement id).closed = true →
    S.targets.count id = 0 ∧ S.loose.count id ≤ 1
  closings : (DriverLog.closings S.world.driver.log).count id
    = if S.world.driver.statements.Known id ∧ (S.world.driver.statement id).closed = true
      then 1 else 0

/-- **Every statement has one owner**, and what clients hold bare never came to a cache. -/
structure Owned (S : Scene) : Prop where
  each : ∀ id, OwnedAt S id
  apart : ∀ id ∈ S.loose, ¬ S.world.Wrapped id

theorem OwnedAt.of_mem {id : StatementId} (h : OwnedAt S id) (hid : id ∈ S.targets) :
    (S.world.driver.statement id).closed = false ∧ S.targets.count id = 1
      ∧ S.loose.count id = 0 := by
  have hpos := Multiset.count_pos.mpr hid
  cases hc : (S.world.driver.statement id).closed with
  | true =>
      have := (h.closed hc).1
      omega
  | false =>
      have := h.opened hc
      exact ⟨rfl, by omega, by omega⟩

/-- An open statement of a client is reached by no handle. -/
theorem OwnedAt.of_loose {id : StatementId} (h : OwnedAt S id) (hid : id ∈ S.loose) :
    S.targets.count id = 0 ∧ S.loose.count id = 1 := by
  have hpos := Multiset.count_pos.mpr hid
  cases hc : (S.world.driver.statement id).closed with
  | true =>
      have := h.closed hc
      omega
  | false =>
      have := h.opened hc
      omega

/-- A statement is closed that one handle reached, or one client holds. -/
theorem OwnedAt.close {id : StatementId} (h : OwnedAt S id)
    (hd : S'.world.driver = (S.world.driver.closeStatement id).1)
    (ht : S'.targets.count id = 0) (hl : S'.loose.count id ≤ 1) : OwnedAt S' id := by
  have hclosed : (S'.world.driver.statement id).closed = true := by
    rw [hd, Driver.closed_closeStatement]
    simp
  refine ⟨fun h => absurd (h.symm.trans hclosed) (by decide), fun _ => ⟨ht, hl⟩, ?_⟩
  have hk : S'.world.driver.statements.Known id ↔ S.world.driver.statements.Known id := by
    rw [hd, Driver.known_closeStatement]
  have hcl := h.closings
  simp only [hk, hclosed, and_true]
  rw [hd, Driver.closings_closeStatement]
  cases hc : (S.world.driver.statement id).closed with
  | true =>
      rw [hc] at hcl
      simpa using hcl
  | false =>
      rw [hc, if_neg fun h => nomatch h.2] at hcl
      simp [hcl, S.world.driver.known_of_open hc]

/-- A statement that an effect is not about. -/
theorem OwnedAt.frame {id : StatementId} (h : OwnedAt S id)
    (ht : S'.targets.count id + S'.loose.count id = S.targets.count id + S.loose.count id)
    (hl : S'.loose.count id = S.loose.count id)
    (hk : S'.world.driver.statements.Known id ↔ S.world.driver.statements.Known id)
    (hc : (S'.world.driver.statement id).closed = (S.world.driver.statement id).closed)
    (hlog : (DriverLog.closings S'.world.driver.log).count id
      = (DriverLog.closings S.world.driver.log).count id) : OwnedAt S' id := by
  refine ⟨fun ho => ?_, fun hcl => ?_, ?_⟩
  · rw [ht]
    exact h.opened (hc ▸ ho)
  · have := h.closed (hc ▸ hcl)
    omega
  · rw [hlog, hc, h.closings]
    simp only [hk]

/-- A statement stays with its owner when another one is closed. -/
theorem OwnedAt.close_other {id other : StatementId} (h : OwnedAt S id) (hid : id ≠ other)
    (hd : S'.world.driver = (S.world.driver.closeStatement other).1)
    (ht : S'.targets.count id = S.targets.count id) (hl : S'.loose = S.loose) :
    OwnedAt S' id := by
  refine h.frame (by rw [ht, hl]) (by rw [hl]) (by rw [hd, Driver.known_closeStatement]) ?_ ?_
  · rw [hd, Driver.statement_closeStatement_of_ne _ hid.symm]
  · rw [hd, Driver.closings_closeStatement]
    split
    · rfl
    · rw [List.count_append, List.count_singleton, if_neg (by simpa using hid.symm), add_zero]

/-- A statement that is made is reached by one handle. -/
theorem OwnedAt.issue {statement : PhysicalStatement} {event : StatementId → DriverEvent}
    (h : OwnedAt S S.world.driver.statements.next) (htraced : Traced S) (hr : statement.Rested)
    (he : ∀ id, (event id).made? = some id)
    (hd : S'.world.driver = (S.world.driver.issue statement event).1)
    (ht : S'.targets = S.world.driver.statements.next ::ₘ S.targets) (hl : S'.loose = S.loose) :
    OwnedAt S' S.world.driver.statements.next := by
  have hnew := S.world.driver.statements.not_known_next
  have hreached : S.targets.count S.world.driver.statements.next = 0 :=
    Multiset.count_eq_zero.mpr fun h => hnew (htraced.targets _ h)
  have hloose : S.loose.count S.world.driver.statements.next = 0 :=
    Multiset.count_eq_zero.mpr fun h => hnew (htraced.loose _ h)
  have hst : S'.world.driver.statement S.world.driver.statements.next = statement := by
    rw [hd, Driver.statement_issue, if_pos rfl]
  refine ⟨fun _ => ?_, fun hc => ?_, ?_⟩
  · rw [ht, hl, Multiset.count_cons_self, hreached, hloose]
  · rw [hst, hr.1] at hc
    exact nomatch hc
  · have hcl := h.closings
    rw [if_neg fun h => hnew h.1] at hcl
    rw [hst, hr.1, hd, Driver.closings_issue _ _ _ he, hcl]
    simp

/-- A statement stays with its owner when another one is made. -/
theorem OwnedAt.issue_other {id : StatementId} {statement : PhysicalStatement}
    {event : StatementId → DriverEvent} (h : OwnedAt S id)
    (hid : id ≠ S.world.driver.statements.next) (he : ∀ id, (event id).made? = some id)
    (hd : S'.world.driver = (S.world.driver.issue statement event).1)
    (ht : S'.targets = S.world.driver.statements.next ::ₘ S.targets) (hl : S'.loose = S.loose) :
    OwnedAt S' id := by
  have hk : S'.world.driver.statements.Known id ↔ S.world.driver.statements.Known id := by
    rw [hd, Driver.known_issue]
    exact ⟨fun h => h.resolve_right hid, Or.inl⟩
  refine h.frame ?_ (by rw [hl]) hk ?_ ?_
  · rw [ht, hl, Multiset.count_cons_of_ne hid]
  · rw [hd, Driver.statement_issue, if_neg hid]
  · rw [hd, Driver.closings_issue _ _ _ he]

/-- The owner of a statement after an effect. -/
theorem Effect.ownedAt (h : Effect S S') (ht : Traced S) {id : StatementId}
    (ho : OwnedAt S id) : OwnedAt S' id := by
  cases h with
  | kept ht' hl hd =>
      exact ho.frame (by rw [ht', hl]) (by rw [hl]) (hd.known id) (hd.closed id)
        (by rw [hd.closings])
  | made statement event ht' hl hr he hd =>
      by_cases hid : id = S.world.driver.statements.next
      · subst hid
        exact ho.issue ht hr he hd ht' hl
      · exact ho.issue_other hid he hd ht' hl
  | disposed other ht' hl hd =>
      by_cases hid : id = other
      · subst hid
        obtain ⟨-, hone, hloose⟩ := ho.of_mem (by rw [ht']; exact Multiset.mem_cons_self _ _)
        rw [ht', Multiset.count_cons_self] at hone
        exact ho.close hd (by omega) (by rw [hl]; omega)
      · exact ho.close_other hid hd (by rw [ht', Multiset.count_cons_of_ne hid]) hl
  | shut other hmem ht' hl hd =>
      by_cases hid : id = other
      · subst hid
        obtain ⟨hnone, hone⟩ := ho.of_loose hmem
        exact ho.close hd (by rw [ht']; exact hnone) (by rw [hl]; omega)
      · exact ho.close_other hid hd (by rw [ht']) hl
  | given other ht' hl hw hs =>
      by_cases hid : id = other
      · subst hid
        obtain ⟨hopen, hone, hloose⟩ :=
          ho.of_mem (by rw [ht']; exact Multiset.mem_cons_self _ _)
        rw [ht', Multiset.count_cons_self] at hone
        refine ⟨fun _ => ?_, fun hc => ?_, by rw [hs]; exact ho.closings⟩
        · rw [hl, Multiset.count_cons_self]
          omega
        · rw [hs, hopen] at hc
          exact nomatch hc
      · refine ho.frame ?_ ?_ (by rw [hs]) (by rw [hs]) (by rw [hs])
        · rw [ht', hl, Multiset.count_cons_of_ne hid, Multiset.count_cons_of_ne hid]
        · rw [hl, Multiset.count_cons_of_ne hid]

/-- **Every turn keeps ownership exclusive.** -/
theorem Turn.owned (h : Turn S S') (hS : S.Wired) (ht : Traced S) (ho : Owned S) : Owned S' := by
  have heffect := h.effect hS
  have hlater := (h.later_and_wired hS).1
  have heach : ∀ id, OwnedAt S' id := fun id => heffect.ownedAt ht (ho.each id)
  refine ⟨heach, fun id hid hw => ?_⟩
  -- a statement that newly came to a cache is reached, and so was not given away
  obtain ⟨c, position, k, call, handle, hk, hp, ha, hh⟩ := hw
  rcases h.answered hS ht ha hh with ⟨hc, ha⟩ | hreached
  · have hwrapped : S.world.Wrapped id := by
      rw [Connection.cacheAt?_of_frame (hlater.connections c hc).2] at hk
      exact ⟨c, position, k, call, handle, hk, hp, ha, hh⟩
    cases heffect with
    | kept _ hl _ => exact ho.apart id (hl ▸ hid) hwrapped
    | made _ _ _ hl _ _ _ => exact ho.apart id (hl ▸ hid) hwrapped
    | disposed _ _ hl _ => exact ho.apart id (hl ▸ hid) hwrapped
    | shut _ _ _ hl _ => exact ho.apart id (hl ▸ hid) hwrapped
    | given id' _ hl hw _ =>
        rw [hl] at hid
        rcases Multiset.mem_cons.mp hid with rfl | hid
        · exact hw hwrapped
        · exact ho.apart id hid hwrapped
  · have hnone := ((heach id).of_loose hid).1
    exact Multiset.count_eq_zero.mp hnone hreached

end Scene

end ConnectionPool
