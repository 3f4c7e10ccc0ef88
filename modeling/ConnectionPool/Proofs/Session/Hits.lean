import ConnectionPool.Proofs.Scene.Sources
import ConnectionPool.Proofs.Session.Exclusive

/-!
# Answers from the store

A call comes to a cache if the links before it hand it on, and is answered from the store if the
cache finds a statement parked for it and can put a facade before it (`World.Hit`). What is handed
out then was the answer of the rest of the chain to an earlier call that came to the same cache on
the same connection, with the same operation and the same arguments; the handle that a client had
of it was closed or dropped since; and no statement is parked, or handed out, on a connection
other than the one on which it was obtained (`right_statement`).
-/

set_option autoImplicit false

namespace ConnectionPool

/-! ## Calls that come through to a cache -/

/-- The call that comes out behind some links. -/
def comesThrough : List Interceptor → Call → Option Call
  | [], call => some call
  | interceptor :: rest, call => (interceptor.handsOn? call).bind (comesThrough rest)

namespace World

variable {w : World} {c : ConnectionId} {k : CacheId} {call call' : Call}

theorem handle_of_handsOn? {interceptor : Interceptor} (h : interceptor.handsOn? call = some call')
    (next : Call → World → World × Answer) (w : World) :
    handle interceptor next call w = next call' w := by
  cases interceptor.conduct call with
  | serves k hk _ =>
      rw [Interceptor.handsOn?_of_cache hk] at h
      cases h
  | handsOn passed _ hon _ hhands =>
      obtain rfl : passed = call' := Option.some.inj (hon.symm.trans h)
      exact hhands next w
  | supplies _ hon _ _ | answers _ _ hon _ _ => exact nomatch hon.symm.trans h

/-- A call that comes through some links is answered as what comes out behind them. -/
theorem send_through {rest : List Interceptor} (before : List Interceptor) :
    ∀ (position : Nat) (call : Call) (w : World), comesThrough before call = some call' →
      ∃ journal, (send c (before ++ rest) position call w).2
        = (send c rest (position + before.length) call' { w with journal }).2 := by
  induction before with
  | nil =>
      intro position call w h
      cases h
      exact ⟨w.journal, rfl⟩
  | cons interceptor before ih =>
      intro position call w h
      obtain ⟨passed, hon, hrest⟩ := Option.bind_eq_some_iff.mp h
      obtain ⟨journal, hsend⟩ := ih (position + 1) passed
        (w.note (.link c position) interceptor
          (.enter call (before ++ rest).length (w.connection c).metadata.number)) hrest
      refine ⟨journal, ?_⟩
      rw [List.cons_append, send]
      simp only [handle_of_handsOn? hon]
      rw [hsend, List.length_cons, Nat.add_assoc, Nat.add_comm 1]
      rfl

/-! ## Answers from the store -/

/-- The statement with which a cache answers a call from the store, if it does. -/
def hit? (w : World) (k : CacheId) (call : Call) : Option Tracked :=
  match w.fetch k call with
  | (w, .ok (some tracked)) =>
      match (w.wrap k tracked).2 with
      | .ok _ => some tracked
      | .error _ => none
  | _ => none

/-- Whether a facade can be put before a statement depends on the faults only. -/
theorem wrap_congr {w w' : World} (hc : (w'.cache k).fallible = (w.cache k).fallible)
    (hf : w'.wrapFaults = w.wrapFaults) (tracked : Tracked) :
    (w'.wrap k tracked).2 = (w.wrap k tracked).2 := by
  unfold wrap
  rw [hc, hf]
  split
  · rfl
  · rfl

theorem fetch_journal (w : World) (journal : Journal) (k : CacheId) (call : Call) :
    ({ w with journal } : World).fetch k call
      = ({ (w.fetch k call).1 with journal }, (w.fetch k call).2) := by
  have hcache : ({ w with journal } : World).cache k = w.cache k := rfl
  have hstore : ∀ c, ({ w with journal } : World).store c = w.store c := fun _ => rfl
  unfold fetch
  simp only [hcache, hstore]
  cases (!(w.cache k).policy.keeps call.method || call.sql?.isNone) with
  | true => rfl
  | false =>
      cases (w.cache k).policy.keyFor call with
      | none => rfl
      | some key =>
          cases (w.cache k).binding with
          | none => rfl
          | some binding =>
              simp only [Bool.false_eq_true, if_false]
              cases (w.store binding.connection).entries.get? key with
              | none => rfl
              | some tracked =>
                  obtain ⟨c, _ | n⟩ := binding
                  · rfl
                  · rfl

/-- What a cache answers from the store does not depend on the journal. -/
theorem hit?_journal (w : World) (journal : Journal) (k : CacheId) (call : Call) :
    ({ w with journal } : World).hit? k call = w.hit? k call := by
  unfold hit?
  rw [fetch_journal]
  obtain ⟨v, _ | _ | tracked⟩ := w.fetch k call
  · rfl
  · rfl
  · have hwrap : (({ v with journal } : World).wrap k tracked).2 = (v.wrap k tracked).2 := by
      apply wrap_congr
      · rfl
      · rfl
    simp only [hwrap]

theorem serve_of_hit? {tracked : Tracked} (hp : call.method.prepares = true)
    (h : w.hit? k call = some tracked) (next : Call → World → World × Answer) :
    (serve k next call w).2 = .ok (.statement tracked.facade) := by
  unfold hit? at h
  unfold serve
  rw [if_pos hp]
  split at h
  · next v found hfetch =>
      rw [hfetch]
      rcases v.wrap_cases k found with hwrap | ⟨due, hwrap⟩
      · rw [hwrap] at h
        cases h
        simp only [hwrap]
      · rw [hwrap] at h
        exact nomatch h
  · exact nomatch h

/-- What a cache answers a call with from the store was parked under the key of the call, where
the cache is attached. -/
theorem hit?_cases {tracked : Tracked} (h : w.hit? k call = some tracked) :
    ∃ key binding, (w.cache k).policy.keyFor call = some key
      ∧ (w.cache k).binding = some binding
      ∧ (w.store binding.connection).entries.get? key = some tracked := by
  unfold hit? at h
  obtain (hf | ⟨error, hf⟩) | ⟨_, _, -, -, -, hf⟩ |
    ⟨key, binding, found, hkey, hb, hget, hf⟩ :=
    w.fetch_cases k call
  · rw [hf] at h
    cases h
  · rw [hf] at h
    cases h
  · rw [hf] at h
    cases h
  · rw [hf] at h
    simp only at h
    split at h
    · cases h
      exact ⟨key, binding, hkey, hb, hget⟩
    · cases h

/-- **A call is answered from the store** by the only cache of the chain: it comes through to the
cache as `call'`, and is answered there with what was parked. -/
structure Hit (w : World) (c : ConnectionId) (call : Call) (position : Nat) (k : CacheId)
    (call' : Call) (tracked : Tracked) : Prop where
  link : (w.connection c).cacheAt? position = some k
  only : (w.connection c).caches = [k]
  through : comesThrough ((w.connection c).chain.take position) call = some call'
  prepares : call'.method.prepares = true
  found : w.hit? k call' = some tracked

theorem Hit.perform {position : Nat} {tracked : Tracked}
    (h : w.Hit c call position k call' tracked) :
    (w.perform c call).2 = .ok (.statement tracked.facade) := by
  obtain ⟨interceptor, hl, hk⟩ := Option.bind_eq_some_iff.mp h.link
  obtain ⟨hlt, hget⟩ := List.getElem?_eq_some_iff.mp hl
  have hsplit : (w.connection c).chain = (w.connection c).chain.take position
      ++ interceptor :: (w.connection c).chain.drop (position + 1) := by
    rw [← hget, ← List.drop_eq_getElem_cons hlt, List.take_append_drop]
  have hsend : ∃ journal, (send c ((w.connection c).chain.take position
        ++ interceptor :: (w.connection c).chain.drop (position + 1)) 0 call w).2
      = (send c (interceptor :: (w.connection c).chain.drop (position + 1))
          (0 + ((w.connection c).chain.take position).length) call' { w with journal }).2 :=
    send_through _ 0 call w h.through
  obtain ⟨journal, hsend⟩ := hsend
  rw [World.perform, hsplit, hsend, send]
  simp only [handle, Interceptor.role_of_cache hk]
  refine serve_of_hit? h.prepares ?_ _
  exact (w.hit?_journal _ k call').trans h.found

end World

/-- A cache is one link of a chain only. -/
theorem Connection.cacheAt?_inj {connection : Connection} (hn : connection.caches.Nodup)
    {position position' : Nat} {k : CacheId} (h : connection.cacheAt? position = some k)
    (h' : connection.cacheAt? position' = some k) : position = position' := by
  rw [Connection.caches] at hn
  rw [Connection.cacheAt?] at h h'
  generalize connection.chain = chain at hn h h'
  induction chain generalizing position position' with
  | nil => cases h
  | cons interceptor rest ih =>
      have hmem : ∀ {q}, rest[q]?.bind Interceptor.cache? = some k →
          k ∈ rest.filterMap Interceptor.cache? := fun {q} hq => by
        obtain ⟨other, ho, hk⟩ := Option.bind_eq_some_iff.mp hq
        exact List.mem_filterMap.mpr ⟨other, List.mem_of_getElem? ho, hk⟩
      have hfirst : interceptor.cache? = some k → k ∉ rest.filterMap Interceptor.cache? := by
        intro hk
        rw [List.filterMap_cons_some hk] at hn
        exact (List.nodup_cons.mp hn).1
      cases position with
      | zero =>
          cases position' with
          | zero => rfl
          | succ q' => exact absurd (hmem h') (hfirst h)
      | succ q =>
          cases position' with
          | zero => exact absurd (hmem h) (hfirst h')
          | succ q' =>
              have hrest : (rest.filterMap Interceptor.cache?).Nodup := by
                cases hk : interceptor.cache? with
                | none =>
                    rwa [List.filterMap_cons_none hk] at hn
                | some k' =>
                    rw [List.filterMap_cons_some hk] at hn
                    exact (List.nodup_cons.mp hn).2
              exact congrArg (· + 1) (ih hrest h h')

namespace Scene

variable {S S' : Scene}

theorem Turns.sourced (h : Turns S S') (hS : S.Sound) (hs : Sourced S) : Sourced S' := by
  induction h with
  | refl => exact hs
  | tail hturns hturn ih =>
      have hsound := Turns.sound hturns hS
      exact hturn.sourced hsound.wired hsound.traced hsound.own ih

theorem sourced_nothing : nothing.Sourced where
  hands _ h := absurd h (Multiset.notMem_zero _)
  entries {c key tracked} h := by
    rw [World.store, connection_nothing] at h
    cases h
  obtained {c d id} h := by
    obtain ⟨_, _, _, -, hl | ⟨-, id', rfl, horigin⟩, -⟩ := h
    · obtain ⟨_, hm, -⟩ := hl
      exact absurd hm List.not_mem_nil
    · rw [nothing.world.driver.statement_of_not_known (Registry.not_known_empty id')] at horigin
      cases horigin

/-- What a cache finds for a call is the answer to an earlier call that was the same. -/
theorem Sourced.hit (hs : S.Sourced) (hS : S.Wired) {c : ConnectionId} {call call' : Call}
    {position : Nat} {k : CacheId} {tracked : Tracked}
    (h : S.world.Hit c call position k call' tracked) :
    ∃ key id, tracked.delegate.target? = some id
      ∧ (S.world.store c).entries.get? key = some tracked
      ∧ S.world.Entered c position call'
      ∧ S.world.Answered c (position + 1) call' tracked.delegate := by
  obtain ⟨key, binding, hkey, hb, hget⟩ := World.hit?_cases h.found
  have hmem := (Connection.mem_caches _ k).mpr ⟨position, h.link⟩
  obtain rfl := hS.binding_connection hmem hb
  have hshelved := hs.entries hget
  have hcache := hshelved.cache
  rw [h.only, List.mem_singleton] at hcache
  obtain ⟨id, hid⟩ := hshelved.target
  obtain ⟨⟨d, position', call'', hsource⟩, -⟩ := hshelved.rooted
  have hsourcekey := hsource.key
  rw [hshelved.key, hcache] at hsourcekey
  have hlink := hsource.link
  rw [hcache] at hlink
  obtain rfl := hS.apart ((Connection.mem_caches _ k).mpr ⟨position', hlink⟩) hmem
  obtain rfl := Connection.cacheAt?_inj (hS.nodup _) h.link hlink
  obtain rfl : call'' = call' :=
    (CachePolicy.call_of_keyFor hsourcekey.symm).trans (CachePolicy.call_of_keyFor hkey).symm
  exact ⟨key, id, hid, hget, hsource.entered, hsource.answered⟩

end Scene

namespace Session

variable {s : Session} {S : Scene} {name : Name}

/-- A handle that is not closed or dropped by any command stays as it is. -/
theorem Keeps.get?_runAll_of_not_ended (h : Keeps s S) {commands : List Command}
    (hc : ∀ c, .cache c ∉ commands) {held : Held} (hn : s.statements.get? name = some held)
    (hend : ∀ command ∈ commands, command.ends? ≠ some name) :
    (s.runAll commands).statements.get? name = some held := by
  induction commands generalizing s S with
  | nil => exact hn
  | cons command rest ih =>
      have hne : ∀ c, command ≠ .cache c := fun c he => hc c (he ▸ List.mem_cons_self)
      obtain ⟨S', -, h'⟩ := h.run hne
      exact ih h' (fun c hr => hc c (List.mem_cons_of_mem _ hr))
        ((handled_run hne h.tracked).statements.get?_of_not_ended hn
          (hend command List.mem_cons_self))
        fun c hr => hend c (List.mem_cons_of_mem _ hr)

/-- A parked statement is not in the hands of a client. -/
theorem Keeps.not_holds_of_parks (h : Keeps s S) {c : ConnectionId} {key : CacheKey}
    {id : StatementId} (hw : s.world.Wrapped id) (hp : s.world.Parks c key id) (name : Name) :
    ¬ s.Holds name id := by
  cases h.placed hw with
  | held _ _ _ hnone => exact absurd hp (hnone c key)
  | parked _ _ hnone _ => exact hnone name
  | closed _ _ hnone _ => exact hnone name

/-- **The right statement of the right connection.** After any commands of a client without
caches of its own, a call that the only cache of a chain answers from the store gets a statement
that the rest of the chain gave, on the same connection, in answer to an earlier call that came
to the cache with the same operation and the same arguments. No client holds it any more: every
handle of it was closed or dropped. No statement is parked on a connection, or handed out from
its store, that was obtained on another one. -/
theorem right_statement {commands : List Command} (hc : ∀ c, .cache c ∉ commands) :
    (∀ c call position k call' tracked,
      (empty.runAll commands).world.Hit c call position k call' tracked →
      ((empty.runAll commands).world.perform c call).2 = .ok (.statement tracked.facade)
      ∧ (empty.runAll commands).world.Entered c position call'
      ∧ (empty.runAll commands).world.Answered c (position + 1) call' tracked.delegate
      ∧ ∃ id, tracked.facade.target? = some id
        ∧ (∀ d, (empty.runAll commands).world.Obtained d id → d = c)
        ∧ (∀ name, ¬ (empty.runAll commands).Holds name id)
        ∧ ∀ earlier later name, commands = earlier ++ later →
          (empty.runAll earlier).Holds name id →
          ∃ command ∈ later, command.ends? = some name)
    ∧ ∀ c key id d, (empty.runAll commands).world.Parks c key id →
      (empty.runAll commands).world.Obtained d id → d = c := by
  obtain ⟨S, hturns, h⟩ := keeps_empty.runAll hc
  have hs := hturns.sourced Scene.sound_nothing Scene.sourced_nothing
  have hS := h.sound.wired
  have hparked : ∀ c key id d, (empty.runAll commands).world.Parks c key id →
      (empty.runAll commands).world.Obtained d id → d = c := by
    rw [← h.depicts.world]
    rintro c key id d ⟨tracked, hget, hid⟩ ho
    have hshelved := hs.entries hget
    exact hs.obtained ho (hshelved.rooted.obtained hS hshelved.cache hid)
  refine ⟨fun c call position k call' tracked hhit => ?_, hparked⟩
  have hsource := hhit
  rw [← h.depicts.world] at hsource
  obtain ⟨key, id, hid, hget, hentered, hanswered⟩ := hs.hit hS hsource
  rw [h.depicts.world] at hget hentered hanswered
  have hp : (empty.runAll commands).world.Parks c key id := ⟨tracked, hget, hid⟩
  have hnone : ∀ name, ¬ (empty.runAll commands).Holds name id :=
    h.not_holds_of_parks ⟨c, position, k, call', tracked.delegate, hhit.link, hhit.prepares,
      hanswered, hid⟩ hp
  refine ⟨hhit.perform, hentered, hanswered, id, hid, fun d => hparked c key id d hp, hnone, ?_⟩
  rintro earlier later name rfl ⟨held, hg, ht⟩
  by_contra hend
  have hlater : ∀ command ∈ later, command.ends? ≠ some name :=
    fun command hm he => hend ⟨command, hm, he⟩
  obtain ⟨S₁, -, h₁⟩ := keeps_empty.runAll fun c hm => hc c (List.mem_append_left _ hm)
  have hkept := h₁.get?_runAll_of_not_ended
    (fun c hm => hc c (List.mem_append_right _ hm)) hg hlater
  refine hnone name ⟨held, ?_, ht⟩
  rw [runAll_append]
  exact hkept

/-- A client prepares a statement and closes its handle: when it prepares the statement again,
the parked one is handed out. -/
theorem right_statement_recycling :
    (empty.runAll (recycling.take 4)).world.Hit 1 selection 0 2 selection
        ⟨some ⟨.prepared, selection.args⟩, 2, .physical 1⟩
      ∧ (empty.runAll (recycling.take 4)).world.Answered 1 1 selection (.physical 1)
      ∧ (∀ name, ¬ (empty.runAll (recycling.take 4)).Holds name 1)
      ∧ ∀ d, (empty.runAll (recycling.take 4)).world.Obtained d 1 → d = 1 := by
  have hc : ∀ c, .cache c ∉ recycling.take 4 := by simp [recycling]
  have hhit : (empty.runAll (recycling.take 4)).world.Hit 1 selection 0 2 selection
      ⟨some ⟨.prepared, selection.args⟩, 2, .physical 1⟩ :=
    ⟨by rfl, by rfl, by rfl, by rfl, by rfl⟩
  obtain ⟨-, -, hanswered, id, hid, hobtained, hnone, -⟩ :=
    (right_statement hc).1 1 selection 0 2 selection _ hhit
  cases hid
  exact ⟨hhit, hanswered, hnone, hobtained⟩

end Session

end ConnectionPool
