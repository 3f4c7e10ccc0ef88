import ConnectionPool.Proofs.Session.Hits

/-!
# Looking a call up

A cache looks a call up if it is attached and the call has a key. It finds the statement that is
parked under the key, which leaves the store and gives its slot back, or tallies a miss; a call that
it does not look up is not tallied (`World.Looks`). A look-up never fails (`looks_fetch`).
-/

set_option autoImplicit false

namespace ConnectionPool

/-- **A call that a policy keeps and that carries a text has a key.** -/
theorem CachePolicy.exists_keyFor {policy : CachePolicy} {call : Call}
    (hkeeps : policy.keeps call.method = true) (hsql : call.sql?.isSome = true) :
    ∃ key, policy.keyFor call = some key := by
  rw [keyFor, hkeeps, hsql, Bool.and_self, if_pos rfl]
  obtain ⟨method, args⟩ := call
  cases method with
  | prepareStatement => exact ⟨⟨.prepared, args⟩, rfl⟩
  | prepareCall => exact ⟨⟨.callable, args⟩, rfl⟩
  | createStatement | isValid =>
      obtain ⟨prepared, callable, limit⟩ := policy
      cases prepared <;> cases callable <;> cases hkeeps

/-- A key is made of such calls only. -/
theorem CachePolicy.kept_of_keyFor {policy : CachePolicy} {call : Call} {key : CacheKey}
    (h : policy.keyFor call = some key) :
    policy.keeps call.method = true ∧ call.sql?.isSome = true := by
  rw [keyFor] at h
  split at h
  · next hkept => exact Bool.and_eq_true_iff.mp hkept
  · cases h

namespace World

variable {w looked : World} {k : CacheId} {call : Call} {found : Option Tracked}

/-- The statement that a cache finds for a call. -/
def finds? (w : World) (k : CacheId) (call : Call) : Option Tracked :=
  match (w.fetch k call).2 with
  | .ok found => found
  | .error _ => none

/-- **What a cache does when it looks a call up**, and what it finds. -/
inductive Looks (w : World) (k : CacheId) (call : Call) : World → Option Tracked → Prop
  /-- The call has no key, or the cache is attached to nothing. -/
  | unasked (h : (w.cache k).policy.keyFor call = none ∨ (w.cache k).binding = none) :
      Looks w k call w none
  /-- Nothing is parked under the key. -/
  | missed {key : CacheKey} {binding : Binding}
      (hkey : (w.cache k).policy.keyFor call = some key)
      (hb : (w.cache k).binding = some binding)
      (hget : (w.store binding.connection).entries.get? key = none) :
      Looks w k call (w.setStore binding.connection (w.store binding.connection).recordMiss) none
  /-- A statement is parked under the key. -/
  | found {key : CacheKey} {binding : Binding} {tracked : Tracked}
      (hkey : (w.cache k).policy.keyFor call = some key)
      (hb : (w.cache k).binding = some binding)
      (hget : (w.store binding.connection).entries.get? key = some tracked) :
      Looks w k call (w.found binding key) (some tracked)

/-- **A look-up never fails.** -/
theorem looks_fetch (w : World) (k : CacheId) (call : Call) :
    ∃ looked, w.fetch k call = (looked, .ok (w.finds? k call))
      ∧ w.Looks k call looked (w.finds? k call) := by
  have hof : ∀ {looked found}, w.fetch k call = (looked, .ok found) →
      w.Looks k call looked found →
      ∃ looked, w.fetch k call = (looked, .ok (w.finds? k call))
        ∧ w.Looks k call looked (w.finds? k call) := by
    intro looked found hfetch hlooks
    have hfinds : w.finds? k call = found := by rw [finds?, hfetch]
    rw [hfinds]
    exact ⟨looked, hfetch, hlooks⟩
  cases hkey : (w.cache k).policy.keyFor call with
  | none =>
      have hskip : (!(w.cache k).policy.keeps call.method || call.sql?.isNone) = true := by
        by_contra hkept
        simp only [Bool.not_eq_true, Bool.or_eq_false_iff, Bool.not_eq_false'] at hkept
        obtain ⟨key, hsome⟩ :=
          CachePolicy.exists_keyFor hkept.1 (Option.isNone_eq_false_iff.mp hkept.2)
        rw [hkey] at hsome
        cases hsome
      exact hof (by simp only [fetch]; rw [if_pos hskip]) (.unasked (Or.inl hkey))
  | some key =>
      obtain ⟨hkeeps, hsql⟩ := CachePolicy.kept_of_keyFor hkey
      have hskip : (!(w.cache k).policy.keeps call.method || call.sql?.isNone) = false := by
        rw [hkeeps, Option.isNone_eq_false_iff.mpr hsql]
        rfl
      cases hb : (w.cache k).binding with
      | none =>
          refine hof ?_ (.unasked (Or.inr hb))
          simp only [fetch, hskip, hkey, hb, Bool.false_eq_true, if_false]
      | some binding =>
          cases hget : (w.store binding.connection).entries.get? key with
          | none =>
              refine hof ?_ (.missed hkey hb hget)
              simp only [fetch, hskip, hkey, hb, hget, Bool.false_eq_true, if_false]
          | some tracked =>
              refine hof ?_ (.found hkey hb hget)
              simp only [fetch, hskip, hkey, hb, hget, Bool.false_eq_true, if_false, found,
                setStore_releaseSlot]

/-- What is found was parked under the key of the call, where the cache is attached. -/
theorem parked_of_finds? {tracked : Tracked} (h : w.finds? k call = some tracked) :
    ∃ key binding, (w.cache k).policy.keyFor call = some key
      ∧ (w.cache k).binding = some binding
      ∧ (w.store binding.connection).entries.get? key = some tracked := by
  obtain ⟨looked, -, hlooks⟩ := w.looks_fetch k call
  rw [h] at hlooks
  cases hlooks with
  | found hkey hb hget => exact ⟨_, _, hkey, hb, hget⟩

/-! ## What a look-up leaves as it was -/

theorem connection_found (w : World) (binding : Binding) (key : CacheKey) (c : ConnectionId) :
    (w.found binding key).connection c
      = (w.setStore binding.connection
          ((w.store binding.connection).remove key).recordHit).connection c := by
  rcases binding with ⟨d, _ | n⟩ <;> rfl

/-- Nothing is written to but stores and counters. -/
theorem Looks.rest (h : w.Looks k call looked found) :
    looked = { w with connections := looked.connections, counters := looked.counters } := by
  cases h with
  | unasked _ => rfl
  | missed _ _ _ => rfl
  | @found key binding _ _ _ _ => rcases binding with ⟨d, _ | n⟩ <;> rfl

/-- A connection stays as it is apart from its store. -/
theorem Looks.connection {β : Type} (h : w.Looks k call looked found) (c : ConnectionId)
    {read : Connection → β}
    (hread : ∀ connection attributes, read { connection with attributes } = read connection) :
    read (looked.connection c) = read (w.connection c) := by
  have hset : ∀ d store, read ((w.setStore d store).connection c) = read (w.connection c) :=
    fun d store => w.connection_updateConnection_congr d _ read (fun x => hread x _) c
  cases h with
  | unasked _ => rfl
  | missed _ _ _ => exact hset _ _
  | found _ _ _ =>
      rw [connection_found]
      exact hset _ _

/-- What is parked after a look-up was parked before, and is not what was found. -/
theorem Looks.entry (h : w.Looks k call looked found) {c : ConnectionId} {key : CacheKey}
    {tracked : Tracked} (hget : (looked.store c).entries.get? key = some tracked) :
    (w.store c).entries.get? key = some tracked := by
  have hset : ∀ d store,
      (∀ key tracked, store.entries.get? key = some tracked →
        (w.store d).entries.get? key = some tracked) →
      ((w.setStore d store).store c).entries.get? key = some tracked →
      (w.store c).entries.get? key = some tracked := by
    intro d store hstore hget
    rw [store_setStore] at hget
    split at hget
    · next hd =>
        rw [← hd.1]
        exact hstore key tracked hget
    · exact hget
  cases h with
  | unasked _ => exact hget
  | missed _ _ _ => exact hset _ (w.store _).recordMiss (fun _ _ h => h) hget
  | @found key' binding _ _ _ _ =>
      have hget' : ((w.setStore binding.connection
          ((w.store binding.connection).remove key').recordHit).store c).entries.get? key
            = some tracked := by
        rw [World.store, ← connection_found]
        exact hget
      exact hset _ _ (fun _ _ h => Table.get?_of_erase _ h) hget'

end World

end ConnectionPool
