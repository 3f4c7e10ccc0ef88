import ConnectionPool.Proofs.Closing.Deciding

/-!
# Offering a statement to a cache

A client that tracks a statement can offer it to a cache. `World.grounds` lists the grounds on which
the cache refuses a statement, each read off the state by itself, in the order in which they count,
and `World.refusal` is the reason given for the first one that applies. There is none just if the
statement can be taken (`World.Admissible`), and then it is parked and takes a slot, and nothing
else happens (`World.Admitted`). A refusal changes nothing at all (`Session.offering_exact`).
-/

set_option autoImplicit false

namespace ConnectionPool

namespace World

variable {w : World} {k : CacheId} {tracked : Tracked}

/-- **What a cache is attached to exists**: its connection, and its counter where it has one. -/
def Moored (w : World) (k : CacheId) : Prop :=
  ∀ binding, (w.cache k).binding = some binding →
    w.connections.Known binding.connection ∧ ∀ n, binding.counter = some n → w.counters.Known n

/-- The counter that a cache is attached to. -/
def boundCounter? (w : World) (k : CacheId) : Option Counter :=
  ((w.cache k).binding.bind Binding.counter).map w.counter

/-- **The grounds for refusing a statement**, in the order in which they count: whether each of them
applies, and the reason given for it. -/
def grounds (w : World) (k : CacheId) (tracked : Tracked) : List (Bool × RejectReason) :=
  [((w.cache k).binding.isNone, .unbound),
    (tracked.key.isNone, .noKey),
    (tracked.key.any fun key => (w.boundStore? k).any (·.entries.contains key), .duplicate),
    ((w.boundCounter? k).isNone, .unbound),
    ((w.boundCounter? k).any fun counter => decide ((w.cache k).policy.limit ≤ counter.count),
      .full),
    ((w.boundStore? k).any Store.closed, .unbound)]

/-- The reason for refusing a statement: that of the first ground that applies. -/
def refusal (w : World) (k : CacheId) (tracked : Tracked) : Option RejectReason :=
  ((w.grounds k tracked).find? Prod.fst).map Prod.snd

/-- **A statement can be taken**: the cache is attached to a store and a counter, the statement has
a key under which the store has nothing, fewer slots are taken than the cache allows, and the store
is open. -/
structure Admissible (w : World) (k : CacheId) (tracked : Tracked) (key : CacheKey)
    (c : ConnectionId) (n : CounterId) : Prop where
  bound : (w.cache k).binding = some ⟨c, some n⟩
  keyed : tracked.key = some key
  free : (w.store c).entries.get? key = none
  room : (w.counter n).count < (w.cache k).policy.limit
  unclosed : (w.store c).closed = false

/-- **A statement was taken**: the store has it under its key, beside what it had before, and one
more slot of the counter is taken. Everything else is as it was. -/
structure Admitted (w w' : World) (tracked : Tracked) (key : CacheKey) (c : ConnectionId)
    (n : CounterId) : Prop where
  store : w'.store c = (w.store c).park key tracked
  entry : (w'.store c).entries.get? key = some tracked
  others : ∀ other, other ≠ key →
    (w'.store c).entries.get? other = (w.store c).entries.get? other
  size : (w'.store c).size = (w.store c).size + 1
  count : (w'.counter n).count = (w.counter n).count + 1
  rest : w' = (w.updateCounter n fun _ => ⟨(w.counter n).count + 1⟩).setStore c
    ((w.store c).park key tracked)

/-! ## What an offer comes to -/

/-- A statement that can be taken is parked, with a slot. -/
theorem Admissible.offer {key : CacheKey} {c : ConnectionId} {n : CounterId}
    (h : w.Admissible k tracked key c n) :
    w.offer k tracked = ((w.updateCounter n fun _ => ⟨(w.counter n).count + 1⟩).setStore c
      ((w.store c).park key tracked), none) := by
  have hfree : (w.store c).entries.contains key = false :=
    (Table.contains_eq_false_iff _ _).mpr h.free
  have hacquire : (w.counter n).acquire? (w.cache k).policy.limit
      = some ⟨(w.counter n).count + 1⟩ := if_pos h.room
  simp [World.offer, h.bound, offerTo, h.keyed, hfree, hacquire, h.unclosed]

/-- Where what the cache is attached to exists, the parked statement is there. -/
theorem Admissible.admitted {key : CacheKey} {c : ConnectionId} {n : CounterId}
    (h : w.Admissible k tracked key c n) (hm : w.Moored k) :
    w.Admitted (w.offer k tracked).1 tracked key c n := by
  obtain ⟨hc, hn⟩ := hm _ h.bound
  have hfree : (w.store c).entries.contains key = false :=
    (Table.contains_eq_false_iff _ _).mpr h.free
  have hstore : (w.offer k tracked).1.store c = (w.store c).park key tracked := by
    rw [h.offer]
    exact store_setStore_self _ hc _
  refine ⟨hstore, ?_, fun other hne => ?_, ?_, ?_, by rw [h.offer]⟩
  · rw [hstore]
    exact Table.get?_insert_self _ _ _
  · rw [hstore]
    exact Table.get?_insert_of_ne _ _ hne.symm
  · rw [hstore]
    exact (Table.size_insert _ _ _).trans (if_neg (by simp [hfree]))
  · rw [h.offer]
    exact congrArg Counter.count ((w.counter_updateCounter n _ n).trans (if_pos ⟨rfl, hn n rfl⟩))

/-- **The answer to an offer** is the reason of the first ground that applies. -/
theorem offer_snd (w : World) (k : CacheId) (tracked : Tracked) :
    (w.offer k tracked).2 = w.refusal k tracked := by
  cases hb : (w.cache k).binding with
  | none => simp [World.offer, refusal, grounds, hb]
  | some binding =>
      obtain ⟨c, counter⟩ := binding
      cases hkey : tracked.key with
      | none => simp [World.offer, offerTo, refusal, grounds, hb, hkey]
      | some key =>
          cases hfree : (w.store c).entries.contains key with
          | true =>
              simp [World.offer, offerTo, refusal, grounds, boundStore?, hb, hkey, hfree]
          | false =>
              cases counter with
              | none =>
                  simp [World.offer, offerTo, refusal, grounds, boundStore?, boundCounter?, hb,
                    hkey, hfree]
              | some n =>
                  by_cases hroom : (w.counter n).count < (w.cache k).policy.limit <;>
                    cases hclosed : (w.store c).closed <;>
                    simp [World.offer, offerTo, refusal, grounds, boundStore?, boundCounter?, hb,
                      hkey, hfree, Counter.acquire?, hroom, hclosed, Nat.not_lt.mp]

/-- Either a statement can be taken, or the cache refuses it and nothing changes. -/
theorem offer_cases (w : World) (k : CacheId) (tracked : Tracked) :
    (∃ key c n, w.Admissible k tracked key c n)
      ∨ ∃ reason, w.offer k tracked = (w, some reason) := by
  cases hb : (w.cache k).binding with
  | none => exact Or.inr ⟨.unbound, by simp [World.offer, hb]⟩
  | some binding =>
      have hoffer : w.offer k tracked = w.offerTo (w.cache k).policy binding tracked := by
        simp [World.offer, hb]
      obtain ⟨c, counter⟩ := binding
      rw [hoffer]
      refine (w.offerTo_cases (w.cache k).policy ⟨c, counter⟩ tracked).imp_left ?_
      rintro ⟨key, n, hkey, rfl, hroom, hclosed, hfree, -⟩
      exact ⟨key, c, n, hb, hkey, hfree, hroom, hclosed⟩

/-- There is no ground for refusing a statement just if it can be taken. -/
theorem refusal_eq_none_iff :
    w.refusal k tracked = none ↔ ∃ key c n, w.Admissible k tracked key c n := by
  rw [← offer_snd]
  constructor
  · intro h
    refine (w.offer_cases k tracked).resolve_right ?_
    rintro ⟨reason, hreason⟩
    rw [hreason] at h
    cases h
  · rintro ⟨key, c, n, h⟩
    rw [h.offer]

/-- **A refused offer changes nothing.** -/
theorem offer_of_refusal {reason : RejectReason} (h : w.refusal k tracked = some reason) :
    w.offer k tracked = (w, some reason) := by
  rw [← offer_snd] at h
  obtain ⟨key, c, n, ha⟩ | ⟨given, hgiven⟩ := w.offer_cases k tracked
  · rw [ha.offer] at h
    cases h
  · rw [hgiven] at h ⊢
    rw [show given = reason from Option.some.inj h]

end World

namespace Session

/-- In every session that a client comes to, what a cache is attached to exists. -/
theorem moored_runAll (commands : List Command) (k : CacheId) :
    (empty.runAll commands).world.Moored k := by
  intro binding hb
  have hallowed := (Region.everything_embraces commands).closed.bound k binding trivial hb
  exact ⟨hallowed.known, fun n hn => (hallowed.counter n hn).2⟩

variable {s : Session} {cache name : Name} {k : CacheId} {tracked : Tracked}

/-- What a client gets for an offer. -/
theorem run_offer (hcache : s.caches.get? cache = some k)
    (hname : s.tracked.get? name = some tracked) :
    s.run (.cache (.offer cache name true)) = match s.world.offer k tracked with
      | (w, none) => ((s.inWorld w).takeTracked name, .admitted)
      | (w, some reason) => (s.inWorld w, .rejected reason) := by
  simp only [run, runCache, withCache, withTracked, hcache, hname]
  rcases s.world.offer k tracked with ⟨w, _ | reason⟩ <;> rfl

/-- **Offering a statement is exact and atomic.** Take a session in any state, with a cache and a
statement that the client tracks. The offer succeeds if and only if the statement can be taken; then
its store has one more entry and its counter one more slot taken, the client tracks the statement no
longer, and nothing else changes. Otherwise the answer is the reason of the first ground that
applies, and the session is what it was: the client tracks the same statement under the same key,
and neither the store nor the counter nor the statement of the driver has changed. There is no other
outcome. -/
theorem offering_exact (hcache : s.caches.get? cache = some k)
    (hname : s.tracked.get? name = some tracked) (hmoored : s.world.Moored k) :
    (∀ key c n, s.world.Admissible k tracked key c n →
        ∃ w, s.run (.cache (.offer cache name true))
            = ((s.inWorld w).takeTracked name, .admitted)
          ∧ s.world.Admitted w tracked key c n)
    ∧ (∀ reason, s.world.refusal k tracked = some reason →
        s.run (.cache (.offer cache name true)) = (s, .rejected reason))
    ∧ ((s.run (.cache (.offer cache name true))).2 = .admitted
        ↔ ∃ key c n, s.world.Admissible k tracked key c n)
    ∧ ∀ reason, (s.run (.cache (.offer cache name true))).2 = .rejected reason
        ↔ s.world.refusal k tracked = some reason := by
  have hadmitted : ∀ key c n, s.world.Admissible k tracked key c n →
      s.run (.cache (.offer cache name true))
        = ((s.inWorld (s.world.offer k tracked).1).takeTracked name, .admitted) := by
    intro key c n h
    rw [run_offer hcache hname, h.offer]
  have hrejected : ∀ reason, s.world.refusal k tracked = some reason →
      s.run (.cache (.offer cache name true)) = (s, .rejected reason) := by
    intro reason h
    rw [run_offer hcache hname, World.offer_of_refusal h]
    rfl
  refine ⟨fun key c n h => ⟨_, hadmitted key c n h, h.admitted hmoored⟩, hrejected,
    ⟨fun h => ?_, fun ⟨key, c, n, h⟩ => ?_⟩, fun reason => ⟨fun h => ?_, fun h => ?_⟩⟩
  · rw [← World.refusal_eq_none_iff]
    cases hr : s.world.refusal k tracked with
    | none => rfl
    | some reason => simp [hrejected reason hr] at h
  · rw [hadmitted key c n h]
  · cases hr : s.world.refusal k tracked with
    | none =>
        obtain ⟨key, c, n, ha⟩ := World.refusal_eq_none_iff.mp hr
        simp [hadmitted key c n ha] at h
    | some given =>
        rw [hrejected given hr] at h
        rw [show given = reason from Reply.rejected.inj h]
  · rw [hrejected reason h]

/-- Two statements are tracked by a cache of the client's that allows one. -/
def vying : List Command :=
  [.cache (.create "own" { limit := some 1 } false),
    .pool (.start "p" { interceptors := [{ name := "cache", role := .cache false }] }),
    .pool (.checkOut "p" "g"), .cache (.attach "p" "own" (.guard "g")),
    .cache (.track "own" ⟨"prepareStatement", [.text "SELECT 1"]⟩ (.fresh "SELECT 1") "t"),
    .cache (.track "own" ⟨"prepareStatement", [.text "SELECT 2"]⟩ (.fresh "SELECT 2") "u")]

/-- The first of them is taken, and then there is no room for the second. -/
theorem offering_exact_vying :
    (∃ w, (empty.runAll vying).run (.cache (.offer "own" "t" true))
        = (((empty.runAll vying).inWorld w).takeTracked "t", .admitted)
      ∧ (empty.runAll vying).world.Admitted w
        ⟨some ⟨.prepared, selection.args⟩, 1, .physical 1⟩ ⟨.prepared, selection.args⟩ 1 1)
    ∧ (empty.runAll (vying ++ [.cache (.offer "own" "t" true)])).run
        (.cache (.offer "own" "u" true))
      = (empty.runAll (vying ++ [.cache (.offer "own" "t" true)]), .rejected .full) := by
  obtain ⟨htaken, -⟩ := @offering_exact (empty.runAll vying) "own" "t" 1
    ⟨some ⟨.prepared, selection.args⟩, 1, .physical 1⟩ (by rfl) (by rfl) (moored_runAll vying 1)
  obtain ⟨-, hrefused, -⟩ := @offering_exact
    (empty.runAll (vying ++ [.cache (.offer "own" "t" true)])) "own" "u" 1
    ⟨some ⟨.prepared, [.text "SELECT 2"]⟩, 1, .physical 2⟩ (by rfl) (by rfl) (moored_runAll _ 1)
  exact ⟨htaken _ 1 1 ⟨by rfl, rfl, by rfl, by decide, by rfl⟩, hrefused .full (by rfl)⟩

end Session

end ConnectionPool
