import ConnectionPool.Proofs.Scene.Stock

/-!
# What calls come to on their way to the driver

A link that does not answer a call hands it on, perhaps with one more argument; a cache hands it
on as it is. What comes out at the end of a chain, if no cache answers, is what the driver's
connection is asked (`arrives?`).

All caches of a chain park in one store, each under the calls as they come to it. Where no link
between two caches changes a call, all of them see the same one (`Connection.Even`), and whatever
leaves a link as the answer to a call that prepares was prepared by the driver for what arrives
behind it, no matter which cache parked it and which one found it (`Scene.Faithful`).
-/

set_option autoImplicit false

namespace ConnectionPool

namespace Interceptor

/-- What a link hands on of a call that it does not answer. -/
def forwards? (interceptor : Interceptor) (call : Call) : Option Call :=
  match interceptor.cache? with
  | some _ => some call
  | none => interceptor.handsOn? call

theorem forwards?_of_cache {interceptor : Interceptor} {k : CacheId}
    (h : interceptor.cache? = some k) (call : Call) : interceptor.forwards? call = some call := by
  rw [forwards?, h]

theorem forwards?_of_handsOn? {interceptor : Interceptor} {call call' : Call}
    (h : interceptor.handsOn? call = some call') : interceptor.forwards? call = some call' := by
  cases hk : interceptor.cache? with
  | some k => exact nomatch (handsOn?_of_cache hk call).symm.trans h
  | none =>
      rw [forwards?, hk]
      exact h

end Interceptor

/-- **What arrives behind some links** of a call that none of them answers. -/
def arrives? : List Interceptor → Call → Option Call
  | [], call => some call
  | interceptor :: rest, call => (interceptor.forwards? call).bind (arrives? rest)

section Arrives

variable {chain : List Interceptor} {position : Nat} {call call' : Call}
  {interceptor : Interceptor}

theorem arrives?_drop (hl : chain[position]? = some interceptor)
    (h : interceptor.forwards? call = some call') :
    arrives? (chain.drop position) call = arrives? (chain.drop (position + 1)) call' := by
  obtain ⟨hlt, hget⟩ := List.getElem?_eq_some_iff.mp hl
  rw [List.drop_eq_getElem_cons hlt, hget, arrives?, h]
  rfl

/-- Links that hand a call on as it is make no difference to what arrives. -/
theorem arrives?_drop_add (n : Nat)
    (h : ∀ q interceptor, position ≤ q → q < position + n → chain[q]? = some interceptor →
      interceptor.forwards? call = some call) :
    arrives? (chain.drop position) call = arrives? (chain.drop (position + n)) call := by
  induction n with
  | zero => rfl
  | succ n ih =>
      rw [ih fun q other hle hlt => h q other hle (by omega)]
      cases hl : chain[position + n]? with
      | some other =>
          exact arrives?_drop hl (h _ other (by omega) (by omega) hl)
      | none =>
          -- behind the end of the chain there is nothing to hand the call on
          have hend := List.getElem?_eq_none_iff.mp hl
          rw [List.drop_eq_nil_of_le hend, List.drop_eq_nil_of_le (by omega)]

end Arrives

/-- **A connection is even** for an operation: no link of its chain answers the calls with
statements of its own, and no link between two caches changes them or keeps them back. -/
structure Connection.Even (connection : Connection) (method : Method) : Prop where
  unsupplied : ∀ interceptor ∈ connection.chain, ¬ interceptor.Supplies method
  between : ∀ {i q j k k' interceptor}, connection.cacheAt? i = some k →
    connection.cacheAt? j = some k' → i < q → q < j → connection.chain[q]? = some interceptor →
    ∀ call, call.method = method → interceptor.forwards? call = some call

namespace Connection.Even

variable {connection : Connection} {method : Method}

theorem congr {connection' : Connection} (h : connection.Even method)
    (hc : connection'.chain = connection.chain) : connection'.Even method where
  unsupplied := by
    rw [hc]
    exact h.unsupplied
  between := by
    unfold cacheAt?
    rw [hc]
    exact h.between

theorem arrives?_of_le (h : connection.Even method) {i j : Nat} {k k' : CacheId}
    (hi : connection.cacheAt? i = some k) (hj : connection.cacheAt? j = some k') (hle : i ≤ j)
    {call : Call} (hm : call.method = method) :
    arrives? (connection.chain.drop (i + 1)) call
      = arrives? (connection.chain.drop (j + 1)) call := by
  obtain ⟨n, rfl⟩ := Nat.exists_eq_add_of_le hle
  rw [Nat.add_right_comm]
  refine arrives?_drop_add n fun q interceptor hq hlt hl => ?_
  rcases Nat.lt_or_ge q (i + n) with hlt' | hge
  · exact h.between hi hj (by omega) hlt' hl call hm
  · obtain rfl : q = i + n := by omega
    rw [cacheAt?, hl] at hj
    exact Interceptor.forwards?_of_cache hj call

/-- **Behind all caches the same arrives** of a call that comes to them. -/
theorem arrives?_eq (h : connection.Even method) {i j : Nat} {k k' : CacheId}
    (hi : connection.cacheAt? i = some k) (hj : connection.cacheAt? j = some k') {call : Call}
    (hm : call.method = method) :
    arrives? (connection.chain.drop (i + 1)) call
      = arrives? (connection.chain.drop (j + 1)) call := by
  rcases Nat.le_total i j with hle | hle
  · exact h.arrives?_of_le hi hj hle hm
  · exact (h.arrives?_of_le hj hi hle hm).symm

end Connection.Even

namespace World

variable {w w' : World} {c : ConnectionId} {position : Nat} {call : Call} {handle : Statement}

/-- **A handle was prepared for a call** that came to a link: the driver made the statement behind
it for what arrives at the end of the chain. -/
def PreparedFor (w : World) (c : ConnectionId) (position : Nat) (call : Call)
    (handle : Statement) : Prop :=
  ∃ id made, handle.target? = some id
    ∧ arrives? ((w.connection c).chain.drop position) call = some made
    ∧ (w.driver.statement id).origin = some ((w.connection c).physical, made)

theorem PreparedFor.later (h : w.PreparedFor c position call handle) (hl : w.Later w')
    (hc : w.connections.Known c)
    (hk : ∀ id, handle.target? = some id → w.driver.statements.Known id) :
    w'.PreparedFor c position call handle := by
  obtain ⟨id, made, hid, harrives, horigin⟩ := h
  have hframe := (hl.connections c hc).2
  refine ⟨id, made, hid, ?_, ?_⟩
  · rw [Connection.chain_of_frame hframe]
    exact harrives
  · rw [Connection.physical_of_frame hframe, (hl.statements id (hk id hid)).2.1]
    exact horigin

/-- A link that handed a call on, and what came from behind it. -/
theorem PreparedFor.forwarded {interceptor : Interceptor} {call' : Call}
    (hl : (w.connection c).chain[position]? = some interceptor)
    (hf : interceptor.forwards? call = some call')
    (h : w.PreparedFor c (position + 1) call' handle) : w.PreparedFor c position call handle := by
  obtain ⟨id, made, hid, harrives, horigin⟩ := h
  exact ⟨id, made, hid, (arrives?_drop hl hf).trans harrives, horigin⟩

end World

namespace Scene

variable {S S' : Scene} {method : Method}

/-- **Even connections are faithful**: what left a link as the answer to a call of an operation
was prepared for the call. -/
structure Faithful (method : Method) (S : Scene) : Prop where
  left : ∀ {c position call handle}, (S.world.connection c).Even method → call.method = method →
    S.world.Left c position call handle → S.world.PreparedFor c position call handle

/-- What answers a call was prepared for the call, also where the chain ends. -/
theorem Faithful.answered (h : S.Faithful method) {c : ConnectionId} {position : Nat} {call : Call}
    {handle : Statement} (he : (S.world.connection c).Even method) (hm : call.method = method)
    (ha : S.world.Answered c position call handle) :
    S.world.PreparedFor c position call handle := by
  rcases ha with hl | ⟨rfl, id, rfl, horigin⟩
  · exact h.left he hm hl
  · refine ⟨id, call, rfl, ?_, horigin⟩
    rw [List.drop_length]
    rfl

/-- **What a cache finds under the key of a call was prepared for the call**, whichever cache of
the chain has parked it. -/
theorem Faithful.found (h : S.Faithful method) (hS : S.Wired) (hs : S.Sourced) {c : ConnectionId}
    {position : Nat} {k : CacheId} (he : (S.world.connection c).Even method)
    (hk : (S.world.connection c).cacheAt? position = some k) {binding : Binding}
    (hb : (S.world.cache k).binding = some binding) {call : Call} (hm : call.method = method)
    {key : CacheKey} (hkey : (S.world.cache k).policy.keyFor call = some key) {tracked : Tracked}
    (hf : (S.world.store binding.connection).entries.get? key = some tracked) :
    S.world.PreparedFor c (position + 1) call tracked.facade := by
  have hmem := (Connection.mem_caches _ k).mpr ⟨position, hk⟩
  obtain rfl := hS.binding_connection hmem hb
  have hshelved := hs.entries hf
  obtain ⟨⟨d, position', call', hsource⟩, -⟩ := hshelved.rooted
  -- the cache that parked it is one of the same chain, and saw the same call
  obtain rfl := hS.apart ((Connection.mem_caches _ _).mpr ⟨position', hsource.link⟩) hshelved.cache
  have hsourcekey := hsource.key
  rw [hshelved.key] at hsourcekey
  obtain rfl : call' = call :=
    (CachePolicy.call_of_keyFor hsourcekey.symm).trans (CachePolicy.call_of_keyFor hkey).symm
  obtain ⟨id, made, hid, harrives, horigin⟩ := h.answered he hm hsource.answered
  exact ⟨id, made, hid, (he.arrives?_eq hk hsource.link hm).trans harrives, horigin⟩

/-- **Every step keeps even connections faithful.** -/
theorem Step.faithful (h : Step S S') (hS : S.Wired) (ht : S.Traced) (hs : S.Sourced)
    (hp : method.prepares = true) (hf : S.Faithful method) : S'.Faithful method := by
  refine ⟨fun {c position call handle} he hm hl => ?_⟩
  have hlater := (h.later_and_wired hS).1
  -- what was prepared for the call before the step still is after it
  have hkept : S.world.connections.Known c →
      (∀ id, handle.target? = some id → S.world.driver.statements.Known id) →
      ((S.world.connection c).Even method → S.world.PreparedFor c position call handle) →
      S'.world.PreparedFor c position call handle := by
    intro hc hk hprepared
    have hframe := (hlater.connections c hc).2
    exact (hprepared (he.congr (Connection.chain_of_frame hframe).symm)).later hlater hc hk
  have hchain : ∀ {interceptor}, (S.world.connection c).chain[position]? = some interceptor →
      S.world.connections.Known c := by
    intro interceptor hl
    apply S.world.known_of_chain_ne_nil
    intro hnil
    rw [hnil] at hl
    exact nomatch hl
  cases h.departs hl with
  | kept hl =>
      obtain ⟨hc, -, hk⟩ := ht.left hl
      exact hkept hc hk fun he => hf.left he hm hl
  | supplied hlink hsupplies _ _ _ _ =>
      have hframe := (hlater.connections c (hchain hlink)).2
      rw [← Connection.chain_of_frame hframe] at hlink
      rw [hm] at hsupplies
      exact absurd hsupplies (he.unsupplied _ (List.mem_of_getElem? hlink))
  | passed hlink _ hcall ho ha =>
      refine hkept (hchain hlink) (fun id => ht.known_of_answered ha) fun he => ?_
      have hforwards := Interceptor.forwards?_of_handsOn? (ho (by rw [hm]; exact hp))
      exact (hf.answered he (hcall.trans hm) ha).forwarded hlink hforwards
  | covered hlink hk _ _ hh ha =>
      rw [hh] at hkept ⊢
      refine hkept (hchain hlink) (fun id => ht.known_of_answered ha) fun he => ?_
      have hprepared := hf.answered he hm ha
      exact World.PreparedFor.forwarded hlink (Interceptor.forwards?_of_cache hk call) hprepared
  | found hlink hk hb hkey hget _ hh =>
      rw [hh] at hkept ⊢
      refine hkept (hchain hlink) (fun id hid => ?_) fun he => ?_
      · exact ht.targets id (mem_targets.mpr (Or.inr ⟨_, World.mem_parkedHandles hget, hid⟩))
      · have hat := World.cacheAt?_of_link hlink hk
        exact (hf.found hS hs he hat hb hm hkey hget).forwarded hlink
          (Interceptor.forwards?_of_cache hk call)

end Scene

end ConnectionPool
