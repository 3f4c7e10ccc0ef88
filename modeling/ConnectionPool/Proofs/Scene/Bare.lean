import ConnectionPool.Proofs.Scene.Calling
import ConnectionPool.Proofs.Scene.Ownership

/-!
# Bare answers

A call may be answered with a statement of the driver that has no facade. Then the statement
is new, and it passed no cache on its way: it came to the caller only through links that are
no caches, or in answer to a call that caches pass on (`not_wrapped_of_perform`). So a
statement that a client holds bare is none that a cache knows of.
-/

set_option autoImplicit false

namespace ConnectionPool

namespace World

theorem fill_ne_physical (k : CacheId) (next : Call → World → World × Answer) (call : Call)
    (w : World) (id : StatementId) :
    (fill k next call w).2 ≠ .ok (.statement (.physical id)) := by
  unfold fill
  split
  · next v statement _ =>
      rcases v.wrap_cases k (track k ((v.cache k).policy.keyFor call) statement) with h | ⟨_, h⟩ <;>
        rw [wrapPrepared, h] <;> rintro ⟨⟩
  · next hother => exact fun h => hother (next call w).1 _ (Prod.ext rfl h)

/-- A bare answer of a link is a new statement, or the answer of the rest of the chain. -/
theorem handle_physical {interceptor : Interceptor} {next : Call → World → World × Answer}
    {call : Call} {w w' : World} {id : StatementId}
    (h : handle interceptor next call w = (w', .ok (.statement (.physical id)))) :
    (interceptor.cache? = none ∧ w' = { w with driver := (w.driver.looseStatement "answered").1 }
      ∧ id = w.driver.statements.next)
    ∨ ∃ passed : Call, passed.method = call.method
      ∧ (call.method.prepares = true → interceptor.cache? = none)
      ∧ next passed w = (w', .ok (.statement (.physical id))) := by
  cases interceptor.conduct call with
  | serves k hk hserve =>
      have hfill : ∀ v, fill k next call v ≠ (w', .ok (.statement (.physical id))) :=
        fun v hv => fill_ne_physical k next call v id (congrArg Prod.snd hv)
      rw [hserve] at h
      unfold serve at h
      split at h
      · split at h
        · cases h
        · exact absurd h (hfill _)
        · next v tracked _ =>
            rcases v.wrap_cases k tracked with hwrap | ⟨due, hwrap⟩ <;> rw [hwrap] at h
            · cases h
            · exact absurd h (hfill _)
      · next hp => exact Or.inr ⟨call, rfl, fun h => absurd h hp, h⟩
  | handsOn passed hk hon hm hhands =>
      rw [hhands] at h
      exact Or.inr ⟨passed, hm, fun _ => hk, h⟩
  | supplies hk hon hs hsupplies =>
      rw [hsupplies] at h
      cases h
      exact Or.inl ⟨hk, rfl, rfl⟩
  | answers answer hk hon hne hanswers =>
      rw [hanswers] at h
      exact absurd (congrArg Prod.snd h) (hne _)

end World

namespace Scene

variable {S : Scene}

/-- A statement was answered only on one connection, from a position on, to calls of one
method, and behind no cache if the method prepares. -/
def Trail (w : World) (c : ConnectionId) (chain : List Interceptor) (position : Nat)
    (method : Method) (id : StatementId) : Prop :=
  ∀ c' p call handle, w.Answered c' p call handle → handle.target? = some id →
    c' = c ∧ call.method = method ∧ position ≤ p
      ∧ (method.prepares = true → ∀ q, position ≤ q → q < p →
        (chain[q]?).bind Interceptor.cache? = none)

/-- Bare answers of what a chain does from a position on leave a trail. -/
def Trails (c : ConnectionId) (chain : List Interceptor) (position : Nat)
    (next : Call → World → World × Answer) : Prop :=
  ∀ (S : Scene) (call : Call), S.Wired → Traced S → S.world.connections.Known c →
    (S.world.connection c).chain = chain → ∀ id,
    (next call S.world).2 = .ok (.statement (.physical id)) →
    Trail (next call S.world).1 c chain position call.method id

variable {c : ConnectionId} {chain : List Interceptor} {position : Nat}

/-- A statement that is not known yet is the answer to nothing. -/
theorem Traced.not_answered (hS : Traced S) {id : StatementId}
    (hid : ¬ S.world.driver.statements.Known id) {c : ConnectionId} {position : Nat} {call : Call}
    {handle : Statement} (hl : S.world.Left c position call handle) :
    handle.target? ≠ some id :=
  fun h => hid ((hS.left hl).2.2 id h)

theorem trails_ask : Trails c chain chain.length fun call w => w.ask c call := by
  intro S call hS ht hc hchain id hid
  beta_reduce at hid ⊢
  obtain ⟨-, hne⟩ | ⟨made, sql, event, hm, -, -, -, ha⟩ := S.world.ask_cases c call
  · exact absurd hid (hne _)
  · rw [ha] at hid ⊢
    cases hid
    rintro c' p call' handle hans hh
    rcases hans with hl | ⟨hp, id, rfl, ho⟩
    · exact absurd hh (ht.not_answered S.world.driver.statements.not_known_next hl)
    · cases hh
      change ((S.world.driver.issue _ _).1.statement _).origin = some (_, call') at ho
      rw [Driver.statement_issue, if_pos rfl] at ho
      change some ((S.world.connection c).physical, made)
        = some ((S.world.connection c').physical, call') at ho
      obtain ⟨hphys, rfl⟩ := Prod.mk.inj (Option.some.inj ho)
      have hcc : c' = c := by
        by_cases hc' : S.world.connections.Known c'
        · exact hS.physical_inj hc' hc hphys.symm
        · have hline := hS.physical_known c hc
          rw [hphys, World.connection, Registry.get_of_not_known hc'] at hline
          exact absurd rfl hline.1
      subst hcc
      change p = (S.world.connection c').chain.length at hp
      rw [hchain] at hp
      exact ⟨rfl, hm, hp.ge, fun _ q hq hlt => absurd hlt (by omega)⟩

theorem trails_link {interceptor : Interceptor} {rest : List Interceptor}
    (hnext : Trails c chain (position + 1) (World.send c rest (position + 1)))
    (hl : chain[position]? = some interceptor) :
    Trails c chain position (World.send c (interceptor :: rest) position) := by
  intro S call hS ht hc hchain id hid
  obtain ⟨w₁, hw₁⟩ : ∃ w₁, w₁ = S.world.note (.link c position) interceptor
      (.enter call rest.length (S.world.connection c).metadata.number) := ⟨_, rfl⟩
  have henter : Turn S (S.inWorld w₁) := by
    rw [hw₁]
    exact .step (steps_note S _ _ (by rintro _ _ ⟨⟩))
  have hS₁ := (henter.later_and_wired hS).2
  have ht₁ := henter.traced hS ht
  rw [World.send_cons hw₁] at hid ⊢
  obtain ⟨w', hhandle⟩ : ∃ w', World.handle interceptor (World.send c rest (position + 1)) call w₁
      = (w', .ok (.statement (.physical id))) := ⟨_, Prod.ext rfl hid⟩
  rw [hhandle]
  -- what left this link, and what was answered behind it
  suffices hbehind : ∀ c' p call' handle, w'.Answered c' p call' handle →
      handle.target? = some id → c' = c ∧ call'.method = call.method ∧ position + 1 ≤ p
        ∧ (call.method.prepares = true → ∀ q, position ≤ q → q < p →
          (chain[q]?).bind Interceptor.cache? = none) by
    rintro c' p call' handle (hleft | horigin) hh
    · rcases World.left_note_iff.mp hleft with hleft | ⟨hr, hcontent⟩
      · obtain ⟨hcc, hm, hp, hq⟩ := hbehind c' p call' handle (Or.inl hleft) hh
        exact ⟨hcc, hm, by omega, hq⟩
      · cases hr
        cases hcontent
        exact ⟨rfl, rfl, le_refl _, fun _ q hq hlt => absurd hlt (by omega)⟩
    · obtain ⟨hcc, hm, hp, hq⟩ := hbehind c' p call' handle (Or.inr horigin) hh
      exact ⟨hcc, hm, by omega, hq⟩
  intro c' p call' handle hans hh
  rcases World.handle_physical hhandle with ⟨hk, hw', hnew⟩ | ⟨passed, hm, hk, hpassed⟩
  · -- a new statement that was not made on a connection
    subst hnew
    rw [hw'] at hans
    rcases hans with hleft | ⟨-, id, rfl, ho⟩
    · exact absurd hh (ht₁.not_answered (S := S.inWorld w₁)
        w₁.driver.statements.not_known_next hleft)
    · cases hh
      rw [Driver.looseStatement, Driver.statement_issue, if_pos rfl] at ho
      cases ho
  · have hchain₁ : (w₁.connection c).chain = chain := by rw [hw₁]; exact hchain
    have hc₁ : w₁.connections.Known c := by rw [hw₁]; exact hc
    have htrail := hnext (S.inWorld w₁) passed hS₁ ht₁ hc₁ hchain₁ id
      (congrArg Prod.snd hpassed)
    rw [show (World.send c rest (position + 1) passed (S.inWorld w₁).world).1 = w' from
      congrArg Prod.fst hpassed, hm] at htrail
    obtain ⟨hcc, hm', hp, hq⟩ := htrail c' p call' handle hans hh
    refine ⟨hcc, hm', hp, fun hprep q hq₁ hq₂ => ?_⟩
    rcases Nat.eq_or_lt_of_le hq₁ with rfl | hlt
    · rw [hl]
      exact hk hprep
    · exact hq hprep q hlt hq₂

theorem trails_send (rest : List Interceptor) :
    ∀ position, chain.drop position = rest → position ≤ chain.length →
      Trails c chain position (World.send c rest position) := by
  induction rest with
  | nil =>
      intro position hdrop hle
      have hlen : chain.length ≤ position := by simpa using hdrop
      rw [Nat.le_antisymm hle hlen]
      exact trails_ask
  | cons interceptor rest ih =>
      intro position hdrop hle
      obtain ⟨hl, hrest, hlt⟩ := drop_eq_cons hdrop
      exact trails_link (ih (position + 1) hrest hlt) hl

/-- **A bare answer never came to a cache.** -/
theorem not_wrapped_of_perform (hS : S.Wired) (ht : Traced S) (c : ConnectionId) (call : Call)
    {id : StatementId}
    (h : (S.world.perform c call).2 = .ok (.statement (.physical id))) :
    ¬ (S.world.perform c call).1.Wrapped id := by
  rintro ⟨c', position, k, call', handle, hk, hp, ha, hh⟩
  by_cases hc : S.world.connections.Known c
  · obtain ⟨rfl, hm, -, hq⟩ := trails_send _ 0 rfl (Nat.zero_le _) S call hS ht hc rfl id h
      c' (position + 1) call' handle ha hh
    have hf := ((steps_perform hS c' call).1.later_and_wired hS).1.connections c' hc
    have hnone := hq (hm ▸ hp) position (Nat.zero_le _) (Nat.lt_succ_self _)
    have hat : ((S.world.perform c' call).1.connection c').cacheAt? position
        = (S.world.connection c').cacheAt? position :=
      Connection.cacheAt?_of_frame hf.2 position
    rw [hat, Connection.cacheAt?, hnone] at hk
    cases hk
  · rw [S.world.perform_of_not_known hc] at h
    cases h

end Scene

end ConnectionPool
