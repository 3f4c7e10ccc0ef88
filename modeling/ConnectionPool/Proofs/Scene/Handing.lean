import ConnectionPool.Proofs.Scene.Basic

/-!
# Handing statements back, step by step

Closing a handle, with all it leads to, is a sequence of steps of a scene in which the handle
is out before and gone after (`steps_close`). On the way the statement is made fit to be used
again and parked, or else the facade is taken off and what is underneath is closed.
-/

set_option autoImplicit false

namespace ConnectionPool

/-! ## What a reset leaves -/

namespace Driver

variable (driver : Driver) (id : StatementId)

theorem clearParameters_ok (h : (driver.clearParameters id).2 = .ok ()) :
    ((driver.clearParameters id).1.statement id).closed = false
      ∧ ((driver.clearParameters id).1.statement id).parameters = []
      ∧ ((driver.clearParameters id).1.statement id).resultSet
        = (driver.statement id).resultSet := by
  unfold clearParameters at h ⊢
  split
  · next hc => simp [hc] at h
  · next hc =>
      split
      · next hf => simp [hc, hf] at h
      · have hopen : (driver.statement id).closed = false := by simpa using hc
        show ((driver.updateStatement id fun s => { s with parameters := [] }).statement id).closed
            = false ∧ _ ∧ _
        simp only [record]
        show _ ∧ ((driver.updateStatement id
              fun s => { s with parameters := [] }).statement id).parameters = []
          ∧ ((driver.updateStatement id fun s =>
              { s with parameters := [] }).statement id).resultSet
            = _
        rw [statement_updateStatement, if_pos ⟨rfl, driver.known_of_open hopen⟩]
        exact ⟨hopen, rfl, rfl⟩

theorem closeResultSet_ok (h : (driver.closeResultSet id).2 = .ok ()) :
    ((driver.closeResultSet id).1.statement id).resultSet ≠ some .opened := by
  unfold closeResultSet at h ⊢
  split
  · next hf => simp [hf] at h
  · split
    · show ((driver.updateStatement id
        fun s => { s with resultSet := some .closed }).statement id).resultSet ≠ _
      rw [statement_updateStatement]
      split
      · simp
      · next hk =>
          rw [driver.statement_of_not_known fun hkn => hk ⟨rfl, hkn⟩]
          decide
    · next hr => exact hr

end Driver

namespace World

variable {w : World}

/-- A reset uses the statement once or twice; where it succeeds the statement looks like one
just prepared. -/
theorem reset_cases (w : World) {handle : Statement} {id : StatementId}
    (ht : handle.target? = some id) :
    ((w.reset handle).1 = { w with driver := w.driver.use .clearParameters id }
      ∨ (w.reset handle).1 = { w with driver := w.driver.use .closeResultSet id }
      ∨ (w.reset handle).1 = { w with
          driver := (w.driver.use .closeResultSet id).use .clearParameters id })
    ∧ ((w.reset handle).2 = .ok () → ((w.reset handle).1.driver.statement id).Rested) := by
  have hclear : ∀ v : World, v.clearParameters handle
      = ({ v with driver := (v.driver.clearParameters id).1 }, (v.driver.clearParameters id).2) :=
    fun v => by simp [clearParameters, onTarget, ht, onDriver]
  have hrs : w.resultSet? handle = (w.driver.statement id).resultSet := by
    simp [resultSet?, ht]
  by_cases hr : (w.driver.statement id).resultSet = some .opened
  · have hclose : w.closeResultSet handle = ({ w with driver := (w.driver.closeResultSet id).1 },
        some (w.driver.closeResultSet id).2) := by
      simp [closeResultSet, ht, hrs, hr, onDriver]
    cases hres : (w.driver.closeResultSet id).2 with
    | error error =>
        have he : w.reset handle
            = ({ w with driver := (w.driver.closeResultSet id).1 }, .error error) := by
          simp [reset, hrs, hr, hclose, hres]
        rw [he]
        exact ⟨Or.inr (Or.inl rfl), fun h => nomatch h⟩
    | ok _ =>
        have he : w.reset handle
            = ({ w with driver := (w.driver.closeResultSet id).1 } : World).clearParameters
              handle := by
          simp [reset, hrs, hr, hclose, hres]
        rw [he, hclear]
        refine ⟨Or.inr (Or.inr rfl), fun h => ?_⟩
        obtain ⟨hc, hp, hs⟩ := Driver.clearParameters_ok _ id h
        refine ⟨hc, hp, ?_⟩
        rw [hs]
        exact w.driver.closeResultSet_ok id hres
  · have he : w.reset handle = w.clearParameters handle := by
      unfold reset
      rw [hrs]
      split
      · next h => exact absurd h hr
      · rfl
    rw [he, hclear]
    refine ⟨Or.inl rfl, fun h => ?_⟩
    obtain ⟨hc, hp, hs⟩ := Driver.clearParameters_ok _ id h
    exact ⟨hc, hp, hs ▸ hr⟩

theorem reset_of_spent (w : World) {handle : Statement} (ht : handle.target? = none) :
    w.reset handle = (w, .error Driver.statementClosed) := by
  simp [reset, resultSet?, clearParameters, onTarget, ht]

theorem cache_reset (w : World) {handle : Statement} {w' : World} {result : Except DriverError Unit}
    (h : w.reset handle = (w', result)) (k : CacheId) : w'.cache k = w.cache k := by
  cases ht : handle.target? with
  | none =>
      rw [w.reset_of_spent ht] at h
      cases h
      rfl
  | some id =>
      obtain ⟨hr | hr | hr, -⟩ := w.reset_cases ht <;> rw [h] at hr <;> cases hr <;> rfl

/-- An offer is accepted only where there is a key that is free, a counter below the limit and
an open store, and then it takes one slot and adds one entry. -/
theorem offerTo_cases (w : World) (policy : CachePolicy) (binding : Binding)
    (tracked : Tracked) :
    (∃ key n, tracked.key = some key ∧ binding.counter = some n
      ∧ (w.counter n).count < policy.limit
      ∧ (w.store binding.connection).closed = false
      ∧ (w.store binding.connection).entries.get? key = none
      ∧ w.offerTo policy binding tracked
        = ((w.updateCounter n fun _ => ⟨(w.counter n).count + 1⟩).setStore binding.connection
            ((w.store binding.connection).park key tracked), none))
    ∨ ∃ reason, w.offerTo policy binding tracked = (w, some reason) := by
  unfold offerTo
  cases hkey : tracked.key with
  | none => exact Or.inr ⟨_, rfl⟩
  | some key =>
      simp only
      cases hdup : (w.store binding.connection).entries.contains key with
      | true => exact Or.inr ⟨_, by rw [if_pos rfl]⟩
      | false =>
          rw [if_neg (by decide)]
          cases hn : binding.counter with
          | none => exact Or.inr ⟨_, rfl⟩
          | some n =>
              simp only
              by_cases hlt : (w.counter n).count < policy.limit
              · have hacq : (w.counter n).acquire? policy.limit
                    = some ⟨(w.counter n).count + 1⟩ := by simp [Counter.acquire?, hlt]
                rw [hacq]
                cases hc : (w.store binding.connection).closed with
                | true => exact Or.inr ⟨.unbound, by simp⟩
                | false =>
                    exact Or.inl ⟨key, n, rfl, rfl, hlt, rfl,
                      (Table.contains_eq_false_iff _ _).mp hdup, by simp⟩
              · have hacq : (w.counter n).acquire? policy.limit = none := by
                  simp [Counter.acquire?, hlt]
                rw [hacq]
                exact Or.inr ⟨_, rfl⟩

/-- A statement is taken back only by a cache that is attached where there is a counter, with
a key and after a reset that succeeded; otherwise at most the reset has an effect. -/
theorem takeBack_cases (w : World) (key : Option CacheKey) (k : CacheId) (inner : Statement) :
    (∃ key' id c n w', key = some key' ∧ (w.cache k).binding = some ⟨c, some n⟩
      ∧ inner.target? = some id ∧ w.reset inner = (w', .ok ())
      ∧ (w'.counter n).count < (w.cache k).policy.limit
      ∧ (w'.store c).closed = false ∧ (w'.store c).entries.get? key' = none
      ∧ w.takeBack ⟨key, k, inner⟩
        = ((w'.updateCounter n fun _ => ⟨(w'.counter n).count + 1⟩).setStore c
            ((w'.store c).park key' ⟨some key', k, inner⟩), true))
    ∨ w.takeBack ⟨key, k, inner⟩ = ((w.reset inner).1, false)
    ∨ w.takeBack ⟨key, k, inner⟩ = (w, false) := by
  have hnone : ∀ result : World × Bool, result = (w, false) →
      result = ((w.reset inner).1, false) ∨ result = (w, false) := fun _ h => Or.inr h
  cases key with
  | none => exact Or.inr (hnone _ rfl)
  | some key =>
      cases hb : (w.cache k).binding with
      | none => exact Or.inr (hnone _ (by simp [takeBack, hb]))
      | some binding =>
          cases hroom : w.hasRoom (w.cache k).policy binding with
          | false => exact Or.inr (hnone _ (by simp [takeBack, hb, hroom]))
          | true =>
              obtain ⟨w', result, hr⟩ : ∃ w' result, w.reset inner = (w', result) :=
                ⟨_, _, rfl⟩
              rw [hr]
              cases result with
              | error error => exact Or.inr (Or.inl (by simp [takeBack, hb, hroom, hr]))
              | ok result =>
                  have he : w.takeBack ⟨some key, k, inner⟩
                      = ((w'.offerTo (w.cache k).policy binding ⟨some key, k, inner⟩).1,
                        (w'.offerTo (w.cache k).policy binding ⟨some key, k, inner⟩).2.isNone) := by
                    simp [takeBack, hb, hroom, hr]
                  rw [he]
                  obtain ⟨key', n, hkey, hn, hlt, hc, hf, ho⟩ | ⟨reason, ho⟩ :=
                    w'.offerTo_cases (w.cache k).policy binding ⟨some key, k, inner⟩
                  · obtain ⟨c, counter⟩ := binding
                    cases hkey
                    cases hn
                    rw [ho]
                    cases ht : inner.target? with
                    | none =>
                        rw [reset_of_spent w ht] at hr
                        exact nomatch hr
                    | some id =>
                        exact Or.inl ⟨key, id, c, n, w', rfl, rfl, rfl, rfl, hlt, hc, hf, rfl⟩
                  · rw [ho]
                    exact Or.inr (Or.inl rfl)

end World

namespace Scene

variable {S : Scene}

/-! ## Steps -/

theorem steps_reset {handle : Statement} (h : handle ∈ S.hands) :
    Steps S (S.inWorld (S.world.reset handle).1) := by
  cases ht : handle.target? with
  | none =>
      rw [World.reset_of_spent _ ht]
      exact .refl
  | some id =>
      obtain ⟨hw | hw | hw, -⟩ := S.world.reset_cases ht <;> rw [hw]
      · exact .single (.use .clearParameters (Or.inr ⟨handle, h, ht⟩))
      · exact .single (.use .closeResultSet (Or.inr ⟨handle, h, ht⟩))
      · exact .tail (.single (.use .closeResultSet (Or.inr ⟨handle, h, ht⟩)))
          (.use .clearParameters (Or.inr ⟨handle, h, ht⟩))

theorem steps_takeBack {key : Option CacheKey} {k : CacheId} {inner : Statement}
    {H : Multiset Statement} (h : S.hands = .facade key k inner ::ₘ H) :
    ((S.world.takeBack ⟨key, k, inner⟩).2 = true
      ∧ Steps S { S with world := (S.world.takeBack ⟨key, k, inner⟩).1, hands := H })
    ∨ ((S.world.takeBack ⟨key, k, inner⟩).2 = false
      ∧ Steps S (S.inWorld (S.world.takeBack ⟨key, k, inner⟩).1)) := by
  -- the facade reaches what is reset
  have hreset : Steps S (S.inWorld (S.world.reset (.facade key k inner)).1) :=
    steps_reset (by rw [h]; exact Multiset.mem_cons_self _ _)
  change Steps S (S.inWorld (S.world.reset inner).1) at hreset
  obtain ⟨key, id, c, n, w', rfl, hb, ht, hr, hn, hc, hf, he⟩ | he | he :=
    S.world.takeBack_cases key k inner
  · have hsame : w'.cache k = S.world.cache k := S.world.cache_reset hr k
    have hrest := (S.world.reset_cases ht).2
    rw [hr] at hreset hrest
    rw [he]
    exact Or.inl ⟨rfl, hreset.tail (.park (S := S.inWorld w') h (hsame ▸ hb)
      (hsame ▸ hn) hc hf ht (hrest rfl))⟩
  · rw [he]
    exact Or.inr ⟨rfl, hreset⟩
  · rw [he]
    exact Or.inr ⟨rfl, .refl⟩

/-- **Closing a handle takes it out of the scene.** -/
theorem steps_close (handle : Statement) {S : Scene} {H : Multiset Statement}
    (h : S.hands = handle ::ₘ H) :
    Steps S { S with world := (World.close handle S.world).1, hands := H } := by
  induction handle generalizing S with
  | physical id => exact .single (.dispose h)
  | spent => exact .single (.lapse h)
  | facade key k inner ih =>
      have hback := steps_takeBack h
      unfold World.close
      obtain ⟨w', parked, ht⟩ : ∃ w' parked, S.world.takeBack ⟨key, k, inner⟩ = (w', parked) :=
        ⟨_, _, rfl⟩
      rw [ht] at hback ⊢
      rcases hback with ⟨rfl, hsteps⟩ | ⟨rfl, hsteps⟩
      · exact hsteps
      · have hpeel : Step (S.inWorld w') { S with world := w', hands := inner ::ₘ H } :=
          .peel h
        exact (hsteps.tail hpeel).trans
          (ih (S := { S with world := w', hands := inner ::ₘ H }) rfl)

theorem steps_closeTracked (tracked : Tracked) {H : Multiset Statement}
    (h : S.hands = tracked.facade ::ₘ H) :
    Steps S { S with world := S.world.closeTracked tracked, hands := H } :=
  steps_close tracked.facade h

/-- Letting go of a tracked statement closes what it holds. -/
theorem steps_dropTracked (tracked : Tracked) {H : Multiset Statement}
    (h : S.hands = tracked.facade ::ₘ H) :
    Steps S { S with world := S.world.dropTracked tracked, hands := H } :=
  have hpeel : Step S { S with hands := tracked.delegate ::ₘ H } := .peel h
  (Relation.ReflTransGen.single hpeel).trans
    (steps_close tracked.delegate (S := { S with hands := tracked.delegate ::ₘ H }) rfl)

end Scene

end ConnectionPool
