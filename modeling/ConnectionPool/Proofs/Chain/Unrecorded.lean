import ConnectionPool.Proofs.Calls.Preparing

/-!
# What is done without a record

The journal holds what interceptors are told and asked. Nothing that is done with stores and
statements, and nothing that the driver is asked for, adds to it.
-/

set_option autoImplicit false

namespace ConnectionPool

namespace World

theorem journal_reset (w : World) (handle : Statement) :
    (w.reset handle).1.journal = w.journal := by
  cases ht : handle.target? with
  | none => rw [w.reset_of_spent ht]
  | some id =>
      obtain ⟨hw | hw | hw, -⟩ := w.reset_cases ht
      · rw [hw]
      · rw [hw]
      · rw [hw]

theorem journal_takeBack (w : World) (tracked : Tracked) :
    (w.takeBack tracked).1.journal = w.journal := by
  obtain ⟨key, k, inner⟩ := tracked
  have hreset := w.journal_reset inner
  obtain ⟨key', id, c, n, w', -, -, -, hr, -, -, -, h⟩ | h | h := w.takeBack_cases key k inner
  · rw [hr] at hreset
    rw [h]
    exact hreset
  · rw [h]
    exact hreset
  · rw [h]

theorem journal_close (handle : Statement) :
    ∀ w : World, (close handle w).1.journal = w.journal := by
  induction handle with
  | physical id => exact fun w => rfl
  | spent => exact fun w => rfl
  | facade key k inner ih =>
      intro w
      have hback := w.journal_takeBack ⟨key, k, inner⟩
      unfold close
      split
      · next hw =>
          rw [hw] at hback
          exact hback
      · next hw =>
          rw [hw] at hback
          exact (ih _).trans hback

theorem journal_wrap (w : World) (k : CacheId) (tracked : Tracked) :
    (w.wrap k tracked).1.journal = w.journal := by
  rcases w.wrap_cases k tracked with h | ⟨due, h⟩
  · rw [h]
  · rw [h]
    exact journal_close tracked.delegate _

theorem Looks.journal {w looked : World} {k : CacheId} {call : Call} {found : Option Tracked}
    (h : w.Looks k call looked found) : looked.journal = w.journal := by
  rw [h.rest]

theorem journal_ask (w : World) (c : ConnectionId) (call : Call) :
    (w.ask c call).1.journal = w.journal := by
  obtain ⟨h, -⟩ | ⟨made, sql, event, -, -, -, -, h⟩ := w.ask_cases c call
  · rw [h]
  · rw [h]

/-- What the driver is asked for, and answers, does not depend on the journal. -/
theorem ask_journal (w : World) (journal : Journal) (c : ConnectionId) (call : Call) :
    ({ w with journal } : World).ask c call
      = ({ (w.ask c call).1 with journal }, (w.ask c call).2) := by
  have hconnection : ({ w with journal } : World).connection c = w.connection c := rfl
  unfold ask
  rw [hconnection]
  cases (w.connection c).closed with
  | true => rfl
  | false =>
      cases call.method with
      | prepareStatement | prepareCall | createStatement | isValid => rfl

end World

end ConnectionPool
