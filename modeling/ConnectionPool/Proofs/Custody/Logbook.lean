import ConnectionPool.Proofs.Custody.Documented
import ConnectionPool.Proofs.Custody.Orderly

/-!
# The log of a client's driver

Whatever a client does, the driver does one act after the other (`Move.acts`), for a number of
moves is all that a command comes to. So the log of every session is well formed (`log_wellFormed`),
whichever faults are switched on and off, and whichever order the entries of stores come in.
-/

set_option autoImplicit false

namespace ConnectionPool

open Driver (Act Acts)

namespace World

/-- Tearing connections down is done by acts of the driver. -/
theorem lasts_acts : Lasts fun w w' => w.driver.Acts w'.driver where
  trans h h' := Acts.trans h h'
  unseen h := h.acts
  enter _ _ _ := .refl _
  hangUp w c := by
    unfold hangUp
    split
    · exact .refl _
    · exact (Act.closeConnection _).acts

end World

namespace Custody

variable {K K' : Custody} {l : List Signal}

/-- **Every move is done by acts of the driver.** -/
theorem Move.acts (h : Move K l K') : K.world.driver.Acts K'.world.driver := by
  have hopened : K.world.driver.Acts K.world.driver.openConnection.1 := Act.openConnection.acts
  cases h with
  | still h => exact h.acts
  | write | strike | shut | putBack => exact .refl _
  | dismiss => exact (World.unseen_tellListeners _ _ _).acts
  | tearDown finalizing => exact World.lasts_acts.teardown finalizing K.world _
  | enlist => exact hopened
  | misdial => exact hopened.trans (Act.closeConnection K.world.driver.connections.next).acts
  | dial => exact hopened
  | @cut line => exact (Act.closeConnection line).acts
  | @handOut c =>
      have hseen := World.unseen_tellChain
        (K.world.updateMetadata c fun metadata => metadata.checkOut K.world.now) c (.attached c)
      exact hseen.acts
  | @found pool =>
      have hseen := World.unseen_tellListeners
        { K.world with pools := K.world.pools.register pool } K.world.pools.next .poolStarted
      exact hseen.acts

theorem Moves.acts (h : Moves K l K') : K.world.driver.Acts K'.world.driver := by
  induction h with
  | refl => exact .refl _
  | tail _ hm ih => exact ih.trans hm.acts

end Custody

namespace Driver

/-- A driver that has done nothing yet. -/
theorem orderly_empty : Session.empty.world.driver.Orderly where
  lines := Session.documented_empty.faithful
  makings := rfl
  closings id := by
    constructor
    · intro hm
      exact absurd hm List.not_mem_nil
    · rintro ⟨hknown, -⟩
      exact absurd hknown (Registry.not_known_empty id)
  results id hres := by
    rw [statement_of_not_known _ (Registry.not_known_empty id)] at hres
    cases hres
  settled id _ := by
    rw [statement_of_not_known _ (Registry.not_known_empty id)]
    rfl
  allowed before event after heq := by
    cases before <;> cases heq

end Driver

namespace Session

variable {s t : Session}

theorem Proceeds.runAll (h : Proceeds s t) (commands : List Command) :
    Proceeds s (t.runAll commands) := by
  induction commands generalizing t with
  | nil => exact h
  | cons command rest ih => exact ih (h.run command)

/-- **The log is well formed**, in whatever session a client comes to: connections and statements
are numbered in the order in which they come into being; nothing is closed that was not there or
was closed before; a statement is used only between its making and its closing; and a result set is
closed only if there was an execution since the last time. -/
theorem log_wellFormed (h : empty.Proceeds s) : s.world.driver.log.WellFormed := by
  obtain ⟨l, hmoves⟩ := h.moves documented_empty
  exact (hmoves.acts.orderly Driver.orderly_empty).wellFormed

/-- A client that closes a result set, a statement and a connection twice each. The result set fails
to close the first time, and so does the statement, which is closed all the same. -/
def insisting : List Command :=
  [.driver (.openConnection "r"), .driver (.prepareStatement "r" [.text "q"] (some "a")),
    .statement (.execute "a"), .statement (.resultSet "a"), .switch (.resultSetClosing true),
    .statement (.closeResultSet "a"), .switch (.resultSetClosing false),
    .statement (.closeResultSet "a"), .switch (.statementClosing "q"), .statement (.close "a"),
    .statement (.close "a"), .driver (.close "r"), .driver (.close "r")]

/-- Each of them is logged once. -/
theorem log_wellFormed_insisting :
    (empty.runAll insisting).world.driver.log
        = [.connected 1, .prepared 1 "q", .executed 1, .resultSetClosed 1, .statementClosed 1,
          .connectionClosed 1]
      ∧ DriverLog.WellFormed [.connected 1, .prepared 1 "q", .executed 1, .resultSetClosed 1,
          .statementClosed 1, .connectionClosed 1] := by
  have hlog : (empty.runAll insisting).world.driver.log
      = [.connected 1, .prepared 1 "q", .executed 1, .resultSetClosed 1, .statementClosed 1,
        .connectionClosed 1] := by rfl
  have hwell := log_wellFormed (Proceeds.refl.runAll insisting : Proceeds empty _)
  rw [hlog] at hwell
  exact ⟨hlog, hwell⟩

end Session

end ConnectionPool
