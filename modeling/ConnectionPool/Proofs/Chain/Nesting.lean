import ConnectionPool.Proofs.Calls.Sole
import ConnectionPool.Proofs.Chain.Passages

/-!
# Calls through a chain are nested

Whatever the links of a chain are, a call goes down the chain and comes back the same way.
`World.Nested` lists what that means: for the links, for the driver's connection, for the journal
and for the answer. Every call is nested (`nested_calls`).
-/

set_option autoImplicit false

namespace ConnectionPool

namespace World

variable {c : ConnectionId} {chain : List Interceptor} {position : Nat} {call : Call} {w : World}
  {passage : Passage}

/-! ## The driver's connection -/

/-- The driver does nothing on the way down, unless a facade fails. -/
theorem Descends.spares (h : Descends c chain position call w passage) :
    (∀ interceptor ∈ chain, interceptor.Sure w) → ∀ {call' : Call} {v : World},
      passage.turn = .inr (call', v) →
        w.Unseen v ∧ v.driver = w.driver ∧ v.wrapFaults = w.wrapFaults
        ∧ ∀ visit ∈ passage.passed, visit.interceptor ∈ chain := by
  induction h with
  | asks position call w =>
      intro _ call' v ht
      cases ht
      exact ⟨.refl w, rfl, rfl, fun visit hv => absurd hv List.not_mem_nil⟩
  | answers h =>
      intro _ call' v ht
      cases ht
  | @passes interceptor rest position call w u passage h hrest ih =>
      intro hsure call' v ht
      obtain ⟨hfirst, hbehind⟩ := List.forall_mem_cons.mp hsure
      have hentered : w.Unseen (Visit.first c position interceptor rest call w).world :=
        w.unseen_note _ _ _
      have hunseen : w.Unseen u := hentered.trans h.unseen
      obtain ⟨hdriver, hfaults⟩ := h.spares (hfirst.congr (fun _ => rfl) rfl)
      obtain ⟨hlast, hdriver', hfaults', hmem⟩ :=
        ih (fun i hi => (hbehind i hi).congr hunseen.fallible hfaults) ht
      exact ⟨hunseen.trans hlast, hdriver'.trans hdriver, hfaults'.trans hfaults,
        List.forall_mem_cons.mpr
          ⟨List.mem_cons_self, fun visit hv => List.mem_cons_of_mem _ (hmem visit hv)⟩⟩

/-- **Where no facade can fail, a call that comes through a chain is the driver's**, up to facades
before the statement. -/
theorem Descends.driver_eq (h : Descends c chain position call w passage)
    (hsure : ∀ interceptor ∈ chain, interceptor.Sure w) {call' : Call} {v : World}
    (ht : passage.turn = .inr (call', v)) :
    (send c chain position call w).1.driver = (w.ask c call').1.driver
      ∧ (send c chain position call w).2.map Response.bared
        = (w.ask c call').2.map Response.bared := by
  obtain ⟨hunseen, hdriver, hfaults, hmem⟩ := h.spares hsure ht
  have hclosed := hunseen.read Connection.closed (fun _ => rfl) c
  have hphysical := hunseen.read Connection.physical (fun _ => rfl) c
  -- the driver's connection does the same where the call comes to it
  have hasked : (v.ask c call').1.driver = (w.ask c call').1.driver :=
    ask_driver_congr v hclosed hphysical hdriver call'
  have hanswer : (v.ask c call').2 = (w.ask c call').2 :=
    ask_alike ⟨hclosed, hphysical, hunseen.lines, hunseen.faults, by rw [hdriver]⟩ call'
  -- and no facade can fail after it either
  have hunseen' : w.Unseen (v.ask c call').1 := hunseen.trans (v.deeds_ask c call').unseen
  have hfaults' : (v.ask c call').1.wrapFaults = w.wrapFaults := by
    rw [(v.plain_ask c call').rest]
    exact hfaults
  obtain ⟨journal, faced, hback, hfaced⟩ := foldr_back_of_sure c passage.passed
    (fun visit hv => (hsure _ (hmem visit hv)).congr hunseen'.fallible hfaults') (v.ask c call').2
  have hsend : send c chain position call w = ({ (v.ask c call').1 with journal }, faced) := by
    rw [send_eq_sendTo, h.sendTo_eq, ← hback, Passage.outcome, Passage.bottom, ht]
    rfl
  rw [hsend]
  exact ⟨hasked, hfaced.trans (congrArg _ hanswer)⟩

/-- **Links that pass a call on unchanged make no difference**, but for what they note. -/
theorem send_of_passes (c : ConnectionId) {call : Call} (chain : List Interceptor)
    (h : ∀ interceptor ∈ chain, interceptor.Passes call) :
    ∀ (position : Nat) (w : World), ∃ journal, send c chain position call w
      = ({ (w.ask c call).1 with journal }, (w.ask c call).2) := by
  induction chain with
  | nil => exact fun position w => ⟨(w.ask c call).1.journal, rfl⟩
  | cons interceptor rest ih =>
      intro position w
      obtain ⟨hfirst, hrest⟩ := List.forall_mem_cons.mp h
      obtain ⟨journal, hsend⟩ := ih hrest (position + 1)
        (w.note (.link c position) interceptor
          (.enter call rest.length (w.connection c).metadata.number))
      rw [note, ask_journal] at hsend
      rw [send, hfirst, note, hsend]
      exact ⟨_, rfl⟩

/-! ## Nested calls -/

/-- **A call on a connection is nested** in its passage down the chain. -/
structure Nested (w : World) (c : ConnectionId) (call : Call) (passage : Passage) : Prop where
  /-- The passage is the way of the call down the chain. -/
  descends : Descends c (w.connection c).chain 0 call w passage
  /-- The call is what goes back up from the end of the passage. -/
  performs : w.perform c call = passage.outcome c (fun call w => w.ask c call) 0
  /-- So it is whatever stands in the place of the driver's connection, which is asked once, if at
  all. -/
  once : ∀ terminal, sendTo terminal c (w.connection c).chain 0 call w
    = passage.outcome c terminal 0
  /-- The links are visited in the order of the chain. Each is told how many are behind it and on
  which connection, and gets the call of the caller with a flag for every link before it that adds
  one. -/
  visits : ∀ i visit, passage.entered[i]? = some visit →
    (w.connection c).chain[i]? = some visit.interceptor
      ∧ visit.position = i
      ∧ visit.remaining = (w.connection c).chain.length - 1 - i
      ∧ visit.number = (w.connection c).metadata.number
      ∧ visit.call = call.flagged
        (((w.connection c).chain.take i).countP fun link => link.appends call.method)
  /-- A link is visited if no link before it answers the call, and only then. -/
  reaches : ∀ i < (w.connection c).chain.length, (i < passage.entered.length
    ↔ ∀ visit ∈ passage.entered.take i, ¬ visit.interceptor.Answers visit.call visit.world)
  /-- A link that turns the call back answers it, whatever is behind the link. -/
  turns : ∀ visit outcome, passage.turn = .inl (visit, outcome) →
    visit.interceptor.Answers visit.call visit.world
      ∧ ∀ next, handle visit.interceptor next visit.call visit.world = outcome
  /-- The driver's connection is asked if no link answers the call, and only then, and it gets all
  flags. -/
  asks : ∀ call' v, passage.turn = .inr (call', v) →
    passage.entered.length = (w.connection c).chain.length
      ∧ (∀ visit ∈ passage.entered, ¬ visit.interceptor.Answers visit.call visit.world)
      ∧ call' = call.flagged
        ((w.connection c).chain.countP fun link => link.appends call.method)
  /-- The journal gets the visits in order, and then what leaves them in the reverse order. -/
  journal : (w.perform c call).1.journal
    = w.journal ++ passage.entered.map (Visit.entering c)
      ++ (passage.entered.mapIdx fun i visit =>
          visit.leaving c (passage.outcome c (fun call w => w.ask c call) i)).reverse
  /-- What leaves a link and is no statement leaves every link before it as it is. -/
  outward : ∀ terminal i, (∀ handle, (passage.outcome c terminal i).2 ≠ .ok (.statement handle)) →
    ∀ j ≤ i, ∃ journal, passage.outcome c terminal j
      = ({ (passage.outcome c terminal i).1 with journal }, (passage.outcome c terminal i).2)
  /-- If all links pass the call on unchanged, it is as if the driver's connection was asked. -/
  direct : (∀ interceptor ∈ (w.connection c).chain, interceptor.Passes call) →
    ∃ journal, w.perform c call = ({ (w.ask c call).1 with journal }, (w.ask c call).2)
  /-- If the driver's connection is asked and no facade can fail, the driver does what it does for
  the call with all flags, and the answer is the driver's, up to facades. -/
  through : (∀ interceptor ∈ (w.connection c).chain, interceptor.Sure w) →
    ∀ call' v, passage.turn = .inr (call', v) →
      (w.perform c call).1.driver = (w.ask c call').1.driver
        ∧ (w.perform c call).2.map Response.bared = (w.ask c call').2.map Response.bared

/-- **Every call is nested**, whatever the links of the chain are. -/
theorem nested_calls (w : World) (c : ConnectionId) (call : Call) :
    ∃ passage, w.Nested c call passage := by
  obtain ⟨passage, h⟩ := exists_descends c (w.connection c).chain 0 call w
  have hperform : w.perform c call = passage.outcome c (fun call w => w.ask c call) 0 := by
    rw [perform, send_eq_sendTo, h.sendTo_eq]
  refine ⟨passage, ?_⟩
  exact
    { descends := h
      performs := hperform
      once := h.sendTo_eq
      visits := fun i visit hv => by
        obtain ⟨hlink, hposition, hremaining, hnumber, hcall⟩ := h.visit hv
        exact ⟨hlink, by omega, hremaining, hnumber, hcall⟩
      reaches := fun i hi => h.reaches hi
      turns := fun visit outcome ht => ⟨(h.answersWith ht).answers, (h.answersWith ht).handles⟩
      asks := fun call' v ht => by
        obtain ⟨hlength, hcall⟩ := h.asked ht
        rw [Passage.entered_of_asked ht]
        exact ⟨hlength, h.not_answers, hcall⟩
      journal := by
        rw [hperform]
        exact h.journal fun call w => w.journal_ask c call
      outward := fun terminal i hne j hji => by
        rw [passage.outcome_eq_foldr c terminal hji]
        exact foldr_back_of_ne hne c _ _
      direct := fun hpasses => send_of_passes c _ hpasses 0 w
      through := fun hsure call' v ht => h.driver_eq hsure ht }

/-- The links behind one that rejects a call are not visited. -/
example :
    (send 0 [⟨"outer", .trace⟩, ⟨"inner", .reject none⟩, ⟨"last", .pass⟩] 0 ⟨.isValid, []⟩
      {}).1.journal.map Notice.receiver = [.link 0 0, .link 0 1, .link 0 1, .link 0 0] := by
  decide

end World

end ConnectionPool
