import ConnectionPool.Proofs.Chain.Links

/-!
# The passage of a call down a chain

A call goes down a chain, link after link, until a link answers it or the driver's connection is
asked (`World.Descends`); then the answer goes back up through the links that handed the call on.
The way down is a `Passage`. It does not depend on what the driver answers, and what is at the end
of it goes up through `Passage.outcome`, so nothing is asked twice, whatever stands in the driver's
place (`Descends.sendTo_eq`). The visits are recorded in order on the way down, and in the reverse
order on the way back (`Descends.journal`).
-/

set_option autoImplicit false

namespace ConnectionPool

/-- **A visit** of a call to a link of a chain, as the link is told of it. -/
structure Visit where
  position : Nat
  interceptor : Interceptor
  call : Call
  /-- How many links are behind this one. -/
  remaining : Nat
  /-- The number of the connection. -/
  number : Nat
  /-- The world in which the link gets the call. -/
  world : World

namespace Visit

/-- The notice that the call has come in. -/
def entering (c : ConnectionId) (visit : Visit) : Notice where
  receiver := .link c visit.position
  interceptor := visit.interceptor
  content := .enter visit.call visit.remaining visit.number
  logged := visit.world.driver.log.length

/-- The notice that the answer has left. -/
def leaving (c : ConnectionId) (visit : Visit) (outcome : World × Answer) : Notice where
  receiver := .link c visit.position
  interceptor := visit.interceptor
  content := .leave visit.call outcome.2
  logged := outcome.1.driver.log.length

/-- The outcome as it leaves the link, with the notice of it. -/
def leave (c : ConnectionId) (visit : Visit) (outcome : World × Answer) : World × Answer :=
  (outcome.1.note (.link c visit.position) visit.interceptor (.leave visit.call outcome.2),
    outcome.2)

/-- **The way back through the link**: what comes from behind is settled, and leaves. -/
def back (c : ConnectionId) (visit : Visit) (outcome : World × Answer) : World × Answer :=
  visit.leave c (World.settle visit.interceptor visit.call outcome)

/-- The visit of a call that comes to the first of some links. -/
def first (c : ConnectionId) (position : Nat) (interceptor : Interceptor)
    (rest : List Interceptor) (call : Call) (w : World) : Visit where
  position
  interceptor
  call
  remaining := rest.length
  number := (w.connection c).metadata.number
  world := w.note (.link c position) interceptor
    (.enter call rest.length (w.connection c).metadata.number)

end Visit

/-- **The passage** of a call down a chain: the links that hand it on, the first of the chain
first, and what turns it back, which is a link that answers it, or the driver's connection. -/
structure Passage where
  passed : List Visit
  turn : (Visit × World × Answer) ⊕ (Call × World)

namespace Passage

/-- The links that the call comes to. -/
def entered (passage : Passage) : List Visit :=
  passage.passed ++ passage.turn.elim (fun answered => [answered.1]) fun _ => []

/-- The world when the call has come to the end of the passage. -/
def world (passage : Passage) : World :=
  passage.turn.elim (fun answered => answered.2.1) fun asked => asked.2

theorem entered_of_answered {passage : Passage} {answered : Visit × World × Answer}
    (h : passage.turn = .inl answered) : passage.entered = passage.passed ++ [answered.1] := by
  rw [entered, h]
  rfl

theorem entered_of_asked {passage : Passage} {asked : Call × World}
    (h : passage.turn = .inr asked) : passage.entered = passage.passed := by
  rw [entered, h]
  exact List.append_nil _

/-- What goes back at the end of the passage, if `terminal` stands in the driver's place. -/
def bottom (c : ConnectionId) (terminal : Call → World → World × Answer) (passage : Passage) :
    World × Answer :=
  passage.turn.elim (fun answered => answered.1.leave c answered.2)
    fun asked => terminal asked.1 asked.2

/-- **What leaves the link at a place** of the passage, if `terminal` stands in the driver's
place. -/
def outcome (c : ConnectionId) (terminal : Call → World → World × Answer) (passage : Passage)
    (i : Nat) : World × Answer :=
  (passage.passed.drop i).foldr (Visit.back c) (passage.bottom c terminal)

end Passage

namespace World

/-- Send a call down a chain with `terminal` in the place of the driver's connection. -/
def sendTo (terminal : Call → World → World × Answer) (c : ConnectionId) :
    List Interceptor → Nat → Call → World → World × Answer
  | [], _, call, w => terminal call w
  | interceptor :: rest, position, call, w =>
      let visit := Visit.first c position interceptor rest call w
      visit.leave c (handle interceptor (sendTo terminal c rest (position + 1)) call visit.world)

theorem send_eq_sendTo (c : ConnectionId) (chain : List Interceptor) :
    send c chain = sendTo (fun call w => w.ask c call) c chain := by
  induction chain with
  | nil => rfl
  | cons interceptor rest ih =>
      funext position call w
      rw [send, ih]
      rfl

/-! ## The way down -/

/-- **A call goes down a chain.** -/
inductive Descends (c : ConnectionId) :
    List Interceptor → Nat → Call → World → Passage → Prop
  /-- At the end of the chain the driver's connection is asked. -/
  | asks (position : Nat) (call : Call) (w : World) :
      Descends c [] position call w ⟨[], .inr (call, w)⟩
  /-- A link answers. -/
  | answers {interceptor : Interceptor} {rest : List Interceptor} {position : Nat} {call : Call}
      {w : World} {outcome : World × Answer}
      (h : interceptor.AnswersWith call (Visit.first c position interceptor rest call w).world
        outcome) :
      Descends c (interceptor :: rest) position call w
        ⟨[], .inl (Visit.first c position interceptor rest call w, outcome)⟩
  /-- A link hands the call on. -/
  | passes {interceptor : Interceptor} {rest : List Interceptor} {position : Nat} {call : Call}
      {w v : World} {passage : Passage}
      (h : interceptor.HandsOn call (Visit.first c position interceptor rest call w).world v)
      (hrest : Descends c rest (position + 1) (interceptor.handed call) v passage) :
      Descends c (interceptor :: rest) position call w
        ⟨Visit.first c position interceptor rest call w :: passage.passed, passage.turn⟩

variable {c : ConnectionId} {chain : List Interceptor} {position : Nat} {call : Call} {w : World}
  {passage : Passage} {terminal : Call → World → World × Answer}

/-- **Every call goes down its chain.** -/
theorem exists_descends (c : ConnectionId) (chain : List Interceptor) :
    ∀ (position : Nat) (call : Call) (w : World),
      ∃ passage, Descends c chain position call w passage := by
  induction chain with
  | nil => exact fun position call w => ⟨_, .asks position call w⟩
  | cons interceptor rest ih =>
      intro position call w
      obtain ⟨outcome, h⟩ | ⟨v, h⟩ := interceptor.handle_cases call
        (Visit.first c position interceptor rest call w).world
      · exact ⟨_, .answers h⟩
      · obtain ⟨passage, hrest⟩ := ih (position + 1) (interceptor.handed call) v
        exact ⟨_, .passes h hrest⟩

/-- **What comes back is what goes up from the end of the passage.** -/
theorem Descends.sendTo_eq (h : Descends c chain position call w passage)
    (terminal : Call → World → World × Answer) :
    sendTo terminal c chain position call w = passage.outcome c terminal 0 := by
  induction h with
  | asks => rfl
  | answers h =>
      rw [sendTo, h.handles]
      rfl
  | passes h hrest ih =>
      rw [sendTo, h.handles, ih]
      rfl

/-- **Links are visited in order**: each is told how many are behind it and on which connection, and
gets the call with a flag for every link before it that adds one. -/
theorem Descends.visit (h : Descends c chain position call w passage) :
    ∀ {i : Nat} {visit : Visit}, passage.entered[i]? = some visit →
      chain[i]? = some visit.interceptor
      ∧ visit.position = position + i
      ∧ visit.remaining = chain.length - 1 - i
      ∧ visit.number = (w.connection c).metadata.number
      ∧ visit.call = call.flagged ((chain.take i).countP fun link => link.appends call.method) := by
  induction h with
  | asks =>
      intro i visit hv
      cases hv
  | @answers interceptor rest position call w outcome h =>
      intro i visit hv
      cases i with
      | zero =>
          cases hv
          exact ⟨rfl, rfl, rfl, rfl, call.flagged_zero.symm⟩
      | succ i => cases hv
  | @passes interceptor rest position call w v passage h hrest ih =>
      intro i visit hv
      cases i with
      | zero =>
          cases hv
          exact ⟨rfl, rfl, rfl, rfl, call.flagged_zero.symm⟩
      | succ i =>
          -- the rest of the chain starts one place later, with what the first link hands on
          obtain ⟨hlink, hposition, hremaining, hnumber, hcall⟩ := ih hv
          refine ⟨hlink, ?_, ?_, ?_, ?_⟩
          · omega
          · rw [List.length_cons]
            omega
          · rw [hnumber]
            exact congrArg Metadata.number (h.unseen.read Connection.metadata (fun _ => rfl) c)
          · rw [hcall, interceptor.handed_flagged, List.take_succ_cons, List.countP_cons,
              interceptor.method_handed]

/-- The links that are passed do not answer the call. -/
theorem Descends.not_answers (h : Descends c chain position call w passage) :
    ∀ visit ∈ passage.passed, ¬ visit.interceptor.Answers visit.call visit.world := by
  induction h with
  | asks => exact fun visit hv => absurd hv List.not_mem_nil
  | answers => exact fun visit hv => absurd hv List.not_mem_nil
  | passes h hrest ih => exact List.forall_mem_cons.mpr ⟨h.keeps, ih⟩

/-- The link that turns a call back answers it by itself. -/
theorem Descends.answersWith (h : Descends c chain position call w passage) :
    ∀ {visit : Visit} {outcome : World × Answer}, passage.turn = .inl (visit, outcome) →
      visit.interceptor.AnswersWith visit.call visit.world outcome := by
  induction h with
  | asks =>
      intro visit outcome ht
      cases ht
  | answers h =>
      intro visit outcome ht
      cases ht
      exact h
  | passes h hrest ih => exact ih

/-- The driver's connection is asked at the end of the chain. -/
theorem Descends.asked (h : Descends c chain position call w passage) :
    ∀ {call' : Call} {v : World}, passage.turn = .inr (call', v) →
      passage.passed.length = chain.length
      ∧ call' = call.flagged (chain.countP fun link => link.appends call.method) := by
  induction h with
  | asks position call w =>
      intro call' v ht
      cases ht
      exact ⟨rfl, call.flagged_zero.symm⟩
  | answers h =>
      intro call' v ht
      cases ht
  | @passes interceptor rest position call w v passage h hrest ih =>
      intro call' v ht
      obtain ⟨hlength, hcall⟩ := ih ht
      refine ⟨congrArg (· + 1) hlength, ?_⟩
      rw [hcall, interceptor.handed_flagged, List.countP_cons, interceptor.method_handed]

/-- **A call comes to a link** if no link before it answers the call, and only then. -/
theorem Descends.reaches (h : Descends c chain position call w passage) {i : Nat}
    (hi : i < chain.length) :
    i < passage.entered.length
      ↔ ∀ visit ∈ passage.entered.take i, ¬ visit.interceptor.Answers visit.call visit.world := by
  cases ht : passage.turn with
  | inr asked =>
      -- the call comes to all links, and none of them answers it
      obtain ⟨hlength, -⟩ := h.asked ht
      rw [Passage.entered_of_asked ht]
      constructor
      · intro _ visit hv
        exact h.not_answers visit (List.mem_of_mem_take hv)
      · intro _
        omega
  | inl answered =>
      have hanswers := (h.answersWith ht).answers
      rw [Passage.entered_of_answered ht, List.length_append, List.length_singleton]
      constructor
      · intro hlt visit hv
        rw [List.take_append_of_le_length (by omega)] at hv
        exact h.not_answers visit (List.mem_of_mem_take hv)
      · intro hnot
        -- behind the link that answers, that link would be among those before
        by_contra hle
        rw [List.take_of_length_le (by
          rw [List.length_append, List.length_singleton]
          omega)] at hnot
        exact hnot _ (List.mem_append_right _ (List.mem_singleton.mpr rfl)) hanswers

/-- **On the way down, the visits are recorded.** -/
theorem Descends.journal_world (h : Descends c chain position call w passage) :
    passage.world.journal = w.journal ++ passage.entered.map (Visit.entering c) := by
  induction h with
  | asks => exact (List.append_nil _).symm
  | answers h => exact h.journal
  | @passes interceptor rest position call w v passage h hrest ih =>
      calc passage.world.journal
        _ = v.journal ++ passage.entered.map (Visit.entering c) := ih
        _ = (w.journal ++ [(Visit.first c position interceptor rest call w).entering c])
            ++ passage.entered.map (Visit.entering c) := by rw [h.journal]; rfl
        _ = _ := List.append_assoc _ _ _

/-! ## The way back -/

theorem journal_back (c : ConnectionId) (visit : Visit) (outcome : World × Answer) :
    (visit.back c outcome).1.journal
      = outcome.1.journal ++ [visit.leaving c (visit.back c outcome)] := by
  have hsettle := journal_settle visit.interceptor visit.call outcome
  rw [← hsettle]
  rfl

/-- **On the way back, the visits are recorded in the reverse order.** -/
theorem journal_foldr_back (c : ConnectionId) (visits : List Visit) (bottom : World × Answer) :
    (visits.foldr (Visit.back c) bottom).1.journal = bottom.1.journal
      ++ (visits.mapIdx fun i visit =>
          visit.leaving c ((visits.drop i).foldr (Visit.back c) bottom)).reverse := by
  induction visits with
  | nil => exact (List.append_nil _).symm
  | cons visit rest ih =>
      -- what leaves the first link leaves it after all that leaves the others
      rw [List.foldr_cons, journal_back, ih, List.mapIdx_cons, List.reverse_cons,
        List.append_assoc]
      rfl

/-- **What a call records**: the visits in order, and then the same ones in the reverse order. -/
theorem Descends.journal (h : Descends c chain position call w passage)
    (hterminal : ∀ call w, (terminal call w).1.journal = w.journal) :
    (passage.outcome c terminal 0).1.journal
      = w.journal ++ passage.entered.map (Visit.entering c)
        ++ (passage.entered.mapIdx fun i visit =>
            visit.leaving c (passage.outcome c terminal i)).reverse := by
  rw [← h.journal_world, Passage.outcome, List.drop_zero, journal_foldr_back]
  obtain ⟨passed, turn⟩ := passage
  cases turn with
  | inr asked =>
      have hbottom : (terminal asked.1 asked.2).1.journal = asked.2.journal :=
        hterminal asked.1 asked.2
      simp only [Passage.bottom, Passage.world, Passage.entered, Passage.outcome, Sum.elim_inr,
        List.append_nil, hbottom]
  | inl answered =>
      -- the answer leaves the last link first
      have hlast : passed.drop (0 + passed.length) = [] := by
        rw [Nat.zero_add, List.drop_length]
      simp only [Passage.bottom, Passage.world, Passage.entered, Passage.outcome, Sum.elim_inl,
        List.mapIdx_append, List.mapIdx_cons, List.mapIdx_nil, List.reverse_append,
        List.reverse_singleton, hlast, List.foldr_nil]
      exact List.append_assoc _ _ _

/-- **What is no statement goes all the way back as it is.** -/
theorem foldr_back_of_ne {answer : Answer} (h : ∀ handle, answer ≠ .ok (.statement handle))
    (c : ConnectionId) (visits : List Visit) (w : World) :
    ∃ journal, visits.foldr (Visit.back c) (w, answer) = ({ w with journal }, answer) := by
  induction visits with
  | nil => exact ⟨w.journal, rfl⟩
  | cons visit rest ih =>
      obtain ⟨journal, hrest⟩ := ih
      refine ⟨(visit.leave c ({ w with journal }, answer)).1.journal, ?_⟩
      rw [List.foldr_cons, hrest, Visit.back, settle_of_ne h]
      rfl

/-- Where no facade can fail, a statement goes all the way back behind some facades. -/
theorem foldr_back_of_sure (c : ConnectionId) (visits : List Visit)
    (h : ∀ visit ∈ visits, visit.interceptor.Sure w) (answer : Answer) :
    ∃ journal faced, visits.foldr (Visit.back c) (w, answer) = ({ w with journal }, faced)
      ∧ faced.map Response.bared = answer.map Response.bared := by
  induction visits with
  | nil => exact ⟨w.journal, answer, rfl, rfl⟩
  | cons visit rest ih =>
      obtain ⟨hvisit, hrest⟩ := List.forall_mem_cons.mp h
      obtain ⟨journal, faced, hback, hfaced⟩ := ih hrest
      have hsure : visit.interceptor.Sure ({ w with journal } : World) :=
        hvisit.congr (fun _ => rfl) rfl
      obtain ⟨settled, hsettle, hsettled⟩ := settle_of_sure hsure visit.call faced
      refine ⟨(visit.leave c ({ w with journal }, settled)).1.journal, settled, ?_,
        hsettled.trans hfaced⟩
      rw [List.foldr_cons, hback, Visit.back, hsettle]
      rfl

end World

/-- What leaves a link is what leaves a link behind it, with what the links between make of it. -/
theorem Passage.outcome_eq_foldr (c : ConnectionId) (terminal : Call → World → World × Answer)
    (passage : Passage) {i j : Nat} (h : j ≤ i) :
    passage.outcome c terminal j = ((passage.passed.drop j).take (i - j)).foldr (Visit.back c)
      (passage.outcome c terminal i) := by
  have hsplit : passage.passed.drop i = (passage.passed.drop j).drop (i - j) := by
    rw [List.drop_drop, Nat.add_sub_cancel' h]
  rw [outcome, outcome, hsplit, ← List.foldr_append, List.take_append_drop]

end ConnectionPool
