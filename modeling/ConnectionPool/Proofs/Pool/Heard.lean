import ConnectionPool.Proofs.Client.Alike

/-!
# What interceptors hear

A hook is noted in the journal when it is delivered, and at no other time: no deed of an
interceptor notes one (`Deeds.quiet`). `World.Heard` says of an operation which hooks it delivers
and what can be seen then. Telling a list of interceptors shows each of them the
numbers of the pool as they were before the first one was told (`heard_tell`), since nothing
that interceptors do can be seen in these numbers.
-/

set_option autoImplicit false

namespace ConnectionPool

namespace World

/-- **Hooks are heard as `P` says**: the journal has grown, and `P` holds of every hook that
was noted, of its receiver and of what was seen. -/
def Heard (P : Receiver → Hook → Sight → Prop) (w w' : World) : Prop :=
  ∃ notices : Journal, w'.journal = w.journal ++ notices
    ∧ ∀ notice ∈ notices, ∀ hook sight, notice.content = .hook hook sight →
      P notice.receiver hook sight

/-- No hook is heard. -/
abbrev Quiet : World → World → Prop := Heard fun _ _ _ => False

section Heard

variable {P Q : Receiver → Hook → Sight → Prop} {w w' w'' : World}

theorem heard_of_journal (h : w'.journal = w.journal) : Heard P w w' :=
  ⟨[], by rw [h, List.append_nil], fun _ hm => nomatch hm⟩

theorem Heard.refl (w : World) : Heard P w w := heard_of_journal rfl

theorem Heard.trans (h : Heard P w w') (h' : Heard P w' w'') : Heard P w w'' := by
  obtain ⟨earlier, he, hearlier⟩ := h
  obtain ⟨later, hl, hlater⟩ := h'
  refine ⟨earlier ++ later, ?_, ?_⟩
  · rw [hl, he, List.append_assoc]
  · intro notice hm
    rcases List.mem_append.mp hm with hm | hm
    · exact hearlier notice hm
    · exact hlater notice hm

theorem Heard.mono (h : Heard P w w') (hPQ : ∀ receiver hook sight, P receiver hook sight →
    Q receiver hook sight) : Heard Q w w' := by
  obtain ⟨notices, he, hn⟩ := h
  exact ⟨notices, he, fun notice hm hook sight hc => hPQ _ _ _ (hn notice hm hook sight hc)⟩

theorem Quiet.heard (h : Quiet w w') : Heard P w w' := h.mono fun _ _ _ => False.elim

/-- **Where there is no signal, no hook is heard.** -/
theorem Emits.quiet (h : Emits [] w w') : Quiet w w' := by
  obtain ⟨events, notices, -, hjournal, -, hnone⟩ := h
  refine ⟨notices, hjournal, fun notice hm hook sight hc => ?_⟩
  have hsilent := List.filterMap_eq_nil_iff.mp hnone _ (mem_weave_of_notice hm)
  simp [Happening.signal?, Notice.signal?, hc] at hsilent

theorem Deeds.quiet (h : Deeds w w') : Quiet w w' := h.emits.quiet

end Heard

/-! ## Hooks -/

/-- **What is heard when interceptors are told something**: each of them gets the hook, and
sees the numbers that the pool had before. -/
theorem heard_tell (w : World) (p : PoolId) (hook : Hook) (receiver : Nat → Receiver)
    (interceptors : List Interceptor) :
    Heard (fun r h sight => (∃ position, r = receiver position) ∧ h = hook
      ∧ sight.status = (w.pool p).status) w (tell p hook receiver interceptors w) := by
  -- the interceptors told so far have done nothing that can be seen
  have hfold : ∀ (l : List (Interceptor × Nat)) (v : World), w.Unseen v →
      Heard (fun r h sight => (∃ position, r = receiver position) ∧ h = hook
        ∧ sight.status = (w.pool p).status) v
        (l.foldl (fun w entry => deliver p hook (receiver entry.2) entry.1 w) v) := by
    intro l
    induction l with
    | nil => exact fun v _ => .refl v
    | cons entry rest ih =>
        intro v hv
        have hnote := v.unseen_note (receiver entry.2) entry.1
          (.hook hook (v.sight p hook.connection?))
        have hdeeds := deeds_react (v.note (receiver entry.2) entry.1
          (.hook hook (v.sight p hook.connection?))) p entry.1 hook
        refine Heard.trans (Heard.trans ?_ hdeeds.quiet.heard) (ih _ (hv.trans
          (hnote.trans hdeeds.unseen)))
        refine ⟨_, rfl, ?_⟩
        intro notice hm hook' sight hc
        obtain rfl := List.mem_singleton.mp hm
        cases hc
        exact ⟨⟨entry.2, rfl⟩, rfl, hv.readPool Pool.status (fun _ => rfl) p⟩
  exact hfold _ w (.refl w)

theorem heard_tellChain (w : World) (c : ConnectionId) (hook : Hook) :
    Heard (fun r h sight => (∃ position, r = .link c position) ∧ h = hook
      ∧ sight.status = (w.pool (w.connection c).pool).status) w (w.tellChain c hook) :=
  heard_tell w _ hook _ _

theorem heard_tellListeners (w : World) (p : PoolId) (hook : Hook) :
    Heard (fun r h sight => (∃ position, r = .listener p position) ∧ h = hook
      ∧ sight.status = (w.pool p).status) w (w.tellListeners p hook) :=
  heard_tell w p hook _ _

end World

end ConnectionPool
