import ConnectionPool.Proofs.Scene.Ownership
import ConnectionPool.Proofs.Scene.Pooling

/-!
# Statements that stand aside

Whatever happens in a scene happens to statements of the driver that are out, or that a client
has bare: every other one stays as it is (`Scene.Step.statement_eq`). A statement that is known
and that nobody in the scene has anything to do with stands aside for good
(`Scene.Turns.aside`). To see what an operation leaves alone, it is looked at in a scene where
only that is out which the operation is given.
-/

set_option autoImplicit false

namespace ConnectionPool

namespace Scene

variable {S S' : Scene} {id : StatementId}

/-- A step leaves a statement alone that is neither out nor bare in the hands of a client. -/
theorem Step.statement_eq (h : Step S S') (hk : S.world.driver.statements.Known id)
    (hh : ∀ handle ∈ S.hands, handle.target? ≠ some id) (hl : id ∉ S.loose) :
    S'.world.driver.statement id = S.world.driver.statement id := by
  cases h with
  | book hw => exact hw.statement id
  | @use _ other hu =>
      refine S.world.driver.statement_use_of_ne _ fun he => ?_
      subst he
      rcases hu with hm | ⟨handle, hm, ht⟩
      · exact hl hm
      · exact hh handle hm ht
  | @shut other hs =>
      refine S.world.driver.statement_closeStatement_of_ne fun he => ?_
      subst he
      exact hl hs
  | @dispose other H hd =>
      refine S.world.driver.statement_closeStatement_of_ne fun he => ?_
      subst he
      exact hh _ (by rw [hd]; exact Multiset.mem_cons_self _ _) rfl
  | issue _ _ _ => exact S.world.driver.statement_issue_of_known _ _ hk
  | answer _ sql _ _ =>
      exact S.world.driver.statement_issue_of_known { sql } (fun id => .prepared id sql) hk
  | @hit _ _ _ _ binding _ _ _ _ _ _ _ _ => rcases binding with ⟨c, _ | n⟩ <;> rfl
  | @repay n _ _ => cases n <;> rfl
  | cut _ => exact congrArg (Registry.get · id) (S.world.driver.statements_closeConnection _)
  | misdial =>
      exact congrArg (Registry.get · id)
        (S.world.driver.openConnection.1.statements_closeConnection _)
  | hangUp _ _ => exact congrArg (Registry.get · id) (S.world.driver.statements_closeConnection _)
  | _ => rfl

theorem Turn.statement_eq (h : Turn S S') (hk : S.world.driver.statements.Known id)
    (hh : ∀ handle ∈ S.hands, handle.target? ≠ some id) (hl : id ∉ S.loose) :
    S'.world.driver.statement id = S.world.driver.statement id := by
  cases h with
  | step h => exact h.statement_eq hk hh hl
  | @count p _ hn _ =>
      rw [S.world.startCounting_of_none hn]
      rfl
  | _ => rfl

/-- **A statement stands aside**: it is known, and nobody has anything to do with it. -/
structure Aside (S : Scene) (id : StatementId) : Prop where
  known : S.world.driver.statements.Known id
  targets : id ∉ S.targets
  loose : id ∉ S.loose

theorem Turn.aside (h : Turn S S') (hS : S.Wired) (ha : S.Aside id) : S'.Aside id := by
  have hknown := ((h.later_and_wired hS).1.statements id ha.known).1
  cases h.effect hS with
  | kept ht hl _ => exact ⟨hknown, by rw [ht]; exact ha.targets, by rw [hl]; exact ha.loose⟩
  | made statement event ht hl _ _ _ =>
      refine ⟨hknown, fun hm => ?_, by rw [hl]; exact ha.loose⟩
      rw [ht] at hm
      rcases Multiset.mem_cons.mp hm with rfl | hm
      · exact Registry.not_known_next _ ha.known
      · exact ha.targets hm
  | disposed other ht hl _ =>
      refine ⟨hknown, fun hm => ha.targets ?_, by rw [hl]; exact ha.loose⟩
      rw [ht]
      exact Multiset.mem_cons_of_mem hm
  | shut other _ ht hl _ =>
      exact ⟨hknown, by rw [ht]; exact ha.targets, by rw [hl]; exact ha.loose⟩
  | given other ht hl _ _ =>
      refine ⟨hknown, fun hm => ha.targets ?_, fun hm => ?_⟩
      · rw [ht]
        exact Multiset.mem_cons_of_mem hm
      · rw [hl] at hm
        rcases Multiset.mem_cons.mp hm with rfl | hm
        · exact ha.targets (by rw [ht]; exact Multiset.mem_cons_self _ _)
        · exact ha.loose hm

/-- **What stands aside is left alone**, however much happens. -/
theorem Turns.aside (h : Turns S S') (hS : S.Wired) (ha : S.Aside id) :
    S'.Aside id ∧ S'.world.driver.statement id = S.world.driver.statement id := by
  induction h with
  | refl => exact ⟨ha, rfl⟩
  | tail hturns hturn ih =>
      obtain ⟨ha', heq⟩ := ih
      refine ⟨hturn.aside (Turns.later_and_wired hturns hS).2 ha', ?_⟩
      refine (hturn.statement_eq ha'.known (fun handle hm ht => ?_) ha'.loose).trans heq
      exact ha'.targets (mem_targets.mpr (Or.inl ⟨handle, hm, ht⟩))

end Scene

end ConnectionPool
