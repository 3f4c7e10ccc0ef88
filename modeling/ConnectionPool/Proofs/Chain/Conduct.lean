import ConnectionPool.Chain.Travel
import ConnectionPool.Proofs.Scene.Basic

/-!
# What a link does with a call

A link that is no cache answers a call by itself or hands it on, and whatever is shown of a call on
its way down a chain is shown for each of the four things that a link can do
(`Interceptor.conduct`).
-/

set_option autoImplicit false

namespace ConnectionPool

namespace Interceptor

open World

/-- **What a link does with a call**, whatever is behind it and whatever the world is like. -/
inductive Conduct (interceptor : Interceptor) (call : Call) : Prop
  /-- It is a cache, and serves the call. -/
  | serves (k : CacheId) (hk : interceptor.cache? = some k)
      (h : ∀ next w, handle interceptor next call w = serve k next call w)
  | handsOn (passed : Call) (hk : interceptor.cache? = none)
      (hon : interceptor.handsOn? call = some passed) (hm : passed.method = call.method)
      (h : ∀ next w, handle interceptor next call w = next passed w)
  /-- It answers with a new statement of the driver. -/
  | supplies (hk : interceptor.cache? = none) (hon : interceptor.handsOn? call = none)
      (hs : interceptor.Supplies call.method)
      (h : ∀ next w, handle interceptor next call w
        = ({ w with driver := (w.driver.looseStatement "answered").1 },
          .ok (.statement (.physical w.driver.statements.next))))
  /-- It answers by itself, and with no statement. -/
  | answers (answer : Answer) (hk : interceptor.cache? = none)
      (hon : interceptor.handsOn? call = none)
      (hne : ∀ statement, answer ≠ .ok (.statement statement))
      (h : ∀ next w, handle interceptor next call w = (w, answer))

/-- A role with a scope does what it does where the scope covers the operation, and hands the call
on elsewhere. -/
theorem conduct (interceptor : Interceptor) (call : Call) : interceptor.Conduct call := by
  obtain ⟨name, role⟩ := interceptor
  cases role with
  | pass | trace => exact .handsOn call rfl rfl rfl fun _ _ => rfl
  | answerTruth scope value =>
      by_cases hcov : scope.covers call.method = true
      · exact .answers _ rfl (if_pos hcov) (by rintro _ ⟨⟩) fun _ _ => if_pos hcov
      · exact .handsOn call rfl (if_neg hcov) rfl fun _ _ => if_neg hcov
  | answerStatement scope =>
      by_cases hcov : scope.covers call.method = true
      · exact .supplies rfl (if_pos hcov) ⟨scope, rfl, hcov⟩ fun _ _ => if_pos hcov
      · exact .handsOn call rfl (if_neg hcov) rfl fun _ _ => if_neg hcov
  | reject scope =>
      by_cases hcov : scope.covers call.method = true
      · exact .answers _ rfl (if_pos hcov) (by rintro _ ⟨⟩) fun _ _ => if_pos hcov
      · exact .handsOn call rfl (if_neg hcov) rfl fun _ _ => if_neg hcov
  | appendFlag scope =>
      by_cases hcov : scope.covers call.method = true
      · exact .handsOn _ rfl (if_pos hcov) rfl fun _ _ => if_pos hcov
      · exact .handsOn call rfl (if_neg hcov) rfl fun _ _ => if_neg hcov
  | cache k => exact .serves k rfl fun _ _ => rfl

end Interceptor

end ConnectionPool
