import ConnectionPool.Proofs.Calls.Preparing
import ConnectionPool.Proofs.Calls.Tallying

/-!
# Calls that come to the only cache unchanged

Where a chain has one cache, the facades of that cache never fail, and every other link hands the
calls that prepare on as they are, such a call does one of two things: it is answered with what is
parked for it, and the driver does nothing, or the driver's connection answers it
(`SoleCache.perform`). Either way the store tallies the look-up.

Whatever the chain, no call fails because no key could be made for it
(`perform_ne_invalidKey`).
-/

set_option autoImplicit false

namespace ConnectionPool

/-- A call comes through links that hand it on as it is. -/
theorem comesThrough_of_handsOn? {call : Call} (links : List Interceptor)
    (h : ∀ interceptor ∈ links, interceptor.handsOn? call = some call) :
    comesThrough links call = some call := by
  induction links with
  | nil => rfl
  | cons interceptor rest ih =>
      rw [comesThrough, h interceptor List.mem_cons_self, Option.bind_some]
      exact ih fun i hi => h i (List.mem_cons_of_mem _ hi)

namespace World

variable {w w' : World} {c : ConnectionId} {k : CacheId} {call : Call}
  {next : Call → World → World × Answer}

/-! ## No call fails for want of a key -/

section Links

variable {name : String} {method : Method}
  (hnext : ∀ call w, (next call w).2 ≠ .error (.interceptor name (.invalidKey method)))
include hnext

theorem fill_ne_invalidKey (k : CacheId) (call : Call) (w : World) :
    (fill k next call w).2 ≠ .error (.interceptor name (.invalidKey method)) := by
  have h := hnext call w
  unfold fill
  split
  · split
    · nofun
    · nofun
  · exact h

theorem serve_ne_invalidKey (k : CacheId) (call : Call) (w : World) :
    (serve k next call w).2 ≠ .error (.interceptor name (.invalidKey method)) := by
  obtain ⟨looked, hfetch, -⟩ := w.looks_fetch k call
  unfold serve
  rw [hfetch]
  split
  · cases w.finds? k call with
    | none => exact fill_ne_invalidKey hnext k call looked
    | some tracked =>
        simp only
        split
        · nofun
        · exact fill_ne_invalidKey hnext k call _
  · exact hnext call w

theorem handle_ne_invalidKey (interceptor : Interceptor) (call : Call) (w : World) :
    (handle interceptor next call w).2 ≠ .error (.interceptor name (.invalidKey method)) := by
  have hpass := hnext call w
  unfold handle
  split
  · exact hpass
  · exact hpass
  · split
    · nofun
    · exact hpass
  · split
    · nofun
    · exact hpass
  · split
    · nofun
    · exact hpass
  · split
    · exact hnext _ w
    · exact hpass
  · exact serve_ne_invalidKey hnext _ call w

end Links

theorem ask_ne_invalidKey (w : World) (c : ConnectionId) (call : Call) (name : String)
    (method : Method) :
    (w.ask c call).2 ≠ .error (.interceptor name (.invalidKey method)) := by
  have hanswered : ∀ result, answered result ≠ .error (.interceptor name (.invalidKey method)) := by
    intro result
    cases result <;> nofun
  unfold ask
  simp only
  split
  · nofun
  · split
    · exact hanswered _
    · exact hanswered _
    · exact hanswered _
    · nofun

/-- **No call fails because no key could be made for it.** -/
theorem perform_ne_invalidKey (w : World) (c : ConnectionId) (call : Call) (name : String)
    (method : Method) :
    (w.perform c call).2 ≠ .error (.interceptor name (.invalidKey method)) := by
  have hsend : ∀ (chain : List Interceptor) (position : Nat) (call : Call) (w : World),
      (send c chain position call w).2 ≠ .error (.interceptor name (.invalidKey method)) := by
    intro chain
    induction chain with
    | nil => exact fun _ call w => w.ask_ne_invalidKey c call name method
    | cons interceptor rest ih =>
        intro position call w
        exact handle_ne_invalidKey (ih (position + 1)) interceptor call _
  exact hsend _ 0 call w

/-! ## The only cache -/

/-- **A connection with one cache, the facades of which never fail**, and other links that hand
every call that prepares on as it is. -/
structure SoleCache (w : World) (c : ConnectionId) (k : CacheId) : Prop where
  only : (w.connection c).caches = [k]
  sure : (w.cache k).fallible = false
  others : ∀ interceptor ∈ (w.connection c).chain, interceptor.cache? = none →
    ∀ call : Call, call.method.prepares = true → interceptor.handsOn? call = some call

/-- What the driver does when it is asked depends on the connection and the driver alone. -/
theorem ask_driver_congr (w' : World) (hclosed : (w'.connection c).closed = (w.connection c).closed)
    (hphysical : (w'.connection c).physical = (w.connection c).physical)
    (hdriver : w'.driver = w.driver) (call : Call) :
    (w'.ask c call).1.driver = (w.ask c call).1.driver := by
  unfold ask
  simp only [onDriver, hclosed, hphysical, hdriver]
  split
  · exact hdriver
  · split <;> first | rfl | exact hdriver

/-- A cache the facades of which do not fail does nothing to what the links behind it answer. -/
theorem fill_of_sure (next : Call → World → World × Answer) (call : Call)
    (hsure : ¬ w.Breaks k 0) (hplain : w.Plain (next call w).1 (next call w).2) :
    (fill k next call w).1 = (next call w).1 := by
  by_cases ha : ∃ handle, (next call w).2 = .ok (.statement handle)
  · obtain ⟨handle, ha⟩ := ha
    rw [fill_of_not_breaks hplain ha hsure]
  · rw [fill_of_ne fun handle h => ha ⟨handle, h⟩]

/-- No facade of the cache fails, as long as the caches are those of the world. -/
theorem SoleCache.not_breaks (h : w.SoleCache c k) {v : World} (hv : v.caches = w.caches) :
    ¬ v.Breaks k 0 := by
  rintro ⟨hfallible, -⟩
  rw [cache, hv] at hfallible
  exact absurd (h.sure.symm.trans hfallible) Bool.false_ne_true

/-- The links behind the cache hand the call on to the driver's connection, and the cache does
nothing to what they answer. -/
theorem SoleCache.fill_behind (h : w.SoleCache c k) {looked : World} {position : Nat}
    (hrest : comesThrough (w.behind c position) call = some call)
    (hlooks : w.Looks k call looked (w.finds? k call)) (journal : Journal) :
    ∃ after, (fill k (send c (w.behind c position) (position + 1)) call
        { looked with journal }).1
      = { looked with driver := (w.ask c call).1.driver, journal := after } := by
  obtain ⟨before, after, hsend⟩ : ∃ before after,
      send c (w.behind c position) (position + 1) call { looked with journal }
        = ({ (({ looked with journal := before } : World).ask c call).1 with journal := after },
          (({ looked with journal := before } : World).ask c call).2) := by
    have hbefore := send_before (c := c) _ [] (position + 1) call { looked with journal } hrest
    rwa [List.append_nil] at hbefore
  have hplain := ({ looked with journal := before } : World).plain_ask c call
  have hasked : (send c (w.behind c position) (position + 1) call { looked with journal }).1
      = { looked with
        driver := (({ looked with journal := before } : World).ask c call).1.driver
        journal := after } := by
    rw [hsend, hplain.rest]
  have hdriver : (({ looked with journal := before } : World).ask c call).1.driver
      = (w.ask c call).1.driver :=
    ask_driver_congr { looked with journal := before }
      (hlooks.connection c fun _ _ => rfl) (hlooks.connection c fun _ _ => rfl)
      (by rw [hlooks.rest]) call
  have hsure : ¬ ({ looked with journal } : World).Breaks k 0 :=
    h.not_breaks (by rw [hlooks.rest])
  have hfill := fill_of_sure (send c (w.behind c position) (position + 1)) call hsure (by
    rw [hsend]
    exact ⟨hplain.driver, by rw [hplain.rest]⟩)
  exact ⟨after, by rw [hfill, hasked, hdriver]⟩

/-- **A call that prepares is looked up**: what is found answers it, and otherwise the driver is
asked. -/
theorem SoleCache.perform (h : w.SoleCache c k) (hp : call.method.prepares = true) :
    ∃ looked journal, w.Looks k call looked (w.finds? k call)
      ∧ (w.perform c call).1 = { looked with
        driver := if (w.finds? k call).isSome then w.driver else (w.ask c call).1.driver
        journal } := by
  have hk : k ∈ (w.connection c).caches := h.only ▸ List.mem_singleton.mpr rfl
  obtain ⟨position, hlink⟩ := (Connection.mem_caches _ k).mp hk
  obtain ⟨hbefore, hbehind⟩ := cache?_eq_none_of_only hlink h.only
  have hthrough : comesThrough ((w.connection c).chain.take position) call = some call :=
    comesThrough_of_handsOn? _ fun i hi =>
      h.others i (List.mem_of_mem_take hi) (hbefore i hi) call hp
  have hrest : comesThrough (w.behind c position) call = some call :=
    comesThrough_of_handsOn? _ fun i hi =>
      h.others i (List.mem_of_mem_drop hi) (hbehind i hi) call hp
  obtain ⟨journal, journal', hperform⟩ := perform_at hlink hthrough
  obtain ⟨looked, hfetch, hlooks⟩ := w.looks_fetch k call
  have hlooked : ({ w with journal } : World).fetch k call
      = ({ looked with journal }, .ok (w.finds? k call)) := by
    rw [fetch_journal, hfetch]
  refine ⟨looked, journal', hlooks, ?_⟩
  rw [hperform, serve, if_pos hp, hlooked]
  cases hfinds : w.finds? k call with
  | some tracked =>
      have hbreaks : ¬ ({ looked with journal } : World).Breaks k 0 :=
        h.not_breaks (by rw [hlooks.rest])
      simp only [wrap_of_not_breaks hbreaks, Option.isSome_some, if_true]
      rw [hlooks.rest]
  | none =>
      obtain ⟨after, hfill⟩ := h.fill_behind hrest hlooks journal
      simp only [Option.isSome_none, Bool.false_eq_true, if_false]
      rw [hfill]

end World

end ConnectionPool
