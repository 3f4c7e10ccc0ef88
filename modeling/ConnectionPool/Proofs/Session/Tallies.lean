import ConnectionPool.Proofs.Custody.Documented
import ConnectionPool.Proofs.Session.Admission
import ConnectionPool.Proofs.Session.Untallied
import Mathlib.Algebra.BigOperators.Group.Finset.Piecewise

/-!
# Every preparation is tallied

`callsOn` counts the calls of a kind that a run makes on a connection. Where the connection has one
cache and otherwise links that hand preparing calls on, its store has tallied so many hits and so
many misses, and the driver has prepared a statement on its line for every miss and for every plain
call, and for nothing else (`Agrees`). One command keeps it so (`Tallied.run`), and thus it is so
after every run (`prepares_tallied`).

Clients can attach caches of their own to connections by hand, and look calls up in these, which the
stores tally as well. The connections to which they do so (`attachments`) are left out.
-/

set_option autoImplicit false

namespace ConnectionPool

/-! ## Counting calls -/

/-- **How many calls of a kind were made on a connection.** -/
def callsOn (past : List Inquiry) (c : ConnectionId) (kind : Inquiry → Bool) : Nat :=
  past.countP fun q => q.connection == c && kind q

/-- The pool of the connection that a call reaches. -/
def Inquiry.pool (q : Inquiry) : PoolId := (q.world.connection q.connection).pool

/-- **How many calls of a kind were made on the connections of a pool.** -/
def callsIn (past : List Inquiry) (p : PoolId) (kind : Inquiry → Bool) : Nat :=
  past.countP fun q => q.pool == p && kind q

section Counting

variable {past more : List Inquiry} {c : ConnectionId} {kind : Inquiry → Bool}

theorem callsOn_append (past more : List Inquiry) (c : ConnectionId) (kind : Inquiry → Bool) :
    callsOn (past ++ more) c kind = callsOn past c kind + callsOn more c kind :=
  List.countP_append

/-- Where no call was made there is none of any kind. -/
theorem callsOn_eq_zero (h : ∀ q ∈ past, q.connection ≠ c) (kind : Inquiry → Bool) :
    callsOn past c kind = 0 := by
  refine List.countP_eq_zero.mpr fun q hq => ?_
  rw [beq_eq_false_iff_ne.mpr (h q hq), Bool.false_and]
  exact Bool.false_ne_true

theorem callsOn_singleton (q : Inquiry) (kind : Inquiry → Bool) :
    callsOn [q] q.connection kind = (kind q).toNat := by
  rw [callsOn, List.countP_singleton, beq_self_eq_true, Bool.true_and]
  cases kind q <;> rfl

/-- An eligible call is a hit or a miss. -/
theorem callsOn_eligible (past : List Inquiry) (c : ConnectionId) :
    callsOn past c Inquiry.eligible
      = callsOn past c Inquiry.hit + callsOn past c Inquiry.missed := by
  induction past with
  | nil => rfl
  | cons q rest ih =>
      have hone : ∀ kind, callsOn (q :: rest) c kind
          = callsOn rest c kind + (q.connection == c && kind q).toNat := fun kind => by
        rw [callsOn, List.countP_cons]
        cases q.connection == c && kind q <;> rfl
      rw [hone, hone, hone, ih]
      unfold Inquiry.hit Inquiry.missed
      cases q.connection == c <;> cases q.eligible <;> cases q.parked <;> simp <;> omega

/-- The calls in a pool are those on its connections. -/
theorem sum_callsOn (F : Finset ConnectionId) {p : PoolId}
    (hF : ∀ q ∈ past, q.connection ∈ F ↔ q.pool = p) (kind : Inquiry → Bool) :
    ∑ c ∈ F, callsOn past c kind = callsIn past p kind := by
  induction past with
  | nil => exact Finset.sum_const_zero
  | cons q rest ih =>
      have hrest := ih fun r hr => hF r (List.mem_cons_of_mem _ hr)
      have hone : ∀ c, callsOn (q :: rest) c kind
          = callsOn rest c kind + if q.connection = c then (kind q).toNat else 0 := fun c => by
        rw [callsOn, List.countP_cons]
        by_cases hc : q.connection = c
        · rw [if_pos hc, beq_iff_eq.mpr hc, Bool.true_and]
          cases kind q <;> rfl
        · rw [if_neg hc, beq_eq_false_iff_ne.mpr hc, Bool.false_and]
          rfl
      rw [Finset.sum_congr rfl fun c _ => hone c, Finset.sum_add_distrib, hrest, Finset.sum_ite_eq,
        callsIn, callsIn, List.countP_cons]
      congr 1
      have hq := hF q List.mem_cons_self
      by_cases hp : q.pool = p
      · rw [if_pos (hq.mpr hp), beq_iff_eq.mpr hp, Bool.true_and]
        cases kind q <;> rfl
      · rw [if_neg fun hm => hp (hq.mp hm), beq_eq_false_iff_ne.mpr hp, Bool.false_and]
        rfl

end Counting

namespace World

/-- **The tallies of a connection agree with the calls that were made on it.** -/
structure Agrees (w : World) (past : List Inquiry) (c : ConnectionId) : Prop where
  hits : (w.store c).hits = UInt64.ofNat (callsOn past c Inquiry.hit)
  misses : (w.store c).misses = UInt64.ofNat (callsOn past c Inquiry.missed)
  prepared : w.driver.preparationsOn (w.connection c).physical
    = callsOn past c Inquiry.missed + callsOn past c Inquiry.plain

variable {w w' : World} {past : List Inquiry} {c : ConnectionId} {q : Inquiry}

/-- One more call is tallied. -/
theorem Agrees.append (h : q.world.Agrees past q.connection) (hr : q.world.driver.Recorded)
    (ht : Tallies q w')
    (hphysical : (w'.connection q.connection).physical
      = (q.world.connection q.connection).physical) :
    w'.Agrees (past ++ [q]) q.connection where
  hits := by
    rw [ht.hits, h.hits, callsOn_append, callsOn_singleton, UInt64.ofNat_add]
  misses := by
    rw [ht.misses, h.misses, callsOn_append, callsOn_singleton, UInt64.ofNat_add]
  prepared := by
    rw [hphysical, ht.prepared hr, h.prepared, callsOn_append, callsOn_append, callsOn_singleton,
      callsOn_singleton]
    omega

/-- Calls on other connections are not tallied here. -/
theorem Agrees.elsewhere (h : w.Agrees past c) {more : List Inquiry}
    (hmore : ∀ q ∈ more, q.connection ≠ c) (htally : (w'.store c).tally = (w.store c).tally)
    (hprepared : w'.driver.preparationsOn (w'.connection c).physical
      = w.driver.preparationsOn (w.connection c).physical) :
    w'.Agrees (past ++ more) c := by
  have hsame : ∀ kind, callsOn (past ++ more) c kind = callsOn past c kind := fun kind => by
    rw [callsOn_append, callsOn_eq_zero hmore, Nat.add_zero]
  refine ⟨?_, ?_, ?_⟩
  · rw [hsame]
    exact (congrArg Prod.fst htally).trans h.hits
  · rw [hsame]
    exact (congrArg Prod.snd htally).trans h.misses
  · rw [hsame, hsame, hprepared, h.prepared]

/-- Nothing has been tallied of a connection on which no call was made. -/
theorem agrees_of_none (hpast : ∀ q ∈ past, q.connection ≠ c) (htally : (w.store c).tally = (0, 0))
    (hprepared : w.driver.preparationsOn (w.connection c).physical = 0) : w.Agrees past c := by
  refine ⟨?_, ?_, ?_⟩
  · rw [callsOn_eq_zero hpast]
    exact congrArg Prod.fst htally
  · rw [callsOn_eq_zero hpast]
    exact congrArg Prod.snd htally
  · rw [callsOn_eq_zero hpast, callsOn_eq_zero hpast, hprepared]

end World

namespace Session

open Custody (Moves)
open Region (everything)

variable {own : ConnectionId → Prop} {s : Session} {past : List Inquiry}

/-! ## One command -/

/-- **Everything is tallied**: the calls that were made so far, and nothing else, apart from the
connections to which clients attach caches of their own. -/
structure Tallied (own : ConnectionId → Prop) (past : List Inquiry) (s : Session) : Prop where
  fastened : s.world.Fastened own none
  recorded : s.world.driver.Recorded
  asked : ∀ q ∈ past, s.world.connections.Known q.connection
    ∧ (s.world.connection q.connection).pool = q.pool
  unused : ∀ line, ¬ s.world.driver.connections.Known line →
    s.world.driver.preparationsOn line = 0
  agrees : ∀ c k, ¬ own c → s.world.SoleCache c k → s.world.Agrees past c
  quiet : ∀ c k, s.world.SoleCache c k → ∀ q ∈ past, q.connection = c → q.hit = true →
    (q.world.perform c q.call).1.driver = q.world.driver

/-- A connection that the client has a name for is known. -/
theorem known_of_named (he : everything.Embraces s) (hs : s.Accounted) {via : Via}
    {c : ConnectionId} (h : s.connection? via = some c) : s.world.connections.Known c := by
  cases via with
  | guard name => exact (hs.live_guard h).known
  | shared name => exact he.shared name c h

/-- The line of a connection is open as long as the connection is. -/
theorem Documented.line_open (hd : s.Documented) {c : ConnectionId}
    (hc : s.world.connections.Known c) (hopen : (s.world.connection c).closed = false) :
    (s.world.driver.connection (s.world.connection c).physical).closed = false := by
  rcases hd.kept.placed c hc with hout | hidle | hgone
  · exact (hd.accounted.balanced.out_live c hout).line
  · exact (hd.accounted.balanced.waiting _ c hidle).live.line
  · exact absurd (hopen.symm.trans hgone.closed) Bool.false_ne_true

/-- **A call is tallied** where it is made. -/
theorem Tallied.tallies (h : Tallied own past s) (hd : s.Documented) {command : Command}
    {q : Inquiry} (hq : s.inquiry? command = some q) {k : CacheId}
    (hsole : s.world.SoleCache q.connection k) :
    World.Tallies q (s.run command).1.world
      ∧ (q.hit = true → (q.world.perform q.connection q.call).1.driver = q.world.driver) := by
  obtain ⟨hworld, -, hcalm⟩ := calm_of_inquiry? hq
  have hknown : s.world.connections.Known q.connection :=
    World.known_of_mem_caches (hsole.only ▸ List.mem_singleton.mpr rfl)
  obtain ⟨w, c, call⟩ := q
  obtain rfl : w = s.world := hworld
  obtain ⟨htallies, hquiet⟩ := hsole.tallies h.fastened (hd.line_open hknown) call
  refine ⟨⟨?_, ?_, fun hr => ?_⟩, hquiet⟩
  · exact (congrArg Prod.fst (hcalm.tally_of_none c)).trans htallies.hits
  · exact (congrArg Prod.snd (hcalm.tally_of_none c)).trans htallies.misses
  · have hperform : World.Calm (some c) s.world (s.world.perform c call).1 :=
      s.world.calm_perform (fun _ => rfl) (h.fastened.boundTo c)
    have hasked : (s.world.perform c call).1.driver.Recorded := hperform.recorded hr
    exact (hcalm.prepared_of_none hasked _).trans (htallies.prepared hr)

variable {command : Command} {q : Inquiry} {c : ConnectionId} {k : CacheId}

/-- A call is made in the world that there is, on a connection that is known. -/
theorem known_of_inquiry? (he : everything.Embraces s) (hs : s.Accounted)
    (hq : s.inquiry? command = some q) :
    q.world = s.world ∧ s.world.connections.Known q.connection := by
  obtain ⟨hworld, ⟨via, hvia⟩, -⟩ := calm_of_inquiry? hq
  exact ⟨hworld, known_of_named he hs hvia⟩

/-- What is touched by a call is known. -/
theorem known_of_touched (he : everything.Embraces s) (hs : s.Accounted)
    (hc : (s.inquiry? command).map Inquiry.connection = some c) : s.world.connections.Known c := by
  obtain ⟨q, hq, rfl⟩ := Option.map_eq_some_iff.mp hc
  exact (known_of_inquiry? he hs hq).2

/-- A chain with one cache had one before, if the connection was there. -/
theorem sole_before (hw : s.world.Fastened own none) {s' : Session} {touched : Option ConnectionId}
    (hun : Untallied own touched s s')
    (hchain : (s'.world.connection c).chain = (s.world.connection c).chain)
    (hsole : s'.world.SoleCache c k) : s.world.SoleCache c k := by
  obtain ⟨honly, hsure, hothers⟩ := hsole
  rw [Connection.caches, hchain] at honly
  rw [hchain] at hothers
  have hk : k ∈ (s.world.connection c).caches := by
    rw [Connection.caches, honly]
    exact List.mem_singleton.mpr rfl
  exact ⟨honly, (hun.fallible k (hw.known c k hk)).symm.trans hsure, hothers⟩

/-- **The tallies of a connection that was there** go on. -/
theorem Tallied.agrees_of_known (h : Tallied own past s) (hd : s.Documented)
    (he : everything.Embraces s)
    (ha : ∀ c, s.attached? command = some c → own c) (hown : ¬ own c)
    (hc : s.world.connections.Known c) (hsole : (s.run command).1.world.SoleCache c k) :
    (s.run command).1.world.Agrees (past ++ (s.inquiry? command).toList) c := by
  have hun := untallied_run he hd.accounted h.fastened command ha
  have hplug := hd.accounted.plugged
  obtain ⟨l, hmoves⟩ := hd.accounted.moves command
  obtain ⟨-, -, hphysical, hchain, -⟩ := hmoves.continues.connections c hc
  change ((s.run command).1.world.connection c).physical = (s.world.connection c).physical
    at hphysical
  have hbefore := sole_before h.fastened hun hchain hsole
  have hagrees := h.agrees c k hown hbefore
  by_cases hcall : ∃ q, s.inquiry? command = some q ∧ q.connection = c
  · obtain ⟨q, hq, rfl⟩ := hcall
    have htallies := (h.tallies hd hq hbefore).1
    have hworld := (known_of_inquiry? he hd.accounted hq).1
    rw [← hworld] at hagrees hphysical
    rw [hq]
    exact hagrees.append (hworld ▸ h.recorded) htallies hphysical
  · -- the call, if there is one, is made on another connection, which has another line
    have hother : ∀ d, (s.inquiry? command).map Inquiry.connection = some d → d ≠ c := by
      rintro d hd rfl
      obtain ⟨q, hq, hqd⟩ := Option.map_eq_some_iff.mp hd
      exact hcall ⟨q, hq, hqd⟩
    refine hagrees.elsewhere (fun q hq => hother _ ?_)
      (hun.tally c hown fun hc => hother c hc rfl) ?_
    · rw [Option.mem_toList.mp hq]
      rfl
    · rw [hphysical]
      exact hun.prepared h.recorded _ (fun hraw => hplug.raw_apart _ hraw c hc rfl)
        fun d hd' hline => hother d hd'
          (hplug.injective d c (known_of_touched he hd.accounted hd') hc hline)

/-- **On a line that is new** nothing has been prepared. -/
theorem Tallied.unused_after (h : Tallied own past s) (hd : s.Documented)
    (he : everything.Embraces s)
    (ha : ∀ c, s.attached? command = some c → own c) {line : PhysicalConnectionId}
    (hline : ¬ s.world.driver.connections.Known line) :
    (s.run command).1.world.driver.preparationsOn line = 0 := by
  have hun := untallied_run he hd.accounted h.fastened command ha
  have hplug := hd.accounted.plugged
  refine (hun.prepared h.recorded line (fun hraw => hline (hplug.raw_known line hraw))
    fun c hc hphysical => hline ?_).trans (h.unused line hline)
  rw [← hphysical]
  exact hplug.known c (known_of_touched he hd.accounted hc)

/-- **The tallies of a connection that is new** are empty. -/
theorem Tallied.agrees_of_new (h : Tallied own past s) (hd : s.Documented)
    (he : everything.Embraces s)
    (ha : ∀ c, s.attached? command = some c → own c) (hown : ¬ own c)
    (hc : ¬ s.world.connections.Known c)
    (hnew : (s.run command).1.world.connections.Known c) :
    (s.run command).1.world.Agrees (past ++ (s.inquiry? command).toList) c := by
  have hun := untallied_run he hd.accounted h.fastened command ha
  obtain ⟨l, hmoves⟩ := hd.accounted.moves command
  obtain ⟨hline, -⟩ := hmoves.continues.newConnections c hnew hc
  refine World.agrees_of_none (fun q hq hqc => ?_) ?_ (h.unused_after hd he ha hline)
  · rcases List.mem_append.mp hq with hq | hq
    · exact hc (hqc ▸ (h.asked q hq).1)
    · exact hc (hqc ▸ (known_of_inquiry? he hd.accounted (Option.mem_toList.mp hq)).2)
  · rw [hun.tally c hown fun htouched => hc (known_of_touched he hd.accounted htouched),
      s.world.store_of_not_known hc]
    rfl

/-- **Whatever a client does, everything is tallied**, wherever it attaches no cache by hand. -/
theorem Tallied.run (h : Tallied own past s) (hd : s.Documented) (he : everything.Embraces s)
    (command : Command) (ha : ∀ c, s.attached? command = some c → own c) :
    Tallied own (past ++ (s.inquiry? command).toList) (s.run command).1 := by
  have hun := untallied_run he hd.accounted h.fastened command ha
  obtain ⟨l, hmoves⟩ := hd.accounted.moves command
  have hstays := hmoves.continues
  refine ⟨hun.fastened h.fastened, hun.recorded h.recorded, fun q hq => ?_,
    fun line hline => h.unused_after hd he ha fun hk => hline (hstays.lines line hk),
    fun c k hown hsole => ?_, fun c k hsole q hq hqc => ?_⟩
  · rcases List.mem_append.mp hq with hq | hq
    · obtain ⟨hknown, hpool⟩ := h.asked q hq
      obtain ⟨hknown', hpool', -⟩ := hstays.connections _ hknown
      exact ⟨hknown', hpool'.trans hpool⟩
    · obtain ⟨hworld, hknown⟩ := known_of_inquiry? he hd.accounted (Option.mem_toList.mp hq)
      obtain ⟨hknown', hpool', -⟩ := hstays.connections _ hknown
      rw [Inquiry.pool, hworld]
      exact ⟨hknown', hpool'⟩
  · by_cases hc : s.world.connections.Known c
    · exact h.agrees_of_known hd he ha hown hc hsole
    · exact h.agrees_of_new hd he ha hown hc
        (World.known_of_mem_caches (hsole.only ▸ List.mem_singleton.mpr rfl))
  · have hbefore : s.world.connections.Known c → s.world.SoleCache c k := fun hc =>
      sole_before h.fastened hun (hstays.connections c hc).2.2.2.1 hsole
    rcases List.mem_append.mp hq with hq | hq
    · exact h.quiet c k (hbefore (hqc ▸ (h.asked q hq).1)) q hq hqc
    · have hasked := Option.mem_toList.mp hq
      subst hqc
      exact (h.tallies hd hasked (hbefore (known_of_inquiry? he hd.accounted hasked).2)).2

/-! ## Whole runs -/

/-- **The connections to which a run attaches caches** of the client's. -/
def attachments : Session → List Command → List ConnectionId
  | _, [] => []
  | s, command :: rest => (s.attached? command).toList ++ (s.run command).1.attachments rest

theorem Tallied.runAll (h : Tallied own past s) (hd : s.Documented) (he : everything.Embraces s)
    (commands : List Command) (ha : ∀ c ∈ s.attachments commands, own c) :
    Tallied own (past ++ s.inquiries commands) (s.runAll commands) := by
  induction commands generalizing s past with
  | nil =>
      rw [inquiries, List.append_nil]
      exact h
  | cons command rest ih =>
      have hnext := h.run hd he command fun c hc =>
        ha c (List.mem_append_left _ (Option.mem_toList.mpr hc))
      have hembraces := (he.run Region.whole_everything hd.accounted
        (Region.leaves_of_none (fun _ _ hk => hk) s command)
        (Region.securesAll_of_none (fun _ _ hk => hk) _)
        (Region.quiet_of_none (fun _ _ hk => hk) _ _)).1
      have hlast := ih hnext (hd.run command) hembraces fun c hc =>
        ha c (List.mem_append_right _ hc)
      rw [List.append_assoc] at hlast
      exact hlast

theorem tallied_empty : Tallied own [] empty where
  fastened := by
    have hnone : ∀ c, (empty.world.connection c).caches = [] := fun c =>
      congrArg Connection.caches (Registry.get_of_not_known (Registry.not_known_empty c))
    refine ⟨fun c k hk => ?_, fun c d k hk => ?_, fun k binding hb => ?_, fun c _ k hk => ?_⟩
    · rw [hnone] at hk
      cases hk
    · rw [hnone] at hk
      cases hk
    · have hcache : empty.world.cache k = default :=
        Registry.get_of_not_known (Registry.not_known_empty k)
      rw [hcache] at hb
      cases hb
    · rw [hnone] at hk
      cases hk
  recorded _ hm := nomatch hm
  asked _ hq := nomatch hq
  unused _ _ := rfl
  agrees c k _ hsole := by
    have hk := World.known_of_mem_caches (hsole.only ▸ List.mem_singleton.mpr rfl)
    exact absurd hk (Registry.not_known_empty c)
  quiet _ _ _ _ hq := nomatch hq

/-- **After a run every preparation is tallied**, on connections with one cache, the facades of
which never fail, and otherwise links that hand preparing calls on as they are. Where clients have
attached caches of their own, a look-up in these is tallied as well. -/
structure InTally (own : List ConnectionId) (past : List Inquiry) (s : Session) : Prop where
  /-- The store tallies every eligible call, as the hit or the miss that it is. -/
  lookups : ∀ c k, c ∉ own → s.world.SoleCache c k →
    (s.world.store c).hits + (s.world.store c).misses
        = UInt64.ofNat (callsOn past c Inquiry.eligible)
      ∧ (s.world.store c).hits = UInt64.ofNat (callsOn past c Inquiry.hit)
      ∧ (s.world.store c).misses = UInt64.ofNat (callsOn past c Inquiry.missed)
  /-- A statement is prepared for every miss, and for every plain call. -/
  prepared : ∀ c k, c ∉ own → s.world.SoleCache c k →
    s.world.driver.preparationsOn (s.world.connection c).physical
      = callsOn past c Inquiry.missed + callsOn past c Inquiry.plain
  /-- So it is in a pool, if all its connections are such. -/
  produced : ∀ p, (∀ c ∈ s.world.connectionsOf p, c ∉ own ∧ ∃ k, s.world.SoleCache c k) →
    ∑ c ∈ s.world.connectionsOf p,
        s.world.driver.preparationsOn (s.world.connection c).physical
      = callsIn past p Inquiry.missed + callsIn past p Inquiry.plain
  /-- At a hit the driver does nothing. -/
  quiet : ∀ c k, s.world.SoleCache c k → ∀ q ∈ past, q.connection = c → q.hit = true →
    (q.world.perform c q.call).1.driver = q.world.driver
  /-- No call fails for want of a key. -/
  keyed : ∀ q ∈ past, ∀ name method,
    (q.world.perform q.connection q.call).2 ≠ .error (.interceptor name (.invalidKey method))

/-- The connections of a pool are those on which the calls in the pool are made. -/
theorem Tallied.mem_connectionsOf (h : Tallied own past s) (p : PoolId) :
    ∀ q ∈ past, q.connection ∈ s.world.connectionsOf p ↔ q.pool = p := by
  intro q hq
  obtain ⟨hknown, hpool⟩ := h.asked q hq
  rw [World.connectionsOf, Finset.mem_filter, World.mem_everyConnection, hpool]
  exact and_iff_right hknown

theorem Tallied.inTally {own : List ConnectionId} (h : Tallied (· ∈ own) past s) :
    InTally own past s where
  lookups c k hown hsole := by
    have hagrees := h.agrees c k hown hsole
    refine ⟨?_, hagrees.hits, hagrees.misses⟩
    rw [hagrees.hits, hagrees.misses, callsOn_eligible, UInt64.ofNat_add]
  prepared c k hown hsole := (h.agrees c k hown hsole).prepared
  produced p hsole := by
    have hline : ∀ c ∈ s.world.connectionsOf p,
        s.world.driver.preparationsOn (s.world.connection c).physical
          = callsOn past c Inquiry.missed + callsOn past c Inquiry.plain := by
      intro c hc
      obtain ⟨hown, k, hk⟩ := hsole c hc
      exact (h.agrees c k hown hk).prepared
    rw [Finset.sum_congr rfl hline, Finset.sum_add_distrib,
      sum_callsOn _ (h.mem_connectionsOf p), sum_callsOn _ (h.mem_connectionsOf p)]
  quiet := h.quiet
  keyed q _ := q.world.perform_ne_invalidKey q.connection q.call

/-- **Every call that prepares is one preparation by the driver or one hit, and is tallied**,
whatever a client does. -/
theorem prepares_tallied (commands : List Command) :
    InTally (empty.attachments commands) (empty.inquiries commands) (empty.runAll commands) :=
  (tallied_empty.runAll documented_empty Region.everything_embraces_empty commands
    fun _ hc => hc).inTally

/-- A client prepares a statement and lets go of it, prepares it again, calls a procedure, leaves
out the text, and goes on after the connection was torn down. To another connection it attaches a
cache of its own, in which it looks the statement up. -/
def tallying : List Command :=
  [.pool (.start "p"
      { interceptors :=
          [{ name := "trace", role := .trace }, { name := "cache", role := .cache false }] }),
    .pool (.checkOut "p" "g"), .connection (.prepare "g" selection none),
    .connection (.prepare "g" selection none),
    .connection (.prepare "g" ⟨.prepareCall, [.text "CALL p"]⟩ none),
    .connection (.prepare "g" ⟨.prepareStatement, []⟩ none), .connection (.share "g" "c"),
    .connection (.retire "g"),
    .connection (.invoke (.shared "c") ⟨"prepareStatement", selection.args⟩ .shown none),
    .pool (.checkOut "p" "h"), .cache (.create "own" {} false),
    .cache (.attach "p" "own" (.guard "h")),
    .cache (.fetch "own" ⟨"prepareStatement", selection.args⟩ none)]

/-- One miss, one hit and one plain call: two statements are prepared. On the other connection no
call is made, yet a miss is tallied. -/
theorem prepares_tallied_tallying :
    (empty.inquiries tallying).map (fun q => (q.hit, q.missed, q.plain))
        = [(false, true, false), (true, false, false), (false, false, true), (false, false, false),
          (false, false, false)]
      ∧ (empty.runAll tallying).world.SoleCache 1 2
      ∧ empty.attachments tallying = [2]
      ∧ InTally (empty.attachments tallying) (empty.inquiries tallying) (empty.runAll tallying)
      ∧ ((empty.runAll tallying).world.store 1).tally = (1, 1)
      ∧ (empty.runAll tallying).world.driver.preparationsOn 1 = 2
      ∧ ((empty.runAll tallying).world.store 2).misses = 1 := by
  have hkinds : (empty.inquiries tallying).map (fun q => (q.hit, q.missed, q.plain))
      = [(false, true, false), (true, false, false), (false, false, true), (false, false, false),
        (false, false, false)] := by rfl
  have hsole : (empty.runAll tallying).world.SoleCache 1 2 := by
    refine ⟨by rfl, by rfl, fun interceptor hi hk call _ => ?_⟩
    have hchain : ((empty.runAll tallying).world.connection 1).chain
        = [⟨"trace", .trace⟩, ⟨cachingName, .cache 2⟩] := by rfl
    rw [hchain, List.mem_cons, List.mem_singleton] at hi
    rcases hi with rfl | rfl
    · rfl
    · cases hk
  have hattachments : empty.attachments tallying = [2] := by rfl
  have hown : 1 ∉ empty.attachments tallying := by
    rw [hattachments]
    decide
  have htally := prepares_tallied tallying
  obtain ⟨-, hhits, hmisses⟩ := htally.lookups 1 2 hown hsole
  have hprepared := htally.prepared 1 2 hown hsole
  refine ⟨hkinds, hsole, hattachments, htally, ?_, hprepared.trans (by rfl), by rfl⟩
  rw [Store.tally, hhits, hmisses]
  rfl

end Session

end ConnectionPool
