import ConnectionPool.Proofs.Client.Lockstep

/-!
# Caches are transparent

Two pools have the same configuration, except that one has a cache more among interceptors that
pass every call on. Whatever a client does with them, it cannot tell one from the other
(`Session.transparent`).
-/

set_option autoImplicit false

namespace ConnectionPool

section Starting

variable {first last : List Definition} {cache : Definition}

/-- **A pool is started in both worlds**, in one with a cache more. -/
theorem World.Alike.startWith {v w : World} (h : v.Alike w) (config : PoolConfig)
    (hpass : ∀ definition ∈ first ++ last, definition.role.PassesOn)
    (hrole : cache.role = .cache false) (hwilling : cache.refusals = [])
    (hname : cache.name ∉ (first ++ last).map Definition.name) :
    (v.startPool { config with interceptors := first ++ last }).1.Alike
        (w.startPool { config with interceptors := first ++ cache :: last }).1
      ∧ (v.startPool { config with interceptors := first ++ last }).2
        = (w.startPool { config with interceptors := first ++ cache :: last }).2 := by
  refine h.startPool (check_insert config hname) rfl (alike_insert hpass hrole hwilling)
    (fun definition hm => Or.inl (hpass definition hm)) fun definition hm => ?_
  rcases List.mem_append.mp hm with hm | hm
  · exact Or.inl (hpass definition (List.mem_append_left _ hm))
  · rcases List.mem_cons.mp hm with rfl | hm
    · exact Or.inr hrole
    · exact Or.inl (hpass definition (List.mem_append_right _ hm))

end Starting

namespace Session

/-- A client starts a pool, and has done nothing before. -/
def starting (pool : Name) (config : PoolConfig) (interceptors : List DefinitionRequest) :
    Outcome :=
  empty.run (.pool (.start pool { config, interceptors }))

theorem served_starting (pool : Name) (config : PoolConfig)
    (interceptors : List DefinitionRequest) :
    ∃ S, Served (starting pool config interceptors).1 S :=
  served_empty.run nofun

/-- Whether what a client holds under a name is closed, if it holds anything. -/
def isClosed? (s : Session) (name : Name) : Option Bool :=
  (s.statements.get? name).map fun held => s.world.isClosed held.statement

theorem isClosed?_eq (s : Session) (name : Name) :
    s.isClosed? name = (s.look? name).map Option.isNone := by
  rw [isClosed?, look?, Option.map_map]
  exact congrArg (Option.map · (s.statements.get? name))
    (funext fun held => s.world.isClosed_eq held.statement)

theorem alike_empty : empty.Alike empty := ⟨World.alike_nothing, rfl, rfl, rfl, fun _ => rfl⟩

variable {before after : List DefinitionRequest} {cache : DefinitionRequest}
  {definition : Definition}

/-- **A client starts a pool**, with or without a cache among the interceptors. -/
theorem sameOutcome_starting (pool : Name) (config : PoolConfig)
    (hpass : ∀ request ∈ before ++ after, request.role.PassesOn) (hrole : cache.role = .cache false)
    (hwilling : cache.refusals = [])
    (hname : cache.name ∉ (before ++ after).map DefinitionRequest.name)
    (hread : cache.read = .ok definition) :
    SameOutcome (starting pool config (before ++ after))
      (starting pool config (before ++ cache :: after)) := by
  have hfresh : empty.pools.contains pool = false := rfl
  simp only [starting, run, runPool, withFresh, hfresh, Bool.false_eq_true, if_false,
    PoolRequest.read_eq]
  obtain ⟨error, h, h'⟩ | ⟨first, last, h, h'⟩ := mapM_read_insert before after hread
  · rw [h, h']
    exact alike_empty.same _
  · rw [h, h']
    obtain ⟨hdname, hdrole, hdrefusals⟩ := DefinitionRequest.read_eq_ok hread
    obtain ⟨hnames, hroles⟩ := mapM_read_eq_ok h
    have hpasses : ∀ definition ∈ first ++ last, definition.role.PassesOn := by
      intro other hm
      have hmem := List.mem_map_of_mem (f := Definition.role) hm
      rw [hroles] at hmem
      obtain ⟨request, hm, hr⟩ := List.mem_map.mp hmem
      rw [← hr]
      exact hpass request hm
    have hempty : empty.world.Alike empty.world := World.alike_nothing
    obtain ⟨hw, hresult⟩ := hempty.startWith config hpasses (hdrole.trans hrole)
      (hdrefusals.trans hwilling) (by rw [hdname, hnames]; exact hname)
    simp only [Except.map]
    generalize empty.world.startPool _ = outcome at hw hresult ⊢
    generalize empty.world.startPool _ = outcome' at hw hresult ⊢
    obtain ⟨v, result⟩ := outcome
    obtain ⟨w, result'⟩ := outcome'
    cases hresult
    have h := alike_empty.inWorld hw (fun _ => rfl) fun _ => rfl
    cases result with
    | error error => exact h.same _
    | ok p => exact ⟨{ h with pools := rfl }, rfl⟩

/-- **Caches are transparent.** Two pools are started with configurations that differ in a cache
among interceptors that pass every call on. The replies to starting them are the same. Whatever
commands an ordinary client does then, with both pools in the same way: the replies to the next
one agree, and the same statements are closed. -/
theorem transparent (pool : Name) (config : PoolConfig)
    (hpass : ∀ request ∈ before ++ after, request.role.PassesOn) (hrole : cache.role = .cache false)
    (hwilling : cache.refusals = [])
    (hname : cache.name ∉ (before ++ after).map DefinitionRequest.name)
    (hread : cache.read = .ok definition) {commands : List Command}
    (hc : ∀ command ∈ commands, command.ordinary = true) :
    (starting pool config (before ++ after)).2
        = (starting pool config (before ++ cache :: after)).2
    ∧ (∀ command : Command, command.ordinary = true →
      ((starting pool config (before ++ after)).1.runAll commands).Agree command
        (((starting pool config (before ++ after)).1.runAll commands).run command).2
        (((starting pool config (before ++ cache :: after)).1.runAll commands).run command).2)
    ∧ ∀ name, ((starting pool config (before ++ after)).1.runAll commands).isClosed? name
      = ((starting pool config (before ++ cache :: after)).1.runAll commands).isClosed? name := by
  obtain ⟨halike, hreply⟩ := sameOutcome_starting pool config hpass hrole hwilling hname hread
  obtain ⟨S, hs⟩ := served_starting pool config (before ++ after)
  obtain ⟨T, ht⟩ := served_starting pool config (before ++ cache :: after)
  have h := halike.runAll hs ht hc
  obtain ⟨S', hs'⟩ := hs.runAll hc
  obtain ⟨T', ht'⟩ := ht.runAll hc
  refine ⟨hreply, fun command hcommand => (h.run hs' ht' hcommand).2, fun name => ?_⟩
  rw [isClosed?_eq, isClosed?_eq, h.looks]

/-- Interceptors that pass calls on. -/
def outer : List DefinitionRequest := [{ name := "outer" }]

def inner : List DefinitionRequest := [{ name := "inner", role := .trace }]

/-- A cache as it is unless it is told otherwise. -/
def caching : DefinitionRequest := { name := "cache", role := .cache false }

/-- A client checks a connection out, prepares a statement and closes its handle. -/
def preparing : List Command :=
  [.pool (.checkOut "p" "g"), .connection (.prepare "g" selection (some "a")),
    .statement (.close "a")]

/-- It prepares the statement again. -/
def preparingAgain : Command := .connection (.prepare "g" selection (some "b"))

/-- A client prepares a statement, closes its handle and prepares the statement again. It gets the
same replies, whether the driver prepares a second statement for it or the cache has kept the
first. -/
theorem transparent_recycling :
    (starting "p" {} (outer ++ inner)).2 = (starting "p" {} (outer ++ caching :: inner)).2
      ∧ (((starting "p" {} (outer ++ inner)).1.runAll preparing).run preparingAgain).2
        = (((starting "p" {} (outer ++ caching :: inner)).1.runAll preparing).run
          preparingAgain).2
      ∧ (∀ name, ((starting "p" {} (outer ++ inner)).1.runAll preparing).isClosed? name
        = ((starting "p" {} (outer ++ caching :: inner)).1.runAll preparing).isClosed? name)
      ∧ (((starting "p" {} (outer ++ inner)).1.runAll preparing).run
        preparingAgain).1.world.driver.log.preparationCount = 2
      ∧ (((starting "p" {} (outer ++ caching :: inner)).1.runAll preparing).run
        preparingAgain).1.world.driver.log.preparationCount = 1 := by
  have hpass : ∀ request ∈ outer ++ inner, request.role.PassesOn := by
    simp [outer, inner, Role.PassesOn]
  have hrole : caching.role = .cache false := rfl
  have hname : caching.name ∉ (outer ++ inner).map DefinitionRequest.name := by
    simp [caching, outer, inner]
  have hread : caching.read = .ok { name := "cache", role := .cache false } := rfl
  have hc : ∀ command ∈ preparing, command.ordinary = true := by
    simp [preparing, Command.ordinary, PoolCommand.ordinary, ConnectionCommand.ordinary,
      StatementCommand.ordinary]
  obtain ⟨hstart, hreply, hclosed⟩ := transparent "p" {} hpass hrole rfl hname hread hc
  exact ⟨hstart, hreply preparingAgain rfl, hclosed, by rfl, by rfl⟩

end Session

end ConnectionPool
