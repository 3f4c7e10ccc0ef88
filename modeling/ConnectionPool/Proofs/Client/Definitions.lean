import ConnectionPool.Session.Request
import ConnectionPool.World

/-!
# A cache more among the definitions

The definitions of a pool are read, checked and asked to make interceptors. Where one is added that
makes caches and never refuses, this comes out as before: the others can be read or not, a name is
repeated or not, and the same attempts are refused.
-/

set_option autoImplicit false

namespace ConnectionPool

/-- **A role passes every call on**: it does not act on any operation. -/
def Role.PassesOn {γ : Type} : Role γ → Prop
  | .pass => True
  | .trace => True
  | .answerTruth scope _ => ∀ method, scope.covers method = false
  | .answerStatement scope => ∀ method, scope.covers method = false
  | .reject scope => ∀ method, scope.covers method = false
  | .appendFlag scope => ∀ method, scope.covers method = false
  | .cache _ => False

/-- Whether caches are made from a definition. -/
def Definition.isCache (definition : Definition) : Bool :=
  match definition.role with
  | .cache _ => true
  | _ => false

theorem not_isCache_of_passesOn {definition : Definition} (h : definition.role.PassesOn) :
    definition.isCache = false := by
  unfold Definition.isCache
  cases hr : definition.role with
  | cache fallible =>
      rw [hr] at h
      exact absurd h id
  | _ => rfl

/-- What is made from a definition passes every call on, or is a cache that cannot be made to
fail. -/
def Definition.Clear (definition : Definition) : Prop :=
  definition.role.PassesOn ∨ definition.role = .cache false

/-! ## Attempts -/

/-- **Sources are alike** apart from those of caches, which never refuse. -/
structure Source.Alike (sources sources' : List Source) : Prop where
  others : sources.filter (!·.definition.isCache) = sources'.filter (!·.definition.isCache)
  willing : ∀ source ∈ sources, source.definition.isCache = true → source.definition.refusals = []
  willing' : ∀ source ∈ sources', source.definition.isCache = true →
    source.definition.refusals = []

namespace Source

theorem Alike.symm {sources sources' : List Source} (h : Alike sources sources') :
    Alike sources' sources :=
  ⟨h.others.symm, h.willing', h.willing⟩

theorem definition_attempt (source : Source) : source.attempt.definition = source.definition := rfl

/-- Attempts at caches that never refuse make no difference. -/
theorem attemptAll_filter {sources : List Source}
    (h : ∀ source ∈ sources, source.definition.isCache = true → source.definition.refusals = []) :
    (attemptAll sources).1.filter (!·.definition.isCache)
        = (attemptAll (sources.filter (!·.definition.isCache))).1
      ∧ (attemptAll sources).2 = (attemptAll (sources.filter (!·.definition.isCache))).2 := by
  induction sources with
  | nil => exact ⟨rfl, rfl⟩
  | cons source rest ih =>
      obtain ⟨ih₁, ih₂⟩ := ih fun source hm => h source (List.mem_cons_of_mem _ hm)
      have hwilling := h source List.mem_cons_self
      cases hk : source.definition.isCache with
      | true =>
          have hrefused : source.attempt.refused = false := by
            rw [refused, definition_attempt, hwilling hk]
            rfl
          have hfilter : (source :: rest).filter (!·.definition.isCache)
              = rest.filter (!·.definition.isCache) :=
            List.filter_cons_of_neg (by simp [hk])
          rw [hfilter, ← ih₂, ← ih₁, attemptAll]
          simp only [hrefused, Bool.false_eq_true, if_false]
          exact ⟨List.filter_cons_of_neg (by simp [definition_attempt, hk]), trivial⟩
      | false =>
          have hfilter : (source :: rest).filter (!·.definition.isCache)
              = source :: rest.filter (!·.definition.isCache) :=
            List.filter_cons_of_pos (by simp [hk])
          rw [hfilter, attemptAll, attemptAll]
          cases hrefused : source.attempt.refused with
          | true =>
              simp only [if_true]
              exact ⟨by rw [List.filter_cons_of_pos (by simp [definition_attempt, hk])], trivial⟩
          | false =>
              simp only [Bool.false_eq_true, if_false]
              exact ⟨by rw [List.filter_cons_of_pos (by simp [definition_attempt, hk]), ih₁], ih₂⟩

/-- Attempts leave the definitions as they are. -/
theorem definitions_attemptAll (sources : List Source) :
    (attemptAll sources).1.map definition = sources.map definition := by
  induction sources with
  | nil => rfl
  | cons source rest ih =>
      rw [attemptAll]
      cases hrefused : source.attempt.refused with
      | true => rfl
      | false =>
          simp only [Bool.false_eq_true, if_false, List.map_cons, ih]
          rfl

theorem willing_attemptAll {sources : List Source}
    (h : ∀ source ∈ sources, source.definition.isCache = true → source.definition.refusals = []) :
    ∀ source ∈ (attemptAll sources).1, source.definition.isCache = true →
      source.definition.refusals = [] := by
  intro source hm
  have hmap : source.definition ∈ sources.map definition := by
    rw [← definitions_attemptAll]
    exact List.mem_map_of_mem hm
  obtain ⟨source', hm', hd⟩ := List.mem_map.mp hmap
  rw [← hd]
  exact h source' hm'

theorem Alike.attemptAll {sources sources' : List Source} (h : Alike sources sources') :
    Alike (attemptAll sources).1 (Source.attemptAll sources').1
      ∧ (Source.attemptAll sources).2 = (Source.attemptAll sources').2 := by
  obtain ⟨h₁, h₂⟩ := attemptAll_filter h.willing
  obtain ⟨h₁', h₂'⟩ := attemptAll_filter h.willing'
  refine ⟨⟨?_, willing_attemptAll h.willing, willing_attemptAll h.willing'⟩, ?_⟩
  · rw [h₁, h₁', h.others]
  · rw [h₂, h₂', h.others]

end Source

/-! ## Names -/

/-- Names that are seen make a difference only where they come again. -/
theorem firstRepeated?_congr (names : List String) :
    ∀ {seen seen' : List String}, (∀ name ∈ names, name ∈ seen ↔ name ∈ seen') →
      firstRepeated? seen names = firstRepeated? seen' names := by
  induction names with
  | nil => exact fun _ => rfl
  | cons name rest ih =>
      intro seen seen' h
      have hname : seen.contains name = seen'.contains name := by
        rw [Bool.eq_iff_iff, List.contains_iff_mem, List.contains_iff_mem]
        exact h name List.mem_cons_self
      rw [firstRepeated?, firstRepeated?, hname]
      split
      · rfl
      · refine ih fun other hm => ?_
        rw [List.mem_cons, List.mem_cons, h other (List.mem_cons_of_mem _ hm)]

/-- A name that does not come otherwise is not repeated. -/
theorem firstRepeated?_insert {name : String} {after : List String} (before : List String) :
    ∀ {seen : List String}, name ∉ seen → name ∉ before ++ after →
      firstRepeated? seen (before ++ name :: after) = firstRepeated? seen (before ++ after) := by
  induction before with
  | nil =>
      intro seen hseen hother
      have hname : seen.contains name = false := by simpa using hseen
      rw [List.nil_append, List.nil_append, firstRepeated?, hname]
      simp only [Bool.false_eq_true, if_false]
      refine firstRepeated?_congr after fun other hm => ?_
      rw [List.mem_cons]
      refine ⟨fun h => h.resolve_left ?_, Or.inr⟩
      rintro rfl
      exact hother hm
  | cons first before ih =>
      intro seen hseen hother
      rw [List.cons_append, List.cons_append, firstRepeated?, firstRepeated?]
      split
      · rfl
      · refine ih ?_ fun hm => hother (List.mem_cons_of_mem _ hm)
        rw [List.mem_cons]
        rintro (rfl | hm)
        · exact hother List.mem_cons_self
        · exact hseen hm

/-! ## Reading -/

theorem DefinitionRequest.read_eq_ok {request : DefinitionRequest} {definition : Definition}
    (h : request.read = .ok definition) :
    definition.name = request.name ∧ definition.role = request.role
      ∧ definition.refusals = request.refusals := by
  unfold DefinitionRequest.read at h
  cases hl : request.line with
  | none =>
      rw [hl] at h
      cases h
      exact ⟨rfl, rfl, rfl⟩
  | some line =>
      rw [hl] at h
      cases hp : Properties.parse line with
      | error error =>
          simp only [hp] at h
          exact nomatch h
      | ok properties =>
          simp only [hp] at h
          cases h
          exact ⟨rfl, rfl, rfl⟩

/-- What is read from a list of requests has their names and roles. -/
theorem mapM_read_eq_ok {requests : List DefinitionRequest} :
    ∀ {definitions : List Definition}, requests.mapM DefinitionRequest.read = .ok definitions →
      definitions.map Definition.name = requests.map DefinitionRequest.name
        ∧ definitions.map Definition.role = requests.map DefinitionRequest.role := by
  induction requests with
  | nil =>
      rintro definitions ⟨⟩
      exact ⟨rfl, rfl⟩
  | cons request rest ih =>
      intro definitions h
      rw [List.mapM_cons] at h
      cases hr : request.read with
      | error error =>
          rw [hr] at h
          exact nomatch h
      | ok definition =>
          rw [hr] at h
          cases hrest : rest.mapM DefinitionRequest.read with
          | error error =>
              rw [hrest] at h
              exact nomatch h
          | ok definitions' =>
              rw [hrest] at h
              cases h
              obtain ⟨hname, hrole, -⟩ := DefinitionRequest.read_eq_ok hr
              obtain ⟨hnames, hroles⟩ := ih hrest
              rw [List.map_cons, List.map_cons, List.map_cons, List.map_cons, hname, hnames, hrole,
                hroles]
              exact ⟨rfl, rfl⟩

/-- Either some definition cannot be read, with or without one more that can be, or all of them
can. -/
theorem mapM_read_insert (before after : List DefinitionRequest) {cache : DefinitionRequest}
    {definition : Definition} (hc : cache.read = .ok definition) :
    (∃ error, (before ++ after).mapM DefinitionRequest.read = .error error
      ∧ (before ++ cache :: after).mapM DefinitionRequest.read = .error error)
    ∨ ∃ first last, (before ++ after).mapM DefinitionRequest.read = .ok (first ++ last)
      ∧ (before ++ cache :: after).mapM DefinitionRequest.read
        = .ok (first ++ definition :: last) := by
  rw [List.mapM_append, List.mapM_append, List.mapM_cons, hc]
  cases before.mapM DefinitionRequest.read with
  | error error => exact Or.inl ⟨error, rfl, rfl⟩
  | ok first =>
      cases after.mapM DefinitionRequest.read with
      | error error => exact Or.inl ⟨error, rfl, rfl⟩
      | ok last => exact Or.inr ⟨first, last, rfl, rfl⟩

theorem PoolRequest.read_eq (config : PoolConfig) (interceptors : List DefinitionRequest) :
    PoolRequest.read { config, interceptors }
      = (interceptors.mapM DefinitionRequest.read).map fun interceptors =>
        { config with interceptors } := by
  rw [PoolRequest.read]
  cases interceptors.mapM DefinitionRequest.read <;> rfl

/-! ## A cache more -/

section Insert

variable {first last : List Definition} {cache : Definition}

/-- A cache more does not make a configuration invalid, or valid. -/
theorem check_insert (config : PoolConfig)
    (hname : cache.name ∉ (first ++ last).map Definition.name) :
    { config with interceptors := first ++ last }.check
      = { config with interceptors := first ++ cache :: last }.check := by
  simp only [PoolConfig.check, List.map_append, List.map_cons] at hname ⊢
  rw [firstRepeated?_insert _ List.not_mem_nil hname]

/-- A cache that never refuses makes no difference to the others. -/
theorem alike_insert (hpass : ∀ definition ∈ first ++ last, definition.role.PassesOn)
    (hrole : cache.role = .cache false) (hwilling : cache.refusals = []) :
    Source.Alike ((first ++ last).map fun definition => { definition })
      ((first ++ cache :: last).map fun definition => { definition }) := by
  have hcache : cache.isCache = true := by rw [Definition.isCache, hrole]
  refine ⟨?_, fun source hsource hk => ?_, fun source hsource hk => ?_⟩
  · rw [List.map_append, List.map_append, List.map_cons, List.filter_append, List.filter_append,
      List.filter_cons_of_neg (by simp [hcache])]
  · obtain ⟨definition, hm, rfl⟩ := List.mem_map.mp hsource
    rw [not_isCache_of_passesOn (hpass definition hm)] at hk
    exact nomatch hk
  · obtain ⟨definition, hm, rfl⟩ := List.mem_map.mp hsource
    rcases List.mem_append.mp hm with hm | hm
    · rw [not_isCache_of_passesOn (hpass definition (List.mem_append_left _ hm))] at hk
      exact nomatch hk
    · rcases List.mem_cons.mp hm with rfl | hm
      · exact hwilling
      · rw [not_isCache_of_passesOn (hpass definition (List.mem_append_right _ hm))] at hk
        exact nomatch hk

end Insert

end ConnectionPool
