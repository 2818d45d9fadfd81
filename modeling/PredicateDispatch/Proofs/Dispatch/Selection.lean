import Mathlib.Data.Nat.Notation
import PredicateDispatch.Proofs.Resolution.Ranking
import PredicateDispatch.Registry

/-!
# Selection with a sound cache

A remembered selection is sound while resolving would find the same for the
entries, the forest and the metric as they are now.  With a sound cache the
answer of a selection is that of a plain one, which has no cache to look at,
and the cache stays sound.
-/

namespace PredicateDispatch

variable {Code : Type}

/-! ## Selection without a cache -/

/-- What a resolution leaves to be remembered: a position, or that no entry
accepts the types.  A tie leaves nothing. -/
def Resolution.settled? : Resolution → Option (Option ℕ)
  | noMatch => some none
  | unique best => some (some best.index)
  | ambiguous _ => none

/-- What a resolution answers, a tie by its signatures or as no entry. -/
def Resolution.answer (function : GenericFunction Code) (types : Signature)
    (tolerateTie : Bool) : Resolution → Except Error (Option ℕ)
  | noMatch => .ok none
  | unique best => .ok (some best.index)
  | ambiguous tied =>
    if tolerateTie then .ok none
    else .error (.ambiguous function.name types
      (tied.filterMap fun candidate => function.signatures[candidate.index]?))

theorem Resolution.answer_of_settled? {resolution : Resolution}
    {selected : Option ℕ} (hsettled : resolution.settled? = some selected)
    (function : GenericFunction Code) (types : Signature) (tolerateTie : Bool) :
    resolution.answer function types tolerateTie = .ok selected := by
  cases resolution with
  | noMatch => exact congrArg Except.ok (Option.some.inj hsettled)
  | unique best => exact congrArg Except.ok (Option.some.inj hsettled)
  | ambiguous tied => simp [settled?] at hsettled

namespace Catalog

/-- Selection as the catalog alone decides it. -/
def selection (catalog : Catalog Code) (id : ℕ) (types : Signature)
    (metric : Metric) (tolerateTie : Bool) : Except Error (Option ℕ) :=
  match catalog.function? id with
  | none => .error (.unknownNumber id)
  | some function =>
    (catalog.hierarchy.resolve metric function.signatures types).answer function
      types tolerateTie

/-- Resolving would find what is remembered. -/
def Justifies (catalog : Catalog Code) (entry : CachedSelection) : Prop :=
  ∃ function, catalog.function? entry.function = some function ∧
    ∀ types : Signature, types.ids = entry.types →
      (catalog.hierarchy.resolve catalog.metric function.signatures
        types).settled? = some entry.selected

/-- What is remembered of a function stays justified as long as the metric,
the resolutions of the forest and the signatures of the function do. -/
theorem Justifies.of_unchanged {catalog changed : Catalog Code}
    {entry : CachedSelection} (hjustified : catalog.Justifies entry)
    (hmetric : changed.metric = catalog.metric)
    (hresolve : changed.hierarchy.resolve = catalog.hierarchy.resolve)
    (hsignatures : ∀ function,
      catalog.function? entry.function = some function →
        ∃ function', changed.function? entry.function = some function' ∧
          function'.signatures = function.signatures) :
    changed.Justifies entry := by
  obtain ⟨function, hfunction, hsettled⟩ := hjustified
  obtain ⟨function', hfunction', heq⟩ := hsignatures function hfunction
  refine ⟨function', hfunction', fun types hids => ?_⟩
  rw [hmetric, hresolve, heq]
  exact hsettled types hids

end Catalog

namespace Registry

/-! ## Sound caches -/

/-- Everything remembered is what resolving would find now. -/
def CacheSound (registry : Registry Code) : Prop :=
  ∀ entry ∈ registry.cache, registry.toCatalog.Justifies entry

theorem cacheSound_of_cache_eq_nil {registry : Registry Code}
    (hempty : registry.cache = []) : registry.CacheSound := by
  intro entry hentry
  rw [hempty] at hentry
  exact absurd hentry List.not_mem_nil

theorem settled?_of_cached? {registry : Registry Code}
    (hsound : registry.CacheSound) {id : ℕ} {types : Signature}
    {selected : Option ℕ} (hcached : registry.cached? id types = some selected)
    {function : GenericFunction Code}
    (hfunction : registry.function? id = some function) :
    (registry.hierarchy.resolve registry.metric function.signatures
      types).settled? = some selected := by
  obtain ⟨entry, hfind, rfl⟩ := Option.map_eq_some_iff.mp hcached
  have hkey := List.find?_some hfind
  simp only [Bool.and_eq_true, beq_iff_eq] at hkey
  obtain ⟨function', hfunction', hsettled⟩ :=
    hsound entry (List.mem_of_find?_eq_some hfind)
  rw [hkey.1, hfunction] at hfunction'
  obtain rfl : function = function' := Option.some.inj hfunction'
  exact hsettled types hkey.2.symm

theorem CacheSound.remember {registry : Registry Code}
    (hsound : registry.CacheSound) {id : ℕ} {types : Signature}
    {selected : Option ℕ} {function : GenericFunction Code}
    (hfunction : registry.function? id = some function)
    (hsettled : (registry.hierarchy.resolve registry.metric function.signatures
      types).settled? = some selected) :
    (registry.remember id types selected).CacheSound := by
  intro entry hentry
  rcases List.mem_cons.mp hentry with rfl | hold
  · refine ⟨function, hfunction, fun types' hids => ?_⟩
    change (registry.hierarchy.resolve registry.metric function.signatures
      types').settled? = some selected
    rw [registry.hierarchy.resolve_congr registry.metric function.signatures
      hids, hsettled]
  · exact hsound entry hold

/-! ## Selection -/

/-- Selecting changes nothing that dispatch depends on. -/
@[simp]
theorem toCatalog_select (registry : Registry Code) (id : ℕ)
    (types : Signature) (metric : Metric) (useCache tolerateTie : Bool) :
    (registry.select id types metric useCache tolerateTie).2.toCatalog =
      registry.toCatalog := by
  rw [select, selectBy]
  cases registry.function? id with
  | none => rfl
  | some function =>
      dsimp only
      split
      · rfl
      · split
        · cases useCache <;> rfl
        · cases useCache <;> rfl
        · cases tolerateTie <;> rfl

/-- With a sound cache, selecting answers as the catalog decides. -/
theorem select_answer {registry : Registry Code}
    (hsound : registry.CacheSound) (id : ℕ) (types : Signature)
    {metric : Metric} {useCache : Bool} (tolerateTie : Bool)
    (hmetric : useCache = true → metric = registry.metric) :
    (registry.select id types metric useCache tolerateTie).1 =
      registry.toCatalog.selection id types metric tolerateTie := by
  rw [select, selectBy, Catalog.selection]
  cases hfunction : registry.function? id with
  | none => rfl
  | some function =>
      dsimp only
      split
      case h_1 selected hcached =>
        cases useCache with
        | false => simp at hcached
        | true =>
            obtain rfl := hmetric rfl
            rw [if_pos rfl] at hcached
            exact (Resolution.answer_of_settled?
              (settled?_of_cached? hsound hcached hfunction) function types
              tolerateTie).symm
      case h_2 =>
        cases registry.hierarchy.resolve metric function.signatures types with
        | noMatch => rfl
        | unique best => rfl
        | ambiguous tied => cases tolerateTie <;> rfl

theorem CacheSound.selectConfigured_answer {registry : Registry Code}
    (hsound : registry.CacheSound) {id : ℕ} {function : GenericFunction Code}
    (hfunction : registry.function? id = some function) (types : Signature)
    (tolerateTie : Bool) :
    (registry.selectConfigured id types tolerateTie).1 =
      (registry.hierarchy.resolve registry.metric function.signatures
        types).answer function types tolerateTie := by
  calc (registry.selectConfigured id types tolerateTie).1
      = registry.toCatalog.selection id types registry.metric tolerateTie :=
        select_answer hsound id types tolerateTie fun _ => rfl
    _ = (registry.hierarchy.resolve registry.metric function.signatures
          types).answer function types tolerateTie := by
        rw [Catalog.selection, hfunction]

theorem CacheSound.select {registry : Registry Code}
    (hsound : registry.CacheSound) (id : ℕ) (types : Signature)
    {metric : Metric} {useCache : Bool} (tolerateTie : Bool)
    (hmetric : useCache = true → metric = registry.metric) :
    (registry.select id types metric useCache tolerateTie).2.CacheSound := by
  have hrecord : ∀ event, (registry.record event).CacheSound := fun _ => hsound
  rw [Registry.select, selectBy]
  cases hfunction : registry.function? id with
  | none => exact hsound
  | some function =>
      -- What is found is remembered only if the cache is in use, and then it
      -- was found under the metric of the registry.
      have hsettle : ∀ event selected,
          (registry.hierarchy.resolve metric function.signatures
            types).settled? = some selected →
          (if useCache then (registry.record event).remember id types selected
            else registry.record event).CacheSound := by
        intro event selected hsettled
        split
        case isTrue huse =>
          rw [hmetric huse] at hsettled
          exact (hrecord event).remember hfunction hsettled
        case isFalse => exact hrecord event
      dsimp only
      split
      · exact hrecord _
      · cases hresolve : registry.hierarchy.resolve metric function.signatures
          types with
        | noMatch => exact hsettle _ none (by rw [hresolve]; rfl)
        | unique best => exact hsettle _ (some best.index) (by rw [hresolve]; rfl)
        | ambiguous tied => cases tolerateTie <;> exact hrecord _

end Registry

end PredicateDispatch
