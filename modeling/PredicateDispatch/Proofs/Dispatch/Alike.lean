import PredicateDispatch.Proofs.Dispatch.Selection
import PredicateDispatch.Registry.Operation

/-!
# Registries that differ in what they remember

Two registries are alike when they have one catalog and both caches are sound.
Whether and what they remember may differ.  Every operation answers the same on
both and leaves them alike, so that nothing that is asked of a registry, in
whatever order, can tell them apart.
-/

namespace PredicateDispatch

variable {Code α β : Type}

namespace Operation

/-- An operation that selects through the cache does so under `metric`.  Only
a selection may choose its metric. -/
def CachesUnder (metric : Metric) : Operation Code → Prop
  | select _ _ chosen useCache _ => useCache = true → chosen = metric
  | _ => True

/-- An operation that only asks. -/
def isQuestion : Operation Code → Bool
  | inspect => true
  | resolve _ _ _ => true
  | select _ _ _ _ _ => true
  | probe _ _ => true
  | _ => false

end Operation

namespace Registry

/-- One catalog, under the given metric, and two sound caches. -/
structure Alike (metric : Metric) (left right : Registry Code) : Prop where
  catalog : left.toCatalog = right.toCatalog
  metric_eq : left.metric = metric
  left_sound : left.CacheSound
  right_sound : right.CacheSound

/-- Equal answers, and registries that are alike. -/
def AlikeOutcomes (metric : Metric)
    (left right : Except Error α × Registry Code) : Prop :=
  left.1 = right.1 ∧ Alike metric left.2 right.2

/-! ## Changes of the catalog -/

theorem function?_modifyFunction_self (catalog : Catalog Code) (id : ℕ)
    (change : GenericFunction Code → GenericFunction Code) :
    (catalog.modifyFunction id change).function? id =
      (catalog.function? id).map change := by
  simp [Catalog.modifyFunction, Catalog.function?, Array.getElem?_modify]

theorem function?_modifyFunction_of_ne (catalog : Catalog Code) {id other : ℕ}
    (hne : other ≠ id)
    (change : GenericFunction Code → GenericFunction Code) :
    (catalog.modifyFunction id change).function? other =
      catalog.function? other := by
  simp [Catalog.modifyFunction, Catalog.function?, Array.getElem?_modify,
    Ne.symm hne]

theorem function?_addFunction_of_some {catalog : Catalog Code}
    {function : GenericFunction Code} {id : ℕ} {existing : GenericFunction Code}
    (hexisting : catalog.function? id = some existing) :
    (catalog.addFunction function).function? id = some existing := by
  have hlt : id < catalog.functions.size := by
    by_contra hge
    simp [Catalog.function?, Array.getElem?_eq_none (Nat.le_of_not_lt hge)]
      at hexisting
  change (catalog.functions.push function)[id]? = some existing
  rw [Array.getElem?_push, if_neg (Nat.ne_of_lt hlt)]
  exact hexisting

/-- Changing one function leaves what is remembered of the others sound. -/
theorem CacheSound.forget_modifyFunction {registry : Registry Code}
    (hsound : registry.CacheSound) (id : ℕ)
    (change : GenericFunction Code → GenericFunction Code) :
    (forget { registry with toCatalog := registry.modifyFunction id change }
      id).CacheSound := by
  intro entry hentry
  obtain ⟨hold, hother⟩ := List.mem_filter.mp hentry
  have hne : entry.function ≠ id := by simpa using hother
  refine (hsound entry hold).of_unchanged rfl rfl ?_
  intro function hfunction
  have hkept : (registry.modifyFunction id change).function? entry.function =
      some function := by
    rw [function?_modifyFunction_of_ne _ hne, hfunction]
  exact ⟨function, hkept, rfl⟩

/-- A change that keeps the signatures keeps everything remembered sound. -/
theorem CacheSound.modifyFunction {registry : Registry Code}
    (hsound : registry.CacheSound) (id : ℕ)
    {change : GenericFunction Code → GenericFunction Code}
    (hchange : ∀ function, (change function).signatures = function.signatures)
    (tests : Std.TreeMap ℕ ℕ) :
    CacheSound { registry with
      toCatalog := { registry.modifyFunction id change with tests := tests } } := by
  intro entry hentry
  refine (hsound entry hentry).of_unchanged rfl rfl ?_
  intro function hfunction
  by_cases hid : entry.function = id
  · -- The changed function keeps its signatures, and resolving sees no more.
    have hchanged : (registry.modifyFunction id change).function?
        entry.function = some (change function) := by
      rw [hid, function?_modifyFunction_self, ← hid, hfunction]
      rfl
    exact ⟨change function, hchanged, hchange function⟩
  · have hkept : (registry.modifyFunction id change).function?
        entry.function = some function := by
      rw [function?_modifyFunction_of_ne _ hid, hfunction]
    exact ⟨function, hkept, rfl⟩

theorem CacheSound.addFunction {registry : Registry Code}
    (hsound : registry.CacheSound) (function : GenericFunction Code)
    (tests : Std.TreeMap ℕ ℕ) :
    CacheSound { registry with
      toCatalog := { registry.addFunction function with tests := tests } } := by
  intro entry hentry
  refine (hsound entry hentry).of_unchanged rfl rfl ?_
  intro existing hexisting
  exact ⟨existing, function?_addFunction_of_some hexisting, rfl⟩

theorem CacheSound.createPredicate {registry : Registry Code}
    (hsound : registry.CacheSound) (name : String) :
    (registry.createPredicate name).CacheSound := by
  intro entry hentry
  refine (hsound entry hentry).of_unchanged rfl
    (registry.hierarchy.resolve_create name) ?_
  intro function hfunction
  exact ⟨function, hfunction, rfl⟩

/-! ## Every operation keeps registries alike -/

theorem entryAt?_congr {left right : Registry Code}
    (hcatalog : left.toCatalog = right.toCatalog) :
    left.entryAt? = right.entryAt? := by
  funext id selected
  simp only [entryAt?, hcatalog]

theorem isCovered_congr {left right : Registry Code}
    (hcatalog : left.toCatalog = right.toCatalog) :
    left.isCovered = right.isCovered := by
  funext parent covering
  simp only [isCovered, hcatalog]

theorem resolve_eq (registry : Registry Code) (id : ℕ) (types : Signature)
    (tolerateTie : Bool) :
    registry.resolve id types tolerateTie =
      ((registry.selectConfigured id types tolerateTie).1.map
          (registry.entryAt? id),
        (registry.selectConfigured id types tolerateTie).2) := rfl

theorem CacheSound.resolve_answer {registry : Registry Code}
    (hsound : registry.CacheSound) {id : ℕ} {function : GenericFunction Code}
    (hfunction : registry.function? id = some function) (types : Signature)
    (tolerateTie : Bool) :
    (registry.resolve id types tolerateTie).1 =
      ((registry.hierarchy.resolve registry.metric function.signatures
        types).answer function types tolerateTie).map (registry.entryAt? id) := by
  rw [resolve_eq, hsound.selectConfigured_answer hfunction]

/-- A chosen position is that of an entry, and the entry accepts the types. -/
theorem exists_entry_of_resolve_eq_unique {registry : Registry Code} {id : ℕ}
    {function : GenericFunction Code}
    (hfunction : registry.function? id = some function) {types : Signature}
    {metric : Metric} {best : Candidate}
    (hresolve : registry.hierarchy.resolve metric function.signatures types =
      .unique best) :
    ∃ entry, function.entries[best.index]? = some entry ∧
      registry.hierarchy.accepts entry.arguments types = true ∧
      registry.entryAt? id (some best.index) = some entry := by
  obtain ⟨declared, hdeclared, haccepts⟩ :=
    Hierarchy.exists_accepts_of_resolveBy_eq_unique hresolve
  rw [GenericFunction.signatures, List.getElem?_map] at hdeclared
  obtain ⟨entry, hentry, rfl⟩ := Option.map_eq_some_iff.mp hdeclared
  refine ⟨entry, hentry, haccepts, ?_⟩
  simp only [entryAt?, hfunction]
  exact hentry

theorem entryAt?_none (registry : Registry Code) (id : ℕ) :
    registry.entryAt? id none = none := by
  cases hfunction : registry.function? id <;> simp only [entryAt?, hfunction]

/-- Goes on from a step that succeeded, in the registry that it left. -/
def andThen (step : Except Error α × Registry Code)
    (next : α → Registry Code → Except Error β × Registry Code) :
    Except Error β × Registry Code :=
  match step.1 with
  | .error error => (.error error, step.2)
  | .ok value => next value step.2

theorem AlikeOutcomes.andThen {metric : Metric}
    {left right : Except Error α × Registry Code}
    {next : α → Registry Code → Except Error β × Registry Code}
    (halike : AlikeOutcomes metric left right)
    (hnext : ∀ value left' right', Alike metric left' right' →
      AlikeOutcomes metric (next value left') (next value right')) :
    AlikeOutcomes metric (andThen left next) (andThen right next) := by
  obtain ⟨hanswer, hafter⟩ := halike
  rw [Registry.andThen, Registry.andThen, hanswer]
  cases right.1 with
  | error error => exact ⟨rfl, hafter⟩
  | ok value => exact hnext value _ _ hafter

/-- The registry with another forest and with nothing remembered. -/
def relink (registry : Registry Code) (hierarchy : Hierarchy) : Registry Code :=
  { registry with hierarchy := hierarchy, cache := [] }

/-- What a derivation does once the child is linked: it has the membership test
of the parent say yes to the child, if that is not so already. -/
def cover (registry : Registry Code) (parent child : Predicate) :
    Except Error Unit × Registry Code :=
  match registry.membershipTest? parent with
  | none => (.ok (), registry)
  | some test =>
    let (outcome, registry) := registry.resolve test [child] true
    match outcome with
    | .error error => (.error error, registry)
    | .ok covering =>
      if registry.isCovered parent covering then (.ok (), registry)
      else (.ok (), registry.addEntry test (Catalog.fixedAnswer child true))

theorem derive_eq (registry : Registry Code) (parent child : Predicate) :
    registry.derive parent child =
      match registry.hierarchy.link parent child with
      | .error cause => (.error (.link cause), registry)
      | .ok hierarchy => (registry.relink hierarchy).cover parent child := by
  rw [derive]
  cases registry.hierarchy.link parent child with
  | error cause => rfl
  | ok hierarchy => rfl

theorem cover_eq (registry : Registry Code) (parent child : Predicate) :
    registry.cover parent child =
      match registry.membershipTest? parent with
      | none => (.ok (), registry)
      | some test =>
        andThen (registry.resolve test [child] true) fun covering after =>
          if after.isCovered parent covering then (.ok (), after)
          else (.ok (), after.addEntry test (Catalog.fixedAnswer child true)) := by
  simp only [cover, andThen]
  cases registry.membershipTest? parent with
  | none => rfl
  | some test =>
      dsimp only
      cases (registry.resolve test [child] true).1 with
      | error error => rfl
      | ok covering => rfl

theorem definePredicate_eq (registry : Registry Code) (name : String)
    (parent : Predicate) :
    registry.definePredicate name parent =
      andThen ((registry.createPredicate name).derive parent
          (registry.hierarchy.fresh name)) fun _ registry' =>
        (.ok (registry.hierarchy.fresh name), { registry' with
          toCatalog := registry'.attachTest (registry.hierarchy.fresh name) }) := by
  rw [definePredicate, andThen]
  dsimp only
  cases ((registry.createPredicate name).derive parent
      (registry.hierarchy.fresh name)).1 with
  | error error => rfl
  | ok linked => rfl

/-- The registry with a function as the membership test of a new predicate. -/
def adopt (registry : Registry Code) (id : ℕ) (type : Predicate) :
    Registry Code :=
  let catalog := registry.modifyFunction id ({ · with role := .promoted type })
  { registry with
    toCatalog := { catalog with tests := catalog.tests.insert type.id id } }

theorem promote_eq (registry : Registry Code) (id : ℕ) (name : String) :
    registry.promote id name =
      andThen ((registry.createPredicate name).derive Predicate.any
          (registry.hierarchy.fresh name)) fun _ registry' =>
        (.ok (), registry'.adopt id (registry.hierarchy.fresh name)) := by
  rw [promote, andThen]
  dsimp only
  cases ((registry.createPredicate name).derive Predicate.any
      (registry.hierarchy.fresh name)).1 with
  | error error => rfl
  | ok linked => rfl

@[simp]
theorem toCatalog_resolve (registry : Registry Code) (id : ℕ)
    (types : Signature) (tolerateTie : Bool) :
    (registry.resolve id types tolerateTie).2.toCatalog = registry.toCatalog :=
  toCatalog_select ..

@[simp]
theorem toCatalog_probe (registry : Registry Code) (id : ℕ) (types : Signature) :
    (registry.probe id types).2.toCatalog = registry.toCatalog := by
  rw [probe]
  cases registry.function? id with
  | none => rfl
  | some function =>
      dsimp only
      split <;> exact toCatalog_select ..

namespace Alike

variable {metric : Metric} {left right : Registry Code}
  (halike : Alike metric left right)
include halike

theorem right_metric_eq : right.metric = metric := by
  rw [← halike.metric_eq, halike.catalog]

/-- Selecting on both sides, each with a cache or without. -/
theorem select (id : ℕ) (types : Signature) (tolerateTie : Bool)
    {chosen : Metric} {useLeft useRight : Bool}
    (hleft : useLeft = true → chosen = metric)
    (hright : useRight = true → chosen = metric) :
    AlikeOutcomes metric (left.select id types chosen useLeft tolerateTie)
      (right.select id types chosen useRight tolerateTie) := by
  have hleft' : useLeft = true → chosen = left.metric :=
    fun huse => (hleft huse).trans halike.metric_eq.symm
  have hright' : useRight = true → chosen = right.metric :=
    fun huse => (hright huse).trans halike.right_metric_eq.symm
  refine ⟨?_, ?_, ?_, ?_, ?_⟩
  · rw [select_answer halike.left_sound id types tolerateTie hleft',
      select_answer halike.right_sound id types tolerateTie hright',
      halike.catalog]
  · rw [toCatalog_select, toCatalog_select, halike.catalog]
  · rw [toCatalog_select, halike.metric_eq]
  · exact halike.left_sound.select id types tolerateTie hleft'
  · exact halike.right_sound.select id types tolerateTie hright'

theorem selectConfigured (id : ℕ) (types : Signature) (tolerateTie : Bool) :
    AlikeOutcomes metric (left.selectConfigured id types tolerateTie)
      (right.selectConfigured id types tolerateTie) := by
  rw [Registry.selectConfigured, Registry.selectConfigured, halike.metric_eq,
    halike.right_metric_eq]
  exact halike.select id types tolerateTie (fun _ => rfl) (fun _ => rfl)

theorem resolve (id : ℕ) (types : Signature) (tolerateTie : Bool) :
    AlikeOutcomes metric (left.resolve id types tolerateTie)
      (right.resolve id types tolerateTie) := by
  obtain ⟨hanswer, hafter⟩ := halike.selectConfigured id types tolerateTie
  refine ⟨?_, hafter⟩
  rw [resolve_eq, resolve_eq, hanswer, entryAt?_congr halike.catalog]

theorem probe (id : ℕ) (types : Signature) :
    AlikeOutcomes metric (left.probe id types) (right.probe id types) := by
  obtain ⟨hanswer, hafter⟩ := halike.selectConfigured id types false
  rw [Registry.probe, Registry.probe, halike.catalog]
  cases right.function? id with
  | none => exact ⟨rfl, halike⟩
  | some function =>
      dsimp only
      rw [hanswer]
      split <;> exact ⟨rfl, hafter⟩

/-- One change of the catalog on both sides, with caches that bear it. -/
theorem of_change {left' right' : Registry Code}
    (change : Catalog Code → Catalog Code)
    (hleft : left'.toCatalog = change left.toCatalog)
    (hright : right'.toCatalog = change right.toCatalog)
    (hmetric : left'.metric = left.metric)
    (hleft_sound : left'.CacheSound) (hright_sound : right'.CacheSound) :
    Alike metric left' right' where
  catalog := by rw [hleft, hright, halike.catalog]
  metric_eq := hmetric.trans halike.metric_eq
  left_sound := hleft_sound
  right_sound := hright_sound

theorem createPredicate (name : String) :
    Alike metric (left.createPredicate name) (right.createPredicate name) :=
  halike.of_change
    (fun catalog => { catalog with hierarchy := catalog.hierarchy.create name })
    rfl rfl rfl (halike.left_sound.createPredicate name)
    (halike.right_sound.createPredicate name)

theorem addEntry (id : ℕ) (entry : MethodEntry Code) :
    Alike metric (left.addEntry id entry) (right.addEntry id entry) :=
  halike.of_change
    (fun catalog => catalog.modifyFunction id (·.addEntry entry))
    rfl rfl rfl (halike.left_sound.forget_modifyFunction id _)
    (halike.right_sound.forget_modifyFunction id _)

/-- A link forgets everything, so that nothing can be out of date. -/
theorem relink (hierarchy : Hierarchy) :
    Alike metric (left.relink hierarchy) (right.relink hierarchy) :=
  halike.of_change (fun catalog => { catalog with hierarchy := hierarchy })
    rfl rfl rfl (cacheSound_of_cache_eq_nil rfl) (cacheSound_of_cache_eq_nil rfl)

theorem cover (parent child : Predicate) :
    AlikeOutcomes metric (left.cover parent child)
      (right.cover parent child) := by
  rw [cover_eq, cover_eq, halike.catalog]
  cases right.membershipTest? parent with
  | none => exact ⟨rfl, halike⟩
  | some test =>
      apply (halike.resolve test [child] true).andThen
      intro covering _ _ hafter
      rw [isCovered_congr hafter.catalog]
      split
      case isTrue => exact ⟨rfl, hafter⟩
      case isFalse => exact ⟨rfl, hafter.addEntry test _⟩

theorem derive (parent child : Predicate) :
    AlikeOutcomes metric (left.derive parent child)
      (right.derive parent child) := by
  rw [derive_eq, derive_eq, halike.catalog]
  cases right.hierarchy.link parent child with
  | error cause => exact ⟨rfl, halike⟩
  | ok hierarchy => exact (halike.relink hierarchy).cover parent child

theorem attachTest (type : Predicate) :
    Alike metric { left with toCatalog := left.attachTest type }
      { right with toCatalog := right.attachTest type } :=
  halike.of_change (·.attachTest type) rfl rfl rfl
    (halike.left_sound.addFunction _ _) (halike.right_sound.addFunction _ _)

theorem definePredicate (name : String) (parent : Predicate) :
    AlikeOutcomes metric (left.definePredicate name parent)
      (right.definePredicate name parent) := by
  rw [definePredicate_eq, definePredicate_eq, halike.catalog]
  exact ((halike.createPredicate name).derive parent _).andThen
    fun _ _ _ hafter => ⟨rfl, hafter.attachTest _⟩

theorem createFunction (name : String) :
    Alike metric (left.createFunction name) (right.createFunction name) :=
  halike.of_change (·.addFunction { name := name }) rfl rfl rfl
    (halike.left_sound.addFunction _ _) (halike.right_sound.addFunction _ _)

theorem adopt (id : ℕ) (type : Predicate) :
    Alike metric (left.adopt id type) (right.adopt id type) := by
  have hsignatures : ∀ function : GenericFunction Code,
      GenericFunction.signatures { function with role := .promoted type } =
        function.signatures := fun _ => rfl
  exact halike.of_change
    (fun catalog =>
      { catalog.modifyFunction id ({ · with role := .promoted type }) with
        tests := catalog.tests.insert type.id id })
    rfl rfl rfl (halike.left_sound.modifyFunction id hsignatures _)
    (halike.right_sound.modifyFunction id hsignatures _)

theorem promote (id : ℕ) (name : String) :
    AlikeOutcomes metric (left.promote id name) (right.promote id name) := by
  rw [promote_eq, promote_eq, halike.catalog]
  exact ((halike.createPredicate name).derive Predicate.any _).andThen
    fun _ _ _ hafter => ⟨rfl, hafter.adopt id _⟩

theorem demote (id : ℕ) (type : Predicate) :
    Alike metric (left.demote id type) (right.demote id type) := by
  have hsignatures : ∀ function : GenericFunction Code,
      GenericFunction.signatures { function with role := .ordinary } =
        function.signatures := fun _ => rfl
  exact halike.of_change
    (fun catalog =>
      { catalog.modifyFunction id ({ · with role := .ordinary }) with
        tests := catalog.tests.erase type.id })
    rfl rfl rfl (halike.left_sound.modifyFunction id hsignatures _)
    (halike.right_sound.modifyFunction id hsignatures _)

theorem reviewRole (id : ℕ) :
    AlikeOutcomes metric (left.reviewRole id) (right.reviewRole id) := by
  rw [Registry.reviewRole, Registry.reviewRole, halike.catalog]
  cases right.function? id with
  | none => exact ⟨rfl, halike⟩
  | some function =>
      dsimp only
      split
      · exact halike.promote id function.name
      · exact ⟨rfl, halike.demote id _⟩
      · exact ⟨rfl, halike⟩

theorem register (id : ℕ) (entry : MethodEntry Code) :
    AlikeOutcomes metric (left.register id entry) (right.register id entry) := by
  rw [Registry.register, Registry.register, halike.catalog]
  cases right.function? id with
  | none => exact ⟨rfl, halike⟩
  | some function => exact (halike.addEntry id entry).reviewRole id

theorem setDefault (id : ℕ) (fallback : DefaultEntry Code) :
    AlikeOutcomes metric (left.setDefault id fallback)
      (right.setDefault id fallback) := by
  have hfunction : left.function? id = right.function? id := by
    rw [halike.catalog]
  rw [Registry.setDefault, Registry.setDefault, hfunction]
  cases right.function? id with
  | none => exact ⟨rfl, halike⟩
  | some function =>
      exact ⟨rfl, halike.of_change
        (fun catalog =>
          catalog.modifyFunction id ({ · with fallback := some fallback }))
        rfl rfl rfl (halike.left_sound.forget_modifyFunction id _)
        (halike.right_sound.forget_modifyFunction id _)⟩

end Alike

end Registry

namespace Operation

open Registry

/-- One operation on registries that are alike: it answers the same, and leaves
them alike. -/
theorem perform_alike {metric : Metric} {left right : Registry Code}
    (halike : Alike metric left right) {operation : Operation Code}
    (hcaches : operation.CachesUnder metric) :
    AlikeOutcomes metric (operation.perform left) (operation.perform right) := by
  cases operation with
  | inspect => exact ⟨congrArg Except.ok halike.catalog, halike⟩
  | createPredicate name =>
      refine ⟨?_, halike.createPredicate name⟩
      change Except.ok (left.hierarchy.fresh name) =
        Except.ok (right.hierarchy.fresh name)
      rw [halike.catalog]
  | definePredicate name parent => exact halike.definePredicate name parent
  | derive parent child => exact halike.derive parent child
  | createFunction name =>
      refine ⟨?_, halike.createFunction name⟩
      change Except.ok left.nextFunction = Except.ok right.nextFunction
      rw [halike.catalog]
  | register function entry => exact halike.register function entry
  | setDefault function fallback => exact halike.setDefault function fallback
  | resolve function types tolerateTie =>
      exact halike.resolve function types tolerateTie
  | select function types chosen useCache tolerateTie =>
      exact halike.select function types tolerateTie hcaches hcaches
  | probe function types => exact halike.probe function types

/-- A question leaves a registry that is alike to the one before. -/
theorem alike_perform_of_isQuestion {metric : Metric}
    {left right : Registry Code} (halike : Alike metric left right)
    {operation : Operation Code} (hcaches : operation.CachesUnder metric)
    (hquestion : operation.isQuestion = true) :
    Alike metric left (operation.perform right).2 := by
  have hafter := (perform_alike halike hcaches).2
  have hunchanged : (operation.perform right).2.toCatalog = right.toCatalog := by
    cases operation with
    | inspect => rfl
    | resolve function types tolerateTie => exact toCatalog_resolve ..
    | select function types chosen useCache tolerateTie =>
        exact toCatalog_select ..
    | probe function types => exact toCatalog_probe ..
    | createPredicate name => simp [isQuestion] at hquestion
    | definePredicate name parent => simp [isQuestion] at hquestion
    | derive parent child => simp [isQuestion] at hquestion
    | createFunction name => simp [isQuestion] at hquestion
    | register function entry => simp [isQuestion] at hquestion
    | setDefault function fallback => simp [isQuestion] at hquestion
  exact ⟨halike.catalog.trans hunchanged.symm, halike.metric_eq,
    halike.left_sound, hafter.right_sound⟩

end Operation

end PredicateDispatch
