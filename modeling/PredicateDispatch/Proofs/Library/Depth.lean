import PredicateDispatch.Proofs.Dispatch.MetricAgreement
import PredicateDispatch.Proofs.Library.Calls

/-!
# Rows for a type and for its parent

Some base functions have one row for two values of a base type and another one for two
values of its parent, which is a single link further up.  The nearer row is always the
first choice, except that the symmetric metric cannot tell the rows apart once both
arguments are too far below them, and then the call is ambiguous.
-/

namespace PredicateDispatch

/-- What a metric makes of a way up with so many links. -/
def Metric.measured : Metric → ℕ → ℕ
  | .directed, links => links
  | .symmetric, links => min links unreachableDistance

namespace Hierarchy

theorem Coherent.distance_eq_measured {hierarchy : Hierarchy}
    (hcoherent : hierarchy.Coherent) (metric : Metric) {declared actual : Predicate}
    (habove : hierarchy.isA declared actual = true) :
    hierarchy.distance metric actual declared =
      metric.measured (hierarchy.typeDistance actual declared) := by
  cases metric with
  | directed => rfl
  | symmetric => exact hcoherent.distance_symmetric_eq_min habove

/-- By one of two actual types at least, the metric tells a declared type from what is
above it. -/
def Tells (hierarchy : Hierarchy) (metric : Metric) (declared a b : Predicate) : Prop :=
  metric = .symmetric →
    hierarchy.typeDistance a declared < unreachableDistance ∨
      hierarchy.typeDistance b declared < unreachableDistance

end Hierarchy

/-! ## Which of the rows is nearer -/

namespace BaseTypes.Placed

variable {types : BaseTypes} {hierarchy : Hierarchy}
  (hplaced : types.Placed hierarchy) (hcoherent : hierarchy.Coherent)
  (lower : BaseType) {upper : BaseType} (hparent : lower.parent? = some upper)
  {a b : Predicate}
include hplaced hcoherent hparent

/-- The parent of a base type is one link further up. -/
theorem distance_parent (metric : Metric)
    (habove : hierarchy.isA (types.handle lower) a = true) :
    hierarchy.isA (types.handle upper) a = true ∧
      hierarchy.distance metric a (types.handle upper) =
        metric.measured (hierarchy.typeDistance a (types.handle lower) + 1) := by
  have hlinked := hplaced.parent? lower upper hparent
  have hupper : hierarchy.isA (types.handle upper) (types.handle lower) = true :=
    (hcoherent.isA_of_isA_parent hlinked (hierarchy.isA_self _)).1
  have hlink :
      hierarchy.typeDistance (types.handle lower) (types.handle upper) = 1 := by
    rw [hcoherent.typeDistance_of_parent hlinked (hierarchy.isA_self _),
      hierarchy.typeDistance_self rfl]
  have habove_upper := hcoherent.isA_trans hupper habove
  refine ⟨habove_upper, ?_⟩
  rw [hcoherent.distance_eq_measured metric habove_upper,
    hcoherent.typeDistance_add habove hupper, hlink]

variable (ha : hierarchy.isA (types.handle lower) a = true)
  (hb : hierarchy.isA (types.handle lower) b = true)
include ha hb

theorem accepts_parents :
    hierarchy.accepts (types.handles [lower, lower]) [a, b] = true ∧
      hierarchy.accepts (types.handles [upper, upper]) [a, b] = true := by
  have ha_upper := (hplaced.distance_parent hcoherent lower hparent .directed ha).1
  have hb_upper := (hplaced.distance_parent hcoherent lower hparent .directed hb).1
  exact ⟨Hierarchy.accepts_iff_covers.mpr (.cons ha (.cons hb .nil)),
    Hierarchy.accepts_iff_covers.mpr (.cons ha_upper (.cons hb_upper .nil))⟩

/-- The row for the lower type is never farther than that for its parent, and nearer
exactly if the metric tells them apart. -/
theorem totalDistance_parents (metric : Metric) :
    hierarchy.totalDistance metric (types.handles [lower, lower]) [a, b] ≤
        hierarchy.totalDistance metric (types.handles [upper, upper]) [a, b] ∧
      (hierarchy.totalDistance metric (types.handles [lower, lower]) [a, b] <
          hierarchy.totalDistance metric (types.handles [upper, upper]) [a, b] ↔
        hierarchy.Tells metric (types.handle lower) a b) := by
  have hlower : hierarchy.totalDistance metric (types.handles [lower, lower]) [a, b] =
      metric.measured (hierarchy.typeDistance a (types.handle lower)) +
        metric.measured (hierarchy.typeDistance b (types.handle lower)) := by
    rw [← hcoherent.distance_eq_measured metric ha,
      ← hcoherent.distance_eq_measured metric hb]
    rfl
  have hupper : hierarchy.totalDistance metric (types.handles [upper, upper]) [a, b] =
      metric.measured (hierarchy.typeDistance a (types.handle lower) + 1) +
        metric.measured (hierarchy.typeDistance b (types.handle lower) + 1) := by
    rw [← (hplaced.distance_parent hcoherent lower hparent metric ha).2,
      ← (hplaced.distance_parent hcoherent lower hparent metric hb).2]
    rfl
  rw [hlower, hupper, Hierarchy.Tells]
  generalize hierarchy.typeDistance a (types.handle lower) = first
  generalize hierarchy.typeDistance b (types.handle lower) = second
  cases metric with
  | directed =>
      change first + second ≤ first + 1 + (second + 1) ∧
        (first + second < first + 1 + (second + 1) ↔ _)
      exact ⟨by omega, iff_of_true (by omega) nofun⟩
  | symmetric =>
      simp only [Metric.measured, unreachableDistance, true_implies]
      omega

end BaseTypes.Placed

/-! ## What the calls do -/

namespace Catalog.Provides

variable {Custom : Type} {custom : Custom → List Value → Program (Body Custom) Value}
  {catalog : Catalog (Body Custom)} {types : BaseTypes} {id : ℕ}

/-- If the metric tells the rows apart, that for the lower type is picked. -/
theorem picks_lower {rows : List (Row × Primitive)} {row : Row} {primitive : Primitive}
    (hprovides : catalog.Provides types id rows) (lower : BaseType) {upper : BaseType}
    (hparent : lower.parent? = some upper)
    (hnodup : ((rows.map Prod.fst).map Row.arguments).Nodup)
    (hrow : (row, primitive) ∈ rows) (harguments : row.arguments = [lower, lower])
    (hothers : ∀ other ∈ (rows.map Prod.fst).map Row.arguments,
      other ≠ [lower, lower] → other = [upper, upper]) {a b : Predicate}
    (ha : catalog.isA (types.handle lower) a = true)
    (hb : catalog.isA (types.handle lower) b = true)
    (htells : catalog.hierarchy.Tells catalog.metric (types.handle lower) a b) :
    catalog.Picks id [a, b] (types.entry (row, primitive)) := by
  have haccepts :=
    (hprovides.placed.accepts_parents hprovides.coherent lower hparent ha hb).1
  rw [← harguments] at haccepts
  refine hprovides.picks_of_nearest hnodup hrow haccepts fun other hother hne _ => ?_
  rw [harguments] at hne ⊢
  rw [hothers other hother hne]
  exact (hprovides.placed.totalDistance_parents hprovides.coherent lower hparent ha hb
    catalog.metric).2.mpr htells

/-- Two rows that accept a call at one distance make it ambiguous. -/
theorem computes_ambiguous {first second : Row} {primitive primitive' : Primitive}
    (hprovides : catalog.Provides types id [(first, primitive), (second, primitive')])
    (arguments : List Value)
    (hfirst : catalog.hierarchy.accepts (types.handles first.arguments)
      (arguments.map Value.type) = true)
    (hsecond : catalog.hierarchy.accepts (types.handles second.arguments)
      (arguments.map Value.type) = true)
    (htie : catalog.hierarchy.totalDistance catalog.metric
        (types.handles first.arguments) (arguments.map Value.type) =
      catalog.hierarchy.totalDistance catalog.metric
        (types.handles second.arguments) (arguments.map Value.type)) :
    ∃ name, catalog.Computes (Body.meaning custom) (Program.call id arguments)
      (.error (.ambiguous name (arguments.map Value.type)
        [types.handles first.arguments, types.handles second.arguments])) := by
  obtain ⟨function, hfunction, hentries, -⟩ := hprovides.fitted.function
  have hsignatures : function.signatures =
      [types.handles first.arguments, types.handles second.arguments] := by
    rw [GenericFunction.signatures, hentries]
    rfl
  have hresolve := Hierarchy.resolveBy_pair hfirst hsecond htie.ge
  rw [if_neg htie.not_gt, ← hsignatures] at hresolve
  have hambiguous : catalog.Computes (Body.meaning custom) (Program.call id arguments)
      _ := .call_of_ambiguous hfunction arguments hresolve
  rw [hsignatures] at hambiguous
  exact ⟨function.name, hambiguous⟩

end Catalog.Provides

/-! ## Types far below a base type -/

namespace Library

variable {Custom : Type}

/-- A registry with the base library under the symmetric metric, and a type that is so
many links below a base type. -/
structure DeepBelow (library : Library) (base : BaseType)
    (registry : Registry (Body Custom)) (type : Predicate) (links : ℕ) : Prop where
  past : ∃ events, registry.Past events
  installed : ∀ closed, library.InstalledIn closed registry
  metric : registry.metric = .symmetric
  known : registry.hierarchy.Knows type
  below : registry.isA (library.types.handle base) type = true
  distance : registry.hierarchy.typeDistance type (library.types.handle base) = links

/-- Another type can be defined below the type. -/
theorem DeepBelow.step {library : Library} {base : BaseType}
    {registry : Registry (Body Custom)} {type : Predicate} {links : ℕ}
    (hdeep : library.DeepBelow base registry type links) :
    ∃ (after : Registry (Body Custom)) (deeper : Predicate),
      library.DeepBelow base after deeper (links + 1) := by
  obtain ⟨⟨events, hpast⟩, hinstalled, hmetric, hknown, hbelow, hdistance⟩ := hdeep
  obtain ⟨derived, after, hderived, hdefine, hafter⟩ :=
    Registry.definePredicate_of_knows hpast.wellKept hknown "isLink"
  have hperform : ((Operation.definePredicate "isLink" type).perform registry).2 =
      after := congrArg Prod.snd hdefine
  have hpast' := hpast.perform (.definePredicate "isLink" type) trivial hknown
  have hmetric' : ((Operation.definePredicate "isLink" type).perform
      registry).2.metric = registry.metric := hpast.reachable.metric_perform trivial
  have hinstalled' := fun closed => (hinstalled closed).perform
    (.definePredicate "isLink" type) trivial fun id _ => Set.notMem_empty id
  rw [hperform] at hpast' hmetric' hinstalled'
  have hhierarchy : after.hierarchy = derived.hierarchy := by
    rw [hafter]
    rfl
  have hcoherent := hpast'.wellKept.coherent
  have hparents : ∀ lower upper, registry.hierarchy.parent? lower = some upper →
      after.hierarchy.parent? lower = some upper := fun lower upper hparent => by
    rw [hhierarchy]
    exact Hierarchy.parent?_link_of_some hderived.link_eq hparent
  obtain ⟨hbelow', hdistance'⟩ :=
    hpast.wellKept.coherent.isA_and_typeDistance_of_parents hcoherent hparents hbelow
  have hparent : after.hierarchy.parent? (registry.hierarchy.fresh "isLink") =
      some type := by
    rw [hhierarchy]
    exact Hierarchy.parent?_link_self hderived.link_eq
  refine ⟨after, registry.hierarchy.fresh "isLink", {
    past := ⟨_, hpast'⟩
    installed := hinstalled'
    metric := hmetric'.trans hmetric
    known := ?_
    below := (hcoherent.isA_of_isA_parent hparent hbelow').1
    distance := ?_ }⟩
  · rw [hhierarchy]
    exact (registry.hierarchy.knows_fresh "isLink").link hderived.link_eq
  · rw [hcoherent.typeDistance_of_parent hparent hbelow', hdistance', hdistance]

theorem exists_deepBelow (Custom : Type) (base : BaseType) (links : ℕ) :
    ∃ (library : Library) (registry : Registry (Body Custom)) (type : Predicate),
      library.DeepBelow base registry type links := by
  induction links with
  | zero =>
      obtain ⟨library, registry, hpast, hmetric, hinstalled⟩ :=
        exists_installedIn_of_past Custom { distance := .symmetric }
      refine ⟨library, registry, library.types.handle base, {
        past := hpast
        installed := hinstalled
        metric := hmetric
        known := ?_
        below := Hierarchy.isA_self _ _
        distance := Hierarchy.typeDistance_self _ rfl }⟩
      obtain ⟨events, hpast⟩ := hpast
      cases hparent : base.parent? with
      | none =>
          cases base <;> cases hparent
          exact hpast.knows_any
      | some upper =>
          exact (hpast.wellKept.confined _ _ (Hierarchy.parentLink_of_parent?_eq_some
            ((hinstalled []).placed.parent? base upper hparent))).1
  | succ links ih =>
      obtain ⟨library, registry, type, hdeep⟩ := ih
      obtain ⟨after, deeper, hdeeper⟩ := hdeep.step
      exact ⟨library, after, deeper, hdeeper⟩

end Library

end PredicateDispatch
