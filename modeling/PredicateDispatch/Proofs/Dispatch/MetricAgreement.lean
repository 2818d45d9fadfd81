import PredicateDispatch.Proofs.Dispatch.Reachable
import PredicateDispatch.Proofs.Hierarchy.Chain

/-!
# Where the two metrics agree

The shorter of the two directions is the way up, cut off at the distance that
stands for an unreachable type.  So the metrics choose alike, whatever the
signatures, exactly for the actual types with no more ancestors than that.
Above such a depth two ancestors at different distances may tie.
-/

namespace PredicateDispatch

variable {Code : Type}

/-- The same outcome, by positions: none, one, or several that tie. -/
inductive Resolution.SameChoice : Resolution → Resolution → Prop
  | noMatch : SameChoice noMatch noMatch
  | unique {left right : Candidate} :
      left.index = right.index → SameChoice (unique left) (unique right)
  | ambiguous {left right : List Candidate} :
      left.map Candidate.index = right.map Candidate.index →
        SameChoice (ambiguous left) (ambiguous right)

theorem Resolution.SameChoice.refl (resolution : Resolution) :
    SameChoice resolution resolution := by
  cases resolution with
  | noMatch => exact .noMatch
  | unique best => exact .unique rfl
  | ambiguous tied => exact .ambiguous rfl

namespace Hierarchy

variable {hierarchy : Hierarchy}

/-! ## The cut-off -/

namespace Coherent

variable (hcoherent : hierarchy.Coherent)
include hcoherent

theorem distance_symmetric_of_shallow {actual declared : Predicate}
    (habove : hierarchy.isA declared actual = true)
    (hshallow : (hierarchy.ancestorsOf actual).length ≤ unreachableDistance) :
    hierarchy.distance .symmetric actual declared =
      hierarchy.distance .directed actual declared := by
  have hle : hierarchy.distance .directed actual declared ≤
      unreachableDistance :=
    (hcoherent.typeDistance_le_length habove).trans hshallow
  rw [hcoherent.distance_symmetric_eq_min habove, Nat.min_eq_left hle]

/-! ## Shallow types -/

theorem totalDistance_symmetric_of_shallow {declared actual : Signature}
    (haccepts : hierarchy.accepts declared actual = true)
    (hshallow : ∀ type ∈ actual,
      (hierarchy.ancestorsOf type).length ≤ unreachableDistance) :
    hierarchy.totalDistance .symmetric declared actual =
      hierarchy.totalDistance .directed declared actual := by
  induction declared generalizing actual with
  | nil => cases actual <;> rfl
  | cons head rest ih =>
      cases actual with
      | nil => rfl
      | cons type others =>
          obtain ⟨habove, hothers⟩ : hierarchy.isA head type = true ∧
              hierarchy.accepts rest others = true := by
            simpa only [accepts, Bool.and_eq_true] using haccepts
          rw [totalDistance, totalDistance,
            hcoherent.distance_symmetric_of_shallow habove
              (hshallow type List.mem_cons_self),
            ih hothers fun other hother =>
              hshallow other (List.mem_cons_of_mem type hother)]

/-- For shallow types even the distances are the same. -/
theorem resolve_symmetric_of_shallow {actual : Signature}
    (hshallow : ∀ type ∈ actual,
      (hierarchy.ancestorsOf type).length ≤ unreachableDistance)
    (signatures : List Signature) :
    hierarchy.resolve .symmetric signatures actual =
      hierarchy.resolve .directed signatures actual :=
  resolveBy_congr (fun _ _ => rfl) fun _ _ haccepts =>
    hcoherent.totalDistance_symmetric_of_shallow haccepts hshallow

end Coherent

/-! ## Deep types -/

/-- Signatures that declare the actual types themselves at all positions but
one differ only there. -/
theorem accepts_at (hierarchy : Hierarchy) (before after : Signature)
    (declared type : Predicate) :
    hierarchy.accepts (before ++ declared :: after) (before ++ type :: after) =
      hierarchy.isA declared type := by
  induction before with
  | nil =>
      rw [List.nil_append, List.nil_append, accepts, accepts_self, Bool.and_true]
  | cons head rest ih =>
      rw [List.cons_append, List.cons_append, accepts, isA_self, ih,
        Bool.true_and]

theorem totalDistance_at (hierarchy : Hierarchy) (metric : Metric)
    (before after : Signature) (declared type : Predicate) :
    hierarchy.totalDistance metric (before ++ declared :: after)
        (before ++ type :: after) =
      hierarchy.distance metric type declared := by
  induction before with
  | nil =>
      rw [List.nil_append, List.nil_append, totalDistance, totalDistance_self,
        Nat.add_zero]
  | cons head rest ih =>
      rw [List.cons_append, List.cons_append, totalDistance, distance_self, ih,
        Nat.zero_add]

/-- Below too many ancestors, the last one that can still be told from the
unreachable and the next one above it tie under the symmetric metric only. -/
theorem Coherent.not_sameChoice_of_deep (hcoherent : hierarchy.Coherent)
    {actual : Signature} {type : Predicate} (htype : type ∈ actual)
    (hdeep : unreachableDistance < (hierarchy.ancestorsOf type).length) :
    ∃ signatures, ¬ Resolution.SameChoice
      (hierarchy.resolve .directed signatures actual)
      (hierarchy.resolve .symmetric signatures actual) := by
  obtain ⟨before, after, rfl⟩ := List.append_of_mem htype
  obtain ⟨far, hfar, hfar_distance⟩ := hcoherent.exists_typeDistance_eq hdeep
  obtain ⟨near, hnear, hnear_distance⟩ :=
    hcoherent.exists_typeDistance_eq hdeep.le
  have hdirected : ∀ declared, hierarchy.totalDistance .directed
      (before ++ declared :: after) (before ++ type :: after) =
        hierarchy.typeDistance type declared :=
    fun declared => hierarchy.totalDistance_at .directed before after declared type
  have hsymmetric : ∀ declared, hierarchy.isA declared type = true →
      hierarchy.totalDistance .symmetric (before ++ declared :: after)
        (before ++ type :: after) =
          min (hierarchy.typeDistance type declared) unreachableDistance := by
    intro declared habove
    rw [hierarchy.totalDistance_at]
    exact hcoherent.distance_symmetric_eq_min habove
  have haccepts : ∀ declared, hierarchy.isA declared type = true →
      hierarchy.accepts (before ++ declared :: after)
        (before ++ type :: after) = true := by
    intro declared habove
    rw [hierarchy.accepts_at, habove]
  refine ⟨[before ++ far :: after, before ++ near :: after], ?_⟩
  rw [resolve, resolve, resolveBy_pair (haccepts far hfar) (haccepts near hnear),
    resolveBy_pair (haccepts far hfar) (haccepts near hnear), hdirected, hdirected,
    hsymmetric far hfar, hsymmetric near hnear, hfar_distance, hnear_distance]
  · simp only [unreachableDistance]
    intro hsame
    simp at hsame
    cases hsame
  · rw [hsymmetric far hfar, hsymmetric near hnear, hfar_distance,
      hnear_distance]
    simp
  · rw [hdirected, hdirected, hfar_distance, hnear_distance]
    exact Nat.le_succ _

/-- The exact condition under which the metric does not matter. -/
theorem sameChoice_iff_shallow (hreach : hierarchy.Reachable)
    (actual : Signature) :
    (∀ signatures, Resolution.SameChoice
      (hierarchy.resolve .directed signatures actual)
      (hierarchy.resolve .symmetric signatures actual)) ↔
    ∀ type ∈ actual,
      (hierarchy.ancestorsOf type).length ≤ unreachableDistance := by
  have hcoherent := hreach.coherent
  constructor
  · intro hsame type htype
    by_contra hdeep
    obtain ⟨signatures, hdiffer⟩ :=
      hcoherent.not_sameChoice_of_deep htype (Nat.lt_of_not_le hdeep)
    exact hdiffer (hsame signatures)
  · intro hshallow signatures
    rw [hcoherent.resolve_symmetric_of_shallow hshallow]
    exact .refl _

end Hierarchy

/-! ## Registries that differ in the metric -/

theorem Catalog.selection_of_shallow {left right : Catalog Code}
    (hreach : left.hierarchy.Reachable) (hmetric : left.metric = .directed)
    (hcatalog : right = { left with metric := .symmetric }) {actual : Signature}
    (hshallow : ∀ type ∈ actual,
      (left.hierarchy.ancestorsOf type).length ≤ unreachableDistance)
    (id : ℕ) (tolerateTie : Bool) :
    left.selection id actual left.metric tolerateTie =
      right.selection id actual right.metric tolerateTie := by
  subst hcatalog
  change left.selection id actual left.metric tolerateTie =
    left.selection id actual .symmetric tolerateTie
  rw [selection, selection, hmetric]
  cases left.function? id with
  | none => rfl
  | some function =>
      dsimp only
      rw [hreach.coherent.resolve_symmetric_of_shallow hshallow]

/-- The metrics choose alike for all signatures exactly when no actual type has
more ancestors than an unreachable type is far.  For such types two registries
that differ in the metric only, whatever they have cached, select alike. -/
theorem metrics_agree_iff_shallow {hierarchy : Hierarchy}
    (hreach : hierarchy.Reachable) (actual : Signature) :
    ((∀ signatures, Resolution.SameChoice
        (hierarchy.resolve .directed signatures actual)
        (hierarchy.resolve .symmetric signatures actual)) ↔
      ∀ type ∈ actual,
        (hierarchy.ancestorsOf type).length ≤ unreachableDistance) ∧
    ((∀ type ∈ actual,
        (hierarchy.ancestorsOf type).length ≤ unreachableDistance) →
      ∀ left right : Registry Code, left.Reachable → right.Reachable →
        left.hierarchy = hierarchy → left.metric = .directed →
        right.toCatalog = { left.toCatalog with metric := .symmetric } →
        ∀ (id : ℕ) (tolerateTie : Bool),
          (left.selectConfigured id actual tolerateTie).1 =
            (right.selectConfigured id actual tolerateTie).1) := by
  refine ⟨Hierarchy.sameChoice_iff_shallow hreach actual, ?_⟩
  rintro hshallow left right hleft hright rfl hmetric hcatalog id tolerateTie
  have hanswer : ∀ registry : Registry Code, registry.Reachable →
      (registry.selectConfigured id actual tolerateTie).1 =
        registry.toCatalog.selection id actual registry.metric tolerateTie :=
    fun registry hreachable => Registry.select_answer hreachable.cacheSound id
      actual tolerateTie fun _ => rfl
  rw [hanswer left hleft, hanswer right hright]
  exact Catalog.selection_of_shallow hreach hmetric hcatalog hshallow id
    tolerateTie

/-- One link more than an unreachable type is far: the metrics differ at the
bottom of the chain. -/
theorem metrics_differ_on_chain :
    (Hierarchy.chain 101).Reachable ∧
    ∃ signatures, ¬ Resolution.SameChoice
      ((Hierarchy.chain 101).resolve .directed signatures [⟨101, "isLink"⟩])
      ((Hierarchy.chain 101).resolve .symmetric signatures
        [⟨101, "isLink"⟩]) := by
  have hreach := Hierarchy.reachable_chain 101
  refine ⟨hreach, ?_⟩
  by_contra hsame
  have hshallow := (@metrics_agree_iff_shallow Unit _ hreach
    [⟨101, "isLink"⟩]).1.mp fun signatures => by
      by_contra hdiffer
      exact hsame ⟨signatures, hdiffer⟩
  have hlength := hshallow ⟨101, "isLink"⟩ List.mem_cons_self
  rw [Hierarchy.length_ancestorsOf_chain _ (Nat.le_refl 101)] at hlength
  exact absurd hlength (by decide)

end PredicateDispatch
