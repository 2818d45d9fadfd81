import PredicateDispatch.Proofs.Registry.Effects
import PredicateDispatch.Proofs.Resolution.Lowest

/-!
# Calls with at most one argument

Whatever handles the operations on a registry mention, its forest is coherent
and no table declares the same argument types twice.  Under the directed metric
this settles every call with at most one argument: the entry on the nearest type
at or above that of the argument is selected, and there are no ties.
-/

namespace PredicateDispatch

variable {Code : Type}

namespace GenericFunction

/-- What a call with at most one argument is to select: the entry without
arguments, or the one-argument entry for the nearest type that is the type of
the argument or above it. -/
inductive Nearest (function : GenericFunction Code) (hierarchy : Hierarchy) :
    Signature → Option ℕ → Prop
  | empty {index : ℕ} :
      function.signatures[index]? = some [] →
      Nearest function hierarchy [] (some index)
  | noEmpty :
      [] ∉ function.signatures →
      Nearest function hierarchy [] none
  | single {type nearest : Predicate} {index : ℕ} :
      function.signatures[index]? = some [nearest] →
      hierarchy.isA nearest type = true →
      (∀ (other : ℕ) (declared : Predicate),
        function.signatures[other]? = some [declared] →
        hierarchy.isA declared type = true → other ≠ index →
          hierarchy.isA declared nearest = true ∧
          hierarchy.typeDistance type nearest <
            hierarchy.typeDistance type declared) →
      Nearest function hierarchy [type] (some index)
  | noSingle {type : Predicate} :
      (∀ declared, [declared] ∈ function.signatures →
        hierarchy.isA declared type = false) →
      Nearest function hierarchy [type] none

variable {function : GenericFunction Code} {hierarchy : Hierarchy}
  {actual : Signature}

/-- A call that no entry accepts is to select none. -/
theorem nearest_none (hshort : actual.length ≤ 1)
    (hrejects : ∀ declared ∈ function.signatures,
      hierarchy.accepts declared actual = false) :
    function.Nearest hierarchy actual none := by
  match actual, hshort with
  | [], _ =>
      exact .noEmpty fun hmem => Bool.noConfusion (hrejects [] hmem)
  | [type], _ =>
      refine .noSingle fun declared hmem => Bool.eq_false_iff.mpr fun habove => ?_
      have haccepts := Hierarchy.accepts_singleton_iff.mpr ⟨declared, rfl, habove⟩
      exact Bool.noConfusion ((hrejects [declared] hmem).symm.trans haccepts)

/-- The lowest accepting entry is the nearest one. -/
theorem nearest_of_lowest (hcoherent : hierarchy.Coherent)
    (hnodup : function.argumentIds.Nodup) (hshort : actual.length ≤ 1)
    {index : ℕ} {lowest : Signature}
    (hindex : function.signatures[index]? = some lowest)
    (hlowest : hierarchy.Lowest function.signatures actual lowest) :
    function.Nearest hierarchy actual (some index) := by
  match actual, hshort with
  | [], _ =>
      cases lowest with
      | nil => exact .empty hindex
      | cons => cases hlowest.accepts
  | [type], _ =>
      obtain ⟨nearest, rfl, hnearest⟩ :=
        Hierarchy.accepts_singleton_iff.mp hlowest.accepts
      refine .single hindex hnearest fun other declared hother habove hne => ?_
      have haccepts := hlowest.below [declared] (List.mem_of_getElem? hother)
        (Hierarchy.accepts_singleton_iff.mpr ⟨declared, rfl, habove⟩)
      obtain ⟨_, hself, habove'⟩ := Hierarchy.accepts_singleton_iff.mp haccepts
      obtain rfl := List.head_eq_of_cons_eq hself
      have hid : declared.id ≠ nearest.id := fun hid =>
        hne (Hierarchy.index_eq_of_ids_eq (map_ids_signatures function ▸ hnodup)
          hother hindex (congrArg (fun id => [id]) hid))
      have hadd := hcoherent.typeDistance_add hnearest habove'
      have hpos := hcoherent.typeDistance_pos habove' hid
      exact ⟨habove', by omega⟩

end GenericFunction

/-- With links that join any handles whatever, a call with at most one argument
is never ambiguous under the directed metric, cached or not: it selects the
entry on the nearest type, or there is none for it.  In particular, choosing
the entry of a membership test never fails. -/
theorem short_calls_select_nearest {registry : Registry Code}
    (hreachable : registry.Reachable) (hmetric : registry.metric = .directed) :
    (∀ id function, registry.function? id = some function →
      ∀ types : Signature, types.length ≤ 1 →
        ∃ selected, function.Nearest registry.hierarchy types selected ∧
          ∀ useCache tolerateTie,
            (registry.select id types .directed useCache tolerateTie).1 =
              .ok selected) ∧
    (∀ tested test, registry.membershipTest? tested = some test →
      ∀ type tolerateTie, ∃ entry,
        (registry.resolve test [type] tolerateTie).1 = .ok entry) := by
  have horderly := hreachable.orderly
  have hsound := hreachable.cacheSound
  have hselect : ∀ id function, registry.function? id = some function →
      ∀ types : Signature, types.length ≤ 1 →
        ∃ selected, function.Nearest registry.hierarchy types selected ∧
          ∀ useCache tolerateTie,
            (registry.select id types .directed useCache tolerateTie).1 =
              .ok selected := by
    intro id function hfunction types hshort
    have hnodup := horderly.nodup id function hfunction
    have hanswer : ∀ useCache tolerateTie,
        (registry.select id types .directed useCache tolerateTie).1 =
          (registry.hierarchy.resolve .directed function.signatures
            types).answer function types tolerateTie := by
      intro useCache tolerateTie
      rw [Registry.select_answer hsound id types tolerateTie
        fun _ => hmetric.symm, Catalog.selection, hfunction]
    rcases horderly.coherent.settled_of_meets
        (function.map_ids_signatures ▸ hnodup)
        (horderly.coherent.meets_of_short function.signatures hshort) with
      ⟨hrejects, hnone⟩ | ⟨index, lowest, hindex, hlowest, hunique⟩
    · refine ⟨none, GenericFunction.nearest_none hshort hrejects,
        fun useCache tolerateTie => ?_⟩
      rw [hanswer, hnone]
      rfl
    · refine ⟨some index, GenericFunction.nearest_of_lowest horderly.coherent
        hnodup hshort hindex hlowest, fun useCache tolerateTie => ?_⟩
      rw [hanswer, hunique]
      rfl
  refine ⟨hselect, fun tested test htest type tolerateTie => ?_⟩
  obtain ⟨function, hfunction⟩ := horderly.exists_function? htest
  obtain ⟨selected, -, hselected⟩ :=
    hselect test function hfunction [type] (Nat.le_refl 1)
  refine ⟨registry.entryAt? test selected, ?_⟩
  rw [Registry.resolve_eq, Registry.selectConfigured, hmetric, hselected]
  rfl

/-- A predicate of another registry. -/
def ghost : Predicate := ⟨9, "isGhost"⟩

/-- A function with an entry for all values and one for those of a predicate of
another registry, which is linked under the root. -/
def ghostly : Registry Unit :=
  [Operation.derive Predicate.any ghost, .createFunction "describe",
    .register 5 ⟨[Predicate.any], Predicate.null, .code ()⟩,
    .register 5 ⟨[ghost], Predicate.null, .code ()⟩].foldl
    (fun registry operation => (operation.perform registry).2) (.fresh {})

theorem short_calls_select_nearest_ghostly :
    ghostly.Reachable ∧ ghostly.metric = .directed ∧
    (∃ function, ghostly.function? 5 = some function ∧
      function.Nearest ghostly.hierarchy [ghost] (some 1)) ∧
    (∀ useCache tolerateTie,
      (ghostly.select 5 [ghost] .directed useCache tolerateTie).1 =
        .ok (some 1)) ∧
    ghostly.membershipTest? Predicate.any = some 0 ∧
    ∃ entry, (ghostly.resolve 0 [ghost] false).1 = .ok entry := by
  have hlinked := (Registry.Reachable.fresh {}).perform
    (.derive Predicate.any ghost : Operation Unit) trivial
  have hcreated := hlinked.perform (.createFunction "describe") trivial
  have hregistered := hcreated.perform
    (.register 5 ⟨[Predicate.any], Predicate.null, .code ()⟩) trivial
  have hreachable : ghostly.Reachable := hregistered.perform
    (.register 5 ⟨[ghost], Predicate.null, .code ()⟩) trivial
  have hmetric : ghostly.metric = .directed := by decide +kernel
  have htest : ghostly.membershipTest? Predicate.any = some 0 := by
    decide +kernel
  obtain ⟨function, hfunction⟩ : ∃ function,
      ghostly.function? 5 = some function := ⟨_, rfl⟩
  obtain ⟨hselect, htests⟩ := short_calls_select_nearest hreachable hmetric
  obtain ⟨selected, hnearest, hselected⟩ :=
    hselect 5 function hfunction [ghost] (by decide)
  obtain rfl : selected = some 1 := by
    have hsecond : (ghostly.select 5 [ghost] .directed false false).1.toOption =
        some (some 1) := by decide +kernel
    rw [hselected] at hsecond
    exact Option.some.inj hsecond
  exact ⟨hreachable, hmetric, ⟨function, hfunction, hnearest⟩, hselected, htest,
    htests Predicate.any 0 htest ghost false⟩

end PredicateDispatch
