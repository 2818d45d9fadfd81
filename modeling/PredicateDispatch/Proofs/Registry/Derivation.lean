import PredicateDispatch.Proofs.Registry.Failures

/-!
# What a derivation does

A derivation is refused for one of two reasons, and then nothing has changed.
Otherwise it succeeds: the check of the parent's membership test comes after the
link, but it cannot fail.  What is then above what, and the one entry that may be
new, are known exactly.
-/

namespace PredicateDispatch

variable {Code : Type}

/-! ## The two refusals -/

namespace Hierarchy

/-- A child that has a parent is refused, then one that is at or above its new
parent, and nothing else. -/
theorem refusal?_cases (hierarchy : Hierarchy) (parent child : Predicate) :
    (∃ existing, hierarchy.parent? child = some existing ∧
      hierarchy.refusal? parent child = some (.reparent child parent existing)) ∨
    (hierarchy.parent? child = none ∧ hierarchy.isA child parent = true ∧
      hierarchy.refusal? parent child = some (.cycle child parent)) ∨
    (hierarchy.parent? child = none ∧ hierarchy.isA child parent = false ∧
      hierarchy.refusal? parent child = none) := by
  rw [refusal?]
  cases hierarchy.parent? child with
  | some existing => exact Or.inl ⟨existing, rfl, rfl⟩
  | none =>
      cases hierarchy.isA child parent with
      | true => exact Or.inr (Or.inl ⟨rfl, rfl, rfl⟩)
      | false => exact Or.inr (Or.inr ⟨rfl, rfl, rfl⟩)

variable {hierarchy : Hierarchy} {parent child : Predicate}

theorem refusal?_eq_reparent_iff {existing : Predicate} :
    hierarchy.refusal? parent child = some (.reparent child parent existing) ↔
      hierarchy.parent? child = some existing := by
  rcases hierarchy.refusal?_cases parent child with
    ⟨found, hparent, hrefusal⟩ | ⟨hparent, -, hrefusal⟩ | ⟨hparent, -, hrefusal⟩ <;>
    simp [hparent, hrefusal]

theorem refusal?_eq_cycle_iff :
    hierarchy.refusal? parent child = some (.cycle child parent) ↔
      hierarchy.parent? child = none ∧ hierarchy.isA child parent = true := by
  rcases hierarchy.refusal?_cases parent child with
    ⟨found, hparent, hrefusal⟩ | ⟨hparent, habove, hrefusal⟩ |
      ⟨hparent, habove, hrefusal⟩ <;>
    simp [*]

theorem refusal?_eq_none_iff :
    hierarchy.refusal? parent child = none ↔
      hierarchy.parent? child = none ∧ hierarchy.isA child parent = false := by
  rcases hierarchy.refusal?_cases parent child with
    ⟨found, hparent, hrefusal⟩ | ⟨hparent, habove, hrefusal⟩ |
      ⟨hparent, habove, hrefusal⟩ <;>
    simp [*]

/-- There is no third reason. -/
theorem refusal?_eq_some {cause : LinkError}
    (hrefusal : hierarchy.refusal? parent child = some cause) :
    (∃ existing, cause = .reparent child parent existing) ∨
      cause = .cycle child parent := by
  rcases hierarchy.refusal?_cases parent child with
    ⟨existing, -, hreparent⟩ | ⟨-, -, hcycle⟩ | ⟨-, -, hallowed⟩
  · exact Or.inl ⟨existing, Option.some.inj (hrefusal.symm.trans hreparent)⟩
  · exact Or.inr (Option.some.inj (hrefusal.symm.trans hcycle))
  · cases hrefusal.symm.trans hallowed

end Hierarchy

/-! ## The effect of a derivation -/

namespace Catalog

/-- What a derivation makes of a function: the membership test of the parent gets
an answer for the child, unless it has an entry for one of the two. -/
def answerChild (catalog : Catalog Code) (parent child : Predicate) (id : ℕ)
    (function : GenericFunction Code) : GenericFunction Code :=
  if catalog.membershipTest? parent = some id ∧
      [child.id] ∉ function.argumentIds ∧ [parent.id] ∉ function.argumentIds then
    { function with entries := function.entries ++ [fixedAnswer child true] }
  else function

/-- The second catalog is the first one with the child under the parent, and
nothing else has happened to it. -/
structure Joins (before : Catalog Code) (parent child : Predicate)
    (after : Catalog Code) : Prop where
  metric : after.metric = before.metric
  predicates : after.hierarchy.predicates = before.hierarchy.predicates
  names : after.names = before.names
  tests : after.tests = before.tests
  nextFunction : after.nextFunction = before.nextFunction
  parent_child : after.hierarchy.parent? child = some parent
  parent_other : ∀ type, type.id ≠ child.id →
    after.hierarchy.parent? type = before.hierarchy.parent? type
  isA : ∀ upper lower, after.isA upper lower = true ↔
    before.isA upper lower = true ∨
      (before.isA upper parent = true ∧ before.isA child lower = true)
  function : ∀ id, after.function? id =
    (before.function? id).map (before.answerChild parent child id)

/-- Whether the test of the parent is extended is decided by its entries. -/
theorem Derived.function?_eq {catalog after : Catalog Code}
    {parent child : Predicate} (hderived : catalog.Derived parent child after)
    {id : ℕ} {function : GenericFunction Code}
    (hfunction : catalog.function? id = some function) :
    after.function? id = some (catalog.answerChild parent child id function) := by
  rcases hderived with ⟨hlink, hcovered⟩ | @⟨_, test, tested, hlink, htest, htested, hnew⟩
  · rw [answerChild, if_neg]
    · exact hfunction
    · rintro ⟨htest, hchild, hparent⟩
      exact (hcovered id function htest hfunction).elim hchild hparent
  · by_cases hid : id = test
    · subst hid
      obtain rfl : function = tested := Option.some.inj (hfunction.symm.trans htested)
      obtain ⟨hchild, hparent⟩ := not_or.mp hnew
      rw [answerChild, if_pos ⟨htest, hchild, hparent⟩,
        Registry.function?_modifyFunction_self,
        ← GenericFunction.addEntry_eq_append (fixedAnswer child true) hchild]
      exact congrArg (Option.map _) hfunction
    · rw [answerChild, if_neg, Registry.function?_modifyFunction_of_ne _ hid]
      · exact hfunction
      · rintro ⟨hasked, -⟩
        exact hid (Option.some.inj (hasked.symm.trans htest))

theorem Derived.joins {catalog after : Catalog Code} {parent child : Predicate}
    (hderived : catalog.Derived parent child after) (horderly : catalog.Orderly) :
    catalog.Joins parent child after where
  metric := hderived.metric_eq
  predicates := Hierarchy.predicates_of_link hderived.link_eq
  names := hderived.names_eq
  tests := hderived.tests_eq
  nextFunction := hderived.nextFunction_eq
  parent_child := Hierarchy.parent?_link_self hderived.link_eq
  parent_other _ hne := Hierarchy.parent?_link_of_ne hderived.link_eq hne
  isA := Hierarchy.isA_link_iff hderived.link_eq horderly.coherent
  function id := by
    cases hfunction : catalog.function? id with
    | none =>
        cases hfound : after.function? id with
        | none => rfl
        | some found =>
            obtain ⟨function, hexists⟩ := hderived.exists_function? hfound
            cases hfunction.symm.trans hexists
    | some function => exact hderived.function?_eq hfunction

end Catalog

namespace Registry

theorem derive_of_refusal {registry : Registry Code} {parent child : Predicate}
    {cause : LinkError}
    (hrefusal : registry.hierarchy.refusal? parent child = some cause) :
    registry.derive parent child = (.error (.link cause), registry) :=
  derive_of_error (Hierarchy.link_eq_error_of_refusal hrefusal)

theorem exists_derive_of_allowed {registry : Registry Code}
    (horderly : registry.toCatalog.Orderly) {parent child : Predicate}
    (hallowed : registry.hierarchy.refusal? parent child = none) :
    ∃ after, registry.derive parent child = (.ok (), after) ∧
      registry.toCatalog.Joins parent child after.toCatalog := by
  obtain ⟨linked, hlink⟩ := Hierarchy.exists_link_of_refusal hallowed
  obtain ⟨after, hderive, hderived⟩ := derive_of_link horderly hlink
  exact ⟨after, hderive, hderived.joins horderly⟩

/-- The outcome of a derivation is decided by the forest alone. -/
theorem derive_outcome {registry : Registry Code}
    (horderly : registry.toCatalog.Orderly) (parent child : Predicate) :
    (registry.derive parent child).1 =
      match registry.hierarchy.refusal? parent child with
      | some cause => .error (.link cause)
      | none => .ok () := by
  cases hrefusal : registry.hierarchy.refusal? parent child with
  | some cause => rw [derive_of_refusal hrefusal]
  | none =>
      obtain ⟨after, hderive, -⟩ := exists_derive_of_allowed horderly hrefusal
      rw [hderive]

theorem derive_eq_error_iff {registry : Registry Code}
    (horderly : registry.toCatalog.Orderly) {parent child : Predicate}
    {cause : LinkError} :
    (registry.derive parent child).1 = .error (.link cause) ↔
      registry.hierarchy.refusal? parent child = some cause := by
  rw [derive_outcome horderly]
  cases registry.hierarchy.refusal? parent child <;> simp

theorem derive_eq_ok_iff {registry : Registry Code}
    (horderly : registry.toCatalog.Orderly) {parent child : Predicate} :
    (registry.derive parent child).1 = .ok () ↔
      registry.hierarchy.refusal? parent child = none := by
  rw [derive_outcome horderly]
  cases registry.hierarchy.refusal? parent child <;> simp

end Registry

/-- A derivation fails if the child has a parent, or else if the child is the
parent or above it, and in no other case; what it may still have to do after the
link never fails.  A failed derivation changes nothing.  One that succeeds puts
what is above the parent above what is below the child, and the only function that
it may change is the membership test of the parent, which gets at most one entry,
behind the others. -/
theorem derivation_is_exact {registry : Registry Code}
    (hreachable : registry.Reachable) (parent child : Predicate) :
    (∀ existing, (registry.derive parent child).1 =
        .error (.link (.reparent child parent existing)) ↔
      registry.hierarchy.parent? child = some existing) ∧
    ((registry.derive parent child).1 = .error (.link (.cycle child parent)) ↔
      registry.hierarchy.parent? child = none ∧
        registry.isA child parent = true) ∧
    ((registry.derive parent child).1 = .ok () ↔
      registry.hierarchy.parent? child = none ∧
        registry.isA child parent = false) ∧
    (∀ error after, registry.derive parent child = (.error error, after) →
      after = registry ∧
        ((∃ existing, error = .link (.reparent child parent existing)) ∨
          error = .link (.cycle child parent))) ∧
    (∀ after, registry.derive parent child = (.ok (), after) →
      registry.toCatalog.Joins parent child after.toCatalog) := by
  have horderly := hreachable.orderly
  refine ⟨fun existing => ?_, ?_, ?_, fun error after herror => ?_,
    fun after hok => ?_⟩
  · rw [Registry.derive_eq_error_iff horderly, Hierarchy.refusal?_eq_reparent_iff]
  · rw [Registry.derive_eq_error_iff horderly, Hierarchy.refusal?_eq_cycle_iff,
      Catalog.isA]
  · rw [Registry.derive_eq_ok_iff horderly, Hierarchy.refusal?_eq_none_iff,
      Catalog.isA]
  · cases hrefusal : registry.hierarchy.refusal? parent child with
    | some cause =>
        rw [Registry.derive_of_refusal hrefusal] at herror
        obtain ⟨hcause, hsame⟩ := Prod.mk.inj herror
        obtain rfl := Except.error.inj hcause
        exact ⟨hsame.symm, (Hierarchy.refusal?_eq_some hrefusal).imp
          (fun ⟨existing, hcause⟩ => ⟨existing, congrArg Error.link hcause⟩)
          (congrArg Error.link)⟩
    | none =>
        obtain ⟨after', hderive, -⟩ :=
          Registry.exists_derive_of_allowed horderly hrefusal
        cases (Prod.mk.inj (hderive.symm.trans herror)).1
  · have hallowed := (Registry.derive_eq_ok_iff horderly).mp
      (congrArg Prod.fst hok)
    obtain ⟨after', hderive, hjoins⟩ :=
      Registry.exists_derive_of_allowed horderly hallowed
    obtain rfl := (Prod.mk.inj (hderive.symm.trans hok)).2
    exact hjoins

/-- A predicate with its test, a function that was promoted to one, and a
predicate that stands alone. -/
def discs : Registry Unit :=
  ((Operation.createPredicate "isDisc").perform
    ((Operation.register 6
        ⟨[Predicate.boolean], Predicate.boolean, .code ()⟩).perform
      ((Operation.createFunction "isRound").perform
        ((Operation.definePredicate "isShape" Predicate.any).perform
          (Registry.fresh {})).2).2).2).2

/-- The new predicate goes under the promoted function, whose table gets a second
entry; the other two derivations are refused. -/
theorem derivation_is_exact_discs :
    discs.Reachable ∧
    (∃ after, discs.derive ⟨6, "isRound"⟩ ⟨7, "isDisc"⟩ = (.ok (), after) ∧
      after.isA Predicate.any ⟨7, "isDisc"⟩ = true ∧
      (after.function? 6).map (·.argumentIds) = some [[3], [7]]) ∧
    (discs.derive ⟨5, "isShape"⟩ ⟨6, "isRound"⟩).1 =
      .error (.link (.reparent ⟨6, "isRound"⟩ ⟨5, "isShape"⟩ Predicate.any)) ∧
    (discs.derive ⟨7, "isDisc"⟩ ⟨7, "isDisc"⟩).1 =
      .error (.link (.cycle ⟨7, "isDisc"⟩ ⟨7, "isDisc"⟩)) := by
  have hreachable : discs.Reachable :=
    ((((Registry.Reachable.fresh {}).perform
      (.definePredicate "isShape" Predicate.any) trivial).perform
        (.createFunction "isRound") trivial).perform
          (.register 6 ⟨[Predicate.boolean], Predicate.boolean, .code ()⟩)
            trivial).perform (.createPredicate "isDisc") trivial
  obtain ⟨-, -, hok, -, hjoins⟩ :=
    derivation_is_exact hreachable ⟨6, "isRound"⟩ ⟨7, "isDisc"⟩
  obtain ⟨hreparent, -⟩ :=
    derivation_is_exact hreachable ⟨5, "isShape"⟩ ⟨6, "isRound"⟩
  obtain ⟨-, hcycle, -⟩ :=
    derivation_is_exact hreachable ⟨7, "isDisc"⟩ ⟨7, "isDisc"⟩
  have hderived : (discs.derive ⟨6, "isRound"⟩ ⟨7, "isDisc"⟩).1 = .ok () :=
    hok.mpr (by decide +kernel)
  have hjoined := hjoins _ (Prod.ext hderived rfl)
  refine ⟨hreachable, ⟨_, Prod.ext hderived rfl, ?_, ?_⟩,
    (hreparent Predicate.any).mpr (by decide +kernel),
    hcycle.mpr (by decide +kernel)⟩
  · exact (hjoined.isA _ _).mpr (Or.inr (by decide +kernel))
  · rw [hjoined.function]
    decide +kernel

end PredicateDispatch
