import PredicateDispatch.Proofs.Registry.Effects

/-!
# What failures leave behind

A definition and a promotion create their predicate first and link it then.
The link is refused if a handle from elsewhere was linked or is the parent under
the number that the predicate gets; the predicate then stays, and so does the
entry that asked for the promotion.  Where links join predicates of the registry
only, no registration fails halfway, and a definition does so only under a
handle that is numbered like the predicate it creates.
-/

namespace PredicateDispatch

variable {Code : Type}

namespace Hierarchy

/-- Why a child is refused a parent, if it is. -/
def refusal? (hierarchy : Hierarchy) (parent child : Predicate) :
    Option LinkError :=
  match hierarchy.parent? child with
  | some existing => some (.reparent child parent existing)
  | none => if hierarchy.isA child parent then some (.cycle child parent) else none

variable {hierarchy : Hierarchy} {parent child : Predicate}

theorem refusal?_create (hierarchy : Hierarchy) (name : String)
    (parent child : Predicate) :
    (hierarchy.create name).refusal? parent child =
      hierarchy.refusal? parent child := rfl

theorem link_eq_error_of_refusal {cause : LinkError}
    (hrefusal : hierarchy.refusal? parent child = some cause) :
    hierarchy.link parent child = .error cause := by
  rw [refusal?] at hrefusal
  rw [link]
  cases hparent : hierarchy.parent? child with
  | some existing =>
      rw [hparent] at hrefusal
      exact congrArg Except.error (Option.some.inj hrefusal)
  | none =>
      rw [hparent] at hrefusal
      by_cases hcycle : hierarchy.isA child parent = true
      · dsimp only at hrefusal ⊢
        rw [if_pos hcycle] at hrefusal ⊢
        exact congrArg Except.error (Option.some.inj hrefusal)
      · cases (if_neg hcycle).symm.trans hrefusal

theorem exists_link_of_refusal
    (hrefusal : hierarchy.refusal? parent child = none) :
    ∃ linked, hierarchy.link parent child = .ok linked := by
  rw [refusal?] at hrefusal
  cases hparent : hierarchy.parent? child with
  | some existing =>
      rw [hparent] at hrefusal
      cases hrefusal
  | none =>
      rw [hparent] at hrefusal
      have hapart := fun hcycle => Option.some_ne_none _
        ((if_pos hcycle).symm.trans hrefusal)
      exact ⟨_, link_eq_ok_iff.mpr
        ⟨hparent, Bool.eq_false_iff.mpr hapart, rfl⟩⟩

/-- Where links join existing predicates, the next one is refused no parent but
itself. -/
theorem Confined.refusal?_fresh_eq_none_iff (hconfined : hierarchy.Confined)
    (hcoherent : hierarchy.Coherent) {name : String} :
    hierarchy.refusal? parent (hierarchy.fresh name) = none ↔
      parent.id ≠ hierarchy.predicates.size := by
  have hstranger := hierarchy.not_knows_fresh name
  have hbelow := hconfined.isA_iff_of_above hstranger hcoherent parent
  rw [refusal?, hconfined.parent?_eq_none hstranger]
  dsimp only
  by_cases hid : parent.id = hierarchy.predicates.size
  · rw [if_pos (hbelow.mpr hid.symm)]
    exact iff_of_false (Option.some_ne_none _) (fun hne => hne hid)
  · rw [if_neg fun habove => hid (hbelow.mp habove).symm]
    exact iff_of_true rfl hid

end Hierarchy

/-- A definition or a registration of which the link is refused keeps what it
had done: the definition leaves its predicate behind, the registration leaves
its entry and the predicate of the promotion that failed, and nothing else
changes.  All others succeed, apart from registrations on functions that do not
exist, which change nothing.  If the links so far join predicates of the
registry, every registration that fails is of that kind, and a definition fails
only if its parent is numbered like the predicate to be created. -/
theorem failures_keep_what_was_done {registry : Registry Code}
    (hreachable : registry.Reachable) :
    (∀ name parent,
      (registry.hierarchy.refusal? parent (registry.hierarchy.fresh name) = none →
        ∃ after, registry.definePredicate name parent =
          (.ok (registry.hierarchy.fresh name), after)) ∧
      (∀ cause, registry.hierarchy.refusal? parent
          (registry.hierarchy.fresh name) = some cause →
        registry.definePredicate name parent =
          (.error (.link cause), registry.createPredicate name))) ∧
    (∀ id entry, registry.function? id = none →
      registry.register id entry = (.error (.unknownNumber id), registry)) ∧
    (∀ id entry function, registry.function? id = some function →
      ((function.addEntry entry).AwaitsPromotion →
        registry.hierarchy.refusal? Predicate.any
          (registry.hierarchy.fresh function.name) = none) →
      ∃ after, registry.register id entry = (.ok (), after)) ∧
    (∀ id entry function cause, registry.function? id = some function →
      (function.addEntry entry).AwaitsPromotion →
      registry.hierarchy.refusal? Predicate.any
          (registry.hierarchy.fresh function.name) = some cause →
      registry.register id entry = (.error (.link cause),
        (registry.addEntry id entry).createPredicate function.name)) ∧
    (∀ events, registry.Past events →
      (∀ name parent, registry.hierarchy.refusal? parent
          (registry.hierarchy.fresh name) = none ↔
        parent.id ≠ registry.hierarchy.predicates.size) ∧
      ∀ id entry error after, registry.register id entry = (.error error, after) →
        registry.function? id = none ∧ after = registry) := by
  have horderly := hreachable.orderly
  have hunknown : ∀ id entry, registry.function? id = none →
      registry.register id entry = (.error (.unknownNumber id), registry) := by
    intro id entry hnone
    rw [Registry.register, hnone]
  have hknown : ∀ id entry function, registry.function? id = some function →
      ((function.addEntry entry).AwaitsPromotion →
        registry.hierarchy.refusal? Predicate.any
          (registry.hierarchy.fresh function.name) = none) →
      ∃ after, registry.register id entry = (.ok (), after) := by
    intro id entry function hfunction hpromotion
    obtain ⟨after, hok, -⟩ := Registry.register_of_link horderly hfunction entry
      fun hawaits => Hierarchy.exists_link_of_refusal
        ((Hierarchy.refusal?_create ..).trans (hpromotion hawaits))
    exact ⟨after, hok⟩
  refine ⟨fun name parent => ⟨fun hallowed => ?_, fun cause hrefusal => ?_⟩,
    hunknown, hknown,
    fun id entry function cause hfunction hawaits hrefusal => ?_,
    fun events hpast => ?_⟩
  · rw [← Hierarchy.refusal?_create _ name] at hallowed
    obtain ⟨linked, hlink⟩ := Hierarchy.exists_link_of_refusal hallowed
    obtain ⟨-, after, -, hok, -⟩ := Registry.definePredicate_of_link horderly hlink
    exact ⟨after, hok⟩
  · rw [← Hierarchy.refusal?_create _ name] at hrefusal
    exact Registry.definePredicate_of_error
      (Hierarchy.link_eq_error_of_refusal hrefusal)
  · rw [← Hierarchy.refusal?_create _ function.name] at hrefusal
    exact Registry.register_of_error hfunction hawaits
      (Hierarchy.link_eq_error_of_refusal hrefusal)
  · have hkept := hpast.wellKept
    have hallowed : ∀ name parent, registry.hierarchy.refusal? parent
        (registry.hierarchy.fresh name) = none ↔
          parent.id ≠ registry.hierarchy.predicates.size :=
      fun _ _ => hkept.confined.refusal?_fresh_eq_none_iff hkept.coherent
    refine ⟨hallowed, fun id entry error after herror => ?_⟩
    cases hfunction : registry.function? id with
    | none =>
        rw [hunknown id entry hfunction] at herror
        exact ⟨rfl, (Prod.mk.inj herror).2.symm⟩
    | some function =>
        obtain ⟨after', hok⟩ := hknown id entry function hfunction fun _ =>
          (hallowed _ _).mpr (Nat.ne_of_lt hpast.knows_any)
        cases (Prod.mk.inj (hok.symm.trans herror)).1

/-- The root is linked above a predicate of another registry, and there is a
function without entries. -/
def haunted : Registry Unit :=
  ((Operation.createFunction "isTruthy").perform
    ((Operation.derive Predicate.any ⟨5, "isGhost"⟩).perform
      (Registry.fresh {})).2).2

/-- The test that the function would become. -/
def hauntedTest : MethodEntry Unit :=
  ⟨[Predicate.boolean], Predicate.boolean, .code ()⟩

theorem failures_keep_what_was_done_haunted :
    haunted.Reachable ∧
    haunted.definePredicate "isThing" Predicate.any =
      (.error (.link (.reparent ⟨5, "isThing"⟩ Predicate.any Predicate.any)),
        haunted.createPredicate "isThing") ∧
    haunted.register 5 hauntedTest =
      (.error (.link (.reparent ⟨5, "isTruthy"⟩ Predicate.any Predicate.any)),
        (haunted.addEntry 5 hauntedTest).createPredicate "isTruthy") ∧
    haunted.register 6 hauntedTest = (.error (.unknownNumber 6), haunted) := by
  have hlinked := (Registry.Reachable.fresh {}).perform
    (.derive Predicate.any ⟨5, "isGhost"⟩ : Operation Unit) trivial
  have hreachable : haunted.Reachable :=
    hlinked.perform (.createFunction "isTruthy") trivial
  obtain ⟨hdefine, hunknown, -, hpromotion, -⟩ :=
    failures_keep_what_was_done hreachable
  refine ⟨hreachable, (hdefine "isThing" Predicate.any).2 _ (by decide +kernel),
    hpromotion 5 hauntedTest ⟨"isTruthy", [], none, .ordinary⟩ _ rfl ⟨rfl, rfl⟩
      (by decide +kernel),
    hunknown 6 hauntedTest rfl⟩

end PredicateDispatch
