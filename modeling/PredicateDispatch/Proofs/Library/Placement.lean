import PredicateDispatch.Proofs.Library.Fittings

/-!
# Making the base types

The predicates of the kernel and those of the base library are made one after
the other.  So their numbers increase, and each has the parent that it was made
with, whatever is linked before or afterwards.
-/

namespace PredicateDispatch

/-! ## The kernel -/

/-- What every registry starts with stays for ever. -/
theorem Registry.Reachable.remains_kernel {Code : Type} {registry : Registry Code}
    (hreachable : registry.Reachable) :
    ∃ metric, (Catalog.kernel metric).Remains registry.toCatalog := by
  induction hreachable with
  | fresh configuration => exact ⟨configuration.distance, .refl _⟩
  | perform operation hreachable _ ih =>
      obtain ⟨metric, hremains⟩ := ih
      exact ⟨metric, hremains.trans
        (attempted hreachable.orderly operation).remains⟩

theorem Catalog.Remains.knows {Code : Type} {earlier later : Catalog Code}
    (hremains : earlier.Remains later) {type : Predicate}
    (hknown : earlier.hierarchy.Knows type) : later.hierarchy.Knows type := by
  have hthere := Array.getElem?_eq_getElem hknown
  exact (Array.getElem?_eq_some_iff.mp (hremains.predicates _ _ hthere)).1

namespace Library

open Program (Leaves)

variable {Custom : Type}

/-! ## Predicates in the order of their making -/

/-- Predicates that were made one after the other, the latest first, and the
parents that they were made with. -/
structure Lineup (metric : Metric) (made : List (Predicate × Option Predicate))
    (registry : Registry (Body Custom)) : Prop where
  reachable : registry.Reachable
  metric_eq : registry.metric = metric
  knows : ∀ pair ∈ made, registry.hierarchy.Knows pair.1
  ordered : (made.map fun pair => pair.1.id).Pairwise (· > ·)
  parent? : ∀ type parent, (type, some parent) ∈ made →
    registry.hierarchy.parent? type = some parent

/-- The predicates of the kernel. -/
def kernelMade : List (Predicate × Option Predicate) :=
  [(Predicate.null, some Predicate.any), (Predicate.boolean, some Predicate.any),
    (Predicate.function, some Predicate.any),
    (Predicate.predicate, some Predicate.function), (Predicate.any, none)]

namespace Lineup

variable {metric : Metric} {made : List (Predicate × Option Predicate)}

theorem of_reachable {registry : Registry (Body Custom)}
    (hreachable : registry.Reachable) :
    Lineup registry.metric kernelMade registry where
  reachable := hreachable
  metric_eq := rfl
  knows pair hpair := by
    obtain ⟨metric, hremains⟩ := hreachable.remains_kernel
    refine hremains.knows ?_
    have hkernel : ∀ pair ∈ kernelMade, Hierarchy.kernel.Knows pair.1 := by
      decide +kernel
    exact hkernel pair hpair
  ordered := by decide
  parent? type parent hmade := by
    obtain ⟨metric, hremains⟩ := hreachable.remains_kernel
    have hkernel : ∀ pair ∈ kernelMade, ∀ parent ∈ pair.2,
        Hierarchy.kernel.parent? pair.1 = some parent := by decide +kernel
    exact hremains.parent? type parent (hkernel _ hmade parent rfl)

/-- Whatever is done, the predicates stay where they are. -/
theorem perform {registry : Registry (Body Custom)}
    (hlineup : Lineup metric made registry) (operation : Operation (Body Custom))
    (hcaches : operation.CachesUnder registry.metric) :
    Lineup metric made (operation.perform registry).2 := by
  have hremains :=
    (Registry.attempted hlineup.reachable.orderly operation).remains
  exact {
    reachable := hlineup.reachable.perform operation hcaches
    metric_eq := (hlineup.reachable.metric_perform hcaches).trans
      hlineup.metric_eq
    knows := fun pair hpair => hremains.knows (hlineup.knows pair hpair)
    ordered := hlineup.ordered
    parent? := fun type parent hmade =>
      hremains.parent? type parent (hlineup.parent? type parent hmade) }

variable {runTask : Runner (Body Custom)} {world : World (Body Custom)}
  (hlineup : Lineup metric made world.registry)
include hlineup

theorem definePredicate (name : String) (parent : Predicate) :
    (Program.definePredicate name parent).Leaves runTask world fun type after =>
      Lineup metric ((type, some parent) :: made) after.registry := by
  refine Leaves.of_perform (.definePredicate name parent)
    fun type after hperform => ?_
  have hafter := hlineup.perform (.definePredicate name parent) trivial
  cases hlink : (world.registry.hierarchy.create name).link parent
      (world.registry.hierarchy.fresh name) with
  | error cause =>
      cases hperform.symm.trans (Registry.definePredicate_of_error hlink)
  | ok linked =>
      obtain ⟨derived, after', hderived, hdefine, hattached⟩ :=
        Registry.definePredicate_of_link hlineup.reachable.orderly hlink
      obtain ⟨htype, rfl⟩ := Prod.mk.inj (hdefine.symm.trans hperform)
      obtain rfl := Except.ok.inj htype
      rw [hperform] at hafter
      have hlinked : after'.hierarchy = derived.hierarchy := by rw [hattached]; rfl
      exact {
        reachable := hafter.reachable
        metric_eq := hafter.metric_eq
        knows := List.forall_mem_cons.mpr ⟨by
          rw [hlinked]
          exact (Hierarchy.knows_fresh _ name).link hderived.link_eq, hafter.knows⟩
        ordered := by
          -- A predicate that exists has a smaller number than the new one.
          refine List.pairwise_cons.mpr ⟨fun id hid => ?_, hlineup.ordered⟩
          obtain ⟨pair, hpair, rfl⟩ := List.mem_map.mp hid
          exact hlineup.knows pair hpair
        parent? := fun lower upper hlower => by
          rcases List.mem_cons.mp hlower with heq | hold
          · obtain ⟨rfl, hupper⟩ := Prod.mk.inj heq
            rw [hlinked, Hierarchy.parent?_link_self hderived.link_eq, hupper]
          · exact hafter.parent? lower upper hold }

theorem membershipTest (type : Predicate) :
    (Library.membershipTest type).Leaves runTask world fun _ after =>
      after = world := by
  refine (Leaves.of_perform .inspect fun catalog after hperform => ?_ :
    Program.inspect.Leaves runTask world fun _ after => after = world).bind
      fun catalog after hafter => ?_
  · obtain ⟨-, rfl⟩ := Prod.mk.inj hperform
    rfl
  · subst hafter
    cases catalog.membershipTest? type with
    | none =>
        intro _ _ hrun
        cases (Prod.mk.inj (Option.some.inj hrun)).1
    | some test => exact Leaves.pure rfl

theorem registerPrimitive (test : ℕ) (types : Signature) (returns : Predicate)
    (primitive : Primitive) :
    (Library.registerPrimitive test types returns primitive).Leaves runTask world
      fun _ after => Lineup metric made after.registry := by
  refine Leaves.of_perform (.register test _) fun _ after hperform => ?_
  have hafter := hlineup.perform
    (.register test ⟨types, returns, .code (.primitive primitive)⟩) trivial
  rw [hperform] at hafter
  exact hafter

end Lineup

/-! ## The base types -/

/-- The base types, in the order in which they are made. -/
def typesMade (types : BaseTypes) : List (Predicate × Option Predicate) :=
  [(types.map, some Predicate.any), (types.list, some Predicate.any),
    (types.string, some Predicate.any), (types.character, some types.int),
    (types.int, some types.real), (types.real, some Predicate.any)] ++ kernelMade

/-- What was made in this way is where it belongs. -/
theorem Lineup.equipped {metric : Metric} {types : BaseTypes}
    {registry : Registry (Body Custom)}
    (hlineup : Lineup metric (typesMade types) registry) :
    registry.Equipped metric types [] [] where
  reachable := hlineup.reachable
  metric_eq := hlineup.metric_eq
  placed := {
    parent? := by
      have hmem : ∀ type parent : BaseType, type.parent? = some parent →
          (types.handle type, some (types.handle parent)) ∈ typesMade types := by
        intro type parent hparent
        cases type <;> cases hparent <;>
          simp [typesMade, kernelMade, BaseTypes.handle]
      exact fun type parent hparent =>
        hlineup.parent? _ _ (hmem type parent hparent)
    distinct := by
      have hreverse : BaseType.all.map (fun type => (types.handle type).id) =
          ((typesMade types).map fun pair => pair.1.id).reverse := rfl
      rw [hreverse, List.nodup_reverse]
      exact hlineup.ordered.imp fun hgt => Nat.ne_of_gt hgt }
  distinct := List.nodup_nil
  fitted := by simp
  unary := by simp

theorem installTypes_leaves {runTask : Runner (Body Custom)}
    {world : World (Body Custom)} (hreachable : world.registry.Reachable) :
    installTypes.Leaves runTask world fun types after =>
      after.registry.Equipped world.registry.metric types [] [] := by
  have hkernel := Lineup.of_reachable hreachable
  rw [installTypes]
  refine (hkernel.definePredicate "isReal" _).bind fun real _ hreal => ?_
  refine (hreal.definePredicate "isInt" real).bind fun int _ hint => ?_
  refine (hint.definePredicate "isChar" int).bind fun character _ hcharacter => ?_
  refine (hcharacter.definePredicate "isString" _).bind fun string _ hstring => ?_
  refine (hstring.definePredicate "isList" _).bind fun list _ hlist => ?_
  refine (hlist.definePredicate "isMap" _).bind fun map _ hmap => ?_
  refine (hmap.membershipTest int).bind fun test _ hafter => ?_
  subst hafter
  refine (hmap.registerPrimitive test _ _ _).bind fun _ _ hregistered => ?_
  refine (hregistered.membershipTest character).bind fun test _ hafter => ?_
  subst hafter
  refine (hregistered.registerPrimitive test _ _ _).bind fun _ _ hfinal => ?_
  exact Leaves.pure (Lineup.equipped hfinal)

end Library

end PredicateDispatch
