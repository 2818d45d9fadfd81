import PredicateDispatch.Proofs.Hierarchy.Closures
import PredicateDispatch.Proofs.Program.Requests

/-!
# Reachable registries

A registry is reached from a fresh one by operations.  Its cache is sound, its
forest is one that links have built, and it stays reachable while programs run
in it.
-/

namespace PredicateDispatch

variable {Code α β : Type}

namespace Registry

/-- What operations make of a fresh registry.  A cache is filled under one
metric only, that of its registry. -/
inductive Reachable : Registry Code → Prop
  | fresh (configuration : Configuration) : Reachable (fresh configuration)
  | perform {registry : Registry Code} (operation : Operation Code) :
      Reachable registry → operation.CachesUnder registry.metric →
        Reachable (operation.perform registry).2

/-! ## Sound caches -/

theorem cacheSound_fresh (configuration : Configuration) :
    (fresh configuration : Registry Code).CacheSound :=
  cacheSound_of_cache_eq_nil rfl

theorem CacheSound.alike_self {registry : Registry Code}
    (hsound : registry.CacheSound) : Alike registry.metric registry registry :=
  ⟨rfl, rfl, hsound, hsound⟩

theorem Reachable.cacheSound {registry : Registry Code}
    (hreachable : registry.Reachable) : registry.CacheSound := by
  induction hreachable with
  | fresh configuration => exact cacheSound_fresh configuration
  | perform operation _ hcaches ih =>
      exact (Operation.perform_alike ih.alike_self hcaches).2.left_sound

/-- Two reachable registries with one catalog answer everything alike. -/
theorem Reachable.alike {left right : Registry Code} (hleft : left.Reachable)
    (hright : right.Reachable) (hcatalog : left.toCatalog = right.toCatalog) :
    Alike left.metric left right :=
  ⟨hcatalog, rfl, hleft.cacheSound, hright.cacheSound⟩

theorem Reachable.metric_perform {registry : Registry Code}
    (hreachable : registry.Reachable) {operation : Operation Code}
    (hcaches : operation.CachesUnder registry.metric) :
    (operation.perform registry).2.metric = registry.metric :=
  (Operation.perform_alike hreachable.cacheSound.alike_self hcaches).2.metric_eq

/-! ## Built forests -/

/-- The forest is one that links have built. -/
def Linked (registry : Registry Code) : Prop :=
  Hierarchy.Reachable registry.hierarchy

theorem Linked.andThen {step : Except Error α × Registry Code}
    {next : α → Registry Code → Except Error β × Registry Code}
    (hstep : step.2.Linked)
    (hnext : ∀ value registry, registry.Linked → (next value registry).2.Linked) :
    (Registry.andThen step next).2.Linked := by
  rw [Registry.andThen]
  cases step.1 with
  | error error => exact hstep
  | ok value => exact hnext value _ hstep

namespace Linked

variable {registry : Registry Code} (hlinked : registry.Linked)
include hlinked

theorem of_toCatalog_eq {registry' : Registry Code}
    (hcatalog : registry'.toCatalog = registry.toCatalog) :
    registry'.Linked := by
  rw [Linked, hcatalog]
  exact hlinked

theorem derive (parent child : Predicate) :
    (registry.derive parent child).2.Linked := by
  rw [derive_eq]
  cases hlink : registry.hierarchy.link parent child with
  | error cause => exact hlinked
  | ok hierarchy =>
      have hrelinked : (registry.relink hierarchy).Linked :=
        hlinked.of_link_eq_ok hlink
      dsimp only
      rw [cover_eq]
      cases (registry.relink hierarchy).membershipTest? parent with
      | none => exact hrelinked
      | some test =>
          have hresolved : ((registry.relink hierarchy).resolve test [child]
              true).2.Linked :=
            hrelinked.of_toCatalog_eq (toCatalog_resolve ..)
          apply Linked.andThen hresolved
          intro covering after hafter
          split <;> exact hafter

theorem definePredicate (name : String) (parent : Predicate) :
    (registry.definePredicate name parent).2.Linked := by
  have hcreated : (registry.createPredicate name).Linked := hlinked.create name
  rw [definePredicate_eq]
  exact (hcreated.derive parent _).andThen fun _ _ hafter => hafter

theorem promote (id : ℕ) (name : String) :
    (registry.promote id name).2.Linked := by
  have hcreated : (registry.createPredicate name).Linked := hlinked.create name
  rw [promote_eq]
  exact (hcreated.derive _ _).andThen fun _ _ hafter => hafter

theorem register (id : ℕ) (entry : MethodEntry Code) :
    (registry.register id entry).2.Linked := by
  have hadded : (registry.addEntry id entry).Linked := hlinked
  rw [Registry.register]
  split
  · exact hlinked
  · rw [reviewRole]
    split
    · exact hadded
    · split
      · exact hadded.promote id _
      · exact hadded
      · exact hadded

theorem perform (operation : Operation Code) :
    (operation.perform registry).2.Linked := by
  cases operation with
  | inspect => exact hlinked
  | createPredicate name => exact hlinked.create name
  | definePredicate name parent => exact hlinked.definePredicate name parent
  | derive parent child => exact hlinked.derive parent child
  | createFunction name => exact hlinked
  | register function entry => exact hlinked.register function entry
  | setDefault function fallback =>
      change (registry.setDefault function fallback).2.Linked
      rw [setDefault]
      split <;> exact hlinked
  | resolve function types tolerateTie =>
      exact hlinked.of_toCatalog_eq (toCatalog_resolve ..)
  | select function types metric useCache tolerateTie =>
      exact hlinked.of_toCatalog_eq (toCatalog_select ..)
  | probe function types => exact hlinked.of_toCatalog_eq (toCatalog_probe ..)

end Linked

theorem Reachable.linked {registry : Registry Code}
    (hreachable : registry.Reachable) : registry.Linked := by
  induction hreachable with
  | fresh configuration => exact Hierarchy.reachable_kernel
  | perform operation _ _ ih => exact ih.perform operation

end Registry

/-! ## Runs -/

namespace Request

/-- A request that selects through the cache does so under `metric`. -/
def CachesUnder (metric : Metric) : Request Code → Prop
  | registry operation => operation.CachesUnder metric
  | _ => True

theorem allowsDispatch (metric : Metric) :
    Program.AllowsDispatch (CachesUnder metric : Request Code → Prop) where
  inspect := trivial
  resolve _ _ _ := trivial
  run _ _ := trivial

end Request

/-- A world whose registry is reachable and selects under `metric`. -/
def World.ReachedUnder (metric : Metric) (world : World Code) : Prop :=
  world.registry.Reachable ∧ world.registry.metric = metric

/-- The result of a run leaves such a world again, if the run ends. -/
def Result.ReachedUnder (metric : Metric) (result : Result Code α) : Prop :=
  ∀ outcome world, result = some (outcome, world) → world.ReachedUnder metric

theorem Result.reachedUnder_none {metric : Metric} :
    Result.ReachedUnder metric (none : Result Code α) := by
  intro outcome world heq
  cases heq

theorem Result.reachedUnder_some {metric : Metric} {world : World Code}
    (hworld : world.ReachedUnder metric) (outcome : Except Error α) :
    Result.ReachedUnder metric (some (outcome, world)) := by
  intro outcome' world' heq
  obtain ⟨-, rfl⟩ := Prod.mk.inj (Option.some.inj heq)
  exact hworld

namespace World.ReachedUnder

variable {metric : Metric} {world : World Code}
  (hworld : world.ReachedUnder metric)

include hworld in
theorem perform {operation : Operation Code}
    (hcaches : operation.CachesUnder metric) :
    (world.perform operation).2.ReachedUnder metric := by
  obtain ⟨hreachable, rfl⟩ := hworld
  exact ⟨hreachable.perform operation hcaches,
    hreachable.metric_perform hcaches⟩

variable {runTask : Runner Code}
  (hrunTask : ∀ task arguments world, world.ReachedUnder metric →
    Result.ReachedUnder metric (runTask task arguments world))
include hrunTask

include hworld in
theorem answer {request : Request Code} (hcaches : request.CachesUnder metric) :
    Result.ReachedUnder metric (request.answer runTask world) := by
  cases request with
  | registry operation =>
      exact Result.reachedUnder_some (hworld.perform hcaches) _
  | run task arguments => exact hrunTask task arguments world hworld
  | runClosure identity arguments =>
      simp only [Request.answer]
      split
      · exact hrunTask _ _ _ hworld
      · exact Result.reachedUnder_some hworld _
  | makeClosure body =>
      exact Result.reachedUnder_some (by exact hworld) _
  | readVariable name => exact Result.reachedUnder_some hworld _
  | writeVariable name value =>
      exact Result.reachedUnder_some (by exact hworld) _
  | write text =>
      exact Result.reachedUnder_some (by exact hworld) _
  | takeOutput =>
      exact Result.reachedUnder_some (by exact hworld) _
  | library => exact Result.reachedUnder_some hworld _
  | publish library =>
      exact Result.reachedUnder_some (by exact hworld) _

theorem runWith {program : Program Code α}
    (huses : program.Uses (Request.CachesUnder metric)) :
    ∀ {world : World Code}, world.ReachedUnder metric →
      Result.ReachedUnder metric (program.runWith runTask world) := by
  induction huses with
  | done outcome => exact fun hworld => Result.reachedUnder_some hworld outcome
  | ask request hcaches _ ih =>
      intro world hworld
      have hanswer := hworld.answer hrunTask hcaches
      rw [Program.runWith]
      cases hresult : request.answer runTask world with
      | none => exact Result.reachedUnder_none
      | some result => exact ih result.1 (hanswer _ _ hresult)

end World.ReachedUnder

variable {metric : Metric} {meaning : Code → List Value → Program Code Value}
  (hmeaning : ∀ body arguments,
    (meaning body arguments).Uses (Request.CachesUnder metric))
include hmeaning

/-- A registry stays reachable while a task runs in it, however deep. -/
theorem World.ReachedUnder.runTask (depth : ℕ) (task : Task Code)
    (arguments : List Value) {world : World Code}
    (hworld : world.ReachedUnder metric) :
    Result.ReachedUnder metric
      (PredicateDispatch.runTask meaning depth task arguments world) := by
  induction depth generalizing task arguments world with
  | zero => exact Result.reachedUnder_none
  | succ depth ih =>
      exact World.ReachedUnder.runWith
        (fun task arguments _ hworld => ih task arguments hworld)
        (Program.uses_taskProgram (Request.allowsDispatch metric) hmeaning task
          arguments) hworld

theorem World.ReachedUnder.exec (depth : ℕ) {program : Program Code α}
    (huses : program.Uses (Request.CachesUnder metric)) {world : World Code}
    (hworld : world.ReachedUnder metric) :
    Result.ReachedUnder metric (program.exec meaning depth world) :=
  World.ReachedUnder.runWith
    (fun task arguments _ hworld => hworld.runTask hmeaning depth task arguments)
    huses hworld

end PredicateDispatch
