import PredicateDispatch.Proofs.Dispatch.CacheTransparency
import PredicateDispatch.Proofs.Membership.Answers

/-!
# Programs that the catalog decides

A program computes an outcome when it ends with it in every world with a certain
catalog, once the depth suffices, and leaves a world that agrees with that one.
Such programs can be put one after the other, and a call is one of them if the code
of the entry that it picks is.
-/

namespace PredicateDispatch

variable {Code α β : Type}

namespace World.Agrees

theorem refl (world : World Code) : world.Agrees world :=
  ⟨rfl, rfl, rfl, rfl, rfl⟩

theorem trans {first second third : World Code} (hfirst : first.Agrees second)
    (hsecond : second.Agrees third) : first.Agrees third :=
  ⟨hfirst.catalog.trans hsecond.catalog, hfirst.closures.trans hsecond.closures,
    hfirst.store.trans hsecond.store, hfirst.console.trans hsecond.console,
    hfirst.library.trans hsecond.library⟩

theorem symm {left right : World Code} (hagrees : left.Agrees right) :
    right.Agrees left :=
  ⟨hagrees.catalog.symm, hagrees.closures.symm, hagrees.store.symm,
    hagrees.console.symm, hagrees.library.symm⟩

/-- Selecting an entry changes nothing but the cache and the journal. -/
theorem resolve (world : World Code) (id : ℕ) (types : Signature)
    (tolerateTie : Bool) :
    world.Agrees (world.perform (.resolve id types tolerateTie)).2 :=
  ⟨(Registry.toCatalog_resolve world.registry id types tolerateTie).symm, rfl, rfl,
    rfl, rfl⟩

end World.Agrees

/-- What ends like the same ends alike. -/
theorem Result.Related.trans_symm {left middle right : Result Code α}
    (hleft : Result.Related World.Agrees left middle)
    (hright : Result.Related World.Agrees right middle) :
    Result.Related World.Agrees left right := by
  cases hleft with
  | exhausted =>
      cases hright with
      | exhausted => exact .exhausted
  | ended outcome hworlds =>
      cases hright with
      | ended _ hworlds' => exact .ended outcome (hworlds.trans hworlds'.symm)

namespace Catalog

/-- In every world with this catalog the program ends with the outcome, if the
depth suffices, and nothing changes but the cache and the journal. -/
def Computes (catalog : Catalog Code)
    (meaning : Code → List Value → Program Code Value) (program : Program Code α)
    (outcome : Except Error α) : Prop :=
  ∃ bound, ∀ depth ≥ bound, ∀ world : World Code, world.registry.Reachable →
    world.registry.toCatalog = catalog →
      ∃ after, program.exec meaning depth world = some (outcome, after) ∧
        world.Agrees after ∧ after.registry.Reachable

/-- The entry that a call for these types runs, alone at its distance. -/
def Picks (catalog : Catalog Code) (id : ℕ) (types : Signature)
    (entry : MethodEntry Code) : Prop :=
  ∃ function best, catalog.function? id = some function ∧
    catalog.hierarchy.resolve catalog.metric function.signatures types =
      .unique best ∧
    function.entries[best.index]? = some entry

/-- A call picks one entry at most. -/
theorem Picks.unique {catalog : Catalog Code} {id : ℕ} {types : Signature}
    {first second : MethodEntry Code} (hfirst : catalog.Picks id types first)
    (hsecond : catalog.Picks id types second) : first = second := by
  obtain ⟨function, best, hfunction, hbest, hentry⟩ := hfirst
  obtain ⟨function', best', hfunction', hbest', hentry'⟩ := hsecond
  obtain rfl := Option.some.inj (hfunction.symm.trans hfunction')
  obtain rfl := Resolution.unique.inj (hbest.symm.trans hbest')
  exact Option.some.inj (hentry.symm.trans hentry')

section Computes

variable {catalog : Catalog Code}
  {meaning : Code → List Value → Program Code Value}

theorem Computes.done (outcome : Except Error α) :
    catalog.Computes meaning (.done outcome) outcome :=
  ⟨0, fun _ _ world hreachable _ => ⟨world, rfl, .refl world, hreachable⟩⟩

section Bind

variable {program : Program Code α} {rest : α → Program Code β}

/-- After a failure the rest is not run. -/
theorem Computes.bind_error {error : Error}
    (hprogram : catalog.Computes meaning program (.error error)) :
    catalog.Computes meaning (program >>= rest) (.error error) := by
  obtain ⟨bound, hbound⟩ := hprogram
  refine ⟨bound, fun depth hdepth world hreachable hcatalog => ?_⟩
  obtain ⟨after, hrun, hafter⟩ := hbound depth hdepth world hreachable hcatalog
  refine ⟨after, ?_, hafter⟩
  rw [Program.exec] at hrun
  rw [Program.exec, Program.bind_eq, Program.runWith_bind, hrun]

/-- A program that goes on with a value it has computed. -/
theorem Computes.bind_ok {value : α} {outcome : Except Error β}
    (hprogram : catalog.Computes meaning program (.ok value))
    (hrest : catalog.Computes meaning (rest value) outcome) :
    catalog.Computes meaning (program >>= rest) outcome := by
  obtain ⟨bound, hbound⟩ := hprogram
  obtain ⟨bound', hbound'⟩ := hrest
  refine ⟨max bound bound', fun depth hdepth world hreachable hcatalog => ?_⟩
  obtain ⟨middle, hrun, hagrees, hmiddle⟩ :=
    hbound depth ((Nat.le_max_left ..).trans hdepth) world hreachable hcatalog
  obtain ⟨after, hrun', hagrees', hafter⟩ :=
    hbound' depth ((Nat.le_max_right ..).trans hdepth) middle hmiddle
      (hagrees.catalog.symm.trans hcatalog)
  refine ⟨after, ?_, hagrees.trans hagrees', hafter⟩
  rw [Program.exec] at hrun
  rw [Program.exec, Program.bind_eq, Program.runWith_bind, hrun]
  exact hrun'

theorem Computes.bind {outcome : Except Error α} {result : α → Except Error β}
    (hprogram : catalog.Computes meaning program outcome)
    (hrest : ∀ value, outcome = .ok value →
      catalog.Computes meaning (rest value) (result value)) :
    catalog.Computes meaning (program >>= rest) (outcome >>= result) := by
  cases outcome with
  | error error => exact hprogram.bind_error
  | ok value => exact hprogram.bind_ok (hrest value rfl)

end Bind

/-- One result for each item, one after the other. -/
theorem Computes.collect {program : α → Program Code β} {items : List α}
    {results : List β}
    (hresults : List.Forall₂
      (fun item result => catalog.Computes meaning (program item) (.ok result))
      items results) (earlier : List β) :
    catalog.Computes meaning (Program.collect program earlier items)
      (.ok (earlier.reverse ++ results)) := by
  induction hresults generalizing earlier with
  | nil =>
      rw [List.append_nil]
      exact .done _
  | @cons item result items results hitem _ ih =>
      have hrest := ih (result :: earlier)
      rw [List.reverse_cons, List.append_assoc, List.singleton_append] at hrest
      exact hitem.bind_ok hrest

/-- An answer of the expected type is kept. -/
theorem Computes.coerce {expected : Predicate} {value : Value}
    (habove : catalog.isA expected value.type = true) (failure : Error) :
    catalog.Computes meaning (Program.coerce expected value failure) (.ok value) := by
  refine ⟨0, fun depth _ world hreachable hcatalog => ?_⟩
  subst hcatalog
  exact ⟨world, Program.runWith_coerce_of_isA _ habove failure, .refl world,
    hreachable⟩

/-- The catalog decides on one outcome only. -/
theorem Computes.unique {registry : Registry Code} (hreachable : registry.Reachable)
    {program : Program Code α} {left right : Except Error α}
    (hleft : registry.Computes meaning program left)
    (hright : registry.Computes meaning program right) : left = right := by
  obtain ⟨bound, hbound⟩ := hleft
  obtain ⟨bound', hbound'⟩ := hright
  obtain ⟨after, hrun, -⟩ := hbound (max bound bound') (Nat.le_max_left ..)
    { registry := registry } hreachable rfl
  obtain ⟨after', hrun', -⟩ := hbound' (max bound bound') (Nat.le_max_right ..)
    { registry := registry } hreachable rfl
  exact congrArg Prod.fst (Option.some.inj (hrun.symm.trans hrun'))

end Computes

/-! ## Decided programs -/

section Decides

variable {catalog : Catalog Code}
  {meaning : Code → List Value → Program Code Value}

/-- The program computes some outcome. -/
def Decides (catalog : Catalog Code)
    (meaning : Code → List Value → Program Code Value) (program : Program Code α) :
    Prop :=
  ∃ outcome, catalog.Computes meaning program outcome

theorem Decides.done (outcome : Except Error α) :
    catalog.Decides meaning (.done outcome) :=
  ⟨outcome, .done outcome⟩

theorem Decides.bind {program : Program Code α} {rest : α → Program Code β}
    (hprogram : catalog.Decides meaning program)
    (hrest : ∀ value, catalog.Decides meaning (rest value)) :
    catalog.Decides meaning (program >>= rest) := by
  obtain ⟨outcome, hprogram⟩ := hprogram
  choose result hresult using hrest
  exact ⟨outcome >>= result, hprogram.bind fun value _ => hresult value⟩

theorem Decides.collect {program : α → Program Code β} {items : List α}
    (hitems : ∀ item ∈ items, catalog.Decides meaning (program item))
    (earlier : List β) :
    catalog.Decides meaning (Program.collect program earlier items) := by
  induction items generalizing earlier with
  | nil => exact .done _
  | cons item items ih =>
      obtain ⟨hitem, hrest⟩ := List.forall_mem_cons.mp hitems
      exact hitem.bind fun result => ih hrest (result :: earlier)

end Decides

/-! ## Calls -/

section Calls

variable {catalog : Catalog Code}
  {meaning : Code → List Value → Program Code Value} {id : ℕ}

theorem Picks.exists_function? {types : Signature} {entry : MethodEntry Code}
    (hpicks : catalog.Picks id types entry) :
    ∃ function, catalog.function? id = some function := by
  obtain ⟨function, -, hfunction, -⟩ := hpicks
  exact ⟨function, hfunction⟩

/-- An entry for exactly the type of the argument is picked. -/
theorem Orderly.picks_self (horderly : catalog.Orderly) {function : GenericFunction Code}
    (hfunction : catalog.function? id = some function) {entry : MethodEntry Code}
    (hentry : entry ∈ function.entries) {type : Predicate}
    (harguments : entry.arguments = [type]) : catalog.Picks id [type] entry := by
  obtain ⟨index, hindex⟩ := List.getElem?_of_mem hentry
  have hsignature : function.signatures[index]? = some [type] := by
    rw [GenericFunction.signatures, List.getElem?_map, hindex, ← harguments]
    rfl
  have hnodup := horderly.nodup id function hfunction
  rw [← GenericFunction.map_ids_signatures] at hnodup
  exact ⟨function, ⟨index, 0⟩, hfunction,
    horderly.coherent.resolve_eq_unique_of_self hnodup _ hsignature rfl, hindex⟩

/-- Whatever is cached, the entry is what selecting answers with. -/
theorem Picks.resolve_eq {registry : Registry Code}
    (hreachable : registry.Reachable) {types : Signature}
    {entry : MethodEntry Code} (hpicks : registry.Picks id types entry)
    (tolerateTie : Bool) :
    (registry.resolve id types tolerateTie).1 = .ok (some entry) := by
  obtain ⟨function, best, hfunction, hresolve, hentry⟩ := hpicks
  have hentry_at : registry.entryAt? id (some best.index) = some entry := by
    simp only [Registry.entryAt?, hfunction, hentry]
  rw [hreachable.cacheSound.resolve_answer hfunction, hresolve]
  exact congrArg Except.ok hentry_at

/-- A call with an entry of its own runs the code of that entry. -/
theorem Computes.call {arguments : List Value} {entry : MethodEntry Code}
    (hpicks : catalog.Picks id (arguments.map Value.type) entry) {body : Code}
    (hbody : entry.implementation = .code body) {outcome : Except Error Value}
    (hcomputes : catalog.Computes meaning (meaning body arguments) outcome)
    (htyped : ∀ value, outcome = .ok value →
      catalog.isA entry.returns value.type = true) :
    catalog.Computes meaning (Program.call id arguments) outcome := by
  obtain ⟨function, hfunction⟩ := hpicks.exists_function?
  have htask : catalog.Computes meaning
      (Task.program meaning
        (.typed function.name entry.returns entry.implementation) arguments)
      outcome := by
    rw [hbody]
    have hkept : catalog.Computes meaning
        (meaning body arguments >>= Program.castOrFail function.name entry.returns)
        (outcome >>= .ok) :=
      hcomputes.bind fun value hvalue => .coerce (htyped value hvalue) _
    cases outcome <;> exact hkept
  obtain ⟨bound, hbound⟩ := htask
  refine ⟨bound + 1, fun depth hdepth world hreachable hcatalog => ?_⟩
  obtain ⟨depth, rfl⟩ := Nat.exists_eq_succ_of_ne_zero (by omega : depth ≠ 0)
  subst hcatalog
  have hselected := hpicks.resolve_eq hreachable false
  have hagrees := World.Agrees.resolve world id (arguments.map Value.type) false
  obtain ⟨after, hrun, hagrees', hafter⟩ := hbound depth (by omega) _
    (hreachable.perform (.resolve id (arguments.map Value.type) false) trivial)
    hagrees.catalog.symm
  refine ⟨after, ?_, hagrees.trans hagrees', hafter⟩
  rw [Program.exec, Program.runWith_call _ hfunction]
  dsimp only
  rw [hselected]
  exact hrun

section Failures

variable {function : GenericFunction Code}
  (hfunction : catalog.function? id = some function) (arguments : List Value)

/-- A call that fails in all worlds, once the selection has been made. -/
theorem Computes.of_failing_call {error : Error}
    (hrun : ∀ world : World Code, world.registry.Reachable →
      world.registry.toCatalog = catalog → ∀ runTask,
        (Program.call id arguments).runWith runTask world = some (.error error,
          (world.perform (.resolve id (arguments.map Value.type) false)).2)) :
    catalog.Computes meaning (Program.call id arguments) (.error error) :=
  ⟨0, fun _ _ world hreachable hcatalog =>
    ⟨_, hrun world hreachable hcatalog _, .resolve world id _ false,
      hreachable.perform (.resolve id _ false) trivial⟩⟩

include hfunction

theorem Computes.call_of_noMatch (hfallback : function.fallback = none)
    (hresolve : catalog.hierarchy.resolve catalog.metric function.signatures
      (arguments.map Value.type) = .noMatch) :
    catalog.Computes meaning (Program.call id arguments)
      (.error (function.noImplementation (arguments.map Value.type))) := by
  refine .of_failing_call arguments fun world hreachable hcatalog runTask => ?_
  subst hcatalog
  rw [Program.runWith_call _ hfunction]
  dsimp only
  rw [hreachable.cacheSound.resolve_answer hfunction, hresolve]
  simp [Resolution.answer, Except.map, Registry.entryAt?_none,
    GenericFunction.task?, hfallback]

theorem Computes.call_of_ambiguous {tied : List Candidate}
    (hresolve : catalog.hierarchy.resolve catalog.metric function.signatures
      (arguments.map Value.type) = .ambiguous tied) :
    catalog.Computes meaning (Program.call id arguments)
      (.error (.ambiguous function.name (arguments.map Value.type)
        (tied.filterMap fun candidate => function.signatures[candidate.index]?))) := by
  refine .of_failing_call arguments fun world hreachable hcatalog runTask => ?_
  subst hcatalog
  rw [Program.runWith_call _ hfunction]
  dsimp only
  rw [hreachable.cacheSound.resolve_answer hfunction, hresolve]
  rfl

end Failures

/-- A call of a function without a default picks an entry, or fails. -/
theorem exists_picks_or_computes_error
    (meaning : Code → List Value → Program Code Value)
    {function : GenericFunction Code}
    (hfunction : catalog.function? id = some function)
    (hfallback : function.fallback = none) (arguments : List Value) :
    (∃ entry ∈ function.entries,
      catalog.Picks id (arguments.map Value.type) entry) ∨
    ∃ error, catalog.Computes meaning (Program.call id arguments)
      (.error error) := by
  cases hresolve : catalog.hierarchy.resolve catalog.metric function.signatures
      (arguments.map Value.type) with
  | unique best =>
      obtain ⟨declared, hdeclared, -⟩ :=
        Hierarchy.exists_accepts_of_resolveBy_eq_unique hresolve
      rw [GenericFunction.signatures, List.getElem?_map] at hdeclared
      obtain ⟨entry, hentry, -⟩ := Option.map_eq_some_iff.mp hdeclared
      exact Or.inl ⟨entry, List.mem_of_getElem? hentry, function, best, hfunction,
        hresolve, hentry⟩
  | noMatch =>
      exact Or.inr ⟨_, Computes.call_of_noMatch hfunction arguments hfallback hresolve⟩
  | ambiguous tied =>
      exact Or.inr ⟨_, Computes.call_of_ambiguous hfunction arguments hresolve⟩

end Calls

/-! ## Calls that end alike -/

/-- From every world with this catalog and to every depth, the programs have the same
outcome and leave worlds that agree, or neither ends. -/
def EndAlike (catalog : Catalog Code)
    (meaning : Code → List Value → Program Code Value) (left right : Program Code α) :
    Prop :=
  ∀ (depth : ℕ) (world : World Code), world.registry.Reachable →
    world.registry.toCatalog = catalog →
      Result.Related World.Agrees (left.exec meaning depth world)
        (right.exec meaning depth world)

section Picks

variable {meaning : Code → List Value → Program Code Value} {id : ℕ}
  {arguments : List Value} {entry : MethodEntry Code}

/-- A call runs the code of the entry that it picks, one run deeper, and holds the
answer to the declared type. -/
theorem Picks.exec_call {world : World Code} (hreachable : world.registry.Reachable)
    (hpicks : world.registry.Picks id (arguments.map Value.type) entry)
    {function : GenericFunction Code}
    (hfunction : world.registry.function? id = some function) {body : Code}
    (hbody : entry.implementation = .code body) (depth : ℕ) :
    (Program.call id arguments).exec meaning (depth + 1) world =
      (meaning body arguments >>=
          Program.castOrFail function.name entry.returns).exec meaning depth
        (world.perform (.resolve id (arguments.map Value.type) false)).2 := by
  rw [Program.exec, Program.runWith_call _ hfunction]
  dsimp only
  rw [hpicks.resolve_eq hreachable false]
  change (Task.program meaning (.typed function.name entry.returns
    entry.implementation) arguments).runWith _ _ = _
  rw [hbody]
  rfl

/-- Such a call does not end without a nested run. -/
theorem Picks.exec_call_zero {world : World Code}
    (hreachable : world.registry.Reachable)
    (hpicks : world.registry.Picks id (arguments.map Value.type) entry) :
    (Program.call id arguments).exec meaning 0 world = none := by
  obtain ⟨function, hfunction⟩ := hpicks.exists_function?
  rw [Program.exec, Program.runWith_call _ hfunction]
  dsimp only
  rw [hpicks.resolve_eq hreachable false]
  rfl

/-- That the selection was made before is not noticed. -/
theorem Picks.exec_call_related {world : World Code}
    (huses : ∀ body arguments,
      (meaning body arguments).Uses (Request.CachesUnder world.registry.metric))
    (hreachable : world.registry.Reachable)
    (hpicks : world.registry.Picks id (arguments.map Value.type) entry)
    {function : GenericFunction Code}
    (hfunction : world.registry.function? id = some function) {body : Code}
    (hbody : entry.implementation = .code body) (depth : ℕ) :
    Result.Related World.Agrees
      ((Program.call id arguments).exec meaning (depth + 1) world)
      ((meaning body arguments >>=
          Program.castOrFail function.name entry.returns).exec meaning depth
        world) := by
  have hselected : World.ReachedUnder world.registry.metric
      (world.perform (.resolve id (arguments.map Value.type) false)).2 :=
    World.ReachedUnder.perform ⟨hreachable, rfl⟩ trivial
  rw [hpicks.exec_call hreachable hfunction hbody]
  exact Program.exec_agrees (fun _ _ => .refl _) huses depth (.refl _)
    ((huses body arguments).bind fun _ =>
      Program.uses_coerce (Request.allowsDispatch _) _ _ _)
    hselected ⟨hreachable, rfl⟩ (World.Agrees.resolve world id _ false).symm

/-- Calls that run the same code in the same way end alike, whatever becomes of the
answer. -/
theorem Picks.calls_endAlike {catalog : Catalog Code}
    (huses : ∀ body arguments,
      (meaning body arguments).Uses (Request.CachesUnder catalog.metric))
    {left right : List Value}
    (hleft : catalog.Picks id (left.map Value.type) entry)
    (hright : catalog.Picks id (right.map Value.type) entry) {body : Code}
    (hbody : entry.implementation = .code body)
    (hruns : meaning body left = meaning body right) :
    catalog.EndAlike meaning (Program.call id left) (Program.call id right) := by
  intro depth world hreachable hcatalog
  subst hcatalog
  obtain ⟨function, hfunction⟩ := hleft.exists_function?
  cases depth with
  | zero =>
      rw [hleft.exec_call_zero hreachable, hright.exec_call_zero hreachable]
      exact .exhausted
  | succ depth =>
      have hfirst := hleft.exec_call_related huses hreachable hfunction hbody depth
      have hsecond := hright.exec_call_related huses hreachable hfunction hbody depth
      rw [hruns] at hfirst
      exact hfirst.trans_symm hsecond

end Picks

end Catalog

end PredicateDispatch
