import PredicateDispatch.Proofs.Membership.Answers

/-!
# Coercion and failing tests

Coercibility asks the membership test of a predicate and reports its outcome: a
yes, a no, or the failure of the test.  There is one exception.  A call that
finds no implementation counts as a no, not only when it is the call of the test
itself, which has neither an entry nor a default for the value, but also when it
is a call made by the code that the test runs.  A failure of this kind never
gets out of a coercion, and no other failure is lost.
-/

namespace PredicateDispatch

variable {Code : Type}

/-- A call has found no implementation, of whatever function. -/
def Error.IsNoImplementation (error : Error) : Prop :=
  ∃ function types candidates,
    error = .noImplementation function types candidates

/-- What a test says of its value, if all that it may fail with is reported. -/
def Program.verdict : Except Error Value → Except Error Bool :=
  Except.map fun answer => answer.payload.boolean? == some true

/-- The implementation is code, and its run on the arguments fails for want of
an implementation. -/
def Implementation.EndsUnanswered (implementation : Implementation Code)
    (meaning : Code → List Value → Program Code Value) (depth : ℕ)
    (arguments : List Value) (world final : World Code) : Prop :=
  ∃ body error, implementation = .code body ∧ error.IsNoImplementation ∧
    (meaning body arguments).exec meaning depth world =
      some (.error error, final)

/-- A function that exists is resolved unless there is a tie. -/
theorem Registry.CacheSound.exists_of_resolve_eq_error
    {registry : Registry Code} (hsound : registry.CacheSound) {id : ℕ}
    {function : GenericFunction Code}
    (hfunction : registry.function? id = some function) {types : Signature}
    {tolerateTie : Bool} {error : Error}
    (hresolve : (registry.resolve id types tolerateTie).1 = .error error) :
    ∃ candidates, error = .ambiguous function.name types candidates := by
  rw [hsound.resolve_answer hfunction] at hresolve
  cases htied : registry.hierarchy.resolve registry.metric function.signatures
      types with
  | noMatch => simp [htied, Resolution.answer, Except.map] at hresolve
  | unique best => simp [htied, Resolution.answer, Except.map] at hresolve
  | ambiguous tied =>
      cases tolerateTie with
      | true => simp [htied, Resolution.answer, Except.map] at hresolve
      | false =>
          rw [htied] at hresolve
          exact ⟨_, (Except.error.inj hresolve).symm⟩

namespace Program

/-! ## Failures that do not get out -/

theorem coercibility_of_isNoImplementation {error : Error}
    (herror : error.IsNoImplementation) :
    coercibility (.error error) = .ok false := by
  obtain ⟨function, types, candidates, rfl⟩ := herror
  rfl

theorem coercibility_of_not_isNoImplementation {error : Error}
    (herror : ¬ error.IsNoImplementation) :
    coercibility (.error error) = .error error := by
  cases error with
  | noImplementation function types candidates =>
      exact absurd ⟨function, types, candidates, rfl⟩ herror
  | _ => rfl

theorem coercibility_eq_verdict {outcome : Except Error Value}
    (houtcome : ∀ error, outcome = .error error → ¬ error.IsNoImplementation) :
    coercibility outcome = verdict outcome := by
  cases outcome with
  | ok answer => rfl
  | error error =>
      exact coercibility_of_not_isNoImplementation (houtcome error rfl)

/-- Every failure of the test is reported but want of an implementation. -/
theorem coercibility_eq_error_iff {outcome : Except Error Value}
    {error : Error} :
    coercibility outcome = .error error ↔
      outcome = .error error ∧ ¬ error.IsNoImplementation := by
  constructor
  · intro hfailed
    rcases outcome with failure | answer
    · by_cases hfailure : failure.IsNoImplementation
      · rw [coercibility_of_isNoImplementation hfailure] at hfailed
        cases hfailed
      · rw [coercibility_of_not_isNoImplementation hfailure] at hfailed
        obtain rfl := Except.error.inj hfailed
        exact ⟨rfl, hfailure⟩
    · cases hfailed
  · rintro ⟨rfl, herror⟩
    exact coercibility_of_not_isNoImplementation herror

section Runs

variable {runTask : Runner Code} {expected : Predicate} {value : Value}
  {world final : World Code} {error : Error}

theorem not_isNoImplementation_of_isCoercible
    (hrun : (isCoercible expected value).runWith runTask world =
      some (.error error, final)) : ¬ error.IsNoImplementation := by
  cases htest : world.registry.membershipTest? expected with
  | none =>
      rw [runWith_isCoercible_of_no_test _ htest] at hrun
      cases hrun
  | some test =>
      rw [runWith_isCoercible _ htest] at hrun
      obtain ⟨ran, -, hran⟩ := Option.map_eq_some_iff.mp hrun
      exact (coercibility_eq_error_iff.mp (Prod.mk.inj hran).1).2

/-- A coercion does not fail for want of an implementation. -/
theorem not_isNoImplementation_of_coerce {failure : Error}
    (hfailure : ¬ failure.IsNoImplementation)
    (hrun : (coerce expected value failure).runWith runTask world =
      some (.error error, final)) : ¬ error.IsNoImplementation := by
  rw [runWith_coerce] at hrun
  split at hrun
  · cases hrun
  · obtain ⟨⟨outcome, after⟩, hasked, hran⟩ := Option.map_eq_some_iff.mp hrun
    obtain ⟨houtcome, -⟩ := Prod.mk.inj hran
    rcases outcome with failed | coercible
    · exact Except.error.inj houtcome ▸
        not_isNoImplementation_of_isCoercible hasked
    · cases coercible with
      | false => exact Except.error.inj houtcome ▸ hfailure
      | true => cases houtcome

end Runs

/-- Holding an answer to its declared type adds no failure of this kind, so that
a stored implementation has it from its code alone. -/
theorem runTask_typed_eq_error_iff
    (meaning : Code → List Value → Program Code Value) (depth : ℕ)
    (name : String) (returns : Predicate) {implementation : Implementation Code}
    {arguments : List Value} {world final : World Code} {error : Error}
    (herror : error.IsNoImplementation) :
    runTask meaning (depth + 1) (.typed name returns implementation) arguments
        world = some (.error error, final) ↔
      ∃ body, implementation = .code body ∧
        (meaning body arguments).exec meaning depth world =
          some (.error error, final) := by
  have hcast : ∀ answer world',
      (castOrFail name returns answer).runWith (runTask meaning depth) world' ≠
        some (.error error, final) := by
    intro answer world' hrun
    refine not_isNoImplementation_of_coerce ?_ hrun herror
    rintro ⟨_, _, _, heq⟩
    cases heq
  cases implementation with
  | answer truth =>
      constructor
      · exact fun hrun => absurd hrun (hcast _ _)
      · rintro ⟨body, heq, -⟩
        cases heq
  | code body =>
      have hprogram : runTask meaning (depth + 1)
          (.typed name returns (.code body)) arguments world =
          ((meaning body arguments).bind (castOrFail name returns)).runWith
            (runTask meaning depth) world := rfl
      rw [hprogram, runWith_bind]
      constructor
      · intro hrun
        refine ⟨body, rfl, ?_⟩
        rw [exec]
        split at hrun
        · cases hrun
        case h_2 failure after hbody => rw [hbody, hrun]
        case h_3 answer after hbody => exact absurd hrun (hcast _ _)
      · rintro ⟨body', heq, hbody⟩
        cases heq
        rw [exec] at hbody
        rw [hbody]

/-! ## Asking a test -/

section Asked

variable (meaning : Code → List Value → Program Code Value) (depth : ℕ)
  {world : World Code} {type : Predicate} {test : ℕ}
  (htest : world.registry.membershipTest? type = some test)
  {function : GenericFunction Code}
  (hfunction : world.registry.function? test = some function) {value : Value}
include htest hfunction

/-- Coercibility runs the entry or the default that the test has. -/
theorem exec_isCoercible_of_task {selected : Option (MethodEntry Code)}
    {task : Task Code}
    (hresolve : (world.registry.resolve test [value.type] false).1 =
      .ok selected) (htask : function.task? selected = some task) :
    (isCoercible type value).exec meaning depth world =
      (runTask meaning depth task [value]
        (world.perform (.resolve test [value.type] false)).2).map fun ran =>
          (coercibility ran.1, ran.2) := by
  have hselected : (world.registry.resolve test ([value].map Value.type)
      false).1 = .ok selected := hresolve
  rw [exec, runWith_isCoercible _ htest, runWith_call _ hfunction]
  dsimp only
  rw [hselected]
  dsimp only
  rw [htask]
  rfl

section Stored

variable {selected : Option (MethodEntry Code)} {returns : Predicate}
  {implementation : Implementation Code}
  (hresolve : (world.registry.resolve test [value.type] false).1 =
    .ok selected)
  (htask : function.task? selected =
    some (.typed function.name returns implementation))
include hresolve htask

/-- What is stored for the value is reported with all its failures, unless its
code ends with a call that finds no implementation. -/
theorem exec_isCoercible_of_answered
    (hanswered : ∀ final, ¬ implementation.EndsUnanswered meaning depth [value]
      (world.perform (.resolve test [value.type] false)).2 final) :
    (isCoercible type value).exec meaning (depth + 1) world =
      (runTask meaning (depth + 1)
        (.typed function.name returns implementation) [value]
        (world.perform (.resolve test [value.type] false)).2).map fun ran =>
          (verdict ran.1, ran.2) := by
  rw [exec_isCoercible_of_task meaning (depth + 1) htest hfunction hresolve
    htask]
  refine Option.map_congr fun ran hran => ?_
  have hfails : ∀ error, ran.1 = .error error →
      ¬ error.IsNoImplementation := by
    intro error houtcome herror
    obtain ⟨body, hbody, hrun⟩ :=
      (runTask_typed_eq_error_iff meaning depth function.name returns
        herror).mp (hran.trans (congrArg some (Prod.ext houtcome rfl)))
    exact hanswered ran.2 ⟨body, error, hbody, herror, hrun⟩
  rw [coercibility_eq_verdict hfails]

/-- If the code ends so, then the test fails and coercibility says no. -/
theorem exec_isCoercible_of_endsUnanswered {final : World Code}
    (hended : implementation.EndsUnanswered meaning depth [value]
      (world.perform (.resolve test [value.type] false)).2 final) :
    (∃ error, error.IsNoImplementation ∧
      runTask meaning (depth + 1)
          (.typed function.name returns implementation) [value]
          (world.perform (.resolve test [value.type] false)).2 =
        some (.error error, final)) ∧
    (isCoercible type value).exec meaning (depth + 1) world =
      some (.ok false, final) := by
  obtain ⟨body, error, hbody, herror, hrun⟩ := hended
  have hran := (runTask_typed_eq_error_iff meaning depth function.name returns
    herror).mpr ⟨body, hbody, hrun⟩
  refine ⟨⟨error, herror, hran⟩, ?_⟩
  rw [exec_isCoercible_of_task meaning (depth + 1) htest hfunction hresolve
    htask, hran, Option.map_some, coercibility_of_isNoImplementation herror]

end Stored

/-- A tie between entries of the test is reported. -/
theorem exec_isCoercible_of_error (hsound : world.registry.CacheSound)
    {error : Error}
    (hresolve : (world.registry.resolve test [value.type] false).1 =
      .error error) :
    (∃ candidates,
      error = .ambiguous function.name [value.type] candidates) ∧
    (isCoercible type value).exec meaning depth world =
      some (.error error,
        (world.perform (.resolve test [value.type] false)).2) := by
  have hselected : (world.registry.resolve test ([value].map Value.type)
      false).1 = .error error := hresolve
  obtain ⟨candidates, rfl⟩ :=
    hsound.exists_of_resolve_eq_error hfunction hresolve
  refine ⟨⟨candidates, rfl⟩, ?_⟩
  rw [exec, runWith_isCoercible _ htest, runWith_call _ hfunction]
  dsimp only
  rw [hselected]
  rfl

end Asked

theorem exec_coerce_of_not_isA
    (meaning : Code → List Value → Program Code Value) (depth : ℕ)
    {world : World Code} {expected : Predicate} {value : Value}
    (hapart : world.registry.isA expected value.type = false)
    (failure : Error) :
    (coerce expected value failure).exec meaning depth world =
      ((isCoercible expected value).exec meaning depth world).map fun ran =>
        (coerced expected value failure ran.1, ran.2) := by
  rw [exec, runWith_coerce, if_neg (Bool.eq_false_iff.mp hapart)]
  rfl

end Program

/-! ## Main statement -/

/-- Coercibility and the membership test.  If the test has an entry or a default
for the value, then coercibility reports the outcome of running it, with the
very same failure if there is one, unless the code that is run ends with a call
that finds no implementation.  In that case, which the test itself reports as a
failure, and if the test has neither an entry nor a default, it is a no.  A tie
is a failure of both.  Casts of values of other types go by coercibility. -/
theorem coercion_reports_test {world : World Code}
    (hreachable : world.registry.Reachable) {type : Predicate} {test : ℕ}
    (htest : world.registry.membershipTest? type = some test) (value : Value)
    (meaning : Code → List Value → Program Code Value) (depth : ℕ) :
    let resolved := (world.registry.resolve test [value.type] false).1
    let after := (world.perform (.resolve test [value.type] false)).2
    let coercible :=
      (Program.isCoercible type value).exec meaning (depth + 1) world
    ∃ function, world.registry.function? test = some function ∧
      (∀ selected returns implementation, resolved = .ok selected →
        function.task? selected =
          some (.typed function.name returns implementation) →
        let ran := runTask meaning (depth + 1)
          (.typed function.name returns implementation) [value] after
        ((∀ final,
            ¬ implementation.EndsUnanswered meaning depth [value] after final) →
          coercible =
            ran.map fun result => (Program.verdict result.1, result.2)) ∧
        (∀ final,
          implementation.EndsUnanswered meaning depth [value] after final →
          (∃ error, error.IsNoImplementation ∧
            ran = some (.error error, final)) ∧
          coercible = some (.ok false, final))) ∧
      (resolved = .ok none → function.fallback = none →
        coercible = some (.ok false, after)) ∧
      (∀ error, resolved = .error error →
        (∃ candidates,
          error = .ambiguous function.name [value.type] candidates) ∧
        coercible = some (.error error, after)) ∧
      (world.registry.isA type value.type = false →
        (Program.cast type value).exec meaning (depth + 1) world =
          coercible.map (fun ran =>
            (Program.coerced type value (.cast value.type type) ran.1,
              ran.2)) ∧
        ∀ caller,
          (Program.castOrFail caller type value).exec meaning (depth + 1)
              world =
            coercible.map fun ran =>
              (Program.coerced type value (.returnType caller type value.type)
                ran.1, ran.2)) := by
  obtain ⟨function, hfunction⟩ := hreachable.orderly.exists_function? htest
  refine ⟨function, hfunction, ?found, ?missing, ?tie, ?casts⟩
  case found =>
    intro selected returns implementation hresolve htask
    exact ⟨Program.exec_isCoercible_of_answered meaning depth htest hfunction
        hresolve htask,
      fun final => Program.exec_isCoercible_of_endsUnanswered meaning depth htest
        hfunction hresolve htask⟩
  case missing =>
    intro hresolve hfallback
    exact Program.exec_isCoercible meaning (depth + 1) htest
      (Program.exec_call_of_none meaning (depth + 1) hfunction value hresolve
        hfallback)
  case tie =>
    intro error hresolve
    exact Program.exec_isCoercible_of_error meaning (depth + 1) htest hfunction
      hreachable.cacheSound hresolve
  case casts =>
    intro hapart
    exact ⟨Program.exec_coerce_of_not_isA meaning (depth + 1) hapart _,
      fun caller =>
        Program.exec_coerce_of_not_isA meaning (depth + 1) hapart _⟩

/-- A function without entries, and a predicate with an entry in its test that
runs code for truth values. -/
def strayRegistry : Registry Unit :=
  ((Operation.register 6
      ⟨[Predicate.boolean], Predicate.boolean, .code ()⟩).perform
    ((Operation.definePredicate "isThing" Predicate.any).perform
      ((Operation.createFunction "helper").perform (.fresh {})).2).2).2

/-- Code that passes its arguments on to the function without entries. -/
def askHelper (_ : Unit) (arguments : List Value) : Program Unit Value :=
  .call 5 arguments

/-- The registry once the test has been resolved for a truth value. -/
def strayResolved : World Unit :=
  (World.perform { registry := strayRegistry }
    (.resolve 6 [Predicate.boolean] false)).2

theorem coercion_reports_test_askHelper :
    strayRegistry.Reachable ∧
    strayRegistry.membershipTest? ⟨5, "isThing"⟩ = some 6 ∧
    strayRegistry.isA ⟨5, "isThing"⟩ Predicate.boolean = false ∧
    ∃ (final : World Unit) (error : Error), error.IsNoImplementation ∧
      runTask askHelper 1 (.typed "isThing" Predicate.boolean (.code ()))
        [.boolean true] strayResolved = some (.error error, final) ∧
      (Program.isCoercible ⟨5, "isThing"⟩ (.boolean true)).exec askHelper 1
        { registry := strayRegistry } = some (.ok false, final) ∧
      (Program.cast ⟨5, "isThing"⟩ (.boolean true)).exec askHelper 1
        { registry := strayRegistry } =
          some (.error (.cast Predicate.boolean ⟨5, "isThing"⟩), final) := by
  have hreachable : strayRegistry.Reachable :=
    (((Registry.Reachable.fresh {}).perform (.createFunction "helper")
      trivial).perform (.definePredicate "isThing" Predicate.any)
        trivial).perform (.register 6 _) trivial
  have htest : strayRegistry.membershipTest? ⟨5, "isThing"⟩ = some 6 := by
    decide +kernel
  have hapart : strayRegistry.isA ⟨5, "isThing"⟩ Predicate.boolean = false := by
    decide +kernel
  have hresolve : (strayRegistry.resolve 6 [Predicate.boolean] false).1 =
      .ok (some ⟨[Predicate.boolean], Predicate.boolean, .code ()⟩) := by rfl
  obtain ⟨function, hfunction, hfound, -, -, hcasts⟩ :=
    @coercion_reports_test Unit { registry := strayRegistry } hreachable
      ⟨5, "isThing"⟩ 6 htest (.boolean true) askHelper 0
  have hname : function.name = "isThing" :=
    Option.some.inj (congrArg (Option.map GenericFunction.name) hfunction).symm
  have hended : (Implementation.code ()).EndsUnanswered askHelper 0
      [.boolean true] strayResolved
      (strayResolved.perform (.resolve 5 [Predicate.boolean] false)).2 :=
    ⟨(), _, rfl, ⟨"helper", [Predicate.boolean], [], rfl⟩, by rfl⟩
  obtain ⟨⟨error, herror, hran⟩, hcoercible⟩ :=
    (hfound _ _ _ hresolve rfl).2 _ hended
  rw [hname] at hran
  refine ⟨hreachable, htest, hapart, _, error, herror, hran, hcoercible, ?_⟩
  rw [(hcasts hapart).1, hcoercible]
  rfl

end PredicateDispatch
