import PredicateDispatch.Proofs.Dispatch.Reachable

/-!
# What a call will do

Before a call its outcome can be told in part: which implementation will run,
the declared type of its answer, or how the call will fail.  Resolving, probing
and calling agree on it, whatever is cached, and a call that succeeds answers
with a value of the type that was forecast.
-/

namespace PredicateDispatch

variable {Code α : Type}

/-- How a call will be answered. -/
inductive Forecast (Code : Type) where
  | byEntry (entry : MethodEntry Code)
  | byDefault (fallback : DefaultEntry Code)
  | missing
  /-- A tie of these signatures. -/
  | ambiguous (candidates : List Signature)

/-- What a forecast says of resolving, of probing and of calling a function: the
stored implementation that the call runs, or the failure with which it ends. -/
def Forecast.Holds (world : World Code) (id : ℕ)
    (function : GenericFunction Code) (arguments : List Value)
    (forecast : Forecast Code) : Prop :=
  let types := arguments.map Value.type
  let after := (world.perform (.resolve id types false)).2
  match forecast with
  | byEntry entry =>
    (world.registry.resolve id types false).1 = .ok (some entry) ∧
    (world.registry.probe id types).1 = .ok (some entry.returns) ∧
    ∀ runTask : Runner Code,
      (Program.call id arguments).runWith runTask world =
        runTask (.typed function.name entry.returns entry.implementation)
          arguments after
  | byDefault fallback =>
    (world.registry.resolve id types false).1 = .ok none ∧
    function.fallback = some fallback ∧
    (world.registry.probe id types).1 = .ok (some fallback.returns) ∧
    ∀ runTask : Runner Code,
      (Program.call id arguments).runWith runTask world =
        runTask (.typed function.name fallback.returns fallback.implementation)
          arguments after
  | missing =>
    (world.registry.resolve id types false).1 = .ok none ∧
    function.fallback = none ∧
    (world.registry.probe id types).1 = .ok none ∧
    ∀ runTask : Runner Code,
      (Program.call id arguments).runWith runTask world =
        some (.error (.noImplementation function.name types function.signatures),
          after)
  | ambiguous candidates =>
    (world.registry.resolve id types false).1 =
      .error (.ambiguous function.name types candidates) ∧
    (world.registry.probe id types).1 = .ok none ∧
    (∀ runTask : Runner Code,
      (Program.call id arguments).runWith runTask world =
        some (.error (.ambiguous function.name types candidates), after)) ∧
    (world.registry.resolve id types true).1 = .ok none

/-- The forecast that what resolving gives, and the default, leave. -/
def Forecast.ofResolved (resolved : Except Error (Option (MethodEntry Code)))
    (fallback : Option (DefaultEntry Code)) : Forecast Code :=
  match resolved, fallback with
  | .ok (some entry), _ => byEntry entry
  | .ok none, some fallback => byDefault fallback
  | .error (.ambiguous _ _ candidates), _ => ambiguous candidates
  | _, _ => missing

/-! ## Selecting, whether ties are tolerated or not -/

namespace Registry

/-- Only a tie is treated in two ways. -/
theorem select_tolerateTie (registry : Registry Code) {id : ℕ}
    {function : GenericFunction Code}
    (hfunction : registry.function? id = some function) {types : Signature}
    {metric : Metric} (useCache : Bool) {selected : Option ℕ}
    (hsettled : (registry.hierarchy.resolve metric function.signatures
      types).settled? = some selected) :
    registry.select id types metric useCache true =
      registry.select id types metric useCache false := by
  rw [select, select, selectBy, selectBy, hfunction]
  dsimp only
  split
  · rfl
  · cases hresolve : registry.hierarchy.resolve metric function.signatures
      types with
    | noMatch => rfl
    | unique best => rfl
    | ambiguous tied =>
        rw [hresolve] at hsettled
        cases hsettled

theorem Reachable.probe_answer {registry : Registry Code}
    (hreachable : registry.Reachable) {id : ℕ}
    {function : GenericFunction Code}
    (hfunction : registry.function? id = some function) (types : Signature) :
    (registry.probe id types).1 =
      match (registry.hierarchy.resolve registry.metric function.signatures
        types).answer function types false with
      | .ok (some index) => .ok (function.entries[index]?.map MethodEntry.returns)
      | .ok none => .ok (function.fallback.map DefaultEntry.returns)
      | .error _ => .ok none := by
  rw [probe, hfunction]
  dsimp only
  rw [hreachable.cacheSound.selectConfigured_answer hfunction]
  cases (registry.hierarchy.resolve registry.metric function.signatures
      types).answer function types false with
  | error error => rfl
  | ok selected => cases selected <;> rfl

end Registry

/-! ## Calls -/

namespace Program

/-- A call resolves, and then runs what it selected or fails. -/
theorem runWith_call (runTask : Runner Code) {id : ℕ} {world : World Code}
    {function : GenericFunction Code}
    (hfunction : world.registry.function? id = some function)
    (arguments : List Value) :
    (call id arguments).runWith runTask world =
      let types := arguments.map Value.type
      let after := (world.perform (.resolve id types false)).2
      match (world.registry.resolve id types false).1 with
      | .error error => some (.error error, after)
      | .ok selected =>
        match function.task? selected with
        | some task => runTask task arguments after
        | none => some (.error (function.noImplementation types), after) := by
  have hlookup : (Program.function id).runWith runTask world =
      some (.ok function, world) := by
    rw [runWith_function, hfunction]
  have hselected : (resolve id (arguments.map Value.type) false).runWith runTask
      world = some
        ((world.registry.resolve id (arguments.map Value.type) false).1,
          (world.perform (.resolve id (arguments.map Value.type) false)).2) :=
    runWith_request ..
  rw [call, bind_eq, runWith_bind, hlookup]
  dsimp only
  rw [bind_eq, runWith_bind, hselected]
  cases (world.registry.resolve id (arguments.map Value.type) false).1 with
  | error error => rfl
  | ok selected =>
      dsimp only
      cases function.task? selected with
      | none => rfl
      | some task => exact runWith_request ..

/-- What becomes of a value of another type, by whether it is coercible. -/
def coerced (expected : Predicate) (value : Value) (failure : Error) :
    Except Error Bool → Except Error Value
  | .ok true => .ok (value.retag expected)
  | .ok false => .error failure
  | .error error => .error error

/-- Only a value of another type is asked about. -/
theorem runWith_coerce (runTask : Runner Code) (expected : Predicate)
    (value : Value) (failure : Error) (world : World Code) :
    (coerce expected value failure).runWith runTask world =
      if world.registry.isA expected value.type then some (.ok value, world)
      else ((isCoercible expected value).runWith runTask world).map fun ran =>
        (coerced expected value failure ran.1, ran.2) := by
  have hcoerce : (coerce expected value failure).runWith runTask world =
      (if world.registry.isA expected value.type then done (.ok value)
        else (isCoercible expected value).bind fun coercible =>
          if coercible then done (.ok (value.retag expected))
          else done (.error failure)).runWith runTask world := rfl
  rw [hcoerce]
  split
  case isTrue => rfl
  case isFalse =>
    rw [runWith_bind]
    rcases (isCoercible expected value).runWith runTask world with
      _ | ⟨_ | coercible, _⟩
    · rfl
    · rfl
    · cases coercible <;> rfl

/-- A coerced value has the type that was expected, in the world that the
coercion leaves. -/
theorem isA_of_runWith_coerce {runTask : Runner Code} {expected : Predicate}
    {value answer : Value} {failure : Error} {world final : World Code}
    (hrun : (coerce expected value failure).runWith runTask world =
      some (.ok answer, final)) :
    final.registry.isA expected answer.type = true := by
  rw [runWith_coerce] at hrun
  split at hrun
  case isTrue habove =>
    obtain ⟨hanswer, rfl⟩ := Prod.mk.inj (Option.some.inj hrun)
    rw [← Except.ok.inj hanswer]
    exact habove
  case isFalse =>
    obtain ⟨⟨outcome, middle⟩, -, hafter⟩ := Option.map_eq_some_iff.mp hrun
    obtain ⟨houtcome, -⟩ := Prod.mk.inj hafter
    rcases outcome with error | coercible
    · cases houtcome
    · cases coercible with
      | false => cases houtcome
      | true =>
          rw [← Except.ok.inj houtcome]
          exact Hierarchy.isA_self _ expected

/-- What a typed task answers has the declared type, whatever the code did. -/
theorem isA_of_runTask_typed
    {meaning : Code → List Value → Program Code Value} {depth : ℕ}
    {function : String} {returns : Predicate}
    {implementation : Implementation Code} {arguments : List Value}
    {world final : World Code} {answer : Value}
    (hrun : runTask meaning depth (.typed function returns implementation)
      arguments world = some (.ok answer, final)) :
    final.registry.isA returns answer.type = true := by
  cases depth with
  | zero => cases hrun
  | succ depth =>
      cases implementation with
      | answer truth => exact isA_of_runWith_coerce hrun
      | code body =>
          change ((meaning body arguments).bind
            (castOrFail function returns)).runWith (runTask meaning depth)
              world = some (.ok answer, final) at hrun
          obtain ⟨value, middle, -, hcast⟩ := exists_of_runWith_bind hrun
          exact isA_of_runWith_coerce hcast

end Program

/-! ## Forecasts -/

theorem Forecast.exists_holds {world : World Code}
    (hreachable : world.registry.Reachable) {id : ℕ}
    {function : GenericFunction Code}
    (hfunction : world.registry.function? id = some function)
    (arguments : List Value) :
    ∃ forecast, Holds world id function arguments forecast := by
  have hresolved := hreachable.cacheSound.resolve_answer hfunction
    (arguments.map Value.type)
  have hprobed := hreachable.probe_answer hfunction (arguments.map Value.type)
  have hcalled := fun runTask : Runner Code =>
    Program.runWith_call runTask hfunction arguments
  have hnone := world.registry.entryAt?_none id
  cases hresolve : world.registry.hierarchy.resolve world.registry.metric
      function.signatures (arguments.map Value.type) with
  | noMatch =>
      rw [hresolve] at hresolved hprobed
      simp only [Resolution.answer, Except.map, hnone] at hresolved hprobed
      simp only [hresolved, GenericFunction.task?] at hcalled
      cases hfallback : function.fallback with
      | none =>
          rw [hfallback] at hprobed hcalled
          exact ⟨.missing, hresolved false, hfallback, hprobed, hcalled⟩
      | some fallback =>
          rw [hfallback] at hprobed hcalled
          exact ⟨.byDefault fallback, hresolved false, hfallback, hprobed, hcalled⟩
  | unique best =>
      obtain ⟨entry, hentry, -, hentry_at⟩ :=
        Registry.exists_entry_of_resolve_eq_unique hfunction hresolve
      rw [hresolve] at hresolved hprobed
      simp only [Resolution.answer, Except.map, hentry_at] at hresolved hprobed
      rw [hentry] at hprobed
      simp only [hresolved, GenericFunction.task?] at hcalled
      exact ⟨.byEntry entry, hresolved false, hprobed, hcalled⟩
  | ambiguous tied =>
      rw [hresolve] at hresolved hprobed
      have hstrict := hresolved false
      have htolerant := hresolved true
      simp only [Resolution.answer, Except.map, hnone, if_true,
        Bool.false_eq_true, if_false] at hstrict htolerant hprobed
      simp only [hstrict] at hcalled
      exact ⟨.ambiguous (tied.filterMap fun candidate =>
        function.signatures[candidate.index]?), hstrict, hprobed, hcalled,
        htolerant⟩

theorem Forecast.Holds.eq_ofResolved {world : World Code} {id : ℕ}
    {function : GenericFunction Code} {arguments : List Value}
    {forecast : Forecast Code}
    (hholds : forecast.Holds world id function arguments) :
    forecast = ofResolved
      (world.registry.resolve id (arguments.map Value.type) false).1
      function.fallback := by
  cases forecast with
  | byEntry entry =>
      obtain ⟨hresolved, -⟩ := hholds
      rw [hresolved]
      rfl
  | byDefault fallback =>
      obtain ⟨hresolved, hfallback, -⟩ := hholds
      rw [hresolved, hfallback]
      rfl
  | missing =>
      obtain ⟨hresolved, hfallback, -⟩ := hholds
      rw [hresolved, hfallback]
      rfl
  | ambiguous candidates =>
      obtain ⟨hresolved, -⟩ := hholds
      rw [hresolved]
      rfl

/-- Unless a tie is forecast, tolerating ties makes no difference. -/
theorem Forecast.resolve_tolerateTie {world : World Code}
    (hreachable : world.registry.Reachable) {id : ℕ}
    {function : GenericFunction Code}
    (hfunction : world.registry.function? id = some function)
    {arguments : List Value}
    (hclear : ∀ candidates,
      ¬ (ambiguous candidates).Holds world id function arguments) :
    world.registry.resolve id (arguments.map Value.type) true =
      world.registry.resolve id (arguments.map Value.type) false := by
  cases hresolve : (world.registry.hierarchy.resolve world.registry.metric
      function.signatures (arguments.map Value.type)).settled? with
  | some selected =>
      rw [Registry.resolve_eq, Registry.resolve_eq, Registry.selectConfigured,
        Registry.selectConfigured,
        Registry.select_tolerateTie world.registry hfunction
          world.registry.caching hresolve]
  | none =>
      obtain ⟨forecast, hholds⟩ := exists_holds hreachable hfunction arguments
      have hresolved := hreachable.cacheSound.resolve_answer hfunction
        (arguments.map Value.type) false
      cases htied : world.registry.hierarchy.resolve world.registry.metric
          function.signatures (arguments.map Value.type) with
      | noMatch => simp [htied, Resolution.settled?] at hresolve
      | unique best => simp [htied, Resolution.settled?] at hresolve
      | ambiguous tied =>
          rw [htied] at hresolved
          have hforecast := hholds.eq_ofResolved
          rw [hresolved] at hforecast
          subst hforecast
          exact absurd hholds (hclear _)

/-- A call that succeeds was forecast to answer with the declared type that it
has. -/
theorem Program.isA_of_exec_call
    {meaning : Code → List Value → Program Code Value} {depth : ℕ}
    {world final : World Code} (hreachable : world.registry.Reachable) {id : ℕ}
    {function : GenericFunction Code}
    (hfunction : world.registry.function? id = some function)
    {arguments : List Value} {answer : Value}
    (hrun : (call id arguments).exec meaning depth world =
      some (.ok answer, final)) :
    ∃ returns,
      (world.registry.probe id (arguments.map Value.type)).1 =
        .ok (some returns) ∧
      final.registry.isA returns answer.type = true := by
  obtain ⟨forecast, hholds⟩ :=
    Forecast.exists_holds hreachable hfunction arguments
  cases forecast with
  | byEntry entry =>
      obtain ⟨-, hprobed, hcalled⟩ := hholds
      rw [exec, hcalled] at hrun
      exact ⟨entry.returns, hprobed, isA_of_runTask_typed hrun⟩
  | byDefault fallback =>
      obtain ⟨-, -, hprobed, hcalled⟩ := hholds
      rw [exec, hcalled] at hrun
      exact ⟨fallback.returns, hprobed, isA_of_runTask_typed hrun⟩
  | missing =>
      obtain ⟨-, -, -, hcalled⟩ := hholds
      rw [exec, hcalled] at hrun
      cases hrun
  | ambiguous candidates =>
      obtain ⟨-, -, hcalled, -⟩ := hholds
      rw [exec, hcalled] at hrun
      cases hrun

/-- Probing once more gives the same. -/
theorem Registry.Reachable.probe_probe {registry : Registry Code}
    (hreachable : registry.Reachable) (id : ℕ) (types : Signature) :
    (registry.probe id types).2.Reachable ∧
      ((registry.probe id types).2.probe id types).1 =
        (registry.probe id types).1 := by
  have hprobed : (registry.probe id types).2.Reachable :=
    hreachable.perform (.probe id types) trivial
  have halike := hprobed.alike hreachable (toCatalog_probe registry id types)
  exact ⟨hprobed, (halike.probe id types).1⟩

/-- Exactly one forecast holds of a call: an entry, the default, that there is
neither, or a tie, and resolving, probing and calling agree on it.  Ties apart,
resolving does not depend on whether they are tolerated.  And when a call
succeeds that was probed just before, the probe told a type, and the answer is
of that type in the registry as the call leaves it, whatever the code did. -/
theorem call_as_forecast {world : World Code}
    (hreachable : world.registry.Reachable) {id : ℕ}
    {function : GenericFunction Code}
    (hfunction : world.registry.function? id = some function)
    (arguments : List Value) :
    (∃! forecast : Forecast Code,
      forecast.Holds world id function arguments) ∧
    ((∀ candidates, ¬ (Forecast.ambiguous candidates).Holds world id function
        arguments) →
      world.registry.resolve id (arguments.map Value.type) true =
        world.registry.resolve id (arguments.map Value.type) false) ∧
    (∀ (meaning : Code → List Value → Program Code Value) (depth : ℕ)
      (told : Option Predicate) (answer : Value) (final : World Code),
      ((Program.probe id (arguments.map Value.type)).bind fun told =>
          (Program.call id arguments).bind fun answer =>
            .done (.ok (told, answer))).exec meaning depth world =
        some (.ok (told, answer), final) →
      ∃ returns, told = some returns ∧
        final.registry.isA returns answer.type = true) := by
  refine ⟨?_, Forecast.resolve_tolerateTie hreachable hfunction, ?_⟩
  · obtain ⟨forecast, hholds⟩ :=
      Forecast.exists_holds hreachable hfunction arguments
    refine ⟨forecast, hholds, fun other hother => ?_⟩
    rw [hholds.eq_ofResolved, hother.eq_ofResolved]
  · intro meaning depth told answer final hrun
    obtain ⟨told', probed, hprobe, hcall⟩ := Program.exists_of_runWith_bind hrun
    obtain ⟨answer', final', hanswer, hdone⟩ :=
      Program.exists_of_runWith_bind hcall
    obtain ⟨hpair, rfl⟩ := Prod.mk.inj (Option.some.inj hdone)
    obtain ⟨rfl, rfl⟩ := Prod.mk.inj (Except.ok.inj hpair)
    rw [Program.probe, Program.runWith_request] at hprobe
    obtain ⟨htold, rfl⟩ := Prod.mk.inj (Option.some.inj hprobe)
    obtain ⟨hprobed, hagain⟩ :=
      hreachable.probe_probe id (arguments.map Value.type)
    have hfunction' :
        (world.registry.probe id (arguments.map Value.type)).2.function? id =
          some function := by
      rw [Registry.toCatalog_probe, hfunction]
    obtain ⟨returns, hreturns, habove⟩ :=
      Program.isA_of_exec_call (by exact hprobed) (by exact hfunction') hanswer
    have htwice : Except.ok told' = Except.ok (some returns) :=
      calc Except.ok told'
          = (world.registry.probe id (arguments.map Value.type)).1 := htold.symm
        _ = ((world.registry.probe id (arguments.map Value.type)).2.probe id
              (arguments.map Value.type)).1 := hagain.symm
        _ = Except.ok (some returns) := hreturns
    exact ⟨returns, Except.ok.inj htwice, habove⟩

/-- An entry for null values that runs code. -/
def nullEntry : MethodEntry Unit := ⟨[Predicate.null], Predicate.null, .code ()⟩

/-- A fresh registry with a function that has this entry. -/
def nullRegistry : Registry Unit :=
  ((Operation.register 5 nullEntry).perform
    ((Operation.createFunction "f").perform (.fresh {})).2).2

/-- Code that puts another entry, of another type, in the place of its own
before it answers. -/
def replaceSelf (_ : Unit) (_ : List Value) : Program Unit Value :=
  (Program.register 5 [Predicate.null] Predicate.boolean ()).bind fun _ =>
    .done (.ok Value.null)

/-- Probes the function for a null value, and then calls it. -/
def probeAndCall : Program Unit (Option Predicate × Value) :=
  (Program.probe 5 ([Value.null].map Value.type)).bind fun told =>
    (Program.call 5 [Value.null]).bind fun answer =>
      .done (.ok (told, answer))

theorem call_as_forecast_replaceSelf :
    nullRegistry.Reachable ∧
    nullRegistry.function? 5 = some { name := "f", entries := [nullEntry] } ∧
    (∃! forecast : Forecast Unit, forecast.Holds { registry := nullRegistry } 5
      { name := "f", entries := [nullEntry] } [Value.null]) ∧
    ∃ returns answer final,
      probeAndCall.exec replaceSelf 2 { registry := nullRegistry } =
        some (.ok (some returns, answer), final) ∧
      final.registry.isA returns answer.type = true := by
  have hreachable : nullRegistry.Reachable :=
    ((Registry.Reachable.fresh {}).perform (.createFunction "f")
      trivial).perform (.register 5 nullEntry) trivial
  have hfunction : nullRegistry.function? 5 =
      some { name := "f", entries := [nullEntry] } := by
    rfl
  have hends : ((probeAndCall.exec replaceSelf 2
      { registry := nullRegistry }).any fun result => result.1.isOk) = true := by
    decide +kernel
  obtain ⟨hforecast, -, htold⟩ := @call_as_forecast Unit
    { registry := nullRegistry } hreachable 5 _ hfunction [Value.null]
  refine ⟨hreachable, hfunction, hforecast, ?_⟩
  cases hrun : probeAndCall.exec replaceSelf 2 { registry := nullRegistry } with
  | none =>
      rw [hrun] at hends
      cases hends
  | some result =>
      obtain ⟨outcome, final⟩ := result
      cases outcome with
      | error error =>
          rw [hrun] at hends
          cases hends
      | ok answered =>
          obtain ⟨returns, hreturns, habove⟩ :=
            htold replaceSelf 2 answered.1 answered.2 final hrun
          exact ⟨returns, answered.2, final, by rw [← hreturns], habove⟩

end PredicateDispatch
