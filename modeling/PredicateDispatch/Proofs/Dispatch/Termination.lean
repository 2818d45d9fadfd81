import PredicateDispatch.Proofs.Membership.Answers

/-!
# Calls that end

Running an implementation is not over when its code has answered: the answer is
held to the declared type, for which a membership test may be called, and the
answer of that call is held to the type that the test declares.  If all code
answers at once, then a call makes one demand after the other, and it ends
exactly if these demands do.  They do so at once where the tests answer with
values of their declared types.  A test whose answer has to be put to the same
test again is called without end.
-/

namespace PredicateDispatch

variable {Code α : Type}

/-! ## Demands -/

/-- Code that answers at once, from its arguments alone. -/
def Program.atOnce (answers : Code → List Value → Except Error Value)
    (body : Code) (arguments : List Value) : Program Code Value :=
  .done (answers body arguments)

/-- The run of a program ends, with a value or with a failure. -/
def Program.Ends (meaning : Code → List Value → Program Code Value)
    (program : Program Code α) (world : World Code) : Prop :=
  ∃ depth, (program.exec meaning depth world).isSome = true

/-- A value that is held to a type. -/
structure Demand where
  expected : Predicate
  value : Value

/-- What an implementation answers before its answer is held to a type. -/
def Implementation.rawAnswer (answers : Code → List Value → Except Error Value) :
    Implementation Code → List Value → Except Error Value
  | answer truth, _ => .ok (.boolean truth)
  | code body, arguments => answers body arguments

/-- The answer of a task with the type that it is held to, if there are any. -/
def Task.demand? (answers : Code → List Value → Except Error Value) :
    Task Code → List Value → Option Demand
  | typed _ returns implementation, arguments =>
    match implementation.rawAnswer answers arguments with
    | .ok value => some ⟨returns, value⟩
    | .error _ => none
  | plain _, _ => none

namespace Registry

/-- The task that a call with these types runs, unless it fails before. -/
def callTask? (registry : Registry Code) (id : ℕ) (types : Signature) :
    Option (Task Code) :=
  match registry.function? id, (registry.resolve id types false).1 with
  | some function, .ok selected => function.task? selected
  | _, _ => none

section Demands

variable (registry : Registry Code)
  (answers : Code → List Value → Except Error Value)

/-- The demand that a call makes of the answer of its code. -/
def callDemand? (id : ℕ) (arguments : List Value) : Option Demand :=
  (registry.callTask? id (arguments.map Value.type)).bind fun task =>
    task.demand? answers arguments

/-- The demand that a membership test is called to meet makes one in turn. -/
def nextDemand? (demand : Demand) : Option Demand :=
  if registry.isA demand.expected demand.value.type then none
  else (registry.membershipTest? demand.expected).bind fun test =>
    registry.callDemand? answers test [demand.value]

/-- The demand that a demand leads to in so many steps. -/
def laterDemand? : ℕ → Demand → Option Demand
  | 0, demand => some demand
  | steps + 1, demand =>
    (registry.nextDemand? answers demand).bind (laterDemand? steps)

/-- Only finitely many demands follow. -/
def DemandEnds (demand : Demand) : Prop :=
  ∃ steps, registry.laterDemand? answers steps demand = none

/-- What a membership test answers has the type that the test declares, as it
is. -/
def TestsAnswerAsDeclared : Prop :=
  ∀ type test value demand, registry.membershipTest? type = some test →
    registry.callDemand? answers test [value] = some demand →
      registry.isA demand.expected demand.value.type = true

variable {registry answers}

theorem nextDemand?_eq_some_iff {demand next : Demand} :
    registry.nextDemand? answers demand = some next ↔
      registry.isA demand.expected demand.value.type = false ∧
      ∃ test, registry.membershipTest? demand.expected = some test ∧
        registry.callDemand? answers test [demand.value] = some next := by
  rw [nextDemand?]
  cases registry.isA demand.expected demand.value.type with
  | true => simp
  | false => simp [Option.bind_eq_some_iff]

end Demands

/-! ### Demands as the catalog decides them -/

section Alike

variable {left right : Registry Code} (hleft : left.Reachable)
  (hright : right.Reachable) (hcatalog : left.toCatalog = right.toCatalog)
  (answers : Code → List Value → Except Error Value)
include hleft hright hcatalog

theorem Reachable.callDemand?_congr (id : ℕ) (arguments : List Value) :
    left.callDemand? answers id arguments =
      right.callDemand? answers id arguments := by
  have hresolved := ((hleft.alike hright hcatalog).resolve id
    (arguments.map Value.type) false).1
  rw [callDemand?, callDemand?, callTask?, callTask?, hcatalog, hresolved]

theorem Reachable.nextDemand?_congr (demand : Demand) :
    left.nextDemand? answers demand = right.nextDemand? answers demand := by
  rw [nextDemand?, nextDemand?, hcatalog]
  simp only [hleft.callDemand?_congr hright hcatalog]

theorem Reachable.laterDemand?_congr (steps : ℕ) (demand : Demand) :
    left.laterDemand? answers steps demand =
      right.laterDemand? answers steps demand := by
  induction steps generalizing demand with
  | zero => rfl
  | succ steps ih =>
      rw [laterDemand?, laterDemand?,
        hleft.nextDemand?_congr hright hcatalog answers]
      exact congrArg _ (funext ih)

end Alike

end Registry

/-! ## Runs and demands -/

namespace Program

/-- A call runs its task once it has resolved, or fails before. -/
theorem isSome_exec_call (meaning : Code → List Value → Program Code Value)
    (depth id : ℕ) (arguments : List Value) (world : World Code) :
    ((call id arguments).exec meaning depth world).isSome =
      match world.registry.callTask? id (arguments.map Value.type) with
      | none => true
      | some task => (runTask meaning depth task arguments (world.perform
          (.resolve id (arguments.map Value.type) false)).2).isSome := by
  rw [exec, Registry.callTask?]
  cases hfunction : world.registry.function? id with
  | none =>
      rw [call, bind_eq, runWith_bind, runWith_function, hfunction]
      rfl
  | some function =>
      rw [runWith_call _ hfunction]
      dsimp only
      cases (world.registry.resolve id (arguments.map Value.type) false).1 with
      | error error => rfl
      | ok selected =>
          dsimp only
          cases function.task? selected <;> rfl

theorem isSome_exec_isCoercible
    (meaning : Code → List Value → Program Code Value) (depth : ℕ)
    (expected : Predicate) (value : Value) (world : World Code) :
    ((isCoercible expected value).exec meaning depth world).isSome =
      match world.registry.membershipTest? expected with
      | none => true
      | some test => ((call test [value]).exec meaning depth world).isSome := by
  rw [exec]
  cases htest : world.registry.membershipTest? expected with
  | none => rw [runWith_isCoercible_of_no_test _ htest]; rfl
  | some test => rw [runWith_isCoercible _ htest, Option.isSome_map]; rfl

theorem isSome_exec_coerce (meaning : Code → List Value → Program Code Value)
    (depth : ℕ) (expected : Predicate) (value : Value) (failure : Error)
    (world : World Code) :
    ((coerce expected value failure).exec meaning depth world).isSome =
      (world.registry.isA expected value.type ||
        ((isCoercible expected value).exec meaning depth world).isSome) := by
  rw [exec, runWith_coerce]
  cases world.registry.isA expected value.type with
  | true => rfl
  | false => exact Option.isSome_map

end Program

namespace World

section Runs

variable (answers : Code → List Value → Except Error Value) (depth : ℕ)

/-- A value is held to a type at most `depth` runs deep. -/
def Meets (world : World Code) (demand : Demand) : Prop :=
  ∀ failure, ((Program.coerce demand.expected demand.value failure).exec
    (Program.atOnce answers) depth world).isSome = true

variable {answers depth} {world : World Code}

/-- How a refusal is reported makes no difference. -/
theorem meets_iff {demand : Demand} (failure : Error) :
    world.Meets answers depth demand ↔
      ((Program.coerce demand.expected demand.value failure).exec
        (Program.atOnce answers) depth world).isSome = true := by
  constructor
  · exact fun hmeets => hmeets failure
  · intro hends other
    rw [Program.isSome_exec_coerce] at hends ⊢
    exact hends

/-- Once its code has answered, a task is left with its demand. -/
theorem isSome_runTask_iff {task : Task Code} {arguments : List Value} :
    (runTask (Program.atOnce answers) (depth + 1) task arguments world).isSome =
        true ↔
      ∀ demand, task.demand? answers arguments = some demand →
        world.Meets answers depth demand := by
  cases task with
  | plain body =>
      exact iff_of_true rfl fun demand hdemand => by cases hdemand
  | typed function returns implementation =>
      have hrun : runTask (Program.atOnce answers) (depth + 1)
          (.typed function returns implementation) arguments world =
            match implementation.rawAnswer answers arguments with
            | .ok value => (Program.castOrFail function returns value).exec
                (Program.atOnce answers) depth world
            | .error error => some (.error error, world) := by
        cases implementation with
        | answer truth => rfl
        | code body =>
            change ((Program.done (answers body arguments)).bind
              (Program.castOrFail function returns)).runWith _ world = _
            rw [Program.runWith_bind]
            dsimp only [Implementation.rawAnswer]
            cases answers body arguments <;> rfl
      rw [hrun, Task.demand?]
      cases implementation.rawAnswer answers arguments with
      | error error => exact iff_of_true rfl fun demand hdemand => by cases hdemand
      | ok value =>
          have hmeets : world.Meets answers depth ⟨returns, value⟩ ↔ _ :=
            meets_iff (.returnType function returns value.type)
          exact hmeets.symm.trans (by simp)

/-- Once it is selected what to run, a call is left with the demand of that. -/
theorem isSome_exec_call_iff {id : ℕ} {arguments : List Value} :
    ((Program.call id arguments).exec (Program.atOnce answers) (depth + 1)
        world).isSome = true ↔
      ∀ demand, world.registry.callDemand? answers id arguments = some demand →
        (world.perform
          (.resolve id (arguments.map Value.type) false)).2.Meets answers depth
            demand := by
  rw [Program.isSome_exec_call, Registry.callDemand?]
  cases world.registry.callTask? id (arguments.map Value.type) with
  | none => exact iff_of_true rfl fun demand hdemand => by cases hdemand
  | some task => exact isSome_runTask_iff

/-- Without depth to run its task in, only a call that runs none ends. -/
theorem callDemand?_eq_none_of_exec_zero {id : ℕ} {arguments : List Value}
    (hended : ((Program.call id arguments).exec (Program.atOnce answers) 0
      world).isSome = true) :
    world.registry.callDemand? answers id arguments = none := by
  rw [Program.isSome_exec_call] at hended
  rw [Registry.callDemand?]
  cases htask : world.registry.callTask? id (arguments.map Value.type) with
  | none => rfl
  | some task =>
      rw [htask] at hended
      cases hended

/-- A demand that leads to another one is met by a call. -/
theorem Meets.exists_call {demand next : Demand}
    (hmeets : world.Meets answers depth demand)
    (hnext : world.registry.nextDemand? answers demand = some next) :
    ∃ test, world.registry.callDemand? answers test [demand.value] = some next ∧
      ((Program.call test [demand.value]).exec (Program.atOnce answers) depth
        world).isSome = true := by
  obtain ⟨hother, test, htest, hcalled⟩ :=
    Registry.nextDemand?_eq_some_iff.mp hnext
  have hended := hmeets .divisionByZero
  rw [Program.isSome_exec_coerce, hother, Bool.false_or,
    Program.isSome_exec_isCoercible, htest] at hended
  exact ⟨test, hcalled, hended⟩

end Runs

/-! ### A run against its demands -/

section Chain

variable {answers : Code → List Value → Except Error Value} {depth : ℕ}
  {world : World Code} (hreachable : world.registry.Reachable)
include hreachable

/-- Resolving leaves the later demands as they are. -/
theorem laterDemand?_resolve (id : ℕ) (types : Signature) (steps : ℕ)
    (demand : Demand) :
    (world.perform (.resolve id types false)).2.registry.laterDemand? answers
        steps demand =
      world.registry.laterDemand? answers steps demand :=
  (hreachable.perform (.resolve id types false) trivial).laterDemand?_congr
    hreachable (Registry.toCatalog_resolve ..) answers steps demand

theorem meets_of_laterDemand?_eq_none {demand : Demand}
    (hends : world.registry.laterDemand? answers depth demand = none) :
    world.Meets answers depth demand := by
  -- A call resolves before it runs, so the induction is over all worlds that are
  -- reached; the demands stay the same on the way.
  induction depth generalizing world demand with
  | zero => cases hends
  | succ depth ih =>
      intro failure
      rw [Program.isSome_exec_coerce, Program.isSome_exec_isCoercible]
      cases hother : world.registry.isA demand.expected demand.value.type with
      | true => rfl
      | false =>
          rw [Bool.false_or]
          cases htest : world.registry.membershipTest? demand.expected with
          | none => rfl
          | some test =>
              refine isSome_exec_call_iff.mpr fun next hcalled => ?_
              have hnext := Registry.nextDemand?_eq_some_iff.mpr
                ⟨hother, test, htest, hcalled⟩
              rw [Registry.laterDemand?, hnext, Option.bind_some] at hends
              refine ih (hreachable.perform (.resolve test _ false) trivial) ?_
              exact (laterDemand?_resolve hreachable ..).trans hends

theorem Meets.laterDemand?_eq_none {demand : Demand}
    (hmeets : world.Meets answers depth demand) :
    world.registry.laterDemand? answers (depth + 1) demand = none := by
  induction depth generalizing world demand with
  | zero =>
      cases hnext : world.registry.nextDemand? answers demand with
      | none => rw [Registry.laterDemand?, hnext]; rfl
      | some next =>
          obtain ⟨test, hcalled, hended⟩ := hmeets.exists_call hnext
          rw [callDemand?_eq_none_of_exec_zero hended] at hcalled
          cases hcalled
  | succ depth ih =>
      cases hnext : world.registry.nextDemand? answers demand with
      | none => rw [Registry.laterDemand?, hnext]; rfl
      | some next =>
          obtain ⟨test, hcalled, hended⟩ := hmeets.exists_call hnext
          have hlater := ih (hreachable.perform (.resolve test _ false) trivial)
            (isSome_exec_call_iff.mp hended next hcalled)
          rw [laterDemand?_resolve hreachable] at hlater
          rw [Registry.laterDemand?, hnext, Option.bind_some, hlater]

/-- Holding a value to a type ends exactly if the demand does. -/
theorem ends_coerce_iff (expected : Predicate) (value : Value)
    (failure : Error) :
    (Program.coerce expected value failure).Ends (Program.atOnce answers)
        world ↔
      world.registry.DemandEnds answers ⟨expected, value⟩ := by
  constructor
  · rintro ⟨depth, hends⟩
    have hmeets : world.Meets answers depth ⟨expected, value⟩ :=
      (meets_iff failure).mpr hends
    exact ⟨depth + 1, hmeets.laterDemand?_eq_none hreachable⟩
  · rintro ⟨steps, hends⟩
    exact ⟨steps, meets_of_laterDemand?_eq_none hreachable hends failure⟩

theorem ends_call_iff (id : ℕ) (arguments : List Value) :
    (Program.call id arguments).Ends (Program.atOnce answers) world ↔
      ∀ demand, world.registry.callDemand? answers id arguments = some demand →
        world.registry.DemandEnds answers demand := by
  have hresolved := hreachable.perform
    (.resolve id (arguments.map Value.type) false) trivial
  have hlater : ∀ steps demand, _ = world.registry.laterDemand? answers steps
      demand := laterDemand?_resolve hreachable id (arguments.map Value.type)
  constructor
  · rintro ⟨depth, hended⟩ demand hdemand
    cases depth with
    | zero =>
        rw [callDemand?_eq_none_of_exec_zero hended] at hdemand
        cases hdemand
    | succ depth =>
        have hmeets := isSome_exec_call_iff.mp hended demand hdemand
        exact ⟨depth + 1, (hlater _ demand).symm.trans
          (hmeets.laterDemand?_eq_none hresolved)⟩
  · intro hends
    cases hcalled : world.registry.callDemand? answers id arguments with
    | none =>
        refine ⟨1, isSome_exec_call_iff.mpr fun demand hdemand => ?_⟩
        cases hcalled.symm.trans hdemand
    | some demand =>
        obtain ⟨steps, hsteps⟩ := hends demand hcalled
        refine ⟨steps + 1, isSome_exec_call_iff.mpr fun next hnext => ?_⟩
        obtain rfl := Option.some.inj (hcalled.symm.trans hnext)
        exact meets_of_laterDemand?_eq_none hresolved
          ((hlater steps demand).trans hsteps)

theorem ends_isCoercible_iff (expected : Predicate) (value : Value) :
    (Program.isCoercible expected value).Ends (Program.atOnce answers) world ↔
      ∀ test demand, world.registry.membershipTest? expected = some test →
        world.registry.callDemand? answers test [value] = some demand →
          world.registry.DemandEnds answers demand := by
  have hasked := fun depth => Program.isSome_exec_isCoercible
    (Program.atOnce answers) depth expected value world
  cases htest : world.registry.membershipTest? expected with
  | none =>
      simp only [htest] at hasked
      exact iff_of_true ⟨0, hasked 0⟩ fun test _ hnone => by cases hnone
  | some test =>
      simp only [htest] at hasked
      rw [Program.Ends]
      simp only [hasked]
      refine (ends_call_iff hreachable test [value]).trans ⟨?_, ?_⟩
      · rintro hends test' demand hsame
        obtain rfl := Option.some.inj hsame
        exact hends demand
      · exact fun hends demand => hends test demand rfl

end Chain

end World

/-! ## Tests that answer as they declare, and tests that do not -/

namespace Registry

variable {registry : Registry Code}
  {answers : Code → List Value → Except Error Value}

/-- The demand that a test makes is met as soon as it is made. -/
theorem TestsAnswerAsDeclared.laterDemand?_eq_none
    (htests : registry.TestsAnswerAsDeclared answers) (demand : Demand) :
    registry.laterDemand? answers 2 demand = none := by
  rw [laterDemand?]
  cases hnext : registry.nextDemand? answers demand with
  | none => rfl
  | some next =>
      obtain ⟨-, test, htest, hcalled⟩ := nextDemand?_eq_some_iff.mp hnext
      have hmet := htests demand.expected test demand.value next htest hcalled
      rw [Option.bind_some, laterDemand?, nextDemand?, if_pos hmet]
      rfl

/-- A demand that leads to itself does so forever. -/
theorem not_demandEnds_of_nextDemand?_self {demand : Demand}
    (hself : registry.nextDemand? answers demand = some demand) :
    ¬ registry.DemandEnds answers demand := by
  rintro ⟨steps, hends⟩
  induction steps with
  | zero => cases hends
  | succ steps ih =>
      rw [laterDemand?, hself] at hends
      exact ih hends

end Registry

/-! ## Main statement -/

/-- Where all code answers at once, a cast, a question of coercibility or a call
ends exactly if the demands that follow from it do: those of the value that is
cast, or of what the code of the call answers.  If the tests answer with values
of the types that they declare, then this is so, whatever is called or cast, and
no run is more than three deep.  If not, it need not be so. -/
theorem typed_calls_end_iff {world : World Code}
    (hreachable : world.registry.Reachable)
    (answers : Code → List Value → Except Error Value) :
    (∀ expected value,
      ((Program.cast expected value).Ends (Program.atOnce answers) world ↔
        world.registry.DemandEnds answers ⟨expected, value⟩) ∧
      ∀ caller, (Program.castOrFail caller expected value).Ends
          (Program.atOnce answers) world ↔
        world.registry.DemandEnds answers ⟨expected, value⟩) ∧
    (∀ expected value,
      (Program.isCoercible expected value).Ends (Program.atOnce answers)
          world ↔
        ∀ test demand, world.registry.membershipTest? expected = some test →
          world.registry.callDemand? answers test [value] = some demand →
            world.registry.DemandEnds answers demand) ∧
    (∀ id arguments,
      (Program.call id arguments).Ends (Program.atOnce answers) world ↔
        ∀ demand,
          world.registry.callDemand? answers id arguments = some demand →
            world.registry.DemandEnds answers demand) ∧
    (world.registry.TestsAnswerAsDeclared answers →
      (∀ demand, world.Meets answers 2 demand) ∧
      (∀ id arguments, ((Program.call id arguments).exec
        (Program.atOnce answers) 3 world).isSome = true) ∧
      ∀ expected value, ((Program.isCoercible expected value).exec
        (Program.atOnce answers) 3 world).isSome = true) := by
  refine ⟨fun expected value => ⟨?_, fun caller => ?_⟩,
    World.ends_isCoercible_iff hreachable, World.ends_call_iff hreachable,
    fun htests => ?_⟩
  · exact World.ends_coerce_iff hreachable expected value _
  · exact World.ends_coerce_iff hreachable expected value _
  · have hmeets {after : World Code} (hafter : after.registry.Reachable)
        (hcatalog : after.registry.toCatalog = world.registry.toCatalog)
        (demand : Demand) : after.Meets answers 2 demand :=
      World.meets_of_laterDemand?_eq_none hafter
        ((hafter.laterDemand?_congr hreachable hcatalog answers 2 demand).trans
          (htests.laterDemand?_eq_none demand))
    have hcalls : ∀ id arguments, ((Program.call id arguments).exec
        (Program.atOnce answers) 3 world).isSome = true := by
      intro id arguments
      refine World.isSome_exec_call_iff.mpr fun demand _ => hmeets ?_ ?_ demand
      · exact hreachable.perform (.resolve id _ false) trivial
      · exact Registry.toCatalog_resolve ..
    refine ⟨hmeets hreachable rfl, hcalls, fun expected value => ?_⟩
    rw [Program.isSome_exec_isCoercible]
    cases world.registry.membershipTest? expected with
    | none => rfl
    | some test => exact hcalls test [value]

/-- The test of truth values with an entry for null values that runs code. -/
def doubtful : Registry Unit :=
  ((Operation.register 3
    ⟨[Predicate.null], Predicate.boolean, .code ()⟩).perform (.fresh {})).2

/-- Code that answers with a null value. -/
def answersNull (_ : Unit) (_ : List Value) : Except Error Value :=
  .ok .null

theorem typed_calls_end_iff_answersNull :
    doubtful.Reachable ∧
    ¬ (Program.call 3 [.null]).Ends (Program.atOnce answersNull)
      { registry := doubtful } ∧
    ¬ (Program.isCoercible Predicate.boolean .null).Ends
      (Program.atOnce answersNull) { registry := doubtful } ∧
    ¬ (Program.cast Predicate.boolean .null).Ends (Program.atOnce answersNull)
      { registry := doubtful } ∧
    (Program.call 3 [.boolean true]).Ends (Program.atOnce answersNull)
      { registry := doubtful } ∧
    ¬ doubtful.TestsAnswerAsDeclared answersNull := by
  have hreachable : doubtful.Reachable :=
    (Registry.Reachable.fresh {}).perform (.register 3 _) trivial
  have htest : doubtful.membershipTest? Predicate.boolean = some 3 := by
    decide +kernel
  have hcalled : doubtful.callDemand? answersNull 3 [.null] =
      some ⟨Predicate.boolean, .null⟩ := by rfl
  have hother : doubtful.isA Predicate.boolean Predicate.null = false := by
    decide +kernel
  have hself : doubtful.nextDemand? answersNull ⟨Predicate.boolean, .null⟩ =
      some ⟨Predicate.boolean, .null⟩ :=
    Registry.nextDemand?_eq_some_iff.mpr ⟨hother, 3, htest, hcalled⟩
  have hendless := Registry.not_demandEnds_of_nextDemand?_self hself
  have hboolean : doubtful.callDemand? answersNull 3 [.boolean true] =
      some ⟨Predicate.boolean, .boolean true⟩ := by rfl
  obtain ⟨hcast, hasked, hcall, htests⟩ := @typed_calls_end_iff Unit
    { registry := doubtful } hreachable answersNull
  refine ⟨hreachable, fun hends => ?_, fun hends => ?_, fun hends => ?_,
    (hcall 3 [.boolean true]).mpr fun demand hdemand => ?_, fun hdeclared => ?_⟩
  · exact hendless ((hcall 3 [.null]).mp hends _ hcalled)
  · exact hendless ((hasked Predicate.boolean .null).mp hends 3 _ htest hcalled)
  · exact hendless ((hcast Predicate.boolean .null).1.mp hends)
  · obtain rfl := Option.some.inj (hboolean.symm.trans hdemand)
    exact ⟨1, by rfl⟩
  · exact hendless ⟨_, (hdeclared.laterDemand?_eq_none _)⟩

end PredicateDispatch
