import PredicateDispatch.Program.Run
import PredicateDispatch.Proofs.Dispatch.Alike

/-!
# What programs ask

A property of all requests that a program may make, whatever it is answered,
passes through sequencing and recovery.  The programs that dispatch is made of
ask for nothing but the catalog, for selections, and for tasks to be run.

A program is interspersed with questions when at any place it may ask the
registry something further and take no notice of the answer.
-/

namespace PredicateDispatch

variable {Code α β : Type}

namespace Program

/-! ## Sequencing -/

theorem bind_eq (program : Program Code α) (rest : α → Program Code β) :
    program >>= rest = program.bind rest := rfl

/-- Coercibility without the early returns of its definition. -/
theorem isCoercible_eq (expected : Predicate) (value : Value) :
    (isCoercible expected value : Program Code Bool) =
      inspect.bind fun catalog =>
        match catalog.membershipTest? expected with
        | none => done (.ok false)
        | some test =>
          ((call test [value]).bind fun answer =>
              done (.ok (answer.payload.boolean? == some true))).rescue
            fun error => match error with
              | .noImplementation _ _ _ => done (.ok false)
              | error => done (.error error) := by
  rw [isCoercible, bind_eq]
  congr 1
  funext catalog
  cases catalog.membershipTest? expected with
  | none => rfl
  | some test =>
      dsimp only
      generalize (call test [value] : Program Code Value) = program
      induction program with
      | done outcome =>
          cases outcome with
          | ok answer => rfl
          | error error => cases error <;> rfl
      | ask request next ih =>
          apply congrArg (ask request)
          funext answer
          exact ih answer

/-- A program that goes on from another one goes on in the world that it left,
unless it failed. -/
theorem runWith_bind (runTask : Runner Code) (program : Program Code α)
    (rest : α → Program Code β) (world : World Code) :
    (program.bind rest).runWith runTask world =
      match program.runWith runTask world with
      | none => none
      | some (.error error, world') => some (.error error, world')
      | some (.ok value, world') => (rest value).runWith runTask world' := by
  induction program generalizing world with
  | done outcome => cases outcome <;> rfl
  | ask request _ ih =>
      simp only [bind, runWith]
      cases request.answer runTask world with
      | none => rfl
      | some answered => exact ih answered.1 answered.2

/-- A program with a recovery goes on with it in the world that a failure
left. -/
theorem runWith_rescue (runTask : Runner Code) (program : Program Code α)
    (recover : Error → Program Code α) (world : World Code) :
    (program.rescue recover).runWith runTask world =
      match program.runWith runTask world with
      | none => none
      | some (.error error, world') => (recover error).runWith runTask world'
      | some (.ok value, world') => some (.ok value, world') := by
  induction program generalizing world with
  | done outcome => cases outcome <;> rfl
  | ask request _ ih =>
      simp only [rescue, runWith]
      cases request.answer runTask world with
      | none => rfl
      | some answered => exact ih answered.1 answered.2

/-- A sequence that succeeds is two programs that do. -/
theorem exists_of_runWith_bind {runTask : Runner Code} {program : Program Code α}
    {rest : α → Program Code β} {world final : World Code} {answer : β}
    (hrun : (program.bind rest).runWith runTask world =
      some (.ok answer, final)) :
    ∃ value middle, program.runWith runTask world = some (.ok value, middle) ∧
      (rest value).runWith runTask middle = some (.ok answer, final) := by
  rw [runWith_bind] at hrun
  split at hrun
  · cases hrun
  · cases hrun
  case h_3 value middle hprogram => exact ⟨value, middle, hprogram, hrun⟩

theorem runWith_request (runTask : Runner Code) (asked : Request Code)
    (world : World Code) :
    (request asked).runWith runTask world = asked.answer runTask world := by
  rw [request, runWith]
  cases asked.answer runTask world <;> rfl

theorem runWith_inspect (runTask : Runner Code) (world : World Code) :
    (inspect : Program Code _).runWith runTask world =
      some (.ok world.registry.toCatalog, world) := rfl

/-- A function is looked up as the catalog has it. -/
theorem runWith_function (runTask : Runner Code) (id : ℕ) (world : World Code) :
    (function id).runWith runTask world =
      some (match world.registry.function? id with
        | some found => .ok found
        | none => .error (.unknownNumber id), world) := by
  rw [function, bind_eq, runWith_bind, runWith_inspect]
  dsimp only
  cases world.registry.function? id <;> rfl

/-! ## What a program may ask -/

/-- All requests that the program may make, whatever it is answered. -/
inductive Uses (allowed : Request Code → Prop) : Program Code α → Prop
  | done (outcome : Except Error α) : Uses allowed (done outcome)
  | ask (request : Request Code)
      {next : Except Error request.Answer → Program Code α} :
      allowed request → (∀ answer, Uses allowed (next answer)) →
        Uses allowed (ask request next)

variable {allowed : Request Code → Prop}

theorem Uses.bind {program : Program Code α} {rest : α → Program Code β}
    (hprogram : program.Uses allowed)
    (hrest : ∀ value, (rest value).Uses allowed) :
    (program.bind rest).Uses allowed := by
  induction hprogram with
  | done outcome =>
      cases outcome with
      | ok value => exact hrest value
      | error error => exact .done _
  | ask request hallowed _ ih => exact .ask request hallowed ih

theorem Uses.rescue {program : Program Code α}
    {recover : Error → Program Code α} (hprogram : program.Uses allowed)
    (hrecover : ∀ error, (recover error).Uses allowed) :
    (program.rescue recover).Uses allowed := by
  induction hprogram with
  | done outcome =>
      cases outcome with
      | ok value => exact .done _
      | error error => exact hrecover error
  | ask request hallowed _ ih => exact .ask request hallowed ih

theorem Uses.request {asked : Request Code} (hallowed : allowed asked) :
    (request asked).Uses allowed :=
  .ask asked hallowed fun _ => .done _

/-- Everything that calls and casts ask for. -/
structure AllowsDispatch (allowed : Request Code → Prop) : Prop where
  inspect : allowed (.registry .inspect)
  resolve : ∀ id types tolerateTie,
    allowed (.registry (.resolve id types tolerateTie))
  run : ∀ task arguments, allowed (.run task arguments)

section

variable (hallows : AllowsDispatch allowed)
include hallows

theorem uses_inspect : (inspect : Program Code _).Uses allowed :=
  .request hallows.inspect

theorem uses_function (id : ℕ) :
    (function id : Program Code _).Uses allowed := by
  apply (uses_inspect hallows).bind
  intro catalog
  cases catalog.function? id with
  | none => exact .done _
  | some function => exact .done _

theorem uses_call (id : ℕ) (arguments : List Value) :
    (call id arguments : Program Code _).Uses allowed := by
  apply (uses_function hallows id).bind
  intro function
  apply (Uses.request (hallows.resolve id _ false)).bind
  intro selected
  cases function.task? selected with
  | none => exact .done _
  | some task => exact .request (hallows.run task arguments)

theorem uses_isCoercible (expected : Predicate) (value : Value) :
    (isCoercible expected value : Program Code _).Uses allowed := by
  rw [isCoercible_eq]
  apply (uses_inspect hallows).bind
  intro catalog
  cases catalog.membershipTest? expected with
  | none => exact .done _
  | some test =>
      have hanswer := (uses_call hallows test [value]).bind fun answer =>
        Uses.done (.ok (answer.payload.boolean? == some true))
      apply hanswer.rescue
      intro error
      cases error <;> exact .done _

theorem uses_coerce (expected : Predicate) (value : Value) (failure : Error) :
    (coerce expected value failure : Program Code _).Uses allowed := by
  apply (uses_inspect hallows).bind
  intro catalog
  split
  · exact .done _
  · apply (uses_isCoercible hallows expected value).bind
    intro coercible
    cases coercible <;> exact .done _

theorem uses_taskProgram {meaning : Code → List Value → Program Code Value}
    (hmeaning : ∀ body arguments, (meaning body arguments).Uses allowed)
    (task : Task Code) (arguments : List Value) :
    (task.program meaning arguments).Uses allowed := by
  cases task with
  | plain body => exact hmeaning body arguments
  | typed function returns implementation =>
      cases implementation with
      | answer truth => exact uses_coerce hallows _ _ _
      | code body =>
          exact (hmeaning body arguments).bind fun _ =>
            uses_coerce hallows _ _ _

end

/-! ## Questions in between -/

/-- The second program is the first with questions in between, whose answers
decide nothing. -/
inductive Interspersed : Program Code α → Program Code α → Prop
  | done (outcome : Except Error α) : Interspersed (done outcome) (done outcome)
  | ask (request : Request Code)
      {next next' : Except Error request.Answer → Program Code α} :
      (∀ answer, Interspersed (next answer) (next' answer)) →
        Interspersed (ask request next) (ask request next')
  | question {operation : Operation Code} {program : Program Code α}
      {next : Except Error operation.Answer → Program Code α} :
      operation.isQuestion = true →
        (∀ answer, Interspersed program (next answer)) →
          Interspersed program (ask (.registry operation) next)

theorem Interspersed.refl (program : Program Code α) :
    Interspersed program program := by
  induction program with
  | done outcome => exact .done outcome
  | ask request _ ih => exact .ask request ih

theorem Interspersed.bind {program program' : Program Code α}
    {rest rest' : α → Program Code β} (hprogram : Interspersed program program')
    (hrest : ∀ value, Interspersed (rest value) (rest' value)) :
    Interspersed (program.bind rest) (program'.bind rest') := by
  induction hprogram with
  | done outcome =>
      cases outcome with
      | ok value => exact hrest value
      | error error => exact .done _
  | ask request _ ih => exact .ask request ih
  | question hquestion _ ih => exact .question hquestion ih

theorem Interspersed.taskProgram
    {meaning meaning' : Code → List Value → Program Code Value}
    (hmeaning : ∀ body arguments,
      Interspersed (meaning body arguments) (meaning' body arguments))
    (task : Task Code) (arguments : List Value) :
    Interspersed (task.program meaning arguments)
      (task.program meaning' arguments) := by
  cases task with
  | plain body => exact hmeaning body arguments
  | typed function returns implementation =>
      cases implementation with
      | answer truth => exact .refl _
      | code body => exact (hmeaning body arguments).bind fun _ => .refl _

end Program

end PredicateDispatch
