import PredicateDispatch.Proofs.Membership.Casts

/-!
# Runs with a record

A recorded run also tells which code was run inside it: for each run of code what it was
given, how it ended, and the runs inside it, in the order in which these were completed.
Recording changes nothing: without its record such a run is the run.
-/

namespace PredicateDispatch

variable {Code α β : Type}

/-! ## Records -/

/-- A completed run of code with the runs inside it. -/
inductive CodeRun (Code : Type) where
  | completed (code : Code) (arguments : List Value) (outcome : Except Error Value)
      (inside : List (CodeRun Code))

mutual

/-- The runs inside a run and then this one: the order in which they were completed. -/
def CodeRun.inOrder : CodeRun Code → List (CodeRun Code)
  | .completed code arguments outcome inside =>
    CodeRun.allInOrder inside ++ [.completed code arguments outcome inside]

def CodeRun.allInOrder : List (CodeRun Code) → List (CodeRun Code)
  | [] => []
  | run :: later => run.inOrder ++ CodeRun.allInOrder later

end

theorem CodeRun.allInOrder_append (earlier later : List (CodeRun Code)) :
    allInOrder (earlier ++ later) = allInOrder earlier ++ allInOrder later := by
  induction earlier with
  | nil => rfl
  | cons run earlier ih =>
      rw [List.cons_append, allInOrder, allInOrder, ih, List.append_assoc]

/-- The outcome of a run with the world it leaves and with its record, unless the depth
was exhausted. -/
abbrev Recorded (Code α : Type) :=
  Option ((Except Error α × World Code) × List (CodeRun Code))

/-- How a task is run and recorded inside a program. -/
abbrev Recorder (Code : Type) :=
  Task Code → List Value → World Code → Recorded Code Value

/-- Goes on from the outcome and the world with further runs. -/
def Recorded.andThen (first : Recorded Code α)
    (rest : Except Error α → World Code → Recorded Code β) : Recorded Code β :=
  match first with
  | none => none
  | some ((outcome, world), earlier) =>
    (rest outcome world).map fun ended => (ended.1, earlier ++ ended.2)

/-- The runner that takes no notice of the record. -/
def Recorder.runner (recordTask : Recorder Code) : Runner Code :=
  fun task arguments world => (recordTask task arguments world).map Prod.fst

/-- The runs that a request leads to. -/
def Request.runs (recordTask : Recorder Code) :
    Request Code → World Code → List (CodeRun Code)
  | .run task arguments, world =>
    ((recordTask task arguments world).map Prod.snd).getD []
  | .runClosure identity arguments, world =>
    match world.closures[identity]? with
    | some body => ((recordTask (.plain body) arguments world).map Prod.snd).getD []
    | none => []
  | _, _ => []

namespace Program

/-- Runs and records a program, tasks inside it by `recordTask`. -/
def recordWith (recordTask : Recorder Code) :
    Program Code α → World Code → Recorded Code α
  | done outcome, world => some ((outcome, world), [])
  | ask request next, world =>
    match request.answer recordTask.runner world with
    | none => none
    | some (answer, after) =>
      ((next answer).recordWith recordTask after).map fun ended =>
        (ended.1, request.runs recordTask world ++ ended.2)

/-- The run of what follows a program, unless that failed. -/
def resume (recordTask : Recorder Code) (rest : α → Program Code β) :
    Except Error α → World Code → Recorded Code β
  | .ok value, world => (rest value).recordWith recordTask world
  | .error error, world => some ((.error error, world), [])

end Program

/-- Runs code and records this run. -/
def recordCode (meaning : Code → List Value → Program Code Value)
    (recordTask : Recorder Code) (body : Code) (arguments : List Value)
    (world : World Code) : Recorded Code Value :=
  ((meaning body arguments).recordWith recordTask world).map fun ended =>
    (ended.1, [.completed body arguments ended.1.1 ended.2])

/-- Runs and records a task at most `depth` runs deep. -/
def recordTask (meaning : Code → List Value → Program Code Value) : ℕ → Recorder Code
  | 0 => fun _ _ _ => none
  | depth + 1 => fun task arguments world =>
    match task with
    | .typed function returns (.answer truth) =>
      (Program.castOrFail function returns (.boolean truth)).recordWith
        (recordTask meaning depth) world
    | .typed function returns (.code body) =>
      (recordCode meaning (recordTask meaning depth) body arguments world).andThen
        (Program.resume (recordTask meaning depth) (Program.castOrFail function returns))
    | .plain body => recordCode meaning (recordTask meaning depth) body arguments world

/-- Runs and records a program at most `depth` nested runs deep. -/
def Program.record (meaning : Code → List Value → Program Code Value) (depth : ℕ)
    (program : Program Code α) (world : World Code) : Recorded Code α :=
  program.recordWith (recordTask meaning depth) world

/-- The record of code is one run, with all others inside it. -/
theorem exists_inside_of_recordCode {meaning : Code → List Value → Program Code Value}
    {recordTask : Recorder Code} {body : Code} {arguments : List Value}
    {world final : World Code} {outcome : Except Error Value} {runs : List (CodeRun Code)}
    (hrecord : recordCode meaning recordTask body arguments world =
      some ((outcome, final), runs)) :
    ∃ inside, (meaning body arguments).recordWith recordTask world =
        some ((outcome, final), inside) ∧
      runs = [.completed body arguments outcome inside] := by
  obtain ⟨⟨ended, inside⟩, hinside, heq⟩ := Option.map_eq_some_iff.mp hrecord
  obtain ⟨rfl, rfl⟩ := Prod.mk.inj heq
  exact ⟨inside, hinside, rfl⟩

section Task

variable (meaning : Code → List Value → Program Code Value) (depth : ℕ)
  (function : String) (returns : Predicate) (body : Code) (arguments : List Value)
  (world : World Code)

theorem recordTask_answer (truth : Bool) :
    recordTask meaning (depth + 1) (.typed function returns (.answer truth)) arguments
        world =
      (Program.castOrFail function returns (.boolean truth)).record meaning depth world :=
  rfl

theorem recordTask_code :
    recordTask meaning (depth + 1) (.typed function returns (.code body)) arguments world =
      (recordCode meaning (recordTask meaning depth) body arguments world).andThen
        (Program.resume (recordTask meaning depth)
          (Program.castOrFail function returns)) := rfl

theorem recordTask_plain :
    recordTask meaning (depth + 1) (.plain body) arguments world =
      recordCode meaning (recordTask meaning depth) body arguments world := rfl

end Task

theorem Recorded.exists_of_andThen {first : Recorded Code α}
    {rest : Except Error α → World Code → Recorded Code β} {outcome : Except Error β}
    {final : World Code} {runs : List (CodeRun Code)}
    (hended : first.andThen rest = some ((outcome, final), runs)) :
    ∃ middle after earlier later, first = some ((middle, after), earlier) ∧
      rest middle after = some ((outcome, final), later) ∧ runs = earlier ++ later := by
  rcases first with _ | ⟨⟨middle, after⟩, earlier⟩
  · cases hended
  · obtain ⟨⟨ended, later⟩, hlater, heq⟩ := Option.map_eq_some_iff.mp hended
    obtain ⟨rfl, rfl⟩ := Prod.mk.inj heq
    exact ⟨middle, after, earlier, later, rfl, hlater, rfl⟩

/-- What comes next adds nothing. -/
theorem Recorded.andThen_eq_self {recorded : Recorded Code α}
    {rest : Except Error α → World Code → Recorded Code α}
    (hrest : ∀ outcome final runs, recorded = some ((outcome, final), runs) →
      rest outcome final = some ((outcome, final), [])) :
    recorded.andThen rest = recorded := by
  rcases recorded with _ | ⟨⟨outcome, final⟩, runs⟩
  · rfl
  · rw [andThen, hrest outcome final runs rfl, Option.map_some, List.append_nil]

/-! ## Recording changes nothing -/

theorem Recorded.map_fst_andThen (first : Recorded Code α)
    (rest : Except Error α → World Code → Recorded Code β) :
    (first.andThen rest).map Prod.fst =
      (first.map Prod.fst).bind fun ended => (rest ended.1 ended.2).map Prod.fst := by
  rcases first with _ | ⟨⟨outcome, world⟩, earlier⟩
  · rfl
  · simp only [andThen, Option.map_map, Option.map_some, Option.bind_some,
      Function.comp_def]

namespace Program

theorem recordWith_bind (recordTask : Recorder Code) (program : Program Code α)
    (rest : α → Program Code β) (world : World Code) :
    (program.bind rest).recordWith recordTask world =
      (program.recordWith recordTask world).andThen (resume recordTask rest) := by
  induction program generalizing world with
  | done outcome =>
      cases outcome with
      | error error => rfl
      | ok value =>
          simp only [bind, recordWith, Recorded.andThen, resume, List.nil_append]
          cases (rest value).recordWith recordTask world <;> rfl
  | ask request next ih =>
      simp only [bind, recordWith]
      cases request.answer recordTask.runner world with
      | none => rfl
      | some answered =>
          dsimp only
          rw [ih]
          rcases (next answered.1).recordWith recordTask answered.2 with
            _ | ⟨⟨outcome, after⟩, earlier⟩
          · rfl
          · simp only [Recorded.andThen, Option.map_some, Option.map_map,
              Function.comp_def, List.append_assoc]

theorem map_fst_recordWith (recordTask : Recorder Code) (program : Program Code α)
    (world : World Code) :
    (program.recordWith recordTask world).map Prod.fst =
      program.runWith recordTask.runner world := by
  induction program generalizing world with
  | done outcome => rfl
  | ask request next ih =>
      rw [recordWith, runWith]
      cases request.answer recordTask.runner world with
      | none => rfl
      | some answered =>
          dsimp only
          rw [Option.map_map, ← ih]
          rfl

end Program

theorem map_fst_recordCode (meaning : Code → List Value → Program Code Value)
    (recordTask : Recorder Code) (body : Code) (arguments : List Value)
    (world : World Code) :
    (recordCode meaning recordTask body arguments world).map Prod.fst =
      (meaning body arguments).runWith recordTask.runner world := by
  rw [recordCode, Option.map_map, ← Program.map_fst_recordWith]
  rfl

theorem runner_recordTask (meaning : Code → List Value → Program Code Value)
    (depth : ℕ) : (recordTask meaning depth).runner = runTask meaning depth := by
  induction depth with
  | zero => rfl
  | succ depth ih =>
      funext task arguments world
      rw [Recorder.runner, runTask, ← ih]
      cases task with
      | plain body =>
          rw [recordTask_plain]
          exact map_fst_recordCode meaning _ body arguments world
      | typed function returns implementation =>
          cases implementation with
          | answer truth =>
              rw [recordTask_answer]
              exact Program.map_fst_recordWith _ _ world
          | code body =>
              change _ = ((meaning body arguments).bind
                (Program.castOrFail function returns)).runWith _ world
              rw [recordTask_code, Recorded.map_fst_andThen, map_fst_recordCode,
                Program.runWith_bind]
              rcases (meaning body arguments).runWith _ world with
                _ | ⟨error | value, after⟩
              · rfl
              · rfl
              · exact Program.map_fst_recordWith _ _ after

/-- Without its record a recorded run is the run. -/
theorem Program.map_fst_record (meaning : Code → List Value → Program Code Value)
    (depth : ℕ) (program : Program Code α) (world : World Code) :
    (program.record meaning depth world).map Prod.fst =
      program.exec meaning depth world := by
  rw [record, map_fst_recordWith, runner_recordTask]
  rfl

/-! ## Records of calls -/

namespace Program

theorem recordWith_run (recordTask : Recorder Code) (task : Task Code)
    (arguments : List Value) (world : World Code) :
    (run task arguments).recordWith recordTask world =
      recordTask task arguments world := by
  simp only [run, request, recordWith, Request.answer, Request.runs, Recorder.runner]
  rcases recordTask task arguments world with _ | ⟨⟨answer, after⟩, runs⟩
  · rfl
  · simp only [Option.map_some, Option.getD_some, List.append_nil]

/-- A call is recorded as the task that it selects. -/
theorem recordWith_call (recordTask : Recorder Code) {id : ℕ} {world : World Code}
    {function : GenericFunction Code}
    (hfunction : world.registry.function? id = some function)
    (arguments : List Value) :
    (call id arguments).recordWith recordTask world =
      let types := arguments.map Value.type
      let after := (world.perform (.resolve id types false)).2
      match (world.registry.resolve id types false).1 with
      | .error error => some ((.error error, after), [])
      | .ok selected =>
        match function.task? selected with
        | some task => recordTask task arguments after
        | none => some ((.error (function.noImplementation types), after), []) := by
  have hlookup : (Program.function id).recordWith recordTask world =
      some ((.ok function, world), []) := by
    rw [Program.function, bind_eq, recordWith_bind]
    change Recorded.andThen (some ((.ok world.registry.toCatalog, world), [])) _ = _
    simp only [Recorded.andThen, resume, hfunction]
    rfl
  have hselected : (resolve id (arguments.map Value.type) false).recordWith recordTask
      world = some
        (((world.registry.resolve id (arguments.map Value.type) false).1,
          (world.perform (.resolve id (arguments.map Value.type) false)).2), []) := rfl
  rw [call, bind_eq, recordWith_bind, hlookup]
  simp only [Recorded.andThen, resume]
  rw [bind_eq, recordWith_bind, hselected]
  simp only [Recorded.andThen]
  cases (world.registry.resolve id (arguments.map Value.type) false).1 with
  | error error => rfl
  | ok selected =>
      simp only [resume]
      cases function.task? selected with
      | none => rfl
      | some task =>
          dsimp only
          rw [recordWith_run]
          cases recordTask task arguments _ <;> rfl

/-- A call that succeeds has run a task. -/
theorem exists_task_of_recordWith_call {recordTask : Recorder Code} {id : ℕ}
    {arguments : List Value} {world final : World Code} {answer : Value}
    {runs : List (CodeRun Code)}
    (hcall : (call id arguments).recordWith recordTask world =
      some ((.ok answer, final), runs)) :
    ∃ task after, recordTask task arguments after = some ((.ok answer, final), runs) := by
  cases hfunction : world.registry.function? id with
  | none =>
      have hunknown : (call id arguments).runWith recordTask.runner world =
          some (.error (.unknownNumber id), world) := by
        rw [call, bind_eq, runWith_bind, runWith_function, hfunction]
      rw [← map_fst_recordWith, hcall] at hunknown
      cases (Prod.mk.inj (Option.some.inj hunknown)).1
  | some function =>
      rw [recordWith_call recordTask hfunction] at hcall
      dsimp only at hcall
      split at hcall
      · cases hcall
      · split at hcall
        · exact ⟨_, _, hcall⟩
        · cases hcall

end Program

/-- A value of the expected type is left as it is. -/
theorem Program.recordWith_coerce_of_isA (recordTask : Recorder Code)
    {expected : Predicate} {value : Value} {world : World Code}
    (habove : world.registry.isA expected value.type = true) (failure : Error) :
    (coerce expected value failure).recordWith recordTask world =
      some ((.ok value, world), []) := by
  rw [coerce, bind_eq, recordWith_bind]
  change Recorded.andThen (some ((.ok world.registry.toCatalog, world), [])) _ = _
  simp only [Recorded.andThen, resume]
  rw [if_pos habove]
  rfl

section Answers

variable {meaning : Code → List Value → Program Code Value} {depth : ℕ}
  {world final : World Code} {runs : List (CodeRun Code)}

/-- Holding an answer to a type does not change its payload. -/
theorem payload_of_record_castOrFail {function : String} {returns : Predicate}
    {value answer : Value}
    (hcast : (Program.castOrFail function returns value).record meaning depth world =
      some ((.ok answer, final), runs)) : answer.payload = value.payload := by
  have hrun := Program.map_fst_record meaning depth
    (Program.castOrFail function returns value) world
  rw [hcast, Program.castOrFail, World.exec_coerce_eq_casting] at hrun
  obtain ⟨⟨casting, after⟩, hcasting, hended⟩ := Option.map_eq_some_iff.mp hrun.symm
  cases casting with
  | given given =>
      obtain rfl := Except.ok.inj (Prod.mk.inj hended).1
      exact World.payload_of_casting_given hcasting
  | refused => cases (Prod.mk.inj hended).1
  | failed error => cases (Prod.mk.inj hended).1

/-- A task that answers with anything but a truth value has run code first, which gave
this payload. -/
theorem exists_codeRun_of_recordTask {task : Task Code} {arguments : List Value}
    {answer : Value}
    (hrecord : recordTask meaning depth task arguments world =
      some ((.ok answer, final), runs)) :
    (∃ truth, answer.payload = .boolean truth) ∨
      ∃ code value inside later,
        runs = .completed code arguments (.ok value) inside :: later ∧
          value.payload = answer.payload := by
  cases depth with
  | zero => cases hrecord
  | succ depth =>
      cases task with
      | plain body =>
          rw [recordTask_plain] at hrecord
          obtain ⟨inside, -, rfl⟩ := exists_inside_of_recordCode hrecord
          exact Or.inr ⟨body, answer, inside, [], rfl, rfl⟩
      | typed function returns implementation =>
          cases implementation with
          | answer truth =>
              rw [recordTask_answer] at hrecord
              exact Or.inl ⟨truth, payload_of_record_castOrFail hrecord⟩
          | code body =>
              rw [recordTask_code] at hrecord
              obtain ⟨middle, after, earlier, later, hbody, hcast, rfl⟩ :=
                Recorded.exists_of_andThen hrecord
              cases middle with
              | error error => cases hcast
              | ok value =>
                  obtain ⟨inside, -, rfl⟩ := exists_inside_of_recordCode hbody
                  exact Or.inr ⟨body, value, inside, later, rfl,
                    (payload_of_record_castOrFail hcast).symm⟩

end Answers

end PredicateDispatch
