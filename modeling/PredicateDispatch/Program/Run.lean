import PredicateDispatch.Invocation

/-!
# Running programs

A program runs in a world and leaves a world behind, also when it fails.  Running code inside a program
may go on forever, so a run is limited to a depth of nested runs, and the outcome is `none` when the
depth does not suffice.
-/

namespace PredicateDispatch

variable {Code α : Type}

/-- The outcome of a run with the world it leaves, unless the depth was exhausted. -/
abbrev Result (Code α : Type) := Option (Except Error α × World Code)

/-- How a task is run inside a program. -/
abbrev Runner (Code : Type) := Task Code → List Value → World Code → Result Code Value

namespace World

def perform (world : World Code) (operation : Operation Code) :
    Except Error operation.Answer × World Code :=
  let (answer, registry) := operation.perform world.registry
  (answer, { world with registry := registry })

end World

namespace Request

def answer (runTask : Runner Code) :
    (request : Request Code) → World Code → Result Code request.Answer
  | registry operation, world => some (world.perform operation)
  | run task arguments, world => runTask task arguments world
  | runClosure identity arguments, world =>
    match world.closures[identity]? with
    | some body => runTask (.plain body) arguments world
    | none => some (.error .invalidScript, world)
  | makeClosure body, world =>
    some (.ok world.closures.size, { world with closures := world.closures.push body })
  | readVariable name, world => some (.ok world.store[name]?, world)
  | writeVariable name value, world =>
    some (.ok (), { world with store := world.store.insert name value })
  | write text, world =>
    let (answer, console) := world.console.write text
    some (answer, { world with console := console })
  | takeOutput, world =>
    some (.ok world.console.text, { world with console := { world.console with text := "" } })
  | library, world => some (.ok world.library, world)
  | publish handles, world => some (.ok (), { world with library := some handles })

end Request

namespace Program

/-- Runs a program, tasks inside it by `runTask`. -/
def runWith (runTask : Runner Code) : Program Code α → World Code → Result Code α
  | done outcome, world => some (outcome, world)
  | ask request next, world =>
    match request.answer runTask world with
    | none => none
    | some (answer, world) => (next answer).runWith runTask world

end Program

/-- Runs a task at most `depth` runs deep, given what code means. -/
def runTask (meaning : Code → List Value → Program Code Value) : Nat → Runner Code
  | 0 => fun _ _ _ => none
  | depth + 1 => fun task arguments world =>
    (task.program meaning arguments).runWith (runTask meaning depth) world

namespace Program

/-- Runs a program at most `depth` nested runs deep. -/
def exec (meaning : Code → List Value → Program Code Value) (depth : Nat)
    (program : Program Code α) (world : World Code) : Result Code α :=
  program.runWith (runTask meaning depth) world

end Program

end PredicateDispatch
