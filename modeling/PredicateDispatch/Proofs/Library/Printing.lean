import PredicateDispatch.Proofs.Library.Sequences
import PredicateDispatch.Proofs.Program.Recorded

/-!
# What is printed

Nothing but the code of `println` writes to the console.  It renders its argument first
and then writes the text with a newline at once, so that what is printed while the
argument is rendered comes before it.  So the console holds the lines of all runs of that
code that succeeded, in the order in which these were completed.
-/

namespace PredicateDispatch

variable {Code Custom α β : Type}

/-! ## Programs that leave the console alone -/

/-- Everything but writing to the console and taking what was written. -/
def Request.Quiet : Request Code → Prop
  | .write _ | .takeOutput => False
  | _ => True

theorem Request.quiet_allowsLibrary :
    Program.AllowsLibrary (Request.Quiet : Request Code → Prop) where
  inspect := trivial
  resolve _ _ _ := trivial
  run _ _ := trivial
  derive _ _ := trivial
  runClosure _ _ := trivial

/-! ## Lines -/

namespace Console

/-- The console after some more text. -/
def append (console : Console) (text : String) : Console :=
  { console with text := console.text ++ text }

theorem append_empty (console : Console) : console.append "" = console := by
  rw [append, String.append_empty]

theorem append_append (console : Console) (first second : String) :
    (console.append first).append second = console.append (first ++ second) := by
  rw [append, append, append, String.append_assoc]

end Console

namespace CodeRun

/-- What a run prints itself: a newline, or the text that was answered by the code that
it ran first, which is that of `str`. -/
def line : CodeRun (Body Custom) → String
  | .completed (.primitive .printNewline) _ (.ok _) _ => "\n"
  | .completed (.primitive (.printLine _)) _ (.ok _)
      (.completed _ _ (.ok answer) _ :: _) => answer.payload.text?.getD "" ++ "\n"
  | _ => ""

theorem line_of_silent {primitive : Primitive} (hsilent : primitive.prints = false)
    (arguments : List Value) (outcome : Except Error Value)
    (inside : List (CodeRun (Body Custom))) :
    line (.completed (.primitive primitive) arguments outcome inside) = "" := by
  cases primitive with
  | printNewline => cases hsilent
  | printLine render => cases hsilent
  | _ => rfl

/-- The lines of all runs in the order in which these were completed. -/
def printed (runs : List (CodeRun (Body Custom))) : String :=
  String.join ((allInOrder runs).map line)

theorem printed_append (earlier later : List (CodeRun (Body Custom))) :
    printed (earlier ++ later) = printed earlier ++ printed later := by
  rw [printed, allInOrder_append, List.map_append, String.join_append]
  rfl

/-- What is printed inside a run comes before its own line. -/
theorem printed_singleton (code : Body Custom) (arguments : List Value)
    (outcome : Except Error Value) (inside : List (CodeRun (Body Custom))) :
    printed [.completed code arguments outcome inside] =
      printed inside ++ line (.completed code arguments outcome inside) := by
  have hinside : allInOrder [.completed code arguments outcome inside] =
      allInOrder inside ++ [.completed code arguments outcome inside] :=
    List.append_nil _
  have hsingle : ∀ text : String, String.join [text] = text := fun text => by
    simp
  rw [printed, hinside, List.map_append, String.join_append, List.map_singleton, hsingle]
  rfl

end CodeRun

/-! ## Accounting for the console -/

/-- The recorded run, if it ended, left the console with what its record has printed. -/
def Recorded.Accounts (console : Console) (recorded : Recorded (Body Custom) α) : Prop :=
  ∀ outcome final runs, recorded = some ((outcome, final), runs) →
    final.console = console.append (CodeRun.printed runs)

namespace Recorded.Accounts

variable {console : Console}

theorem none : Accounts console (none : Recorded (Body Custom) α) := by
  intro outcome final runs heq
  cases heq

/-- Nothing was run and nothing was printed. -/
theorem some_nil {world : World (Body Custom)} (hconsole : world.console = console)
    (outcome : Except Error α) : Accounts console (some ((outcome, world), [])) := by
  intro outcome' final runs heq
  obtain ⟨hended, rfl⟩ := Prod.mk.inj (Option.some.inj heq)
  obtain ⟨-, rfl⟩ := Prod.mk.inj hended
  exact hconsole.trans (console.append_empty).symm

theorem andThen {first : Recorded (Body Custom) α}
    {rest : Except Error α → World (Body Custom) → Recorded (Body Custom) β}
    (hfirst : first.Accounts console)
    (hrest : ∀ outcome after, (rest outcome after).Accounts after.console) :
    (first.andThen rest).Accounts console := by
  intro outcome final runs hended
  obtain ⟨middle, after, earlier, later, hearlier, hlater, rfl⟩ :=
    Recorded.exists_of_andThen hended
  rw [hrest middle after _ _ _ hlater, hfirst _ _ _ hearlier, Console.append_append,
    CodeRun.printed_append]

end Recorded.Accounts

section Runs

variable {recordTask : Recorder (Body Custom)}
  (htasks : ∀ task arguments world,
    (recordTask task arguments world).Accounts world.console)
include htasks

/-- One request, unless it is about the console. -/
theorem Request.console_of_answer {request : Request (Body Custom)} (hquiet : request.Quiet)
    {world after : World (Body Custom)} {answer : Except Error request.Answer}
    (hanswer : request.answer recordTask.runner world = some (answer, after)) :
    after.console = world.console.append (CodeRun.printed (request.runs recordTask world)) := by
  have htask : ∀ {task arguments} {outcome : Except Error Value},
      recordTask.runner task arguments world = some (outcome, after) →
        after.console = world.console.append (CodeRun.printed
          (((recordTask task arguments world).map Prod.snd).getD [])) := by
    intro task arguments outcome hrun
    obtain ⟨⟨ended, runs⟩, hrecord, rfl⟩ := Option.map_eq_some_iff.mp hrun
    rw [hrecord]
    exact htasks task arguments world _ _ _ hrecord
  cases request with
  | write text => exact hquiet.elim
  | takeOutput => exact hquiet.elim
  | run task arguments => exact htask hanswer
  | runClosure identity arguments =>
      rw [Request.answer] at hanswer
      rw [Request.runs]
      cases hclosure : world.closures[identity]? with
      | none =>
          rw [hclosure] at hanswer
          obtain ⟨-, rfl⟩ := Prod.mk.inj (Option.some.inj hanswer)
          exact (world.console.append_empty).symm
      | some body =>
          rw [hclosure] at hanswer
          exact htask hanswer
  | _ =>
      obtain ⟨-, rfl⟩ := Prod.mk.inj (Option.some.inj hanswer)
      exact (world.console.append_empty).symm

theorem Program.accounts_recordWith {program : Program (Body Custom) α}
    (hquiet : program.Uses Request.Quiet) (world : World (Body Custom)) :
    (program.recordWith recordTask world).Accounts world.console := by
  induction hquiet generalizing world with
  | done outcome => exact .some_nil rfl outcome
  | ask request hrequest _ ih =>
      intro outcome final runs hended
      rw [recordWith] at hended
      cases hanswer : request.answer recordTask.runner world with
      | none =>
          rw [hanswer] at hended
          cases hended
      | some answered =>
          rw [hanswer] at hended
          obtain ⟨⟨ended, later⟩, hlater, heq⟩ := Option.map_eq_some_iff.mp hended
          obtain ⟨rfl, rfl⟩ := Prod.mk.inj heq
          rw [ih answered.1 answered.2 _ _ _ hlater,
            Request.console_of_answer htasks hrequest hanswer, Console.append_append,
            CodeRun.printed_append]

end Runs

/-! ## The code of `println` -/

namespace World

/-- How printing a text ends: it is appended to an open console, and a closed one refuses
it. -/
def print (world : World Code) (text : String) : Except Error Value × World Code :=
  if world.console.isOpen then
    (.ok .null, { world with console := world.console.append text })
  else (.error (.io "sink is closed"), world)

/-- How printing an argument ends, once it has been rendered: a failure is passed on, and
only a text is printed. -/
def printAnswer (world : World Code) :
    Except Error Value → Except Error Value × World Code
  | .error error => (.error error, world)
  | .ok answer =>
    match answer.payload with
    | .text text => world.print (text ++ "\n")
    | other => (.error (.type (.notText other)), world)

end World

section Code

variable (recordTask : Recorder Code) (world : World Code)

theorem Program.recordWith_print (text : String) :
    (Program.request (.write text) >>= fun _ => .done (.ok Value.null)).recordWith
        recordTask world =
      some (world.print text, []) := by
  simp only [Program.request, Program.bind_eq, Program.bind, Program.recordWith,
    Request.answer, Request.runs, Console.write, World.print]
  split <;> rfl

/-- A line is the text that rendering answers with, printed after it. -/
theorem Primitive.recordWith_printLine (render : ℕ) (value : Value) :
    ((Primitive.printLine render).run [value]).recordWith recordTask world =
      ((Program.call render [value]).recordWith recordTask world).map fun rendered =>
        (rendered.1.2.printAnswer rendered.1.1, rendered.2) := by
  change ((Program.call render [value] >>= fun answer => _) >>= fun text =>
    Program.request (.write (text ++ "\n")) >>= fun _ => .done (.ok Value.null)).recordWith
      recordTask world = _
  rw [Program.bind_eq, Program.recordWith_bind, Program.bind_eq, Program.recordWith_bind]
  rcases (Program.call render [value]).recordWith recordTask world with
    _ | ⟨⟨error | answer, after⟩, runs⟩
  · rfl
  · simp only [Recorded.andThen, Program.resume, Option.map_some, List.append_nil,
      World.printAnswer]
  · cases hpayload : answer.payload with
    | text text =>
        have hprint := Program.recordWith_print recordTask after (text ++ "\n")
        simp only [Recorded.andThen, Program.resume, hpayload, Program.recordWith, pure,
          Option.map_some, List.append_nil, World.printAnswer, hprint]
    | _ =>
        simp only [Recorded.andThen, Program.resume, hpayload, Program.recordWith, throw,
          throwThe, MonadExceptOf.throw, Option.map_some, List.append_nil,
          World.printAnswer]

end Code

/-- A failure leaves the world as it was, and otherwise the text has been printed. -/
theorem World.print_cases {world final : World Code} {text : String}
    {outcome : Except Error Value} (hprint : world.print text = (outcome, final)) :
    (∃ error, outcome = .error error ∧ final = world) ∨
      outcome = .ok .null ∧ final.console = world.console.append text := by
  rw [print] at hprint
  split at hprint
  · obtain ⟨rfl, rfl⟩ := Prod.mk.inj hprint
    exact Or.inr ⟨rfl, rfl⟩
  · obtain ⟨rfl, rfl⟩ := Prod.mk.inj hprint
    exact Or.inl ⟨_, rfl, rfl⟩

theorem World.printAnswer_cases {world final : World Code}
    {rendered outcome : Except Error Value}
    (hprint : world.printAnswer rendered = (outcome, final)) :
    (∃ error, outcome = .error error ∧ final = world) ∨
      ∃ answer text, rendered = .ok answer ∧ answer.payload = .text text ∧
        outcome = .ok .null ∧ final.console = world.console.append (text ++ "\n") := by
  cases rendered with
  | error error =>
      obtain ⟨rfl, rfl⟩ := Prod.mk.inj hprint
      exact Or.inl ⟨error, rfl, rfl⟩
  | ok answer =>
      rw [printAnswer] at hprint
      split at hprint
      case h_1 text hpayload =>
        refine (print_cases hprint).imp_right fun hprinted => ?_
        obtain ⟨hnull, hconsole⟩ := hprinted
        exact ⟨answer, text, rfl, hpayload, hnull, hconsole⟩
      case h_2 =>
        obtain ⟨rfl, rfl⟩ := Prod.mk.inj hprint
        exact Or.inl ⟨_, rfl, rfl⟩

/-! ## Accounting for all code -/

section Accounts

variable {custom : Custom → List Value → Program (Body Custom) Value} {depth : ℕ}
  (hcustom : ∀ code arguments, (custom code arguments).Uses Request.Quiet)
  (htasks : ∀ task arguments world,
    (recordTask (Body.meaning custom) depth task arguments world).Accounts world.console)
include htasks

theorem accounts_of_quiet {body : Body Custom} {arguments : List Value}
    (hquiet : (body.meaning custom arguments).Uses Request.Quiet)
    (hline : ∀ outcome inside,
      CodeRun.line (.completed body arguments outcome inside) = "")
    (world : World (Body Custom)) :
    (recordCode (Body.meaning custom) (recordTask (Body.meaning custom) depth) body
      arguments world).Accounts world.console := by
  intro outcome final runs hrecord
  obtain ⟨inside, hinside, rfl⟩ := exists_inside_of_recordCode hrecord
  rw [CodeRun.printed_singleton, hline, String.append_empty]
  exact Program.accounts_recordWith htasks hquiet world _ _ _ hinside

/-- The argument is rendered first, and what that printed comes before the line. -/
theorem accounts_printLine (render : ℕ) (value : Value) (rest : List Value)
    (world : World (Body Custom)) :
    (recordCode (Body.meaning custom) (recordTask (Body.meaning custom) depth)
      (.primitive (.printLine render)) (value :: rest) world).Accounts world.console := by
  intro outcome final runs hrecord
  have hrun := Primitive.recordWith_printLine (recordTask (Body.meaning custom) depth) world
    render value
  obtain ⟨inside, hinside, rfl⟩ := exists_inside_of_recordCode hrecord
  obtain ⟨⟨⟨rendered, middle⟩, runs⟩, hcall, hended⟩ :=
    Option.map_eq_some_iff.mp (hrun.symm.trans hinside)
  obtain ⟨hprint, rfl⟩ := Prod.mk.inj hended
  have hmiddle := Program.accounts_recordWith htasks
    (Program.uses_call Request.quiet_allowsLibrary.toAllowsDispatch render [value]) world
    _ _ _ hcall
  rw [CodeRun.printed_singleton]
  rcases World.printAnswer_cases hprint with
    ⟨error, rfl, rfl⟩ | ⟨answer, text, rfl, hpayload, rfl, hconsole⟩
  · exact hmiddle.trans (congrArg _ (String.append_empty).symm)
  · obtain ⟨task, after, htask⟩ := Program.exists_task_of_recordWith_call hcall
    rcases exists_codeRun_of_recordTask htask with
      ⟨truth, htruth⟩ | ⟨code, given, inside, later, rfl, hgiven⟩
    · rw [hpayload] at htruth
      cases htruth
    · have hline : CodeRun.line (.completed (.primitive (.printLine render))
          (value :: rest) (.ok .null) (.completed code [value] (.ok given) inside :: later)) =
            text ++ "\n" := by
        rw [CodeRun.line, hgiven, hpayload]
        rfl
      rw [hline, hconsole, hmiddle, Console.append_append]

omit htasks in
theorem accounts_printNewline (arguments : List Value) (world : World (Body Custom)) :
    (recordCode (Body.meaning custom) (recordTask (Body.meaning custom) depth)
      (.primitive .printNewline) arguments world).Accounts world.console := by
  intro outcome final runs hrecord
  have hrun := Program.recordWith_print (recordTask (Body.meaning custom) depth) world "\n"
  obtain ⟨inside, hinside, rfl⟩ := exists_inside_of_recordCode hrecord
  obtain ⟨hprint, rfl⟩ := Prod.mk.inj (Option.some.inj (hrun.symm.trans hinside))
  rw [CodeRun.printed_singleton]
  rcases World.print_cases hprint with ⟨error, rfl, rfl⟩ | ⟨rfl, hconsole⟩
  · exact (Console.append_empty _).symm
  · exact hconsole

include hcustom

/-- What code printed is what its record says. -/
theorem accounts_recordCode (body : Body Custom) (arguments : List Value)
    (world : World (Body Custom)) :
    (recordCode (Body.meaning custom) (recordTask (Body.meaning custom) depth) body
      arguments world).Accounts world.console := by
  cases body with
  | custom code =>
      have hquiet : ((Body.custom code).meaning custom arguments).Uses Request.Quiet :=
        hcustom code arguments
      exact accounts_of_quiet htasks hquiet (fun _ _ => rfl) world
  | primitive primitive =>
      have hsilent : primitive.prints = false →
          (recordCode (Body.meaning custom) (recordTask (Body.meaning custom) depth)
            (.primitive primitive) arguments world).Accounts world.console := by
        intro hsilent
        refine accounts_of_quiet htasks (primitive.uses_run Request.quiet_allowsLibrary
          arguments fun hprints => ?_) (fun _ _ => CodeRun.line_of_silent hsilent _ _ _) world
        cases hsilent.symm.trans hprints
      cases primitive with
      | printNewline => exact accounts_printNewline arguments world
      | printLine render =>
          cases arguments with
          | nil =>
              intro outcome final runs hrecord
              obtain ⟨inside, hinside, rfl⟩ := exists_inside_of_recordCode hrecord
              obtain ⟨hended, rfl⟩ := Prod.mk.inj (Option.some.inj hinside)
              obtain ⟨rfl, rfl⟩ := Prod.mk.inj hended
              exact (world.console.append_empty).symm
          | cons value rest => exact accounts_printLine htasks render value rest world
      | _ => exact hsilent rfl

omit htasks in
theorem accounts_recordTask (depth : ℕ) (task : Task (Body Custom))
    (arguments : List Value) (world : World (Body Custom)) :
    (recordTask (Body.meaning custom) depth task arguments world).Accounts
      world.console := by
  induction depth generalizing task arguments world with
  | zero => exact .none
  | succ depth ih =>
      have hcast : ∀ function returns value (world : World (Body Custom)),
          ((Program.castOrFail function returns value).record (Body.meaning custom) depth
            world).Accounts world.console := fun function returns value =>
        Program.accounts_recordWith ih (Program.uses_coerce
          Request.quiet_allowsLibrary.toAllowsDispatch _ _ _)
      cases task with
      | plain body => exact accounts_recordCode hcustom ih body arguments world
      | typed function returns implementation =>
          cases implementation with
          | answer truth => exact hcast function returns _ world
          | code body =>
              refine (accounts_recordCode hcustom ih body arguments world).andThen
                fun outcome after => ?_
              cases outcome with
              | error error => exact .some_nil rfl _
              | ok value => exact hcast function returns value after

omit htasks in
/-- Whatever a quiet program runs, the console has got what the record has printed. -/
theorem Program.console_of_exec {program : Program (Body Custom) α}
    (hquiet : program.Uses Request.Quiet) {world final : World (Body Custom)}
    {outcome : Except Error α}
    (hrun : program.exec (Body.meaning custom) depth world = some (outcome, final)) :
    ∃ runs, program.record (Body.meaning custom) depth world =
        some ((outcome, final), runs) ∧
      final.console = world.console.append (CodeRun.printed runs) := by
  obtain ⟨⟨ended, runs⟩, hrecord, rfl⟩ := Option.map_eq_some_iff.mp
    ((Program.map_fst_record (Body.meaning custom) depth program world).trans hrun)
  exact ⟨runs, hrecord, Program.accounts_recordWith (accounts_recordTask hcustom depth)
    hquiet world _ _ _ hrecord⟩

end Accounts

/-! ## Calls of `println` -/

/-- The world in which a call has selected its entry.  Only what is remembered of
selections has changed. -/
def World.selecting (world : World Code) (id : ℕ) (types : Signature) : World Code :=
  (world.perform (.resolve id types false)).2

theorem World.toCatalog_selecting (world : World Code) (id : ℕ) (types : Signature) :
    (world.selecting id types).registry.toCatalog = world.registry.toCatalog :=
  Registry.toCatalog_resolve world.registry id types false

theorem World.print_of_open {world : World Code} (hopen : world.console.isOpen = true)
    (text : String) :
    world.print text =
      (.ok .null, { world with console := world.console.append text }) := by
  rw [print, if_pos hopen]

/-- A call records the code of the entry that it picks, and holding the answer to the
declared type. -/
theorem Catalog.Picks.record_call (meaning : Code → List Value → Program Code Value)
    {world : World Code} {id : ℕ} {arguments : List Value} {entry : MethodEntry Code}
    (hreachable : world.registry.Reachable)
    (hpicks : world.registry.Picks id (arguments.map Value.type) entry) {body : Code}
    (hbody : entry.implementation = .code body) : ∃ function, ∀ depth,
      (Program.call id arguments).record meaning (depth + 1) world =
        (recordCode meaning (recordTask meaning depth) body arguments
          (world.selecting id (arguments.map Value.type))).andThen
            (Program.resume (recordTask meaning depth)
              (Program.castOrFail function entry.returns)) := by
  obtain ⟨function, hfunction⟩ := hpicks.exists_function?
  refine ⟨function.name, fun depth => ?_⟩
  rw [Program.record, Program.recordWith_call _ hfunction]
  dsimp only
  rw [hpicks.resolve_eq hreachable false, ← recordTask_code, ← hbody]
  rfl

/-- If that code answers with nothing, as declared, the call is recorded as the code. -/
theorem Catalog.Picks.record_call_null {meaning : Code → List Value → Program Code Value}
    {depth : ℕ} {world : World Code} {id : ℕ} {arguments : List Value}
    {entry : MethodEntry Code} (hreachable : world.registry.Reachable)
    (hpicks : world.registry.Picks id (arguments.map Value.type) entry) {body : Code}
    (hbody : entry.implementation = .code body) (hreturns : entry.returns = Predicate.null)
    {recorded : Recorded Code Value}
    (hcode : recordCode meaning (recordTask meaning depth) body arguments
      (world.selecting id (arguments.map Value.type)) = recorded)
    (hnull : ∀ value final runs, recorded = some ((.ok value, final), runs) →
      value = .null) :
    (Program.call id arguments).record meaning (depth + 1) world = recorded := by
  obtain ⟨function, hrecord⟩ := hpicks.record_call meaning hreachable hbody
  rw [hrecord, hcode, hreturns]
  refine Recorded.andThen_eq_self fun outcome final runs hrecorded => ?_
  cases outcome with
  | error error => rfl
  | ok value =>
      obtain rfl := hnull value final runs hrecorded
      have hself : final.registry.isA Predicate.null Value.null.type = true :=
        Hierarchy.isA_self _ Predicate.null
      exact Program.recordWith_coerce_of_isA _ hself _

namespace Library

section Println

variable {custom : Custom → List Value → Program (Body Custom) Value}
  {world : World (Body Custom)} {types : BaseTypes} {println str : ℕ}
  (hreachable : world.registry.Reachable)
  (hprintln : world.registry.Provides types println (printFittings str))
include hreachable hprintln

theorem record_println_nil (depth : ℕ) :
    (Program.call println []).record (Body.meaning custom) (depth + 1) world =
      let printed := (world.selecting println []).print "\n"
      some (printed, [.completed (.primitive .printNewline) [] printed.1 []]) := by
  have hpicks : world.registry.Picks println (([] : List Value).map Value.type)
      (types.entry (⟨[], .null⟩, .printNewline)) :=
    picks_of_apart hprintln rfl (by decide : Apart printTable)
      (by simp [printFittings, printTable]) rfl
  refine hpicks.record_call_null hreachable rfl rfl ?_ fun value final runs hended => ?_
  · have hprint := Program.recordWith_print (recordTask (Body.meaning custom) depth)
      (world.selecting println []) "\n"
    exact congrArg (Option.map _) hprint
  · obtain ⟨hprint, -⟩ := Prod.mk.inj (Option.some.inj hended)
    rcases World.print_cases hprint with ⟨error, hfailed, -⟩ | ⟨hnull, -⟩
    · cases hfailed
    · exact Except.ok.inj hnull

theorem record_println {value : Value}
    (hvalue : world.registry.isA Predicate.any value.type = true) (depth : ℕ) :
    (Program.call println [value]).record (Body.meaning custom) (depth + 1) world =
      ((Program.call str [value]).record (Body.meaning custom) depth
          (world.selecting println [value.type])).map fun rendered =>
        let printed := rendered.1.2.printAnswer rendered.1.1
        (printed, [.completed (.primitive (.printLine str)) [value] printed.1
          rendered.2]) := by
  have haccepts : world.registry.hierarchy.accepts (types.handles [.any])
      [value.type] = true := Hierarchy.accepts_iff_covers.mpr (.cons hvalue .nil)
  have hpicks : world.registry.Picks println ([value].map Value.type)
      (types.entry (⟨[.any], .null⟩, .printLine str)) :=
    picks_of_apart hprintln rfl (by decide : Apart printTable)
      (by simp [printFittings, printTable]) haccepts
  refine hpicks.record_call_null hreachable rfl rfl ?_ fun value final runs hended => ?_
  · have hline := Primitive.recordWith_printLine (recordTask (Body.meaning custom) depth)
      (world.selecting println [value.type]) str value
    refine (congrArg (Option.map _) hline).trans ?_
    rw [Option.map_map]
    rfl
  · obtain ⟨rendered, -, hprinted⟩ := Option.map_eq_some_iff.mp hended
    rcases World.printAnswer_cases (Prod.mk.inj hprinted).1 with
      ⟨error, hfailed, -⟩ | ⟨_, _, _, _, hnull, -⟩
    · cases hfailed
    · exact Except.ok.inj hnull

end Println

/-- What calls of `println` write from this world, and what is written by any programs
that print with them. -/
structure PrintsRendered (custom : Custom → List Value → Program (Body Custom) Value)
    (library : Library) (world : World (Body Custom)) : Prop where
  newline : ∀ depth,
    (Program.call library.println []).exec (Body.meaning custom) (depth + 1) world =
      some ((world.selecting library.println []).print "\n")
  /-- The argument is rendered by `str` first, whatever that prints, and the outcome
  decides on how the call ends. -/
  line : ∀ value, world.registry.isA Predicate.any value.type = true → ∀ depth,
    (Program.call library.println [value]).exec (Body.meaning custom) (depth + 1) world =
      ((Program.call library.text [value]).exec (Body.meaning custom) depth
          (world.selecting library.println [value.type])).map fun rendered =>
        rendered.2.printAnswer rendered.1
  newline_recorded : ∀ depth,
    (Program.call library.println []).record (Body.meaning custom) (depth + 1) world =
      let printed := (world.selecting library.println []).print "\n"
      some (printed, [.completed (.primitive .printNewline) [] printed.1 []])
  /-- What is run to render the argument is inside the run that prints the line. -/
  line_recorded : ∀ value, world.registry.isA Predicate.any value.type = true → ∀ depth,
    (Program.call library.println [value]).record (Body.meaning custom) (depth + 1) world =
      ((Program.call library.text [value]).record (Body.meaning custom) depth
          (world.selecting library.println [value.type])).map fun rendered =>
        let printed := rendered.1.2.printAnswer rendered.1.1
        (printed, [.completed (.primitive (.printLine library.text)) [value] printed.1
          rendered.2])
  /-- The lines of all runs that were completed, in this order, and nothing else. -/
  content : ∀ {α : Type} (program : Program (Body Custom) α),
    program.Uses Request.Quiet → ∀ depth outcome final,
      program.exec (Body.meaning custom) depth world = some (outcome, final) →
        ∃ runs, program.record (Body.meaning custom) depth world =
            some ((outcome, final), runs) ∧
          final.console = world.console.append (CodeRun.printed runs)

namespace PrintsRendered

variable {custom : Custom → List Value → Program (Body Custom) Value} {library : Library}
  {world : World (Body Custom)} (hprints : PrintsRendered custom library world)
include hprints

theorem newline_of_open (hopen : world.console.isOpen = true) (depth : ℕ) :
    ∃ after, (Program.call library.println []).exec (Body.meaning custom) (depth + 1)
        world = some (.ok .null, after) ∧
      after.console = world.console.append "\n" := by
  have hselected : (world.selecting library.println []).console.isOpen = true := hopen
  refine ⟨{ world.selecting library.println [] with
    console := world.console.append "\n" }, (hprints.newline depth).trans ?_, rfl⟩
  rw [World.print_of_open hselected]
  rfl

/-- The line comes after everything that rendering has printed. -/
theorem line_of_open {value answer : Value} {text : String} {depth : ℕ}
    {rendered : World (Body Custom)}
    (hvalue : world.registry.isA Predicate.any value.type = true)
    (hstr : (Program.call library.text [value]).exec (Body.meaning custom) depth
      (world.selecting library.println [value.type]) = some (.ok answer, rendered))
    (htext : answer.payload = .text text) (hopen : rendered.console.isOpen = true) :
    ∃ after, (Program.call library.println [value]).exec (Body.meaning custom) (depth + 1)
        world = some (.ok .null, after) ∧
      after.console = rendered.console.append (text ++ "\n") := by
  refine ⟨{ rendered with console := rendered.console.append (text ++ "\n") },
    (hprints.line value hvalue depth).trans ?_, rfl⟩
  have hprinted : rendered.printAnswer (.ok answer) = rendered.print (text ++ "\n") := by
    rw [World.printAnswer, htext]
  rw [hstr, Option.map_some, hprinted, World.print_of_open hopen]

end PrintsRendered

/-- Wherever the base library has been installed and `println` has got no further
entries, it writes the rendered text with a newline, and the console holds the lines of
the runs in the order of their completion, whatever is run besides that leaves the
console alone. -/
theorem println_writes_rendered {custom : Custom → List Value → Program (Body Custom) Value}
    {library : Library} {world : World (Body Custom)}
    (hinstalled : library.InstalledIn [library.println] world.registry)
    (hcustom : ∀ code arguments, (custom code arguments).Uses Request.Quiet) :
    PrintsRendered custom library world := by
  have hprintln : world.registry.Provides library.types library.println
      (printFittings library.text) := hinstalled.provides (by simp) (by simp [fittings])
  have hreachable := hinstalled.reachable
  refine {
    newline := fun depth => ?_
    line := fun value hvalue depth => ?_
    newline_recorded := record_println_nil hreachable hprintln
    line_recorded := fun value hvalue => record_println hreachable hprintln hvalue
    content := fun program hquiet depth outcome final hrun =>
      Program.console_of_exec hcustom hquiet hrun }
  · rw [← Program.map_fst_record, record_println_nil hreachable hprintln]
    rfl
  · rw [← Program.map_fst_record, record_println hreachable hprintln hvalue,
      ← Program.map_fst_record, Option.map_map, Option.map_map]
    rfl

theorem InstalledIn.selecting {library : Library} {closed : List ℕ}
    {world : World (Body Custom)} (hinstalled : library.InstalledIn closed world.registry)
    (id : ℕ) (types : Signature) :
    library.InstalledIn closed (world.selecting id types).registry :=
  hinstalled.perform (.resolve id types false) trivial fun _ _ => Set.notMem_empty _

/-- Code for an entry of `str` that prints a newline while it renders. -/
def chatty (library : Library) (_ : Unit) (_ : List Value) : Program (Body Unit) Value :=
  Program.call library.println [] >>= fun _ =>
    .done (.ok (library.types.textValue "done"))

theorem uses_chatty (library : Library) (code : Unit) (arguments : List Value) :
    (chatty library code arguments).Uses Request.Quiet :=
  (Program.uses_call Request.quiet_allowsLibrary.toAllowsDispatch _ _).bind
    fun _ => .done _

/-- A registry whose `str` has that entry for `isNull`. -/
theorem exists_picks_chatty : ∃ (library : Library) (registry : Registry (Body Unit)),
    library.InstalledIn [library.println] registry ∧
      registry.Picks library.text [Predicate.null]
        ⟨[Predicate.null], library.types.string, .code (.custom ())⟩ := by
  obtain ⟨library, registry, -, -, hinstalled⟩ := exists_installedIn_of_past Unit {}
  let entry : MethodEntry (Body Unit) :=
    ⟨[Predicate.null], library.types.string, .code (.custom ())⟩
  have hdistinct : library.println ≠ library.text := by
    obtain ⟨base, metric, hequipped, -⟩ := (hinstalled []).exists_equipped
    have hnodup := (List.nodup_append.mp hequipped.distinct).1
    rw [fittings, List.map_cons] at hnodup
    intro heq
    refine (List.nodup_cons.mp hnodup).1 ?_
    rw [heq]
    simp
  have hclosed := (hinstalled [library.println]).perform (.register library.text entry)
    trivial (by simpa [Operation.registered] using hdistinct)
  have hplaced := (hinstalled []).placed
  have hstr := ((hinstalled [library.text]).provides (by simp)
    library.text_mem_fittings).fitted
  obtain ⟨after, hregister, hafter⟩ :=
    (hinstalled []).reachable.exists_register_of_fitted hstr entry fun function hentries => by
      rw [Bool.eq_false_iff]
      intro htest
      have hall := List.all_eq_true.mp htest entry
        (hentries ▸ GenericFunction.self_mem_putEntry entry _)
      have hids : (library.types.handle .string).id = (library.types.handle .boolean).id :=
        eq_of_beq (Bool.and_eq_true_iff.mp hall).2
      cases hplaced.eq_of_ids_eq hids
  have hperform : ((Operation.register library.text entry).perform registry).2 = after :=
    congrArg Prod.snd hregister
  rw [hperform] at hclosed
  obtain ⟨function, hfunction, hentries, -⟩ := hafter.function
  exact ⟨library, after, hclosed, hclosed.reachable.orderly.picks_self hfunction
    (hentries ▸ GenericFunction.self_mem_putEntry entry _) rfl⟩

theorem exec_chatty {library : Library} {world : World (Body Unit)}
    (hreachable : world.registry.Reachable)
    (hprints : PrintsRendered (chatty library) library
      (world.selecting library.text [Predicate.null]))
    (hpicks : world.registry.Picks library.text [Predicate.null]
      ⟨[Predicate.null], library.types.string, .code (.custom ())⟩)
    (hopen : world.console.isOpen = true) :
    ∃ after, (Program.call library.text [.null]).exec (Body.meaning (chatty library)) 2
        world = some (.ok (library.types.textValue "done"), after) ∧
      after.console = world.console.append "\n" := by
  obtain ⟨function, hfunction⟩ := hpicks.exists_function?
  obtain ⟨after, hnewline, hconsole⟩ := hprints.newline_of_open hopen 0
  have hcalled : (Program.call library.text [.null]).exec (Body.meaning (chatty library)) 2
      world = (chatty library () [.null] >>= Program.castOrFail function.name
        library.types.string).exec (Body.meaning (chatty library)) 1
          (world.selecting library.text [Predicate.null]) :=
    @Catalog.Picks.exec_call _ (Body.meaning (chatty library)) _ [.null] _ world
      hreachable hpicks function hfunction _ rfl 1
  have hcode : (chatty library () [.null]).exec (Body.meaning (chatty library)) 1
      (world.selecting library.text [Predicate.null]) =
        some (.ok (library.types.textValue "done"), after) := by
    rw [Program.exec] at hnewline
    rw [Program.exec, chatty, Program.bind_eq, Program.runWith_bind, hnewline]
    rfl
  have htext : after.registry.isA library.types.string
      (library.types.textValue "done").type = true :=
    Hierarchy.isA_self _ library.types.string
  refine ⟨after, ?_, hconsole⟩
  rw [Program.exec] at hcode
  rw [hcalled, Program.exec, Program.bind_eq, Program.runWith_bind, hcode]
  exact Program.runWith_coerce_of_isA _ htext _

/-- What is printed while the argument is rendered comes before the line, and a closed
console refuses a newline. -/
theorem println_writes_rendered_chatty :
    ∃ (library : Library) (world : World (Body Unit)),
      library.InstalledIn [library.println] world.registry ∧
      (∃ final, (Program.call library.println [.null]).exec
          (Body.meaning (chatty library)) 3 world = some (.ok .null, final) ∧
        final.console.text = "\ndone\n") ∧
      ∃ final, (Program.call library.println []).exec (Body.meaning (chatty library)) 1
          { world with console := { isOpen := false } } =
            some (.error (.io "sink is closed"), final) := by
  obtain ⟨library, registry, hinstalled, hpicks⟩ := exists_picks_chatty
  refine ⟨library, { registry := registry }, hinstalled, ?_, ?_⟩
  · have hselected : library.InstalledIn [library.println] (World.selecting
        { registry := registry } library.println [Predicate.null]).registry :=
      InstalledIn.selecting hinstalled _ _
    rw [← World.toCatalog_selecting { registry := registry } library.println
      [Predicate.null]] at hpicks
    have hprints := println_writes_rendered
      (hselected.selecting library.text [Predicate.null]) (uses_chatty library)
    obtain ⟨rendered, hstr, hrendered⟩ :=
      exec_chatty hselected.reachable hprints hpicks rfl
    have hopen : rendered.console.isOpen = true := by
      rw [hrendered]
      rfl
    obtain ⟨final, hrun, hfinal⟩ :=
      (println_writes_rendered hinstalled (uses_chatty library)).line_of_open
        (hinstalled.isA_handle .any .null) hstr rfl hopen
    refine ⟨final, hrun, ?_⟩
    rw [hfinal, hrendered]
    rfl
  · exact ⟨_, (println_writes_rendered hinstalled (uses_chatty library)).newline 0⟩

end Library

end PredicateDispatch
