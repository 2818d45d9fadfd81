import PredicateDispatch.Proofs.Dispatch.Reachable

/-!
# The cache does not show

Two worlds agree when their registries differ at most in their caches, in
whether they have one, and in their journals.  A program gets the same answers
in both and leaves worlds that agree, whatever the code that runs on its behalf
does meanwhile, and questions that are put in between change nothing of that.
-/

namespace PredicateDispatch

variable {Code α β : Type}

/-! ## Sessions -/

/-- Something that a client asks for. -/
inductive Command (Code : Type) where
  | perform (operation : Operation Code)
  | call (function : ℕ) (arguments : List Value)
  | cast (expected : Predicate) (value : Value)
  | castOrFail (function : String) (expected : Predicate) (value : Value)
  | isCoercible (expected : Predicate) (value : Value)

namespace Command

@[reducible]
def Answer : Command Code → Type
  | perform operation => operation.Answer
  | call _ _ => Value
  | cast _ _ => Value
  | castOrFail _ _ _ => Value
  | isCoercible _ _ => Bool

def program : (command : Command Code) → Program Code command.Answer
  | perform operation => Program.request (.registry operation)
  | call function arguments => Program.call function arguments
  | cast expected value => Program.cast expected value
  | castOrFail function expected value =>
    Program.castOrFail function expected value
  | isCoercible expected value => Program.isCoercible expected value

def CachesUnder (metric : Metric) : Command Code → Prop
  | perform operation => operation.CachesUnder metric
  | _ => True

/-- A command with what became of it. -/
def Reply (Code : Type) : Type :=
  (command : Command Code) × Except Error command.Answer

end Command

namespace Program

/-- The outcome of a program, as an answer. -/
def attempt (program : Program Code α) : Program Code (Except Error α) :=
  (program.bind fun value => done (.ok (.ok value))).rescue
    fun error => done (.ok (.error error))

/-- Commands one after the other.  One that fails does not stop the others. -/
def session : List (Command Code) → Program Code (List (Command.Reply Code))
  | [] => done (.ok [])
  | command :: rest =>
    (attempt command.program).bind fun outcome =>
      (session rest).bind fun replies =>
        done (.ok (⟨command, outcome⟩ :: replies))

variable {metric : Metric}

theorem uses_command {command : Command Code}
    (hcaches : command.CachesUnder metric) :
    command.program.Uses (Request.CachesUnder metric) := by
  have hallows : AllowsDispatch (Request.CachesUnder metric : Request Code → Prop) :=
    Request.allowsDispatch metric
  cases command with
  | perform operation => exact Uses.request (by exact hcaches)
  | call function arguments => exact uses_call hallows function arguments
  | cast expected value => exact uses_coerce hallows _ _ _
  | castOrFail function expected value => exact uses_coerce hallows _ _ _
  | isCoercible expected value => exact uses_isCoercible hallows expected value

theorem uses_session {commands : List (Command Code)}
    (hcaches : ∀ command ∈ commands, command.CachesUnder metric) :
    (session commands).Uses (Request.CachesUnder metric) := by
  induction commands with
  | nil => exact .done _
  | cons command rest ih =>
      have hcommand := uses_command (hcaches command List.mem_cons_self)
      have hrest := ih fun other hother =>
        hcaches other (List.mem_cons_of_mem command hother)
      have hattempt : (attempt command.program).Uses
          (Request.CachesUnder metric) :=
        (hcommand.bind fun _ => .done _).rescue fun _ => .done _
      apply hattempt.bind
      intro outcome
      exact hrest.bind fun replies => .done _

end Program

/-! ## Worlds that agree -/

namespace World

/-- Nothing differs but caches, whether they are in use, and journals. -/
structure Agrees (left right : World Code) : Prop where
  catalog : left.registry.toCatalog = right.registry.toCatalog
  closures : left.closures = right.closures
  store : left.store = right.store
  console : left.console = right.console
  library : left.library = right.library

/-- Worlds that agree, with sound caches. -/
structure Alike (metric : Metric) (left right : World Code) : Prop
    extends left.Agrees right where
  registry : left.registry.Alike metric right.registry

end World

/-- Both runs end, with one outcome and in related worlds, or neither does. -/
inductive Result.Related (related : World Code → World Code → Prop) :
    Result Code α → Result Code α → Prop
  | exhausted : Related related none none
  | ended (outcome : Except Error α) {left right : World Code} :
      related left right →
        Related related (some (outcome, left)) (some (outcome, right))

theorem Result.Related.mono {related related' : World Code → World Code → Prop}
    (hmono : ∀ left right, related left right → related' left right)
    {left right : Result Code α} (hrelated : Result.Related related left right) :
    Result.Related related' left right := by
  cases hrelated with
  | exhausted => exact .exhausted
  | ended outcome hworlds => exact .ended outcome (hmono _ _ hworlds)

theorem Result.Related.of_eq {related : World Code → World Code → Prop}
    {left right : Except Error α × World Code} (houtcome : left.1 = right.1)
    (hworlds : related left.2 right.2) :
    Result.Related related (some left) (some right) := by
  obtain ⟨outcome, world⟩ := left
  obtain ⟨_, world'⟩ := right
  cases houtcome
  exact .ended outcome hworlds

namespace World.Alike

variable {metric : Metric} {left right : World Code}
  (halike : Alike metric left right)

include halike

theorem of_registry {left' right' : Registry Code}
    (hregistry : left'.Alike metric right') :
    Alike metric { left with registry := left' }
      { right with registry := right' } :=
  ⟨⟨hregistry.catalog, halike.closures, halike.store, halike.console,
    halike.library⟩, hregistry⟩

theorem perform {operation : Operation Code}
    (hcaches : operation.CachesUnder metric) :
    Result.Related (Alike metric) (some (left.perform operation))
      (some (right.perform operation)) := by
  obtain ⟨hanswer, hregistry⟩ := Operation.perform_alike halike.registry hcaches
  exact .of_eq hanswer (halike.of_registry hregistry)

theorem question {operation : Operation Code}
    (hcaches : operation.CachesUnder metric)
    (hquestion : operation.isQuestion = true) :
    Alike metric left (right.perform operation).2 :=
  halike.of_registry
    (Operation.alike_perform_of_isQuestion halike.registry hcaches hquestion)

end World.Alike

/-! ## Runs in worlds that are alike -/

/-- Tasks run alike in worlds that are alike. -/
def Runner.Alike (metric : Metric) (left right : Runner Code) : Prop :=
  ∀ task arguments world world', World.Alike metric world world' →
    Result.Related (World.Alike metric) (left task arguments world)
      (right task arguments world')

section

variable {metric : Metric} {runLeft runRight : Runner Code}
  (hrun : Runner.Alike metric runLeft runRight)
include hrun

theorem Request.answer_alike {request : Request Code}
    (hcaches : request.CachesUnder metric) {left right : World Code}
    (halike : left.Alike metric right) :
    Result.Related (World.Alike metric) (request.answer runLeft left)
      (request.answer runRight right) := by
  have ⟨⟨hcatalog, hclosures, hstore, hconsole, hlibrary⟩, hregistry⟩ := halike
  cases request with
  | registry operation => exact halike.perform hcaches
  | run task arguments => exact hrun task arguments left right halike
  | runClosure identity arguments =>
      simp only [answer, hclosures]
      split
      · exact hrun _ arguments left right halike
      · exact .ended _ halike
  | makeClosure body =>
      refine .of_eq (by rw [hclosures])
        ⟨⟨hcatalog, ?_, hstore, hconsole, hlibrary⟩, hregistry⟩
      exact congrArg (·.push body) hclosures
  | readVariable name => exact .of_eq (by rw [hstore]) halike
  | writeVariable name value =>
      refine .of_eq rfl
        ⟨⟨hcatalog, hclosures, ?_, hconsole, hlibrary⟩, hregistry⟩
      exact congrArg (·.insert name value) hstore
  | write text =>
      refine .of_eq ?_ ⟨⟨hcatalog, hclosures, hstore, ?_, hlibrary⟩, hregistry⟩
      · exact congrArg (fun console => (console.write text).1) hconsole
      · exact congrArg (fun console => (console.write text).2) hconsole
  | takeOutput =>
      refine .of_eq (by rw [hconsole])
        ⟨⟨hcatalog, hclosures, hstore, ?_, hlibrary⟩, hregistry⟩
      exact congrArg (fun console : Console => { console with text := "" }) hconsole
  | library => exact .of_eq (by rw [hlibrary]) halike
  | publish library =>
      exact .of_eq rfl
        ⟨⟨hcatalog, hclosures, hstore, hconsole, rfl⟩, hregistry⟩

/-- A program and the same with questions in between, in worlds that are
alike. -/
theorem Program.runWith_alike {program program' : Program Code α}
    (hprograms : Interspersed program program')
    (huses : program'.Uses (Request.CachesUnder metric)) :
    ∀ {left right : World Code}, left.Alike metric right →
      Result.Related (World.Alike metric) (program.runWith runLeft left)
        (program'.runWith runRight right) := by
  induction hprograms with
  | done outcome => exact fun halike => .ended outcome halike
  | ask request _ ih =>
      intro left right halike
      cases huses with
      | ask _ hcaches hnext =>
          have hanswers := Request.answer_alike hrun hcaches halike
          rw [runWith, runWith]
          revert hanswers
          generalize request.answer runLeft left = answered
          generalize request.answer runRight right = answered'
          intro hanswers
          cases hanswers with
          | exhausted => exact .exhausted
          | ended answer hworlds => exact ih answer (hnext answer) hworlds
  | question hquestion _ ih =>
      -- Only the longer program moves: the world on the left waits, and stays
      -- alike to the one that the question leaves.
      intro left right halike
      cases huses with
      | ask _ hcaches hnext =>
          exact ih _ (hnext _) (halike.question hcaches hquestion)

end

section

variable {metric : Metric}
  {meaning meaning' : Code → List Value → Program Code Value}
  (hmeaning : ∀ body arguments,
    Program.Interspersed (meaning body arguments) (meaning' body arguments))
  (huses : ∀ body arguments,
    (meaning' body arguments).Uses (Request.CachesUnder metric))
include hmeaning huses

/-- Code that asks further questions, at every depth of nested runs. -/
theorem runTask_alike (depth : ℕ) :
    Runner.Alike metric (runTask meaning depth) (runTask meaning' depth) := by
  induction depth with
  | zero => exact fun _ _ _ _ _ => .exhausted
  | succ depth ih =>
      intro task arguments left right halike
      exact Program.runWith_alike ih
        (Program.Interspersed.taskProgram hmeaning task arguments)
        (Program.uses_taskProgram (Request.allowsDispatch metric) huses task
          arguments) halike

theorem Program.exec_agrees (depth : ℕ) {program program' : Program Code α}
    (hprograms : Interspersed program program')
    (hprogram : program'.Uses (Request.CachesUnder metric))
    {left right : World Code} (hleft : left.ReachedUnder metric)
    (hright : right.ReachedUnder metric) (hagrees : left.Agrees right) :
    Result.Related World.Agrees (program.exec meaning depth left)
      (program'.exec meaning' depth right) := by
  obtain ⟨hreachable, rfl⟩ := hleft
  have halike : left.Alike left.registry.metric right :=
    ⟨hagrees, hreachable.alike hright.1 hagrees.catalog⟩
  have hruns := runWith_alike (runTask_alike hmeaning huses depth) hprograms
    hprogram halike
  exact hruns.mono fun _ _ hworlds => hworlds.toAgrees

end

/-! ## What is cached -/

/-- A cached pair is what resolving gives now: a position among the entries, or
none because no entry accepts the types. -/
def CachedSelection.Current (entry : CachedSelection) (catalog : Catalog Code) :
    Prop :=
  ∃ function, catalog.function? entry.function = some function ∧
    ∀ types : Signature, types.ids = entry.types →
      match entry.selected with
      | none =>
        catalog.hierarchy.resolve catalog.metric function.signatures types =
          .noMatch
      | some index =>
        index < function.entries.length ∧ ∃ distance,
          catalog.hierarchy.resolve catalog.metric function.signatures types =
            .unique ⟨index, distance⟩

theorem Catalog.Justifies.current {catalog : Catalog Code}
    {entry : CachedSelection} (hjustified : catalog.Justifies entry) :
    entry.Current catalog := by
  obtain ⟨function, hfunction, hsettled⟩ := hjustified
  refine ⟨function, hfunction, fun types hids => ?_⟩
  have hresolved := hsettled types hids
  cases hresolve : catalog.hierarchy.resolve catalog.metric function.signatures
      types with
  | noMatch =>
      rw [hresolve] at hresolved
      obtain hnone : none = entry.selected := Option.some.inj hresolved
      rw [← hnone]
  | unique best =>
      rw [hresolve] at hresolved
      obtain hindex : some best.index = entry.selected :=
        Option.some.inj hresolved
      rw [← hindex]
      obtain ⟨declared, hdeclared, -⟩ :=
        Hierarchy.exists_accepts_of_resolveBy_eq_unique hresolve
      have hlt : best.index < function.signatures.length :=
        (List.getElem?_eq_some_iff.mp hdeclared).1
      rw [GenericFunction.signatures, List.length_map] at hlt
      exact ⟨hlt, best.distance, rfl⟩
  | ambiguous tied =>
      rw [hresolve] at hresolved
      cases hresolved

/-! ## Transparency -/

/-- With a cache and without one, every session of a fresh registry answers the
same and ends in worlds that agree, to any depth of nested runs.  What is cached
in any reachable registry is what resolving gives there.  And programs to which
questions are added anywhere, also in the code that runs on their behalf, go on
as before. -/
theorem cache_transparent (metric : Metric)
    {meaning : Code → List Value → Program Code Value}
    (huses : ∀ body arguments,
      (meaning body arguments).Uses (Request.CachesUnder metric)) :
    (∀ (depth : ℕ) (commands : List (Command Code)) (world : World Code),
      (∀ command ∈ commands, command.CachesUnder metric) →
        Result.Related World.Agrees
          ((Program.session commands).exec meaning depth
            { world with registry := .fresh ⟨metric, true⟩ })
          ((Program.session commands).exec meaning depth
            { world with registry := .fresh ⟨metric, false⟩ })) ∧
    (∀ registry : Registry Code, registry.Reachable →
      ∀ entry ∈ registry.cache, entry.Current registry.toCatalog) ∧
    (∀ meaning' : Code → List Value → Program Code Value,
      (∀ body arguments, Program.Interspersed (meaning body arguments)
        (meaning' body arguments)) →
      (∀ body arguments,
        (meaning' body arguments).Uses (Request.CachesUnder metric)) →
      ∀ (depth : ℕ) (α : Type) (program program' : Program Code α),
        program.Interspersed program' →
        program'.Uses (Request.CachesUnder metric) →
        ∀ left right : World Code, left.ReachedUnder metric →
          right.ReachedUnder metric → left.Agrees right →
            Result.Related World.Agrees (program.exec meaning depth left)
              (program'.exec meaning' depth right)) := by
  refine ⟨?_, ?_, ?_⟩
  · intro depth commands world hcommands
    have hfresh : ∀ caching,
        { world with registry := .fresh ⟨metric, caching⟩ }.ReachedUnder metric :=
      fun caching => ⟨.fresh ⟨metric, caching⟩, rfl⟩
    exact Program.exec_agrees (fun _ _ => .refl _) huses depth (.refl _)
      (Program.uses_session hcommands) (hfresh true) (hfresh false)
      ⟨rfl, rfl, rfl, rfl, rfl⟩
  · intro registry hreachable entry hentry
    exact (hreachable.cacheSound entry hentry).current
  · intro meaning' hmeaning huses' depth α program program' hprograms hprogram
      left right hleft hright hagrees
    exact Program.exec_agrees hmeaning huses' depth hprograms hprogram hleft
      hright hagrees

/-- Code that links a predicate while it runs. -/
def linkLate (_ : Unit) (_ : List Value) : Program Unit Value :=
  (Program.derive ⟨5, "isReal"⟩ ⟨6, "isLate"⟩).bind fun _ =>
    .done (.ok Value.null)

/-- A selection that finds no entry, a call that links the type, and the same
selection, which now finds one. -/
def lateSession : List (Command Unit) :=
  [.perform (.createPredicate "isReal"), .perform (.createPredicate "isLate"),
    .perform (.createFunction "link"),
    .perform (.register 5 ⟨[], Predicate.null, .code ()⟩),
    .perform (.createFunction "f"),
    .perform (.register 6 ⟨[⟨5, "isReal"⟩], Predicate.null, .answer true⟩),
    .perform (.resolve 6 [⟨6, "isLate"⟩] false), .call 5 [],
    .perform (.resolve 6 [⟨6, "isLate"⟩] false)]

/-- Nothing but a fresh registry. -/
def freshWorld : World Unit := { registry := .fresh {} }

theorem cache_transparent_lateSession :
    (∀ body arguments,
      (linkLate body arguments).Uses (Request.CachesUnder .directed)) ∧
    (∀ command ∈ lateSession, command.CachesUnder .directed) ∧
    ((Program.session lateSession).exec linkLate 2 freshWorld).isSome = true ∧
    Result.Related World.Agrees
      ((Program.session lateSession).exec linkLate 2
        { freshWorld with registry := .fresh ⟨.directed, true⟩ })
      ((Program.session lateSession).exec linkLate 2
        { freshWorld with registry := .fresh ⟨.directed, false⟩ }) := by
  have huses : ∀ body arguments,
      (linkLate body arguments).Uses (Request.CachesUnder .directed) := by
    intro body arguments
    apply Program.Uses.ask _ trivial
    intro answer
    cases answer <;> exact .done _
  have hcaches : ∀ command ∈ lateSession, command.CachesUnder .directed := by
    simp [lateSession, Command.CachesUnder, Operation.CachesUnder]
  have hends :
      ((Program.session lateSession).exec linkLate 2 freshWorld).isSome = true := by
    decide +kernel
  exact ⟨huses, hcaches, hends,
    (cache_transparent .directed huses).1 2 lateSession freshWorld hcaches⟩

end PredicateDispatch
