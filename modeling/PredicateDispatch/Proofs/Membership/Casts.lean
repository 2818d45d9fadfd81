import PredicateDispatch.Proofs.Membership.CastAnswers
import PredicateDispatch.Proofs.Membership.Coercion

/-!
# The two casts

A checked cast, and holding an answer to its declared type, are one coercion: it
gives the value as it is, or tagged with the type, it is refused, or the
membership test fails.  The two differ in the failure by which they report a
refusal and in nothing else.  What a cast has given is of the type in the
registry that it leaves, so that a second cast gives the same and changes
nothing.
-/

namespace PredicateDispatch

variable {Code : Type}

theorem Payload.boolean?_eq_some_iff {payload : Payload} {truth : Bool} :
    payload.boolean? = some truth ↔ payload = .boolean truth := by
  cases payload <;> simp [boolean?]

/-- Only the answer yes counts as one. -/
theorem Program.coercibility_eq_ok_true_iff {outcome : Except Error Value} :
    coercibility outcome = .ok true ↔
      ∃ verdict, outcome = .ok verdict ∧ verdict.payload = .boolean true := by
  rcases outcome with error | verdict
  · refine ⟨fun hyes => ?_, by rintro ⟨_, ⟨⟩, _⟩⟩
    cases error <;> cases hyes
  · simp [coercibility, Payload.boolean?_eq_some_iff]

/-- How a coercion ends. -/
inductive Casting where
  | given (answer : Value)
  | refused
  /-- The membership test failed. -/
  | failed (error : Error)

namespace Casting

/-- The outcome, if a refusal is reported by this failure. -/
def outcome (refusal : Error) : Casting → Except Error Value
  | given answer => .ok answer
  | refused => .error refusal
  | failed error => .error error

/-- What coercibility decides for a value of another type. -/
def decided (type : Predicate) (value : Value) : Except Error Bool → Casting
  | .ok true => given (value.retag type)
  | .ok false => refused
  | .error error => failed error

theorem outcome_decided (type : Predicate) (value : Value) (refusal : Error)
    (coercible : Except Error Bool) :
    (decided type value coercible).outcome refusal =
      Program.coerced type value refusal coercible := by
  rcases coercible with error | coercible
  · rfl
  · cases coercible <;> rfl

theorem decided_eq_given_iff {type : Predicate} {value answer : Value}
    {coercible : Except Error Bool} :
    decided type value coercible = given answer ↔
      coercible = .ok true ∧ answer = value.retag type := by
  rcases coercible with error | coercible
  · simp [decided]
  · cases coercible <;> simp [decided, eq_comm]

theorem decided_eq_failed_iff {type : Predicate} {value : Value}
    {coercible : Except Error Bool} {error : Error} :
    decided type value coercible = failed error ↔
      coercible = .error error := by
  rcases coercible with failure | coercible
  · simp [decided]
  · cases coercible <;> simp [decided]

end Casting

namespace World

section Runs

variable (meaning : Code → List Value → Program Code Value) (depth : ℕ)
  (world : World Code) (type : Predicate) (value : Value)

/-- How the coercion of a value to a type ends, and the world that it leaves. -/
def casting : Option (Casting × World Code) :=
  if world.registry.isA type value.type then some (.given value, world)
  else ((Program.isCoercible type value).exec meaning depth world).map fun ran =>
    (.decided type value ran.1, ran.2)

theorem exec_coerce_eq_casting (refusal : Error) :
    (Program.coerce type value refusal).exec meaning depth world =
      (world.casting meaning depth type value).map fun ended =>
        (ended.1.outcome refusal, ended.2) := by
  rw [Program.exec, Program.runWith_coerce, casting]
  split
  · rfl
  · simp only [Option.map_map, Program.exec, Function.comp_def,
      Casting.outcome_decided]

variable {meaning depth world type value}

theorem casting_of_isA
    (hbelow : world.registry.isA type value.type = true) :
    world.casting meaning depth type value = some (.given value, world) := by
  rw [casting, if_pos hbelow]

end Runs

section Other

variable {meaning : Code → List Value → Program Code Value} {depth : ℕ}
  {world : World Code} {type : Predicate} {value : Value}
  (hother : world.registry.isA type value.type = false)
include hother

theorem casting_of_no_test
    (htest : world.registry.membershipTest? type = none) :
    world.casting meaning depth type value = some (.refused, world) := by
  rw [casting, if_neg (Bool.eq_false_iff.mp hother), Program.exec,
    Program.runWith_isCoercible_of_no_test _ htest]
  rfl

/-- A value of another type is judged by the outcome of the membership test. -/
theorem casting_of_exec_call {test : ℕ}
    (htest : world.registry.membershipTest? type = some test)
    {outcome : Except Error Value} {final : World Code}
    (hcall : (Program.call test [value]).exec meaning depth world =
      some (outcome, final)) :
    world.casting meaning depth type value =
      some (.decided type value (Program.coercibility outcome), final) := by
  rw [casting, if_neg (Bool.eq_false_iff.mp hother),
    Program.exec_isCoercible meaning depth htest hcall, Option.map_some]

/-- Whatever is not refused was put to the membership test. -/
theorem exists_exec_call_of_casting {casting : Casting} {final : World Code}
    (hcasting : world.casting meaning depth type value = some (casting, final))
    (hdecided : casting ≠ .refused) :
    ∃ test outcome, world.registry.membershipTest? type = some test ∧
      (Program.call test [value]).exec meaning depth world =
        some (outcome, final) ∧
      casting = .decided type value (Program.coercibility outcome) := by
  rw [World.casting, if_neg (Bool.eq_false_iff.mp hother)] at hcasting
  obtain ⟨⟨coercible, after⟩, hasked, hended⟩ :=
    Option.map_eq_some_iff.mp hcasting
  obtain ⟨rfl, rfl⟩ := Prod.mk.inj hended
  cases htest : world.registry.membershipTest? type with
  | none =>
      rw [Program.exec, Program.runWith_isCoercible_of_no_test _ htest] at hasked
      obtain ⟨rfl, -⟩ := Prod.mk.inj (Option.some.inj hasked)
      exact absurd rfl hdecided
  | some test =>
      rw [Program.exec, Program.runWith_isCoercible _ htest] at hasked
      obtain ⟨⟨outcome, after⟩, hcall, hran⟩ := Option.map_eq_some_iff.mp hasked
      obtain ⟨rfl, rfl⟩ := Prod.mk.inj hran
      exact ⟨test, outcome, rfl, hcall, rfl⟩

end Other

/-- Only the membership test makes a coercion fail. -/
theorem exists_failure_of_casting_failed
    {meaning : Code → List Value → Program Code Value} {depth : ℕ}
    {world final : World Code} {type : Predicate} {value : Value} {error : Error}
    (hfailed : world.casting meaning depth type value =
      some (.failed error, final)) :
    ∃ test, world.registry.membershipTest? type = some test ∧
      (Program.call test [value]).exec meaning depth world =
        some (.error error, final) := by
  cases hbelow : world.registry.isA type value.type with
  | true =>
      rw [casting_of_isA hbelow] at hfailed
      cases hfailed
  | false =>
      obtain ⟨test, outcome, htest, hcall, hdecided⟩ :=
        exists_exec_call_of_casting hbelow hfailed (by rintro ⟨⟩)
      obtain ⟨rfl, -⟩ := Program.coercibility_eq_error_iff.mp
        (Casting.decided_eq_failed_iff.mp hdecided.symm)
      exact ⟨test, htest, hcall⟩

section Given

variable {meaning : Code → List Value → Program Code Value} {depth : ℕ}
  {world final : World Code} {type : Predicate} {value answer : Value}
  (hgiven : world.casting meaning depth type value =
    some (.given answer, final))
include hgiven

/-- A value of the type is given as it is. -/
theorem eq_of_casting_given
    (hbelow : world.registry.isA type value.type = true) :
    answer = value ∧ final = world := by
  rw [casting_of_isA hbelow] at hgiven
  obtain ⟨hanswer, rfl⟩ := Prod.mk.inj (Option.some.inj hgiven)
  exact ⟨(Casting.given.inj hanswer).symm, rfl⟩

/-- A value of another type is tagged, on the word of the membership test. -/
theorem exists_verdict_of_casting_given
    (hother : world.registry.isA type value.type = false) :
    answer = value.retag type ∧ ∃ test verdict,
      world.registry.membershipTest? type = some test ∧
      (Program.call test [value]).exec meaning depth world =
        some (.ok verdict, final) ∧
      verdict.payload = .boolean true := by
  obtain ⟨test, outcome, htest, hcall, hdecided⟩ :=
    exists_exec_call_of_casting hother hgiven (by rintro ⟨⟩)
  obtain ⟨hyes, rfl⟩ := Casting.decided_eq_given_iff.mp hdecided.symm
  obtain ⟨verdict, rfl, hverdict⟩ := Program.coercibility_eq_ok_true_iff.mp hyes
  exact ⟨rfl, test, verdict, htest, hcall, hverdict⟩

theorem payload_of_casting_given : answer.payload = value.payload := by
  cases hbelow : world.registry.isA type value.type with
  | true => rw [(eq_of_casting_given hgiven hbelow).1]
  | false =>
      rw [(exists_verdict_of_casting_given hgiven hbelow).1]
      rfl

/-- What has been given is of the type in the registry that is left. -/
theorem isA_of_casting_given :
    final.registry.isA type answer.type = true := by
  cases hbelow : world.registry.isA type value.type with
  | true =>
      obtain ⟨rfl, rfl⟩ := eq_of_casting_given hgiven hbelow
      exact hbelow
  | false =>
      rw [(exists_verdict_of_casting_given hgiven hbelow).1]
      exact Hierarchy.isA_self _ type

end Given

end World

/-! ## Main statement -/

/-- Both casts are one coercion and report it alike, but for the failure by
which a refusal is reported.  A value that is given has the payload of the one
that is cast and is of the type in the registry that is left.  It is the value
itself if that was of the type, and is otherwise tagged with the type, after the
membership test has answered yes; to cast it again gives it back and changes
nothing.  A value of another type is refused where there is no test, or none
that has an entry or a default for it, and where the test answers otherwise than
yes.  Any failure of the test but for want of an implementation is the failure
of both casts. -/
theorem casts_agree (meaning : Code → List Value → Program Code Value)
    (depth : ℕ) (world : World Code) (type : Predicate) (value : Value) :
    ∃ ran : Option (Casting × World Code),
      (Program.cast type value).exec meaning depth world =
        ran.map (fun ended =>
          (ended.1.outcome (.cast value.type type), ended.2)) ∧
      (∀ caller,
        (Program.castOrFail caller type value).exec meaning depth world =
          ran.map fun ended =>
            (ended.1.outcome (.returnType caller type value.type), ended.2)) ∧
      (∀ answer final, ran = some (.given answer, final) →
        answer.payload = value.payload ∧
        final.registry.isA type answer.type = true ∧
        (world.registry.isA type value.type = true →
          answer = value ∧ final = world) ∧
        (world.registry.isA type value.type = false →
          answer.tag = some type ∧
          ∃ test verdict, world.registry.membershipTest? type = some test ∧
            (Program.call test [value]).exec meaning depth world =
              some (.ok verdict, final) ∧
            verdict.payload = .boolean true) ∧
        ∀ meaning depth, (Program.cast type answer).exec meaning depth final =
          some (.ok answer, final)) ∧
      (∀ error final, ran = some (.failed error, final) →
        ∃ test, world.registry.membershipTest? type = some test ∧
          (Program.call test [value]).exec meaning depth world =
            some (.error error, final)) ∧
      (world.registry.isA type value.type = true →
        ran = some (.given value, world)) ∧
      (world.registry.isA type value.type = false →
        (world.registry.membershipTest? type = none →
          ran = some (.refused, world)) ∧
        ∀ test, world.registry.membershipTest? type = some test →
          (∀ function, world.registry.function? test = some function →
            (world.registry.resolve test [value.type] false).1 = .ok none →
            function.fallback = none →
              ran = some (.refused,
                (world.perform (.resolve test [value.type] false)).2)) ∧
          (∀ verdict final,
            (Program.call test [value]).exec meaning depth world =
              some (.ok verdict, final) →
            (verdict.payload = .boolean true →
              ran = some (.given (value.retag type), final)) ∧
            (verdict.payload ≠ .boolean true →
              ran = some (.refused, final))) ∧
          ∀ error final, ¬ error.IsNoImplementation →
            (Program.call test [value]).exec meaning depth world =
              some (.error error, final) →
            ran = some (.failed error, final)) := by
  refine ⟨world.casting meaning depth type value,
    world.exec_coerce_eq_casting meaning depth type value _,
    fun caller => world.exec_coerce_eq_casting meaning depth type value _,
    ?given, ?failed, ?below, ?other⟩
  case given =>
    intro answer final hgiven
    have hbelow := World.isA_of_casting_given hgiven
    refine ⟨World.payload_of_casting_given hgiven, hbelow,
      World.eq_of_casting_given hgiven, fun hother => ?_,
      fun meaning depth => Program.runWith_coerce_of_isA _ hbelow _⟩
    obtain ⟨rfl, hverdict⟩ := World.exists_verdict_of_casting_given hgiven hother
    exact ⟨rfl, hverdict⟩
  case failed => exact fun error final => World.exists_failure_of_casting_failed
  case below => exact World.casting_of_isA
  case other =>
    intro hother
    refine ⟨World.casting_of_no_test hother, fun test htest =>
      ⟨fun function hfunction hresolve hfallback => ?_, fun verdict final hcall =>
        ⟨fun hyes => ?_, fun hno => ?_⟩, fun error final herror hcall => ?_⟩⟩
    · rw [World.casting_of_exec_call hother htest (Program.exec_call_of_none
        meaning depth hfunction value hresolve hfallback)]
      rfl
    · rw [World.casting_of_exec_call hother htest hcall,
        Program.coercibility_eq_ok_true_iff.mpr ⟨verdict, rfl, hyes⟩]
      rfl
    · rw [World.casting_of_exec_call hother htest hcall]
      have hfalse : Program.coercibility (.ok verdict) = .ok false := by
        simp [Program.coercibility, Payload.boolean?_eq_some_iff, hno]
      rw [hfalse]
      rfl
    · rw [World.casting_of_exec_call hother htest hcall,
        Program.coercibility_of_not_isNoImplementation herror]
      rfl

theorem casts_agree_truthTest :
    truthHistory.registry.isA ⟨5, "isTruthy"⟩ Predicate.boolean = false ∧
    (Program.cast ⟨5, "isTruthy"⟩ (.boolean true)).exec answerFirst 2
        { registry := truthHistory.registry } =
      some (.ok (.tagged (.boolean true) ⟨5, "isTruthy"⟩),
        { registry := castHistory.registry }) ∧
    (Program.castOrFail "f" ⟨5, "isTruthy"⟩ (.boolean true)).exec answerFirst 2
        { registry := truthHistory.registry } =
      some (.ok (.tagged (.boolean true) ⟨5, "isTruthy"⟩),
        { registry := castHistory.registry }) ∧
    (Program.cast ⟨5, "isTruthy"⟩
        (.tagged (.boolean true) ⟨5, "isTruthy"⟩)).exec answerFirst 0
        { registry := castHistory.registry } =
      some (.ok (.tagged (.boolean true) ⟨5, "isTruthy"⟩),
        { registry := castHistory.registry }) := by
  have hapart : truthHistory.registry.isA ⟨5, "isTruthy"⟩ Predicate.boolean =
      false := by decide +kernel
  have htest : truthHistory.registry.membershipTest? ⟨5, "isTruthy"⟩ =
      some 5 := by decide +kernel
  have hcall : (Program.call 5 [.boolean true]).exec answerFirst 2
        { registry := truthHistory.registry } =
      some (.ok (.boolean true), { registry := castHistory.registry }) := by rfl
  obtain ⟨ran, hcast, hchecked, hgiven, -, -, hother⟩ :=
    casts_agree answerFirst 2 { registry := truthHistory.registry }
      ⟨5, "isTruthy"⟩ (.boolean true)
  have hran := (((hother hapart).2 5 htest).2.1 _ _ hcall).1 rfl
  obtain ⟨-, -, -, -, hagain⟩ := hgiven _ _ hran
  rw [hran] at hcast hchecked
  exact ⟨hapart, hcast, hchecked "f", hagain answerFirst 0⟩

/-- A test that has no entry for a value fails if it is called, but the casts
take this for a no. -/
theorem casts_take_missing_entry_for_no :
    truthHistory.registry.Reachable ∧
    truthHistory.registry.membershipTest? ⟨5, "isTruthy"⟩ = some 5 ∧
    truthHistory.registry.isA ⟨5, "isTruthy"⟩ Predicate.null = false ∧
    ∃ final : World Unit,
      (Program.call 5 [.null]).exec answerFirst 1
          { registry := truthHistory.registry } =
        some (.error (.noImplementation "isTruthy" [Predicate.null]
          [[Predicate.boolean]]), final) ∧
      (Program.cast ⟨5, "isTruthy"⟩ .null).exec answerFirst 1
          { registry := truthHistory.registry } =
        some (.error (.cast Predicate.null ⟨5, "isTruthy"⟩), final) ∧
      (Program.castOrFail "f" ⟨5, "isTruthy"⟩ .null).exec answerFirst 1
          { registry := truthHistory.registry } =
        some (.error (.returnType "f" ⟨5, "isTruthy"⟩ Predicate.null), final) :=
  ⟨((Registry.Reachable.fresh {}).perform (.createFunction "isTruthy")
      trivial).perform (.register 5 _) trivial,
    by decide +kernel, by decide +kernel, _, by rfl, by rfl, by rfl⟩

end PredicateDispatch
