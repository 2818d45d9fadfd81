import PredicateDispatch.Proofs.Membership.Promotion
import PredicateDispatch.Proofs.Program.Requests

/-!
# Functions as values

As a value, a function is a reference to itself, unless it is the membership
test of a predicate: then it is the predicate, which does not mention it.  To
apply a predicate is to call the test that the test map has for it, so that the
way back is open only because the map and the roles of functions are inverse to
each other in every registry that is reached by operations on its own
predicates.
-/

namespace PredicateDispatch

variable {Code : Type}

/-- The value that stands for a function with this number. -/
def GenericFunction.asValue (function : GenericFunction Code) (id : ℕ) : Value :=
  match function.predicate? with
  | some type => .predicate type
  | none => .function (.generic id function.name)

namespace Program

variable (runTask : Runner Code) {world : World Code} {id : ℕ}

theorem runWith_functionValue {function : GenericFunction Code}
    (hfunction : world.registry.function? id = some function) :
    (functionValue id).runWith runTask world =
      some (.ok (function.asValue id), world) := by
  rw [functionValue, bind_eq, runWith_bind, runWith_function, hfunction]
  dsimp only
  rw [GenericFunction.asValue]
  cases function.predicate? <;> rfl

/-- To apply a predicate is to call its membership test. -/
theorem runWith_apply_predicate {type : Predicate}
    (htest : world.registry.membershipTest? type = some id)
    (arguments : List Value) :
    (apply (.predicate type) arguments).runWith runTask world =
      (call id arguments).runWith runTask world := by
  rw [apply]
  dsimp only [Value.predicate, Value.tagged]
  rw [bind_eq, runWith_bind, runWith_inspect]
  dsimp only
  rw [htest]

end Program

/-! ## Main statement -/

/-- In every registry that is reached by operations on its own predicates, each
function has a value: the predicate that it is tied to, or a reference to it.
Taking it changes nothing, and to apply it to arguments is to call the function
with them, with the same outcome in the same world. -/
theorem function_values_call {world : World Code} {events : List Event}
    (hpast : world.registry.Past events) {id : ℕ}
    {function : GenericFunction Code}
    (hfunction : world.registry.function? id = some function) :
    ∃ callee : Value,
      (function.predicate? = none →
        callee = ⟨.function (.generic id function.name),
          some Predicate.function⟩) ∧
      (∀ type, function.predicate? = some type →
        callee = ⟨.predicate type, some Predicate.predicate⟩) ∧
      ∀ (meaning : Code → List Value → Program Code Value) depth,
        (Program.functionValue id).exec meaning depth world =
          some (.ok callee, world) ∧
        ∀ arguments,
          (Program.apply callee arguments).exec meaning depth world =
            (Program.call id arguments).exec meaning depth world ∧
          ((Program.functionValue id).bind fun callee =>
              Program.apply callee arguments).exec meaning depth world =
            (Program.call id arguments).exec meaning depth world := by
  refine ⟨function.asValue id, fun hnone => ?_, fun type htype => ?_,
    fun meaning depth => ?_⟩
  · rw [GenericFunction.asValue, hnone]
    rfl
  · rw [GenericFunction.asValue, htype]
    rfl
  have hvalue := Program.runWith_functionValue (runTask meaning depth) hfunction
  have happly : ∀ arguments,
      (Program.apply (function.asValue id) arguments).exec meaning depth world =
        (Program.call id arguments).exec meaning depth world := by
    intro arguments
    rw [GenericFunction.asValue]
    cases htype : function.predicate? with
    | none => rfl
    | some type =>
        exact Program.runWith_apply_predicate _
          (hpast.wellKept.membershipTest?_of_predicate? hfunction htype rfl)
          arguments
  refine ⟨hvalue, fun arguments => ⟨happly arguments, ?_⟩⟩
  rw [Program.exec, Program.runWith_bind, hvalue]
  exact happly arguments

theorem function_values_call_repromotion :
    repromotion.Holds ∧
    ∃ function, repromotion.registry.function? 5 = some function ∧
      function.predicate? = some ⟨7, "isTruthy"⟩ ∧
      ∀ meaning depth arguments,
        (Program.apply ⟨.predicate ⟨7, "isTruthy"⟩, some Predicate.predicate⟩
            arguments).exec meaning depth
            { registry := repromotion.registry } =
          (Program.call 5 arguments).exec meaning depth
            { registry := repromotion.registry } := by
  have hholds : repromotion.Holds :=
    (History.holds_start {}).run (by decide +kernel)
  have htype : (repromotion.registry.function? 5).bind
      GenericFunction.predicate? = some ⟨7, "isTruthy"⟩ := by decide +kernel
  obtain ⟨function, hfunction, htied⟩ := Option.bind_eq_some_iff.mp htype
  refine ⟨hholds, function, hfunction, htied, fun meaning depth arguments => ?_⟩
  obtain ⟨callee, -, hcallee, happly⟩ :=
    @function_values_call Unit { registry := repromotion.registry } _ hholds 5
      function hfunction
  obtain rfl := hcallee _ htied
  exact ((happly meaning depth).2 arguments).1

end PredicateDispatch
