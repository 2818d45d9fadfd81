import PredicateDispatch.Proofs.Library.Reflection
import PredicateDispatch.Proofs.Library.Rendering
import PredicateDispatch.Proofs.Library.TypeTests
import PredicateDispatch.Proofs.Number.Integral

/-!
# Integers and characters by membership and by reading

Whether a real is an integer is decided by the test of `isInt` and where an integer
argument is read, and whether an integer is a character by the test of `isChar` and
where `str` reads it.  For characters both decide alike.  For integers the test goes
through the nearest double: it refuses those whose double is infinite, although they
can be read.
-/

namespace PredicateDispatch

variable {Code : Type}

/-! ## Tests that decide -/

/-- A value that is not of the type is cast as the test of the type decides. -/
theorem Catalog.Computes.coerce_of_call {catalog : Catalog Code}
    {meaning : Code → List Value → Program Code Value} {type : Predicate} {test : ℕ}
    {value : Value} {outcome : Except Error Value}
    (hother : catalog.isA type value.type = false)
    (htest : catalog.membershipTest? type = some test)
    (hcall : catalog.Computes meaning (Program.call test [value]) outcome)
    (failure : Error) :
    catalog.Computes meaning (Program.coerce type value failure)
      ((Casting.decided type value (Program.coercibility outcome)).outcome failure) := by
  obtain ⟨bound, hbound⟩ := hcall
  refine ⟨bound, fun depth hdepth world hreachable hcatalog => ?_⟩
  obtain ⟨after, hrun, hafter⟩ := hbound depth hdepth world hreachable hcatalog
  subst hcatalog
  refine ⟨after, ?_, hafter⟩
  rw [World.exec_coerce_eq_casting, World.casting_of_exec_call hother htest hrun]
  rfl

namespace Library

variable {Custom : Type} {custom : Custom → List Value → Program (Body Custom) Value}
  {catalog : Catalog (Body Custom)} {types : BaseTypes} {value : Value}

/-- The entry for the values of the upper type answers with what its code computes. -/
theorem answers_test {lower upper : BaseType} (hlower : lower ≠ .any)
    (hupper : upper ≠ .any) (hne : upper ≠ lower) (horderly : catalog.Orderly)
    (hplaced : types.Placed catalog.hierarchy) {test : ℕ} {primitive : Primitive}
    (htested : catalog.Tested (types.handle lower) test
      (testEntries types lower upper primitive))
    (htype : value.type = types.handle upper) {truth : Bool}
    (hrun : (primitive.run [value] : Program (Body Custom) Value) =
      .done (.ok (.boolean truth))) :
    Answers custom catalog test [value] (.ok (.boolean truth)) := by
  rw [testEntries_eq hplaced hlower hupper hne] at htested
  have hpicks : catalog.Picks test ([value].map Value.type)
      (types.entry (⟨[upper], .boolean⟩, primitive)) := by
    obtain ⟨function, hfunction, hentries, -, -⟩ := htested
    rw [List.map_singleton, htype]
    refine horderly.picks_self hfunction ?_ rfl
    rw [hentries]
    exact List.mem_cons_of_mem _ (List.mem_cons_of_mem _ List.mem_cons_self)
  exact answers_value hpicks hrun (Hierarchy.isA_self _ Predicate.boolean)

/-- What the test of a type answers about a value that belongs to it on this condition,
and how a script casts the value to it. -/
structure Judges (custom : Custom → List Value → Program (Body Custom) Value)
    (catalog : Catalog (Body Custom)) (as : ℕ) (type : Predicate) (test : ℕ)
    (value : Value) (member : Prop) : Prop where
  tested : ∃ truth, Answers custom catalog test [value] (.ok (.boolean truth)) ∧
    (truth = true ↔ member)
  cast : member →
    Answers custom catalog as [.predicate type, value] (.ok (value.retag type))
  refused : ¬ member →
    Answers custom catalog as [.predicate type, value] (.error (.cast value.type type))

/-- A script casts as the test of the type decides. -/
theorem judges_of_answers {as : ℕ}
    (hcast : catalog.Provides types as [(castRow, .cast)]) {type : Predicate}
    (htype : catalog.isA Predicate.any type = true)
    (hvalue : catalog.isA Predicate.any value.type = true)
    (hother : catalog.isA type value.type = false) {test : ℕ}
    (htest : catalog.membershipTest? type = some test) {truth : Bool} {member : Prop}
    (hanswers : Answers custom catalog test [value] (.ok (.boolean truth)))
    (hmember : truth = true ↔ member) :
    Judges custom catalog as type test value member := by
  have hcoerced := hanswers.coerce_of_call hother htest (.cast value.type type)
  have hpicks : catalog.Picks as ([Value.predicate type, value].map Value.type)
      (types.entry (castRow, .cast)) := picks_castRow hcast hvalue
  refine ⟨⟨truth, hanswers, hmember⟩, fun hyes => ?_, fun hno => ?_⟩
  · obtain rfl : truth = true := hmember.mpr hyes
    refine Catalog.Computes.call hpicks rfl hcoerced fun answer hanswer => ?_
    obtain rfl := Except.ok.inj hanswer
    exact htype
  · obtain rfl : truth = false := Bool.eq_false_iff.mpr (mt hmember.mp hno)
    exact Catalog.Computes.call hpicks rfl hcoerced fun answer hanswer => by cases hanswer

/-! ## Membership and reading -/

/-- An integer can be read from the value, and has a finite double. -/
def ReadsFinite (value : Value) : Prop :=
  ∃ n, Arguments.int [value] 0 = .ok n ∧ n.natAbs < Binary64.leastInfinite

/-- A character can be read from the value. -/
def ReadsCharacter (value : Value) : Prop :=
  ∃ c, Arguments.character [value] 0 = .ok c

theorem int_singleton_eq_ok_iff {n : ℤ} :
    Arguments.int [value] 0 = .ok n ↔ value.payload.int? = some n := by
  rw [Arguments.int, Arguments.read_eq_ok_iff]
  simp

theorem character_singleton_eq_ok_iff {c : Char} :
    Arguments.character [value] 0 = .ok c ↔ value.payload.char? = some c := by
  rw [Arguments.character, Arguments.read_eq_ok_iff]
  simp

/-- What the double of a payload shows is whether its integer has a finite one. -/
theorem isIntegral_real?_iff (value : Value) :
    (value.payload.real?.map Binary64.isIntegral).getD false = true ↔
      ReadsFinite value := by
  rw [ReadsFinite]
  simp only [int_singleton_eq_ok_iff]
  cases value.payload with
  | int n =>
      refine (Binary64.isIntegral_ofInt_iff n).trans ⟨fun hlt => ⟨n, rfl, hlt⟩, ?_⟩
      rintro ⟨_, hread, hlt⟩
      obtain rfl := Option.some.inj hread
      exact hlt
  | real x =>
      change Binary64.isIntegral x = true ↔ ∃ n, Binary64.toInt? x = some n ∧ _
      rw [Binary64.isIntegral, Option.isSome_iff_exists]
      exact exists_congr fun n =>
        ⟨fun hint => ⟨hint, Binary64.natAbs_lt_of_toInt?_eq_some hint⟩, And.left⟩
  | _ => simp [Payload.real?, Payload.int?]

theorem isSome_char?_iff (value : Value) :
    value.payload.char?.isSome = true ↔ ReadsCharacter value := by
  rw [Option.isSome_iff_exists]
  exact exists_congr fun c => character_singleton_eq_ok_iff.symm

/-- Wherever the base library has been installed and nothing was registered on the tests
of `isInt` and `isChar` and on `as` and `str`: of the values that are tagged as reals,
`isInt` has those from which an integer with a finite double can be read; and of the
values that are tagged as integers, `isChar` has those from which a character can be
read, which is then how `str` shows them. -/
theorem membership_agrees_with_reading {library : Library}
    {registry : Registry (Body Custom)} {intTest charTest : ℕ}
    (hinstalled : library.InstalledIn
      [intTest, charTest, library.reflection.cast, library.text] registry)
    (hint : registry.membershipTest? library.types.int = some intTest)
    (hcharacter : registry.membershipTest? library.types.character = some charTest)
    (custom : Custom → List Value → Program (Body Custom) Value) (value : Value) :
    (value.type = library.types.real →
      Judges custom registry.toCatalog library.reflection.cast library.types.int intTest
        value (ReadsFinite value)) ∧
    (value.type = library.types.int →
      Judges custom registry.toCatalog library.reflection.cast library.types.character
        charTest value (ReadsCharacter value) ∧
      ∀ c, Arguments.character [value] 0 = .ok c →
        Answers custom registry.toCatalog library.text
          [value.retag library.types.character]
          (.ok (library.types.textValue (toString c)))) := by
  have horderly := hinstalled.reachable.orderly
  have hplaced := hinstalled.placed
  have hcast : registry.Provides library.types library.reflection.cast
      [(castRow, .cast)] :=
    hinstalled.provides (by simp) (by simp [fittings, reflectionFittings, castRow])
  have hstr : registry.Provides library.types library.text
      (strFittings library.types library.text) :=
    hinstalled.provides (by simp) library.text_mem_fittings
  have htested_int := hinstalled.tested int_mem_judgments hint (by simp)
  have htested_character :=
    hinstalled.tested character_mem_judgments hcharacter (by simp)
  refine ⟨fun htype => ?real, fun htype => ⟨?int, fun c hread => ?text⟩⟩
  case real =>
    have hanswers : Answers custom registry.toCatalog intTest [value] _ :=
      answers_test (by decide) (by decide) (by decide) horderly hplaced htested_int htype
        rfl
    refine judges_of_answers hcast (hinstalled.isA_handle .any .int) ?_ ?_ hint hanswers
      (isIntegral_real?_iff value)
    · rw [htype]
      exact hinstalled.isA_handle .any .real
    · rw [htype]
      exact hinstalled.isA_handle .int .real
  case int =>
    have hanswers : Answers custom registry.toCatalog charTest [value] _ :=
      answers_test (by decide) (by decide) (by decide) horderly hplaced htested_character
        htype rfl
    refine judges_of_answers hcast (hinstalled.isA_handle .any .character) ?_ ?_
      hcharacter hanswers (isSome_char?_iff value)
    · rw [htype]
      exact hinstalled.isA_handle .any .int
    · rw [htype]
      exact hinstalled.isA_handle .character .int
  case text =>
    have hpicks : registry.Picks library.text
        ([value.retag library.types.character].map Value.type)
        (library.types.entry (⟨[.character], .string⟩, .characterText library.types)) :=
      picks_str hstr .character
    refine answers_value hpicks ?_ (Hierarchy.isA_self _ library.types.string)
    change Program.done ((Arguments.character [value] 0).bind fun c =>
      .ok (library.types.textValue (toString c))) = _
    rw [hread]
    rfl

/-- The real two is an integer; an integer of 1025 bits that is tagged as a real is none,
although it can be read; and 65 is a character. -/
theorem membership_agrees_with_reading_huge :
    ∃ (library : Library) (registry : Registry (Body Empty)) (intTest : ℕ),
      registry.membershipTest? library.types.int = some intTest ∧
      Answers nofun registry.toCatalog library.reflection.cast
        [.predicate library.types.int,
          .tagged (.real (Float.ofBits 0x4000000000000000)) library.types.real]
        (.ok (.tagged (.real (Float.ofBits 0x4000000000000000)) library.types.int)) ∧
      Answers nofun registry.toCatalog intTest
        [.tagged (.int (2 ^ 1024)) library.types.real] (.ok (.boolean false)) ∧
      Arguments.int [.tagged (.int (2 ^ 1024)) library.types.real] 0 = .ok (2 ^ 1024) ∧
      Answers nofun registry.toCatalog library.text
        [.tagged (.int 65) library.types.character]
        (.ok (library.types.textValue "A")) := by
  obtain ⟨library, registry, -, -, hinstalled⟩ := exists_installedIn_of_past Empty {}
  obtain ⟨intTest, hint, -⟩ := (hinstalled []).exists_tested int_mem_judgments
  obtain ⟨charTest, hcharacter, -⟩ :=
    (hinstalled []).exists_tested character_mem_judgments
  have hagrees := membership_agrees_with_reading
    (hinstalled [intTest, charTest, library.reflection.cast, library.text]) hint
    hcharacter nofun
  refine ⟨library, registry, intTest, hint, ?_, ?_, rfl, ?_⟩
  · refine ((hagrees _).1 rfl).cast ⟨2, ?_, by decide +kernel⟩
    rw [int_singleton_eq_ok_iff]
    change Payload.int? (.real (Float.ofBits 0x4000000000000000)) = some 2
    decide +kernel
  · obtain ⟨truth, hanswers, htruth⟩ :=
      ((hagrees (.tagged (.int (2 ^ 1024)) library.types.real)).1 rfl).tested
    have hno : truth = false := by
      rw [← Bool.not_eq_true, htruth]
      rintro ⟨n, hread, hlt⟩
      obtain rfl := Except.ok.inj hread
      exact absurd hlt (by decide +kernel)
    rw [← hno]
    exact hanswers
  · exact ((hagrees (.tagged (.int 65) library.types.int)).2 rfl).2 'A'
      (character_singleton_eq_ok_iff.mpr (Payload.char?_toNat 'A'))

end Library

end PredicateDispatch
