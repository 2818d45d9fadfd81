import PredicateDispatch.Proofs.Registry.Frame
import PredicateDispatch.Proofs.Registry.Persistence

/-!
# Functions that keep their entries

No operation changes the entries that a function has but a registration on that
function, whatever handles the operations mention; a membership test may get
answers for further predicates behind them.  So a function that is nobody's test
has exactly the entries that were registered on it, and a registration makes it a
test only if all its entries are one-argument truth tests.
-/

namespace PredicateDispatch

variable {Code : Type}

/-! ## Further answers of tests -/

/-- The entries are those of an earlier function, with answers for further
predicates behind them. -/
def GenericFunction.Prolongs (function earlier : GenericFunction Code) : Prop :=
  ∃ children : List Predicate, function.entries =
    earlier.entries ++ children.map (Catalog.fixedAnswer · true)

namespace GenericFunction.Prolongs

theorem of_entries_eq {function earlier : GenericFunction Code}
    (hentries : function.entries = earlier.entries) : function.Prolongs earlier :=
  ⟨[], by rw [hentries, List.map_nil, List.append_nil]⟩

theorem trans {first second third : GenericFunction Code}
    (hlater : third.Prolongs second) (hearlier : second.Prolongs first) :
    third.Prolongs first := by
  obtain ⟨more, hmore⟩ := hlater
  obtain ⟨children, hchildren⟩ := hearlier
  exact ⟨children ++ more, by
    rw [hmore, hchildren, List.map_append, List.append_assoc]⟩

/-- Answers for predicates take one argument. -/
theorem forall_length_eq_one {function earlier : GenericFunction Code}
    (hprolongs : function.Prolongs earlier)
    (hunary : ∀ entry ∈ earlier.entries, entry.arguments.length = 1) :
    ∀ entry ∈ function.entries, entry.arguments.length = 1 := by
  obtain ⟨children, hentries⟩ := hprolongs
  intro entry hentry
  rw [hentries] at hentry
  rcases List.mem_append.mp hentry with hold | hchild
  · exact hunary entry hold
  · obtain ⟨child, -, rfl⟩ := List.mem_map.mp hchild
    rfl

end GenericFunction.Prolongs

namespace Catalog

variable {catalog after : Catalog Code} {id : ℕ} {function : GenericFunction Code}

/-- A change that leaves the entries alone, of whichever function. -/
theorem exists_prolongs_modifyFunction
    {change : GenericFunction Code → GenericFunction Code}
    (hchange : ∀ function, (change function).entries = function.entries)
    (other : ℕ) (hfunction : catalog.function? id = some function) :
    ∃ found, (catalog.modifyFunction other change).function? id = some found ∧
      found.Prolongs function := by
  by_cases hid : id = other
  · subst hid
    refine ⟨change function, ?_, .of_entries_eq (hchange function)⟩
    rw [Registry.function?_modifyFunction_self, hfunction]
    rfl
  · refine ⟨function, ?_, .of_entries_eq rfl⟩
    rw [Registry.function?_modifyFunction_of_ne _ hid]
    exact hfunction

theorem exists_prolongs_changeRole (other : ℕ) (role : Role)
    (hfunction : catalog.function? id = some function) :
    ∃ found, (catalog.modifyFunction other
        ({ · with role := role })).function? id = some found ∧
      found.Prolongs function := by
  have hchange : ∀ function : GenericFunction Code,
      { function with role := role }.entries = function.entries := fun _ => rfl
  exact exists_prolongs_modifyFunction hchange other hfunction

theorem Derived.exists_prolongs {parent child : Predicate}
    (hderived : catalog.Derived parent child after)
    (hfunction : catalog.function? id = some function) :
    ∃ found, after.function? id = some found ∧ found.Prolongs function := by
  rcases hderived.function?_append hfunction with hsame | ⟨-, hextended⟩
  · exact ⟨function, hsame, .of_entries_eq rfl⟩
  · exact ⟨_, hextended, [child], rfl⟩

theorem Reviewed.exists_prolongs {other : ℕ}
    (hreviewed : catalog.Reviewed other after)
    (hfunction : catalog.function? id = some function) :
    ∃ found, after.function? id = some found ∧ found.Prolongs function := by
  cases hreviewed with
  | kept _ _ _ => exact ⟨function, hfunction, .of_entries_eq rfl⟩
  | promoted _ _ _ hderived =>
      obtain ⟨middle, hmiddle, hprolongs⟩ := hderived.exists_prolongs hfunction
      obtain ⟨found, hfound, hlater⟩ :=
        exists_prolongs_changeRole other _ hmiddle
      exact ⟨found, hfound, hlater.trans hprolongs⟩
  | demoted _ _ _ => exact exists_prolongs_changeRole other _ hfunction

/-- Of an operation that registers nothing on a function, that function has no
more than answers for further predicates. -/
theorem Attempted.exists_prolongs {operation : Operation Code} {new : List Event}
    (hattempted : catalog.Attempted operation after new)
    (hid : id ∉ operation.registered)
    (hfunction : catalog.function? id = some function) :
    ∃ found, after.function? id = some found ∧ found.Prolongs function := by
  have hkept : catalog.function? id = some function →
      ∃ found, catalog.function? id = some found ∧ found.Prolongs function :=
    fun hfunction => ⟨function, hfunction, .of_entries_eq rfl⟩
  have hadded : ∀ {other : ℕ} {entry : MethodEntry Code}, id ≠ other →
      (catalog.modifyFunction other (·.addEntry entry)).function? id =
        some function := by
    intro other entry hne
    rw [Registry.function?_modifyFunction_of_ne _ hne]
    exact hfunction
  cases hattempted with
  | definitionRefused _ => exact hkept hfunction
  | promotionRefused _ _ _ => exact ⟨function, hadded hid, .of_entries_eq rfl⟩
  | performed hperformed =>
      cases hperformed with
      | unchanged => exact hkept hfunction
      | createdPredicate name => exact hkept hfunction
      | defined hderived =>
          obtain ⟨found, hfound, hprolongs⟩ := hderived.exists_prolongs hfunction
          exact ⟨found, Registry.function?_addFunction_of_some hfound, hprolongs⟩
      | derived hderived => exact hderived.exists_prolongs hfunction
      | createdFunction name =>
          exact ⟨function, Registry.function?_addFunction_of_some hfunction,
            .of_entries_eq rfl⟩
      | registered _ hreviewed => exact hreviewed.exists_prolongs (hadded hid)
      | @defaulted other fallback _ _ =>
          have hchange : ∀ function : GenericFunction Code,
              { function with fallback := some fallback }.entries =
                function.entries := fun _ => rfl
          exact exists_prolongs_modifyFunction hchange other hfunction

/-- Of a registration, the function has the entry, or the registration fails. -/
theorem Attempted.exists_prolongs_register {entry : MethodEntry Code}
    {new : List Event} (hattempted : catalog.Attempted (.register id entry) after new)
    (hfunction : catalog.function? id = some function) :
    ∃ found, after.function? id = some found ∧
      (found.Prolongs function ∨ found.Prolongs (function.addEntry entry)) := by
  have hadded : (catalog.modifyFunction id (·.addEntry entry)).function? id =
      some (function.addEntry entry) := by
    rw [Registry.function?_modifyFunction_self, hfunction]
    rfl
  cases hattempted with
  | promotionRefused _ _ _ => exact ⟨_, hadded, Or.inr (.of_entries_eq rfl)⟩
  | performed hperformed =>
      cases hperformed with
      | unchanged => exact ⟨function, hfunction, Or.inl (.of_entries_eq rfl)⟩
      | registered _ hreviewed =>
          obtain ⟨found, hfound, hprolongs⟩ := hreviewed.exists_prolongs hadded
          exact ⟨found, hfound, Or.inr hprolongs⟩

end Catalog

/-! ## Functions that are no tests -/

namespace Catalog

/-- The function has these entries and is nobody's membership test. -/
structure Fitted (catalog : Catalog Code) (id : ℕ)
    (entries : List (MethodEntry Code)) : Prop where
  function : ∃ function, catalog.function? id = some function ∧
    function.entries = entries ∧ function.role = .ordinary
  untested : ∀ type : ℕ, catalog.tests[type]? ≠ some id

namespace Fitted

variable {catalog : Catalog Code} {id : ℕ} {entries : List (MethodEntry Code)}

theorem of_created (horderly : catalog.Orderly) (name : String) :
    (catalog.addFunction { name := name }).Fitted catalog.nextFunction [] where
  function := ⟨{ name := name },
    function?_addFunction_eq_some_iff.mpr (Or.inr ⟨rfl, rfl⟩), rfl, rfl⟩
  untested type htest :=
    absurd (horderly.tests type _ htest) (Nat.lt_irrefl _)

variable (hfitted : catalog.Fitted id entries)
include hfitted

theorem lt_nextFunction : id < catalog.nextFunction := by
  obtain ⟨function, hfunction, -⟩ := hfitted.function
  exact lt_of_function?_eq_some hfunction

/-! ### Single changes -/

theorem create (name : String) : (catalog.create name).Fitted id entries :=
  ⟨hfitted.function, hfitted.untested⟩

theorem relink (linked : Hierarchy) : (catalog.relink linked).Fitted id entries :=
  ⟨hfitted.function, hfitted.untested⟩

theorem modifyFunction_of_ne {other : ℕ} (hne : id ≠ other)
    (change : GenericFunction Code → GenericFunction Code) :
    (catalog.modifyFunction other change).Fitted id entries where
  function := by
    rw [Registry.function?_modifyFunction_of_ne _ hne]
    exact hfitted.function
  untested := hfitted.untested

theorem setDefault (other : ℕ) (fallback : DefaultEntry Code) :
    (catalog.modifyFunction other ({ · with fallback := some fallback })).Fitted
      id entries := by
  by_cases hid : id = other
  · subst hid
    obtain ⟨function, hfunction, hentries, hrole⟩ := hfitted.function
    refine ⟨⟨{ function with fallback := some fallback }, ?_, hentries, hrole⟩,
      hfitted.untested⟩
    rw [Registry.function?_modifyFunction_self, hfunction]
    rfl
  · exact hfitted.modifyFunction_of_ne hid _

theorem addFunction (function : GenericFunction Code) :
    (catalog.addFunction function).Fitted id entries where
  function := by
    obtain ⟨existing, hexisting, hrest⟩ := hfitted.function
    exact ⟨existing, Registry.function?_addFunction_of_some hexisting, hrest⟩
  untested := hfitted.untested

theorem insertTest {type test : ℕ} (hne : id ≠ test) :
    Fitted { catalog with tests := catalog.tests.insert type test } id entries where
  function := hfitted.function
  untested key htest := by
    rw [Std.TreeMap.getElem?_insert] at htest
    split at htest
    · exact hne (Option.some.inj htest).symm
    · exact hfitted.untested key htest

theorem eraseTest (type : ℕ) :
    Fitted { catalog with tests := catalog.tests.erase type } id entries where
  function := hfitted.function
  untested key htest := by
    rw [Std.TreeMap.getElem?_erase] at htest
    split at htest
    · cases htest
    · exact hfitted.untested key htest

theorem attachTest (type : Predicate) :
    (catalog.attachTest type).Fitted id entries :=
  (hfitted.addFunction (membershipTest type)).insertTest
    hfitted.lt_nextFunction.ne

/-! ### Operations -/

/-- A derivation extends a membership test at most. -/
theorem derived {after : Catalog Code} {parent child : Predicate}
    (hderived : catalog.Derived parent child after) : after.Fitted id entries := by
  cases hderived with
  | covered _ _ => exact hfitted.relink _
  | answered _ htest _ _ =>
      refine (hfitted.relink _).modifyFunction_of_ne ?_ _
      rintro rfl
      exact hfitted.untested parent.id htest

theorem reviewed_of_ne {after : Catalog Code} {other : ℕ} (hne : id ≠ other)
    (hreviewed : catalog.Reviewed other after) : after.Fitted id entries := by
  cases hreviewed with
  | kept _ _ _ => exact hfitted
  | promoted _ _ _ hderived =>
      exact (((hfitted.create _).derived hderived).modifyFunction_of_ne hne
        _).insertTest hne
  | demoted _ _ _ => exact (hfitted.modifyFunction_of_ne hne _).eraseTest _

/-- Nothing changes the entries but a registration on that function. -/
theorem attempted {after : Catalog Code} {operation : Operation Code}
    {new : List Event} (hattempted : catalog.Attempted operation after new)
    (hid : id ∉ operation.registered) : after.Fitted id entries := by
  cases hattempted with
  | definitionRefused _ => exact hfitted.create _
  | promotionRefused _ _ _ =>
      exact (hfitted.modifyFunction_of_ne hid _).create _
  | performed hperformed =>
      cases hperformed with
      | unchanged => exact hfitted
      | createdPredicate name => exact hfitted.create name
      | defined hderived =>
          exact ((hfitted.create _).derived hderived).attachTest _
      | derived hderived => exact hfitted.derived hderived
      | createdFunction name => exact hfitted.addFunction _
      | registered _ hreviewed =>
          exact (hfitted.modifyFunction_of_ne hid _).reviewed_of_ne hid hreviewed
      | defaulted _ => exact hfitted.setDefault _ _

theorem addEntry (entry : MethodEntry Code) :
    (catalog.modifyFunction id (·.addEntry entry)).Fitted id
      (GenericFunction.putEntry entry entries) where
  function := by
    obtain ⟨function, hfunction, hentries, hrole⟩ := hfitted.function
    refine ⟨function.addEntry entry, ?_, ?_, hrole⟩
    · rw [Registry.function?_modifyFunction_self, hfunction]
      rfl
    · rw [← hentries]
      rfl
  untested := hfitted.untested

/-- A review takes the function for what it is, unless all its entries are
one-argument truth tests. -/
theorem reviewed_self {after : Catalog Code}
    (hplain : ∀ function, catalog.function? id = some function →
      function.isTruthTest = false)
    (hreviewed : catalog.Reviewed id after) : after.Fitted id entries := by
  cases hreviewed with
  | kept _ _ _ => exact hfitted
  | promoted hfunction htruth _ _ =>
      cases (hplain _ hfunction).symm.trans htruth
  | demoted hfunction _ hrole =>
      obtain ⟨function, hfunction', -, hordinary⟩ := hfitted.function
      obtain rfl := Option.some.inj (hfunction.symm.trans hfunction')
      cases hrole.symm.trans hordinary

end Fitted

end Catalog

namespace Registry

/-! ## Registries -/

section Fitted

variable {registry : Registry Code} (hreachable : registry.Reachable) {id : ℕ}
  {entries : List (MethodEntry Code)} (hfitted : registry.Fitted id entries)
include hreachable hfitted

theorem Reachable.fitted_perform (operation : Operation Code)
    (hid : id ∉ operation.registered) :
    (operation.perform registry).2.Fitted id entries :=
  hfitted.attempted (attempted hreachable.orderly operation) hid

/-- Registering succeeds if it leaves no truth test. -/
theorem Reachable.exists_register_of_fitted (entry : MethodEntry Code)
    (hplain : ∀ function : GenericFunction Code,
      function.entries = GenericFunction.putEntry entry entries →
        function.isTruthTest = false) :
    ∃ after, registry.register id entry = (.ok (), after) ∧
      after.Fitted id (GenericFunction.putEntry entry entries) := by
  obtain ⟨function, hfunction, hentries, -⟩ := hfitted.function
  have hextended : (function.addEntry entry).isTruthTest = false :=
    hplain _ (congrArg _ hentries)
  obtain ⟨after, hregister, hreviewed⟩ :=
    register_of_link hreachable.orderly hfunction entry
      fun hawaits => absurd hawaits.1 (by rw [hextended]; exact Bool.false_ne_true)
  refine ⟨after, hregister, (hfitted.addEntry entry).reviewed_self
    (fun found hfound => ?_) hreviewed⟩
  rw [function?_modifyFunction_self, hfunction] at hfound
  obtain rfl := Option.some.inj hfound
  exact hextended

end Fitted

/-- The second registry is what operations make of the first one, none of which
registers an entry on these functions. -/
inductive Follows (closed : List ℕ) (base : Registry Code) : Registry Code → Prop
  | refl : Follows closed base base
  | perform {registry : Registry Code} (operation : Operation Code) :
      Follows closed base registry → operation.CachesUnder registry.metric →
        (∀ id ∈ closed, id ∉ operation.registered) →
          Follows closed base (operation.perform registry).2

namespace Follows

variable {closed : List ℕ} {base registry : Registry Code}
  (hfollows : Follows closed base registry)
include hfollows

theorem becomes : base.Becomes registry := by
  induction hfollows with
  | refl => exact .refl
  | perform operation _ _ _ ih => exact ih.perform operation

theorem reachable (hbase : base.Reachable) : registry.Reachable := by
  induction hfollows with
  | refl => exact hbase
  | perform operation _ hcaches _ ih => exact ih.perform operation hcaches

theorem fitted (hbase : base.Reachable) {id : ℕ}
    {entries : List (MethodEntry Code)} (hid : id ∈ closed)
    (hfitted : base.Fitted id entries) : registry.Fitted id entries := by
  induction hfollows with
  | refl => exact hfitted
  | perform operation hfollows _ hclosed ih =>
      exact (hfollows.reachable hbase).fitted_perform ih operation (hclosed id hid)

end Follows

end Registry

end PredicateDispatch
