import PredicateDispatch.Proofs.Registry.Tables

/-!
# Well kept catalogs

Which function tests membership in which predicate is known twice: by the test
map and by the roles of the functions.  A catalog is well kept when the two are
inverse to each other, when each of its functions is well kept, and when the
roles are those that the past tells.  Every single change that operations are
made of keeps it so.
-/

namespace PredicateDispatch

variable {Code : Type}

namespace Catalog

/-! ## Single changes -/

def create (catalog : Catalog Code) (name : String) : Catalog Code :=
  { catalog with hierarchy := catalog.hierarchy.create name }

def relink (catalog : Catalog Code) (hierarchy : Hierarchy) : Catalog Code :=
  { catalog with hierarchy := hierarchy }

/-- Makes a function the membership test of a predicate. -/
def adopt (catalog : Catalog Code) (id : ℕ) (type : Predicate) : Catalog Code :=
  { catalog.modifyFunction id ({ · with role := .promoted type }) with
    tests := catalog.tests.insert type.id id }

/-- Takes its predicate from a function. -/
def demote (catalog : Catalog Code) (id : ℕ) (type : Predicate) : Catalog Code :=
  { catalog.modifyFunction id ({ · with role := .ordinary }) with
    tests := catalog.tests.erase type.id }

theorem lt_of_function?_eq_some {catalog : Catalog Code} {id : ℕ}
    {function : GenericFunction Code}
    (hfunction : catalog.function? id = some function) :
    id < catalog.nextFunction :=
  (Array.getElem?_eq_some_iff.mp hfunction).1

theorem function?_addFunction_eq_some_iff {catalog : Catalog Code}
    {function found : GenericFunction Code} {id : ℕ} :
    (catalog.addFunction function).function? id = some found ↔
      catalog.function? id = some found ∨
        (id = catalog.nextFunction ∧ found = function) := by
  change (catalog.functions.push function)[id]? = some found ↔
    catalog.functions[id]? = some found ∨
      (id = catalog.functions.size ∧ found = function)
  rw [Array.getElem?_push]
  split
  case isTrue hid => simp [hid, eq_comm]
  case isFalse hid => simp [hid]

/-- What holds of the changed function and of all others. -/
theorem forall_function?_modifyFunction {catalog : Catalog Code}
    {motive : ℕ → GenericFunction Code → Prop} {id : ℕ}
    {function : GenericFunction Code}
    (hfunction : catalog.function? id = some function)
    {change : GenericFunction Code → GenericFunction Code}
    (hchange : motive id (change function))
    (hothers : ∀ other found, other ≠ id →
      catalog.function? other = some found → motive other found)
    (other : ℕ) (found : GenericFunction Code)
    (hfound : (catalog.modifyFunction id change).function? other = some found) :
    motive other found := by
  by_cases hother : other = id
  · rw [hother, Registry.function?_modifyFunction_self, hfunction] at hfound
    obtain rfl := Option.some.inj hfound
    rw [hother]
    exact hchange
  · rw [Registry.function?_modifyFunction_of_ne _ hother] at hfound
    exact hothers other found hother hfound

/-! ## Roles -/

def role? (catalog : Catalog Code) (id : ℕ) : Option Role :=
  (catalog.function? id).map GenericFunction.role

/-- The number of the predicate whose membership test a function is. -/
def tested? (catalog : Catalog Code) (id : ℕ) : Option ℕ :=
  ((catalog.role? id).bind Role.predicate?).map Predicate.id

theorem role?_of_function? {catalog : Catalog Code} {id : ℕ}
    {function : GenericFunction Code}
    (hfunction : catalog.function? id = some function) :
    catalog.role? id = some function.role := by
  rw [role?, hfunction]
  rfl

theorem tested?_eq_some_iff {catalog : Catalog Code} {id type : ℕ} :
    catalog.tested? id = some type ↔
      ∃ function tested, catalog.function? id = some function ∧
        function.predicate? = some tested ∧ tested.id = type := by
  simp [tested?, role?, GenericFunction.predicate?, Option.bind_eq_some_iff]

theorem role?_modifyFunction (catalog : Catalog Code) (id other : ℕ)
    (change : GenericFunction Code → GenericFunction Code) :
    (catalog.modifyFunction id change).role? other =
      if other = id then
        (catalog.function? id).map fun function => (change function).role
      else catalog.role? other := by
  rw [role?]
  split
  case isTrue hid =>
    rw [hid, Registry.function?_modifyFunction_self, Option.map_map]
    rfl
  case isFalse hid =>
    rw [Registry.function?_modifyFunction_of_ne _ hid]
    rfl

theorem role?_modifyFunction_of_kept (catalog : Catalog Code) (id : ℕ)
    {change : GenericFunction Code → GenericFunction Code}
    (hrole : ∀ function, (change function).role = function.role) :
    (catalog.modifyFunction id change).role? = catalog.role? := by
  funext other
  rw [role?_modifyFunction]
  split
  case isTrue hid => simp only [hid, hrole, role?]
  case isFalse => rfl

theorem role?_addFunction (catalog : Catalog Code)
    (function : GenericFunction Code) (id : ℕ) :
    (catalog.addFunction function).role? id =
      if id = catalog.nextFunction then some function.role
      else catalog.role? id := by
  change ((catalog.functions.push function)[id]?).map GenericFunction.role = _
  rw [Array.getElem?_push]
  split
  case isTrue hid => exact (if_pos hid).symm
  case isFalse hid => exact (if_neg hid).symm

theorem role?_nextFunction (catalog : Catalog Code) :
    catalog.role? catalog.nextFunction = none := by
  have hnone : catalog.function? catalog.nextFunction = none :=
    Array.getElem?_eq_none (Nat.le_refl _)
  rw [role?, hnone]
  rfl

theorem role?_addFunction_of_some {catalog : Catalog Code} {id : ℕ}
    {role : Role} (hrole : catalog.role? id = some role)
    (function : GenericFunction Code) :
    (catalog.addFunction function).role? id = some role := by
  rw [role?_addFunction, if_neg, hrole]
  rintro rfl
  rw [role?_nextFunction] at hrole
  cases hrole

section Function

variable {catalog : Catalog Code} {id : ℕ} {function : GenericFunction Code}
  (hfunction : catalog.function? id = some function) (type : Predicate) (other : ℕ)
include hfunction

theorem role?_adopt : (catalog.adopt id type).role? other =
    if other = id then some (.promoted type) else catalog.role? other := by
  change (catalog.modifyFunction id _).role? other = _
  rw [role?_modifyFunction, hfunction]
  rfl

theorem role?_demote : (catalog.demote id type).role? other =
    if other = id then some .ordinary else catalog.role? other := by
  change (catalog.modifyFunction id _).role? other = _
  rw [role?_modifyFunction, hfunction]
  rfl

end Function

/-! ## Tests and roles -/

/-- The test map and the roles are inverse to each other. -/
def TestsMatch (catalog : Catalog Code) : Prop :=
  ∀ type id, catalog.tests[type]? = some id ↔ catalog.tested? id = some type

namespace TestsMatch

variable {catalog changed : Catalog Code} (hmatch : catalog.TestsMatch)
include hmatch

theorem of_role?_eq (htests : changed.tests = catalog.tests)
    (hroles : changed.role? = catalog.role?) : changed.TestsMatch := by
  intro type id
  rw [htests, tested?, hroles]
  exact hmatch type id

theorem createFunction (name : String) :
    (catalog.addFunction { name := name }).TestsMatch := by
  intro type id
  change catalog.tests[type]? = some id ↔ _
  rw [hmatch, tested?, tested?, role?_addFunction]
  split
  case isTrue hid => simp [hid, role?_nextFunction, Role.predicate?]
  case isFalse => rfl

/-- One more test, of a predicate that had none, by a function that was none. -/
theorem insert {type id : ℕ} (hfree : catalog.tests[type]? = none)
    (hunused : catalog.tested? id = none)
    (htests : changed.tests = catalog.tests.insert type id)
    (htested : ∀ other, changed.tested? other =
      if other = id then some type else catalog.tested? other) :
    changed.TestsMatch := by
  intro key other
  rw [htests, Std.TreeMap.getElem?_insert, htested]
  by_cases hkey : type = key
  · subst hkey
    rw [if_pos Std.ReflCmp.compare_self]
    split
    case isTrue hother => simp [hother]
    case isFalse hother =>
      rw [← hmatch, hfree]
      simp [Ne.symm hother]
  · have hne : compare type key ≠ .eq := fun heq =>
      hkey (Std.LawfulEqCmp.eq_of_compare heq)
    rw [if_neg hne, hmatch]
    split
    case isTrue hother => simp [hother, hunused, hkey]
    case isFalse => rfl

theorem attachTest {type : Predicate} (hfree : catalog.membershipTest? type = none) :
    (catalog.attachTest type).TestsMatch := by
  have hunused : catalog.tested? catalog.nextFunction = none := by
    rw [tested?, role?_nextFunction]
    rfl
  have hroles : (catalog.attachTest type).role? =
      (catalog.addFunction (membershipTest type)).role? := rfl
  refine hmatch.insert hfree hunused rfl fun other => ?_
  rw [tested?, hroles, role?_addFunction]
  split
  · rfl
  · rfl

section Function

variable {id : ℕ} {function : GenericFunction Code}
  (hfunction : catalog.function? id = some function) {type : Predicate}
include hfunction

theorem adopt (hrole : function.role = .ordinary)
    (hfree : catalog.membershipTest? type = none) :
    (catalog.adopt id type).TestsMatch := by
  have hunused : catalog.tested? id = none := by
    rw [tested?, role?_of_function? hfunction, hrole]
    rfl
  refine hmatch.insert hfree hunused rfl fun other => ?_
  rw [tested?, role?_adopt hfunction]
  split
  · rfl
  · rfl

theorem demote (hrole : function.role = .promoted type) :
    (catalog.demote id type).TestsMatch := by
  intro key other
  change (catalog.tests.erase type.id)[key]? = some other ↔ _
  have htested : catalog.tested? id = some type.id := by
    rw [tested?, role?_of_function? hfunction, hrole]
    rfl
  rw [Std.TreeMap.getElem?_erase, tested?, role?_demote hfunction]
  by_cases hkey : type.id = key
  · subst hkey
    rw [if_pos Std.ReflCmp.compare_self]
    split
    case isTrue => simp [Role.predicate?]
    case isFalse hother =>
      change none = some other ↔ catalog.tested? other = some type.id
      have htest := (hmatch type.id id).mpr htested
      rw [← hmatch, htest]
      simp [Ne.symm hother]
  · have hne : compare type.id key ≠ .eq := fun heq =>
      hkey (Std.LawfulEqCmp.eq_of_compare heq)
    rw [if_neg hne, hmatch]
    split
    case isTrue hother => simp [hother, htested, hkey, Role.predicate?]
    case isFalse => rfl

end Function

end TestsMatch

end Catalog

/-- The role of a function that an event is about is still what it tells. -/
def Event.Stands (roles : ℕ → Option Role) : Event → Prop
  | defined type test => roles test = some (.defined type)
  | created id => ∃ role, roles id = some role ∧ ∀ type, role ≠ .defined type
  | registered _ _ => True
  | defaulted _ => True

/-- Events stand as long as functions made with a predicate keep their roles,
and other functions are not given such a role. -/
theorem Event.Stands.of_roles {roles roles' : ℕ → Option Role} {event : Event}
    (hstands : event.Stands roles)
    (hdefined : ∀ id type, roles id = some (.defined type) →
      roles' id = some (.defined type))
    (hothers : ∀ id role, roles id = some role →
      (∀ type, role ≠ .defined type) →
        ∃ role', roles' id = some role' ∧ ∀ type, role' ≠ .defined type) :
    event.Stands roles' := by
  cases event with
  | defined type test => exact hdefined test type hstands
  | created id =>
      obtain ⟨role, hrole, hother⟩ := hstands
      exact hothers id role hrole hother
  | registered id arguments => trivial
  | defaulted id => trivial

namespace Catalog

/-! ## Well kept catalogs -/

structure WellKept (events : List Event) (catalog : Catalog Code) : Prop where
  coherent : catalog.hierarchy.Coherent
  confined : catalog.hierarchy.Confined
  /-- The test map and the roles are inverse to each other. -/
  tests_iff : ∀ type id,
    catalog.tests[type]? = some id ↔ catalog.tested? id = some type
  functions : ∀ id function, catalog.function? id = some function →
    function.WellKept events catalog.hierarchy id
  stands : ∀ event ∈ events, event.Stands catalog.role?

namespace WellKept

variable {events : List Event} {catalog : Catalog Code}
  (hkept : catalog.WellKept events)
include hkept

theorem record {event : Event} (hstands : event.Stands catalog.role?) :
    catalog.WellKept (event :: events) where
  coherent := hkept.coherent
  confined := hkept.confined
  tests_iff := hkept.tests_iff
  functions id function hfunction :=
    (hkept.functions id function hfunction).weaken (List.subset_cons_self _ _)
  stands := List.forall_mem_cons.mpr ⟨hstands, hkept.stands⟩

/-- A change that leaves all roles as they are. -/
theorem of_role?_eq {changed : Catalog Code}
    (hcoherent : changed.hierarchy.Coherent)
    (hconfined : changed.hierarchy.Confined)
    (htests : changed.tests = catalog.tests)
    (hroles : changed.role? = catalog.role?)
    (hfunctions : ∀ id function, changed.function? id = some function →
      function.WellKept events changed.hierarchy id) :
    changed.WellKept events where
  coherent := hcoherent
  confined := hconfined
  tests_iff := TestsMatch.of_role?_eq hkept.tests_iff htests hroles
  functions := hfunctions
  stands := by
    rw [hroles]
    exact hkept.stands

theorem create (name : String) : (catalog.create name).WellKept events :=
  hkept.of_role?_eq (hkept.coherent.create name) (hkept.confined.create name)
    rfl rfl fun id function hfunction =>
      (hkept.functions id function hfunction).create name

theorem functions_modifyFunction {id : ℕ} {function : GenericFunction Code}
    (hfunction : catalog.function? id = some function)
    {change : GenericFunction Code → GenericFunction Code}
    (hchange : (change function).WellKept events catalog.hierarchy id) :
    ∀ other found, (catalog.modifyFunction id change).function? other =
      some found → found.WellKept events catalog.hierarchy other :=
  forall_function?_modifyFunction hfunction hchange
    fun other found _ hfound => hkept.functions other found hfound

theorem modifyFunction {id : ℕ} {function : GenericFunction Code}
    (hfunction : catalog.function? id = some function)
    {change : GenericFunction Code → GenericFunction Code}
    (hrole : ∀ function, (change function).role = function.role)
    (hchange : (change function).WellKept events catalog.hierarchy id) :
    (catalog.modifyFunction id change).WellKept events :=
  hkept.of_role?_eq hkept.coherent hkept.confined rfl
    (catalog.role?_modifyFunction_of_kept id hrole)
    (hkept.functions_modifyFunction hfunction hchange)

/-- A function that is tied to a predicate is its test. -/
theorem membershipTest?_of_predicate? {id : ℕ} {function : GenericFunction Code}
    (hfunction : catalog.function? id = some function) {tested : Predicate}
    (htested : function.predicate? = some tested) {type : Predicate}
    (hid : tested.id = type.id) : catalog.membershipTest? type = some id :=
  (hkept.tests_iff _ _).mpr
    (tested?_eq_some_iff.mpr ⟨function, tested, hfunction, htested, hid⟩)

/-- No function but its test is tied to a predicate. -/
theorem id_eq_of_predicate? {type : Predicate} {test : ℕ}
    (htest : catalog.membershipTest? type = some test) {id : ℕ}
    {function : GenericFunction Code}
    (hfunction : catalog.function? id = some function) {tested : Predicate}
    (htested : function.predicate? = some tested) (hid : tested.id = type.id) :
    id = test :=
  Option.some.inj ((hkept.membershipTest?_of_predicate? hfunction htested
    hid).symm.trans htest)

theorem exists_of_membershipTest? {type : Predicate} {test : ℕ}
    (htest : catalog.membershipTest? type = some test) :
    ∃ function tested, catalog.function? test = some function ∧
      function.predicate? = some tested ∧ tested.id = type.id :=
  tested?_eq_some_iff.mp ((hkept.tests_iff _ _).mp htest)

/-- The test of a predicate is tied to it, by some handle. -/
theorem exists_tested {type : Predicate} {test : ℕ}
    (htest : catalog.membershipTest? type = some test)
    {function : GenericFunction Code}
    (hfunction : catalog.function? test = some function) :
    ∃ tested, function.predicate? = some tested ∧ tested.id = type.id := by
  obtain ⟨function', tested, hfunction', htested, hid⟩ :=
    hkept.exists_of_membershipTest? htest
  rw [Option.some.inj (hfunction.symm.trans hfunction')]
  exact ⟨tested, htested, hid⟩

section Link

variable {linked : Hierarchy} {parent child : Predicate}
  (hlink : catalog.hierarchy.link parent child = .ok linked)
  (hparent : catalog.hierarchy.Knows parent)
  (hchild : catalog.hierarchy.Knows child)
include hlink hparent hchild

/-- A link for whose child the test of the parent answers already. -/
theorem relink
    (hcovers : ∀ test function, catalog.membershipTest? parent = some test →
      catalog.function? test = some function →
        function.Declares child.id ∨ function.Declares parent.id) :
    (catalog.relink linked).WellKept events := by
  refine hkept.of_role?_eq (hkept.coherent.link hlink)
    (hkept.confined.link hlink hparent hchild) rfl rfl
    fun id function hfunction => ?_
  refine (hkept.functions id function hfunction).link hlink fun type htype hid => ?_
  have htest := hkept.membershipTest?_of_predicate? hfunction htype hid
  rw [hid]
  exact hcovers id function htest hfunction

/-- A link with a new entry of the test of the parent that says yes for the
child. -/
theorem answer {test : ℕ} {function : GenericFunction Code}
    (htest : catalog.membershipTest? parent = some test)
    (hfunction : catalog.function? test = some function)
    (hnew : ¬ function.Declares child.id) :
    ((catalog.relink linked).modifyFunction test
      (·.addEntry (fixedAnswer child true))).WellKept events := by
  obtain ⟨tested, htested, hid⟩ := hkept.exists_tested htest hfunction
  refine hkept.of_role?_eq (hkept.coherent.link hlink)
    (hkept.confined.link hlink hparent hchild) rfl
    ((catalog.relink linked).role?_modifyFunction_of_kept test fun _ => rfl)
    (forall_function?_modifyFunction hfunction
      ((hkept.functions test function hfunction).answer hlink
        ⟨tested, htested, hid⟩ hnew) fun other found hother hfound => ?_)
  exact (hkept.functions other found hfound).link hlink
    fun type htype htype_id =>
      absurd (hkept.id_eq_of_predicate? htest hfound htype htype_id) hother

end Link

/-! ### New functions -/

theorem functions_addFunction {function : GenericFunction Code}
    (hfunction : function.WellKept events catalog.hierarchy catalog.nextFunction)
    (id : ℕ) (found : GenericFunction Code)
    (hfound : (catalog.addFunction function).function? id = some found) :
    found.WellKept events catalog.hierarchy id := by
  rcases function?_addFunction_eq_some_iff.mp hfound with hold | ⟨rfl, rfl⟩
  · exact hkept.functions id found hold
  · exact hfunction

theorem stands_addFunction (function : GenericFunction Code) (event : Event)
    (hevent : event ∈ events) :
    event.Stands (catalog.addFunction function).role? :=
  (hkept.stands event hevent).of_roles
    (fun _ _ hrole => role?_addFunction_of_some hrole function)
    fun _ role hrole hother =>
      ⟨role, role?_addFunction_of_some hrole function, hother⟩

theorem createFunction (name : String) :
    (catalog.addFunction { name := name }).WellKept
      (.created catalog.nextFunction :: events) := by
  have hadded : (catalog.addFunction { name := name }).WellKept events := {
    coherent := hkept.coherent
    confined := hkept.confined
    tests_iff := TestsMatch.createFunction hkept.tests_iff name
    functions := hkept.functions_addFunction (GenericFunction.wellKept_empty ..)
    stands := hkept.stands_addFunction _ }
  refine hadded.record ⟨.ordinary, ?_, fun type htype => by cases htype⟩
  rw [role?_addFunction, if_pos rfl]

theorem attachTest {type : Predicate}
    (hknown : catalog.hierarchy.predicates[type.id]? = some type)
    (hfree : catalog.membershipTest? type = none) :
    (catalog.attachTest type).WellKept
      (.defined type catalog.nextFunction :: events) := by
  have hroles : (catalog.attachTest type).role? =
      (catalog.addFunction (membershipTest type)).role? := rfl
  have hattached : (catalog.attachTest type).WellKept events := {
    coherent := hkept.coherent
    confined := hkept.confined
    tests_iff := TestsMatch.attachTest hkept.tests_iff hfree
    functions := hkept.functions_addFunction
      (GenericFunction.wellKept_membershipTest events _ hknown)
    stands := hkept.stands_addFunction _ }
  refine hattached.record ?_
  change (catalog.attachTest type).role? _ = _
  rw [hroles, role?_addFunction, if_pos rfl]
  rfl

/-! ### New roles -/

/-- Events do not tell one role of a function that a client created from
another. -/
theorem stands_of_role {id : ℕ} {role role' : Role}
    (hrole : catalog.role? id = some role)
    (hdefined : ∀ type, role ≠ .defined type)
    (hdefined' : ∀ type, role' ≠ .defined type) {roles : ℕ → Option Role}
    (hroles : ∀ other, roles other =
      if other = id then some role' else catalog.role? other) :
    ∀ event ∈ events, event.Stands roles := by
  refine fun event hevent => (hkept.stands event hevent).of_roles ?_ ?_
  · intro other type hother
    rw [hroles, if_neg]
    · exact hother
    · rintro rfl
      exact hdefined type (Option.some.inj (hrole.symm.trans hother))
  · intro other existing hother hnot
    rw [hroles]
    split
    · exact ⟨role', rfl, hdefined'⟩
    · exact ⟨existing, hother, hnot⟩

theorem adopt {id : ℕ} {function : GenericFunction Code}
    (hfunction : catalog.function? id = some function)
    (hrole : function.role = .ordinary) {type : Predicate}
    (hfree : catalog.membershipTest? type = none)
    (hpromoted : GenericFunction.WellKept events catalog.hierarchy id
      { function with role := .promoted type }) :
    (catalog.adopt id type).WellKept events := by
  have hold : catalog.role? id = some .ordinary := by
    rw [role?_of_function? hfunction, hrole]
  constructor
  case coherent => exact hkept.coherent
  case confined => exact hkept.confined
  case tests_iff => exact TestsMatch.adopt hkept.tests_iff hfunction hrole hfree
  case functions => exact hkept.functions_modifyFunction hfunction hpromoted
  case stands =>
    exact hkept.stands_of_role hold (by simp) (by simp) (role?_adopt hfunction type)

theorem demote {id : ℕ} {function : GenericFunction Code}
    (hfunction : catalog.function? id = some function) {type : Predicate}
    (hrole : function.role = .promoted type) :
    (catalog.demote id type).WellKept events := by
  have hold : catalog.role? id = some (.promoted type) := by
    rw [role?_of_function? hfunction, hrole]
  constructor
  case coherent => exact hkept.coherent
  case confined => exact hkept.confined
  case tests_iff => exact TestsMatch.demote hkept.tests_iff hfunction hrole
  case functions =>
    exact hkept.functions_modifyFunction hfunction
      ((hkept.functions id function hfunction).demote hrole)
  case stands =>
    exact hkept.stands_of_role hold (by simp) (by simp) (role?_demote hfunction type)

end WellKept

end Catalog

end PredicateDispatch
