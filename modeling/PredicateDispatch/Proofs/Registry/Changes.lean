import PredicateDispatch.Proofs.Registry.Orderly

/-!
# Changes of a catalog

Everything that a derivation, a definition or a registration can do is said
here once.  A derivation links the child and nothing else, or it also gives the
membership test of the parent a new entry for the child.  A registration puts
its entry in place, and then it promotes the function, demotes it, or leaves
its role alone.  A handle from elsewhere may have the number of a predicate that
is still to be made: then the link of the new predicate can be refused, and what
was done before the link stays.
-/

namespace PredicateDispatch

variable {Code : Type}

/-- The function is to be promoted: it is a truth test and has no role. -/
def GenericFunction.AwaitsPromotion (function : GenericFunction Code) : Prop :=
  function.isTruthTest = true ∧ function.role = .ordinary

namespace Catalog

/-! ## Derivations -/

/-- What a link makes of a catalog. -/
inductive Derived (catalog : Catalog Code) (parent child : Predicate) :
    Catalog Code → Prop
  /-- The test of the parent, if there is one, has an entry for the child or for
  the parent. -/
  | covered {linked : Hierarchy} :
      catalog.hierarchy.link parent child = .ok linked →
      (∀ test function, catalog.membershipTest? parent = some test →
        catalog.function? test = some function →
          function.Declares child.id ∨ function.Declares parent.id) →
      Derived catalog parent child (catalog.relink linked)
  /-- The test of the parent has no entry for either, and gets one for the
  child. -/
  | answered {linked : Hierarchy} {test : ℕ}
      {function : GenericFunction Code} :
      catalog.hierarchy.link parent child = .ok linked →
      catalog.membershipTest? parent = some test →
      catalog.function? test = some function →
      ¬ (function.Declares child.id ∨ function.Declares parent.id) →
      Derived catalog parent child
        ((catalog.relink linked).modifyFunction test
          (·.addEntry (fixedAnswer child true)))

namespace Derived

variable {catalog after : Catalog Code} {parent child : Predicate}
  (hderived : catalog.Derived parent child after)
include hderived

theorem link_eq : catalog.hierarchy.link parent child = .ok after.hierarchy := by
  cases hderived with
  | covered hlink _ => exact hlink
  | answered hlink _ _ _ => exact hlink

theorem metric_eq : after.metric = catalog.metric := by
  cases hderived <;> rfl

theorem tests_eq : after.tests = catalog.tests := by
  cases hderived <;> rfl

theorem names_eq : after.names = catalog.names := by
  cases hderived <;> rfl

theorem nextFunction_eq : after.nextFunction = catalog.nextFunction := by
  cases hderived with
  | covered _ _ => rfl
  | answered _ _ _ _ => exact Array.size_modify

/-- A function stays as it is, or it is the test of the parent and has a new
entry for the child. -/
theorem function?_of_some {id : ℕ} {function : GenericFunction Code}
    (hfunction : catalog.function? id = some function) :
    after.function? id = some function ∨
      (catalog.membershipTest? parent = some id ∧
        ¬ (function.Declares child.id ∨ function.Declares parent.id) ∧
        after.function? id =
          some (function.addEntry (fixedAnswer child true))) := by
  cases hderived with
  | covered _ _ => exact Or.inl hfunction
  | @answered _ test function' _ htest hfunction' hnew =>
      by_cases hid : id = test
      · subst hid
        obtain rfl : function = function' :=
          Option.some.inj (hfunction.symm.trans hfunction')
        refine Or.inr ⟨htest, hnew, ?_⟩
        rw [Registry.function?_modifyFunction_self]
        exact congrArg (Option.map _) hfunction
      · refine Or.inl ?_
        rw [Registry.function?_modifyFunction_of_ne _ hid]
        exact hfunction

/-- The new entry comes last. -/
theorem function?_append {id : ℕ} {function : GenericFunction Code}
    (hfunction : catalog.function? id = some function) :
    after.function? id = some function ∨
      (catalog.membershipTest? parent = some id ∧
        after.function? id = some { function with
          entries := function.entries ++ [fixedAnswer child true] }) := by
  rcases hderived.function?_of_some hfunction with hsame | ⟨htest, hnew, hextended⟩
  · exact Or.inl hsame
  · rw [GenericFunction.addEntry_eq_append (fixedAnswer child true)
      fun hchild => hnew (Or.inl hchild)] at hextended
    exact Or.inr ⟨htest, hextended⟩

theorem exists_function? {id : ℕ} {found : GenericFunction Code}
    (hfound : after.function? id = some found) :
    ∃ function, catalog.function? id = some function := by
  have hlt := lt_of_function?_eq_some hfound
  rw [hderived.nextFunction_eq] at hlt
  exact ⟨_, Array.getElem?_eq_getElem hlt⟩

theorem wellKept {events : List Event} (hkept : catalog.WellKept events)
    (hparent : catalog.hierarchy.Knows parent)
    (hchild : catalog.hierarchy.Knows child) : after.WellKept events := by
  cases hderived with
  | covered hlink hcovered =>
      exact hkept.relink hlink hparent hchild hcovered
  | answered hlink htest hfunction hnew =>
      exact hkept.answer hlink hparent hchild htest hfunction
        fun hdeclares => hnew (Or.inl hdeclares)

theorem orderly (horderly : catalog.Orderly) : after.Orderly := by
  cases hderived with
  | covered hlink _ => exact horderly.relink hlink
  | answered hlink _ _ _ => exact (horderly.relink hlink).addEntry _ _

end Derived

/-! ## New predicates -/

namespace WellKept

variable {events : List Event} {catalog derived : Catalog Code}
  (hkept : catalog.WellKept events)
include hkept

theorem membershipTest?_fresh (name : String) :
    catalog.membershipTest? (catalog.hierarchy.fresh name) = none := by
  cases htest : catalog.membershipTest? (catalog.hierarchy.fresh name) with
  | none => rfl
  | some test =>
      obtain ⟨function, tested, hfunction, htested, hid⟩ :=
        hkept.exists_of_membershipTest? htest
      have hknown := ((hkept.functions test function hfunction).tested tested
        htested).1
      have hlt := (Array.getElem?_eq_some_iff.mp hknown).1
      rw [hid] at hlt
      exact absurd hlt (Nat.lt_irrefl _)

/-- The test that was made with a predicate is its test for ever. -/
theorem exists_of_defined {type : Predicate} {test : ℕ}
    (hdefined : Event.defined type test ∈ events) :
    ∃ function, catalog.function? test = some function ∧
      function.role = .defined type ∧
      catalog.membershipTest? type = some test := by
  obtain ⟨function, hfunction, hrole⟩ :=
    Option.map_eq_some_iff.mp (hkept.stands _ hdefined)
  refine ⟨function, hfunction, hrole, (hkept.tests_iff _ _).mpr ?_⟩
  exact tested?_eq_some_iff.mpr ⟨function, type, hfunction,
    GenericFunction.predicate?_of_defined hrole, rfl⟩

/-- The predicates that the past tells of have been created. -/
theorem knows_of_defined {type : Predicate} {test : ℕ}
    (hdefined : Event.defined type test ∈ events) :
    catalog.hierarchy.Knows type := by
  obtain ⟨function, hfunction, hrole, -⟩ := hkept.exists_of_defined hdefined
  have hknown := ((hkept.functions test function hfunction).tested type
    (GenericFunction.predicate?_of_defined hrole)).1
  exact (Array.getElem?_eq_some_iff.mp hknown).1

variable {name : String} {parent : Predicate}
  (hparent : catalog.hierarchy.Knows parent)
  (hderived : (catalog.create name).Derived parent
    (catalog.hierarchy.fresh name) derived)
include hparent hderived

/-- A new predicate below one that has been created. -/
theorem derive_fresh :
    derived.WellKept events ∧
      derived.hierarchy.predicates[(catalog.hierarchy.fresh name).id]? =
        some (catalog.hierarchy.fresh name) ∧
      derived.membershipTest? (catalog.hierarchy.fresh name) = none := by
  refine ⟨hderived.wellKept (hkept.create name) (hparent.create name)
    (Hierarchy.knows_fresh ..), ?_, ?_⟩
  · rw [Hierarchy.predicates_of_link hderived.link_eq]
    exact Array.getElem?_push_size
  · rw [membershipTest?, hderived.tests_eq]
    exact hkept.membershipTest?_fresh name

theorem define :
    (derived.attachTest (catalog.hierarchy.fresh name)).WellKept
      (.defined (catalog.hierarchy.fresh name) catalog.nextFunction :: events) := by
  obtain ⟨hwell, hknown, hfree⟩ := hkept.derive_fresh hparent hderived
  have hnext : derived.nextFunction = catalog.nextFunction :=
    hderived.nextFunction_eq
  rw [← hnext]
  exact hwell.attachTest hknown hfree

end WellKept

/-! ## Registrations -/

section Client

variable {events : List Event} {catalog : Catalog Code}
  (hkept : catalog.WellKept events) {id : ℕ} {function : GenericFunction Code}
  (hfunction : catalog.function? id = some function)
include hkept hfunction

/-- An entry that a client registers. -/
theorem WellKept.addEntry (entry : MethodEntry Code) :
    (catalog.modifyFunction id (·.addEntry entry)).WellKept
      (.registered id entry.arguments :: events) := by
  have hstands : (Event.registered id entry.arguments).Stands catalog.role? :=
    trivial
  have hrecorded := hkept.record hstands
  exact hrecorded.modifyFunction hfunction (fun _ => rfl)
    ((hrecorded.functions id function hfunction).addEntry
      (.registered List.mem_cons_self) fun _ _ _ => List.mem_cons_self)

theorem WellKept.setDefault (fallback : DefaultEntry Code) :
    (catalog.modifyFunction id ({ · with fallback := some fallback })).WellKept
      (.defaulted id :: events) := by
  have hstands : (Event.defaulted id).Stands catalog.role? := trivial
  have hrecorded := hkept.record hstands
  exact hrecorded.modifyFunction hfunction (fun _ => rfl)
    ((hrecorded.functions id function hfunction).setDefault List.mem_cons_self)

end Client

/-- What becomes of a catalog when the role of a function is brought in line
with its entries. -/
inductive Reviewed (catalog : Catalog Code) (id : ℕ) : Catalog Code → Prop
  | kept {function : GenericFunction Code} :
      catalog.function? id = some function →
      (function.isTruthTest = true → function.role ≠ .ordinary) →
      (function.isTruthTest = false → ∀ type, function.role ≠ .promoted type) →
      Reviewed catalog id catalog
  | promoted {function : GenericFunction Code} {derived : Catalog Code} :
      catalog.function? id = some function →
      function.isTruthTest = true →
      function.role = .ordinary →
      (catalog.create function.name).Derived Predicate.any
        (catalog.hierarchy.fresh function.name) derived →
      Reviewed catalog id
        (derived.adopt id (catalog.hierarchy.fresh function.name))
  | demoted {function : GenericFunction Code} {type : Predicate} :
      catalog.function? id = some function →
      function.isTruthTest = false →
      function.role = .promoted type →
      Reviewed catalog id (catalog.demote id type)

/-- A function without a role is not the test that a derivation may change. -/
theorem WellKept.function?_of_ordinary {events : List Event}
    {catalog derived : Catalog Code} (hkept : catalog.WellKept events)
    {name : String} {parent child : Predicate}
    (hderived : (catalog.create name).Derived parent child derived) {id : ℕ}
    {function : GenericFunction Code}
    (hfunction : catalog.function? id = some function)
    (hrole : function.role = .ordinary) :
    derived.function? id = some function := by
  rcases hderived.function?_of_some hfunction with hsame | ⟨htest, -, -⟩
  · exact hsame
  · obtain ⟨tested, htested, -⟩ := hkept.exists_tested htest hfunction
    rw [GenericFunction.predicate?, hrole] at htested
    cases htested

theorem WellKept.promote {events : List Event} {catalog derived : Catalog Code}
    (hkept : catalog.WellKept events)
    (hany : catalog.hierarchy.Knows Predicate.any) {id : ℕ}
    {function : GenericFunction Code}
    (hfunction : catalog.function? id = some function)
    (hrole : function.role = .ordinary)
    (hderived : (catalog.create function.name).Derived Predicate.any
      (catalog.hierarchy.fresh function.name) derived) :
    (derived.adopt id (catalog.hierarchy.fresh function.name)).WellKept
      events := by
  obtain ⟨hwell, hknown, hfree⟩ := hkept.derive_fresh hany hderived
  have hfunction' := hkept.function?_of_ordinary hderived hfunction hrole
  have hstranger := catalog.hierarchy.not_knows_fresh function.name
  refine hwell.adopt hfunction' hrole hfree
    ((hwell.functions id function hfunction').promote hrole hknown rfl ?_ ?_ ?_)
  · intro child hchild
    rcases (Hierarchy.parentLink_link_iff hderived.link_eq _ _).mp hchild with
      hold | ⟨-, hself⟩
    · exact hstranger (hkept.confined _ _ hold).2
    · exact hany.ne_fresh function.name hself
  · exact Hierarchy.parentLink_of_link hderived.link_eq
  · intro entry hentry hids
    cases (hkept.functions id function hfunction).origin entry hentry with
    | registered hmem => exact hmem
    | denial hdefined _ => cases hrole.symm.trans hdefined
    | affirmation hdefined => cases hrole.symm.trans hdefined
    | child hlink _ =>
        rw [List.head_eq_of_cons_eq hids] at hlink
        exact absurd (hkept.confined _ _ hlink).1 hstranger

theorem Reviewed.wellKept {events : List Event} {catalog after : Catalog Code}
    {id : ℕ} (hreviewed : catalog.Reviewed id after)
    (hkept : catalog.WellKept events)
    (hany : catalog.hierarchy.Knows Predicate.any) : after.WellKept events := by
  cases hreviewed with
  | kept _ _ _ => exact hkept
  | promoted hfunction _ hrole hderived =>
      exact hkept.promote hany hfunction hrole hderived
  | demoted hfunction _ hrole => exact hkept.demote hfunction hrole

theorem Reviewed.orderly {catalog after : Catalog Code} {id : ℕ}
    (hreviewed : catalog.Reviewed id after) (horderly : catalog.Orderly) :
    after.Orderly := by
  cases hreviewed with
  | kept _ _ _ => exact horderly
  | @promoted function derived hfunction _ _ hderived =>
      obtain ⟨function', hfunction'⟩ :
          ∃ function', derived.function? id = some function' := by
        rcases hderived.function?_of_some hfunction with hsame | ⟨-, -, hadded⟩
        · exact ⟨_, hsame⟩
        · exact ⟨_, hadded⟩
      exact (hderived.orderly (horderly.create _)).adopt hfunction' _
  | demoted _ _ _ => exact horderly.demote _ _

theorem Reviewed.names_eq {catalog after : Catalog Code} {id : ℕ}
    (hreviewed : catalog.Reviewed id after) : after.names = catalog.names := by
  cases hreviewed with
  | kept _ _ _ => rfl
  | promoted _ _ _ hderived => exact hderived.names_eq
  | demoted _ _ _ => rfl

/-! ## Operations -/

/-- What an operation makes of a catalog, and the events that it leaves. -/
inductive Performed (catalog : Catalog Code) :
    Operation Code → Catalog Code → List Event → Prop
  /-- The operation fails, or it only asks. -/
  | unchanged {operation : Operation Code} :
      Performed catalog operation catalog []
  | createdPredicate (name : String) :
      Performed catalog (.createPredicate name) (catalog.create name) []
  | defined {name : String} {parent : Predicate} {derived : Catalog Code} :
      (catalog.create name).Derived parent (catalog.hierarchy.fresh name)
        derived →
      Performed catalog (.definePredicate name parent)
        (derived.attachTest (catalog.hierarchy.fresh name))
        [.defined (catalog.hierarchy.fresh name) catalog.nextFunction]
  | derived {parent child : Predicate} {after : Catalog Code} :
      catalog.Derived parent child after →
      Performed catalog (.derive parent child) after []
  | createdFunction (name : String) :
      Performed catalog (.createFunction name)
        (catalog.addFunction { name := name }) [.created catalog.nextFunction]
  | registered {id : ℕ} {entry : MethodEntry Code}
      {function : GenericFunction Code} {after : Catalog Code} :
      catalog.function? id = some function →
      (catalog.modifyFunction id (·.addEntry entry)).Reviewed id after →
      Performed catalog (.register id entry) after
        [.registered id entry.arguments]
  | defaulted {id : ℕ} {fallback : DefaultEntry Code}
      {function : GenericFunction Code} :
      catalog.function? id = some function →
      Performed catalog (.setDefault id fallback)
        (catalog.modifyFunction id ({ · with fallback := some fallback }))
        [.defaulted id]

theorem Performed.wellKept {catalog after : Catalog Code}
    {operation : Operation Code} {events new : List Event}
    (hperformed : catalog.Performed operation after new)
    (hkept : catalog.WellKept events)
    (hany : catalog.hierarchy.Knows Predicate.any)
    (hlinks : operation.LinksKnown catalog.hierarchy) :
    after.WellKept (new ++ events) := by
  cases hperformed with
  | unchanged => exact hkept
  | createdPredicate name => exact hkept.create name
  | defined hderived => exact hkept.define hlinks hderived
  | derived hderived => exact hderived.wellKept hkept hlinks.1 hlinks.2
  | createdFunction name => exact hkept.createFunction name
  | registered hfunction hreviewed =>
      exact hreviewed.wellKept (hkept.addEntry hfunction _) hany
  | defaulted hfunction => exact hkept.setDefault hfunction _

/-- Beside links, a derivation changes nothing but the test of the parent. -/
theorem Performed.function?_of_derive {catalog after : Catalog Code}
    {parent child : Predicate} {new : List Event}
    (hperformed : catalog.Performed (.derive parent child) after new) {id : ℕ}
    {function : GenericFunction Code}
    (hfunction : catalog.function? id = some function) :
    after.function? id = some function ∨
      (catalog.membershipTest? parent = some id ∧
        after.function? id = some { function with
          entries := function.entries ++ [fixedAnswer child true] }) := by
  cases hperformed with
  | unchanged => exact Or.inl hfunction
  | derived hderived => exact hderived.function?_append hfunction

theorem Performed.orderly {catalog after : Catalog Code}
    {operation : Operation Code} {new : List Event}
    (hperformed : catalog.Performed operation after new)
    (horderly : catalog.Orderly) : after.Orderly := by
  cases hperformed with
  | unchanged => exact horderly
  | createdPredicate name => exact horderly.create name
  | defined hderived => exact (hderived.orderly (horderly.create _)).attachTest _
  | derived hderived => exact hderived.orderly horderly
  | createdFunction name => exact horderly.addFunction List.nodup_nil
  | registered _ hreviewed => exact hreviewed.orderly (horderly.addEntry _ _)
  | defaulted _ => exact horderly.setDefault _ _

/-- What an operation makes of a catalog, whatever handles it mentions: the
predicate that it creates may be refused its parent. -/
inductive Attempted (catalog : Catalog Code) :
    Operation Code → Catalog Code → List Event → Prop
  | performed {operation : Operation Code} {after : Catalog Code}
      {new : List Event} :
      catalog.Performed operation after new →
      Attempted catalog operation after new
  | definitionRefused {name : String} {parent : Predicate} {cause : LinkError} :
      (catalog.hierarchy.create name).link parent
        (catalog.hierarchy.fresh name) = .error cause →
      Attempted catalog (.definePredicate name parent) (catalog.create name) []
  | promotionRefused {id : ℕ} {entry : MethodEntry Code}
      {function : GenericFunction Code} {cause : LinkError} :
      catalog.function? id = some function →
      (function.addEntry entry).AwaitsPromotion →
      (catalog.hierarchy.create function.name).link Predicate.any
        (catalog.hierarchy.fresh function.name) = .error cause →
      Attempted catalog (.register id entry)
        ((catalog.modifyFunction id (·.addEntry entry)).create function.name)
        [.registered id entry.arguments]

namespace Attempted

variable {catalog after : Catalog Code} {operation : Operation Code}
  {new : List Event} (hattempted : catalog.Attempted operation after new)
include hattempted

theorem orderly (horderly : catalog.Orderly) : after.Orderly := by
  cases hattempted with
  | performed hperformed => exact hperformed.orderly horderly
  | definitionRefused _ => exact horderly.create _
  | promotionRefused _ _ _ => exact (horderly.addEntry _ _).create _

/-- No predicate is refused its parent if links join predicates that have been
created. -/
theorem performed_of_wellKept {events : List Event}
    (hkept : catalog.WellKept events)
    (hany : catalog.hierarchy.Knows Predicate.any)
    (hlinks : operation.LinksKnown catalog.hierarchy) :
    catalog.Performed operation after new := by
  cases hattempted with
  | performed hperformed => exact hperformed
  | @definitionRefused name parent cause hrefused =>
      obtain ⟨linked, hlink⟩ := hkept.confined.exists_link_fresh
        hkept.coherent (Hierarchy.Knows.ne_fresh hlinks name)
      cases hrefused.symm.trans hlink
  | @promotionRefused id entry function cause hfunction _ hrefused =>
      obtain ⟨linked, hlink⟩ := hkept.confined.exists_link_fresh
        hkept.coherent (hany.ne_fresh function.name)
      cases hrefused.symm.trans hlink

end Attempted

end Catalog

end PredicateDispatch
