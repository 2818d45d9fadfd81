import PredicateDispatch.Proofs.Hierarchy.Distance
import PredicateDispatch.Proofs.Membership.Promotion
import PredicateDispatch.Proofs.Registry.Names
import PredicateDispatch.Report

/-!
# Reports are faithful

A report numbers predicates and functions as the registry does, finds a function
under a name exactly if the registry does, and then the same one.  The ancestors
that it lists are met on the way up from a predicate, which ends and meets each
stored ancestor once, and the membership test that it names is the one that
there is.
-/

namespace PredicateDispatch

variable {Code : Type}

/-! ## The way up -/

namespace Hierarchy

/-- Going up from a predicate ends, and leads past these in turn. -/
inductive Ascends (hierarchy : Hierarchy) : Predicate → List Predicate → Prop
  | root {type : Predicate} :
      hierarchy.parent? type = none → Ascends hierarchy type []
  | child {type parent : Predicate} {chain : List Predicate} :
      hierarchy.parent? type = some parent → Ascends hierarchy parent chain →
        Ascends hierarchy type (parent :: chain)

namespace Coherent

variable {hierarchy : Hierarchy} (hcoherent : hierarchy.Coherent)
include hcoherent

theorem ascends_lineage (type : Predicate) :
    hierarchy.Ascends type (hierarchy.lineage type) := by
  induction type using hcoherent.upward_induction with
  | root type hroot =>
      rw [hcoherent.lineage_of_root hroot]
      exact .root hroot
  | child type parent hparent ih =>
      rw [hcoherent.lineage_of_parent hparent]
      exact .child hparent ih

theorem nodup_ids_lineage (type : Predicate) :
    (Signature.ids (hierarchy.lineage type)).Nodup :=
  (hcoherent.ids_lineage_perm type).nodup_iff.mpr
    (hcoherent.nodup_ancestorIds type.id)

theorem mem_ids_lineage_iff {type : Predicate} {id : ℕ} :
    id ∈ Signature.ids (hierarchy.lineage type) ↔
      id ∈ Signature.ids (hierarchy.ancestorsOf type) := by
  rw [ids_ancestorsOf]
  exact (hcoherent.ids_lineage_perm type).mem_iff

theorem head?_lineage (type : Predicate) :
    (hierarchy.lineage type).head? = hierarchy.parent? type := by
  cases hparent : hierarchy.parent? type with
  | none => rw [hcoherent.lineage_of_root hparent, List.head?_nil]
  | some parent => rw [hcoherent.lineage_of_parent hparent, List.head?_cons]

theorem isA_of_mem_lineage {type ancestor : Predicate}
    (hmem : ancestor ∈ hierarchy.lineage type) :
    hierarchy.isA ancestor type = true :=
  (hierarchy.isA_eq_true_iff_mem ancestor type).mpr
    (Or.inr (hcoherent.mem_ids_lineage_iff.mp (List.mem_map_of_mem hmem)))

/-- The place on the way up tells the distance. -/
theorem typeDistance_of_getElem?_lineage {type ancestor : Predicate}
    {index : ℕ} (hancestor : (hierarchy.lineage type)[index]? = some ancestor) :
    hierarchy.typeDistance type ancestor = index + 1 := by
  induction type using hcoherent.upward_induction generalizing index with
  | root type hroot =>
      rw [hcoherent.lineage_of_root hroot] at hancestor
      cases hancestor
  | child type parent hparent ih =>
      rw [hcoherent.lineage_of_parent hparent] at hancestor
      cases index with
      | zero =>
          obtain rfl := Option.some.inj hancestor
          rw [hcoherent.typeDistance_of_parent hparent (hierarchy.isA_self _),
            hierarchy.typeDistance_self rfl]
      | succ index =>
          rw [List.getElem?_cons_succ] at hancestor
          have habove := hcoherent.isA_of_mem_lineage
            (List.mem_of_getElem? hancestor)
          rw [hcoherent.typeDistance_of_parent hparent habove, ih hancestor]

end Coherent

/-- The number of a predicate is its position. -/
theorem Reachable.id_of_getElem? {hierarchy : Hierarchy}
    (hreach : hierarchy.Reachable) {index : ℕ} {type : Predicate}
    (htype : hierarchy.predicates[index]? = some type) : type.id = index := by
  induction hreach generalizing index with
  | empty => cases htype
  | @create hierarchy name _ ih =>
      change (hierarchy.predicates.push (hierarchy.fresh name))[index]? =
        some type at htype
      rw [Array.getElem?_push] at htype
      split at htype
      case isTrue hindex =>
        obtain rfl := Option.some.inj htype
        exact hindex.symm
      case isFalse => exact ih htype
  | @link hierarchy parent child _ ih =>
      cases hlink : hierarchy.link parent child with
      | error cause =>
          rw [hlink] at htype
          exact ih htype
      | ok linked =>
          rw [hlink] at htype
          exact ih ((predicates_of_link hlink) ▸ htype)

end Hierarchy

/-! ## Functions by name -/

/-- The last element with a property is the first one from behind. -/
theorem find?_reverse_of_last {α : Type} {items : List α} {test : α → Bool}
    {index : ℕ} {item : α} (hitem : items[index]? = some item)
    (htest : test item = true)
    (hlast : ∀ later other, items[later]? = some other → test other = true →
      later ≤ index) : items.reverse.find? test = some item := by
  induction items generalizing index with
  | nil => cases hitem
  | cons first rest ih =>
      rw [List.reverse_cons, List.find?_append]
      cases index with
      | zero =>
          obtain rfl := Option.some.inj hitem
          have hnone : rest.reverse.find? test = none := by
            rw [List.find?_eq_none]
            intro other hother hfound
            obtain ⟨later, hlater⟩ := List.getElem?_of_mem (List.mem_reverse.mp hother)
            exact absurd (hlast (later + 1) other hlater hfound)
              (Nat.not_succ_le_zero later)
          rw [hnone, Option.none_or, List.find?_cons_of_pos htest]
      | succ index =>
          have hfound := ih hitem fun later other hother hsame =>
            Nat.le_of_succ_le_succ (hlast (later + 1) other hother hsame)
          rw [hfound, Option.some_or]

namespace Catalog

theorem getElem?_functions_report (catalog : Catalog Code) (caching : Bool)
    (id : ℕ) :
    (catalog.report caching).functions[id]? =
      (catalog.function? id).map (reportFunction id) := by
  rw [report, List.getElem?_mapIdx, Array.getElem?_toList]
  rfl

/-- The newest function of a name is the one that is reported under it. -/
theorem function?_report_of_isNewest {catalog : Catalog Code} (caching : Bool)
    {name : String} {id : ℕ} {function : GenericFunction Code}
    (hnewest : catalog.IsNewest name id)
    (hfunction : catalog.function? id = some function) :
    (catalog.report caching).function? name = some (reportFunction id function) := by
  have hreported : (catalog.report caching).functions[id]? =
      some (reportFunction id function) := by
    rw [getElem?_functions_report, hfunction]
    rfl
  have hname : function.name = name := by
    have hsame := hnewest.1
    rw [functionName?, hfunction] at hsame
    exact Option.some.inj hsame
  refine find?_reverse_of_last hreported (beq_iff_eq.mpr hname)
    fun later other hother hsame => ?_
  rw [getElem?_functions_report] at hother
  obtain ⟨found, hfound, rfl⟩ := Option.map_eq_some_iff.mp hother
  refine hnewest.2 later ?_
  rw [functionName?, hfound]
  exact congrArg some (beq_iff_eq.mp hsame)

theorem function?_report_eq_none {catalog : Catalog Code} (caching : Bool)
    {name : String} (hnone : ∀ id, catalog.functionName? id ≠ some name) :
    (catalog.report caching).function? name = none := by
  rw [Report.function?, List.find?_eq_none]
  intro reported hreported hname
  obtain ⟨id, hid⟩ := List.getElem?_of_mem (List.mem_reverse.mp hreported)
  rw [getElem?_functions_report] at hid
  obtain ⟨found, hfound, rfl⟩ := Option.map_eq_some_iff.mp hid
  refine hnone id ?_
  rw [functionName?, hfound]
  exact congrArg some (beq_iff_eq.mp hname)

end Catalog

/-! ## Reports of registries -/

namespace Registry

/-- What a registry reports of a predicate is what it has of it. -/
structure Portrays (registry : Registry Code) (type : Predicate)
    (reported : PredicateReport) : Prop where
  id : reported.id = .ofNat type.id
  name : reported.name = type.name
  parent : reported.parent = (registry.hierarchy.parent? type).map Predicate.name
  /-- The reported ancestors are those on the way up, which passes every stored
  ancestor once, the parent first and each one at its distance. -/
  ancestors : ∃ chain, registry.hierarchy.Ascends type chain ∧
    chain.head? = registry.hierarchy.parent? type ∧
    (Signature.ids chain).Nodup ∧
    (∀ id, id ∈ Signature.ids chain ↔
      id ∈ Signature.ids (registry.hierarchy.ancestorsOf type)) ∧
    (∀ (index : ℕ) ancestor, chain[index]? = some ancestor →
      registry.hierarchy.distance .directed type ancestor = index + 1) ∧
    reported.ancestors = chain.map Predicate.name
  membershipTest : reported.membershipTest =
    (registry.membershipTest? type).map fun _ => type.name

theorem getElem?_predicates_report (registry : Registry Code) (index : ℕ) :
    registry.report.predicates[index]? =
      registry.hierarchy.predicates[index]?.map registry.reportPredicate := by
  rw [report, Catalog.report, List.getElem?_map, Array.getElem?_toList]

theorem map_id_functions_report (registry : Registry Code) :
    registry.report.functions.map FunctionReport.id =
      (List.range registry.nextFunction).map UInt32.ofNat := by
  refine List.ext_getElem? fun id => ?_
  have hsize : registry.nextFunction = registry.functions.size := rfl
  rw [report, List.getElem?_map, Catalog.getElem?_functions_report,
    List.getElem?_map, Option.map_map]
  cases hfunction : registry.function? id with
  | some function =>
      have hlt := Catalog.lt_of_function?_eq_some hfunction
      rw [List.getElem?_range hlt]
      rfl
  | none =>
      have hle := Array.getElem?_eq_none_iff.mp hfunction
      rw [List.getElem?_eq_none (by rw [List.length_range, hsize]; exact hle)]
      rfl

section Past

variable {registry : Registry Code} {events : List Event}
  (hpast : registry.Past events)
include hpast

theorem Past.map_id_predicates_report :
    registry.report.predicates.map PredicateReport.id =
      (List.range registry.hierarchy.predicates.size).map UInt32.ofNat := by
  refine List.ext_getElem? fun index => ?_
  rw [List.getElem?_map, getElem?_predicates_report, List.getElem?_map,
    Option.map_map]
  cases htype : registry.hierarchy.predicates[index]? with
  | some type =>
      rw [List.getElem?_range (Array.getElem?_eq_some_iff.mp htype).1]
      have hid := Hierarchy.Reachable.id_of_getElem? hpast.reachable.linked htype
      exact congrArg (fun id => some (UInt32.ofNat id)) hid
  | none =>
      have hle := Array.getElem?_eq_none_iff.mp htype
      rw [List.getElem?_eq_none (by rw [List.length_range]; exact hle)]
      rfl

/-- The test of a predicate that has been created is named like it. -/
theorem Past.name_of_membershipTest? {index test : ℕ} {type : Predicate}
    (htype : registry.hierarchy.predicates[index]? = some type)
    (htest : registry.membershipTest? type = some test) :
    (registry.function? test).map GenericFunction.name = some type.name := by
  have hkept := hpast.wellKept
  obtain ⟨function, tested, hfunction, htested, hid⟩ :=
    hkept.exists_of_membershipTest? htest
  obtain ⟨hknown, hname⟩ :=
    (hkept.functions test function hfunction).tested tested htested
  have hindex := Hierarchy.Reachable.id_of_getElem? hpast.reachable.linked htype
  rw [hid, hindex, htype] at hknown
  obtain rfl := Option.some.inj hknown
  rw [hfunction]
  exact congrArg some hname

theorem Past.portrays {index : ℕ} {type : Predicate}
    (htype : registry.hierarchy.predicates[index]? = some type) :
    registry.Portrays type (registry.reportPredicate type) := by
  have hcoherent := hpast.reachable.orderly.coherent
  exact {
    id := rfl
    name := rfl
    parent := rfl
    ancestors := ⟨registry.hierarchy.lineage type, hcoherent.ascends_lineage type,
      hcoherent.head?_lineage type, hcoherent.nodup_ids_lineage type,
      fun _ => hcoherent.mem_ids_lineage_iff,
      fun _ _ => hcoherent.typeDistance_of_getElem?_lineage, rfl⟩
    membershipTest := by
      change ((registry.membershipTest? type).bind registry.function?).map
        GenericFunction.name = _
      cases htest : registry.membershipTest? type with
      | none => rfl
      | some test => exact hpast.name_of_membershipTest? htype htest }

end Past

end Registry

/-- The report of a registry that operations on its own predicates have made
numbers predicates and functions by position.  Under a name it has a function
exactly if the name is bound, and then the function that the name is bound to,
the newest of that name.  Of every predicate it says what the registry has: the
parent, the ancestors on the way up, which ends, and the membership test by the
name that it shares with the predicate. -/
theorem report_is_faithful {registry : Registry Code} {events : List Event}
    (hpast : registry.Past events) :
    registry.report.predicates.map PredicateReport.id =
      (List.range registry.hierarchy.predicates.size).map UInt32.ofNat ∧
    registry.report.functions.map FunctionReport.id =
      (List.range registry.nextFunction).map UInt32.ofNat ∧
    (∀ name, registry.named? name = none →
      registry.report.function? name = none) ∧
    (∀ name id, registry.named? name = some id →
      registry.IsNewest name id ∧
      ∃ reported, registry.report.function? name = some reported ∧
        registry.report.functions[id]? = some reported ∧
        reported.name = name ∧ reported.id = .ofNat id) ∧
    (∀ (index : ℕ) type, registry.hierarchy.predicates[index]? = some type →
      type.id = index ∧
      ∃ reported, registry.report.predicates[index]? = some reported ∧
        registry.Portrays type reported) := by
  have hreachable := hpast.reachable
  refine ⟨hpast.map_id_predicates_report, registry.map_id_functions_report,
    fun name hnone => ?_, fun name id hnamed => ?_, fun index type htype => ?_⟩
  · refine Catalog.function?_report_eq_none _ fun id hname => ?_
    obtain ⟨newest, hnamed⟩ := hreachable.namesBound name id hname
    cases hnone.symm.trans hnamed
  · have hnewest := hreachable.namesNewest name id hnamed
    obtain ⟨function, hfunction, hname⟩ := Option.map_eq_some_iff.mp hnewest.1
    refine ⟨hnewest, Catalog.reportFunction id function,
      Catalog.function?_report_of_isNewest _ hnewest hfunction, ?_, hname, rfl⟩
    rw [Registry.report, Catalog.getElem?_functions_report, hfunction]
    rfl
  · refine ⟨Hierarchy.Reachable.id_of_getElem? hreachable.linked htype,
      registry.reportPredicate type, ?_, hpast.portrays htype⟩
    rw [Registry.getElem?_predicates_report, htype]
    rfl

/-- A predicate that lost its test, another one of the same name, a second
function of the name of a test, and a root that is linked last. -/
def rebound : History Unit :=
  repromotion.run [
    .createFunction "isTruthy",
    .createPredicate "isThing",
    .derive ⟨8, "isThing"⟩ Predicate.any]

theorem report_is_faithful_rebound :
    rebound.Holds ∧
    rebound.registry.named? "isTruthy" = some 6 ∧
    (∃ reported, rebound.registry.report.function? "isTruthy" = some reported ∧
      reported.id = 6) ∧
    rebound.registry.named? "isThing" = none ∧
    rebound.registry.report.function? "isThing" = none ∧
    (∃ reported, rebound.registry.report.predicates[5]? = some reported ∧
      reported.name = "isTruthy" ∧ reported.membershipTest = none) ∧
    (∃ reported, rebound.registry.report.predicates[7]? = some reported ∧
      reported.membershipTest = some "isTruthy" ∧
      ∃ chain, rebound.registry.hierarchy.Ascends ⟨7, "isTruthy"⟩ chain ∧
        reported.ancestors = chain.map Predicate.name ∧
        ∀ (index : ℕ) ancestor, chain[index]? = some ancestor →
          rebound.registry.hierarchy.distance .directed ⟨7, "isTruthy"⟩
            ancestor = index + 1) := by
  have hbefore : repromotion.Holds :=
    (History.holds_start {}).run (by decide +kernel)
  have hholds : rebound.Holds := hbefore.run (by decide +kernel)
  have hnamed : rebound.registry.named? "isTruthy" = some 6 := by decide +kernel
  have hunbound : rebound.registry.named? "isThing" = none := by decide +kernel
  have hdemoted : rebound.registry.membershipTest? ⟨5, "isTruthy"⟩ = none := by
    decide +kernel
  have hpromoted : rebound.registry.membershipTest? ⟨7, "isTruthy"⟩ = some 5 := by
    decide +kernel
  obtain ⟨-, -, hmissing, hfound, hpredicates⟩ := report_is_faithful hholds
  obtain ⟨-, reported, hreported, -, -, hid⟩ := hfound "isTruthy" 6 hnamed
  obtain ⟨-, lost, hlost, hlost_portrayed⟩ :=
    hpredicates 5 ⟨5, "isTruthy"⟩ (by decide +kernel)
  obtain ⟨-, tested, htested, hportrayed⟩ :=
    hpredicates 7 ⟨7, "isTruthy"⟩ (by decide +kernel)
  obtain ⟨chain, hchain, -, -, -, hdistances, hnames⟩ := hportrayed.ancestors
  refine ⟨hholds, hnamed, ⟨reported, hreported, hid⟩, hunbound,
    hmissing _ hunbound, ⟨lost, hlost, hlost_portrayed.name, ?_⟩,
    tested, htested, ?_, chain, hchain, hnames, hdistances⟩
  · rw [hlost_portrayed.membershipTest, hdemoted]
    rfl
  · rw [hportrayed.membershipTest, hpromoted]
    rfl

end PredicateDispatch
