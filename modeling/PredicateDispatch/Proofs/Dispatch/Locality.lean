import PredicateDispatch.Proofs.Registry.Effects
import PredicateDispatch.Proofs.Resolution.Locality

/-!
# Changes act locally

What a change of a registry can do to the selections of its functions is
confined.  A link concerns calls with an argument at or below the child, a
registration concerns calls of its function that the new entry accepts, and new
predicates, new functions and defaults concern no selection at all.  For
everything else the same entry is selected as before, or the same signatures
tie, or there is no entry as before.
-/

namespace PredicateDispatch

variable {Code : Type}

/-! ## An entry that accepts nothing that is asked for -/

namespace GenericFunction

variable {hierarchy : Hierarchy} {types : Signature} {entry : MethodEntry Code}
  (hrejects : hierarchy.accepts entry.arguments types = false)
include hrejects

theorem accepts_of_ids_eq {existing : MethodEntry Code}
    (hids : (existing.arguments.ids == entry.arguments.ids) = true) :
    hierarchy.accepts existing.arguments types = false := by
  rw [hierarchy.accepts_congr_left (by simpa using hids)]
  exact hrejects

/-- Such an entry makes no candidate, and neither does one in whose place it is
put. -/
theorem candidatesBy_putEntry (total : Signature → Signature → ℕ)
    (start : ℕ) (entries : List (MethodEntry Code)) :
    hierarchy.candidatesBy total types start
        ((putEntry entry entries).map MethodEntry.arguments) =
      hierarchy.candidatesBy total types start
        (entries.map MethodEntry.arguments) := by
  induction entries generalizing start with
  | nil =>
      rw [putEntry, List.map_singleton, Hierarchy.candidatesBy, hrejects]
      rfl
  | cons existing rest ih =>
      rw [putEntry]
      split
      case isTrue hids =>
        rw [List.map_cons, List.map_cons, Hierarchy.candidatesBy,
          Hierarchy.candidatesBy, hrejects, accepts_of_ids_eq hrejects hids]
        rfl
      case isFalse =>
        rw [List.map_cons, List.map_cons, Hierarchy.candidatesBy,
          Hierarchy.candidatesBy, ih]

theorem getElem?_putEntry {index : ℕ} {existing : MethodEntry Code}
    {entries : List (MethodEntry Code)}
    (hexisting : entries[index]? = some existing)
    (haccepts : hierarchy.accepts existing.arguments types = true) :
    (putEntry entry entries)[index]? = some existing := by
  induction entries generalizing index with
  | nil => cases hexisting
  | cons head rest ih =>
      rw [putEntry]
      split
      case isTrue hids =>
        cases index with
        | zero =>
            obtain rfl := Option.some.inj hexisting
            rw [accepts_of_ids_eq hrejects hids] at haccepts
            cases haccepts
        | succ index => exact hexisting
      case isFalse =>
        cases index with
        | zero => exact hexisting
        | succ index => exact ih hexisting

end GenericFunction

/-! ## Catalogs that select alike -/

namespace Catalog

/-- For these types a function has the same candidates in both catalogs, and
the candidates are the same entries. -/
structure SelectsAlike (id : ℕ) (types : Signature)
    (before after : Catalog Code) : Prop where
  metric_eq : after.metric = before.metric
  exists_function : ∀ function, before.function? id = some function →
    ∃ function', after.function? id = some function' ∧
      function'.name = function.name ∧
      after.hierarchy.candidates after.metric types 0 function'.signatures =
        before.hierarchy.candidates before.metric types 0 function.signatures ∧
      ∀ candidate ∈ before.hierarchy.candidates before.metric types 0
        function.signatures,
        function'.entries[candidate.index]? = function.entries[candidate.index]?

namespace SelectsAlike

variable {id : ℕ} {types : Signature}

theorem of_eq {before after : Catalog Code}
    (hmetric : after.metric = before.metric)
    (hfunction : after.function? id = before.function? id)
    (hcandidates : ∀ signatures,
      after.hierarchy.candidates before.metric types 0 signatures =
        before.hierarchy.candidates before.metric types 0 signatures) :
    SelectsAlike id types before after where
  metric_eq := hmetric
  exists_function function hbefore := by
    refine ⟨function, hfunction.trans hbefore, rfl, ?_, fun _ _ => rfl⟩
    rw [hmetric]
    exact hcandidates _

theorem refl (catalog : Catalog Code) : SelectsAlike id types catalog catalog :=
  of_eq rfl rfl fun _ => rfl

theorem trans {first second third : Catalog Code}
    (hfirst : SelectsAlike id types first second)
    (hsecond : SelectsAlike id types second third) :
    SelectsAlike id types first third where
  metric_eq := hsecond.metric_eq.trans hfirst.metric_eq
  exists_function function hfunction := by
    obtain ⟨function', hfunction', hname, hcandidates, hentries⟩ :=
      hfirst.exists_function function hfunction
    obtain ⟨function'', hfunction'', hname', hcandidates', hentries'⟩ :=
      hsecond.exists_function function' hfunction'
    refine ⟨function'', hfunction'', hname'.trans hname,
      hcandidates'.trans hcandidates, fun candidate hmem => ?_⟩
    rw [hentries' candidate (hcandidates ▸ hmem), hentries candidate hmem]

/-! ### Single changes -/

theorem create (catalog : Catalog Code) (name : String) :
    SelectsAlike id types catalog (catalog.create name) :=
  of_eq rfl rfl fun signatures =>
    Hierarchy.candidates_create catalog.hierarchy catalog.metric name types 0
      signatures

theorem relink {catalog : Catalog Code} {linked : Hierarchy}
    {parent child : Predicate}
    (hlink : catalog.hierarchy.link parent child = .ok linked)
    (hcoherent : catalog.hierarchy.Coherent)
    (hapart : ∀ type ∈ types, catalog.isA child type = false) :
    SelectsAlike id types catalog (catalog.relink linked) :=
  of_eq rfl rfl fun signatures =>
    Hierarchy.candidates_link_of_apart hlink hcoherent catalog.metric hapart 0
      signatures

theorem addFunction (catalog : Catalog Code) (function : GenericFunction Code) :
    SelectsAlike id types catalog (catalog.addFunction function) where
  metric_eq := rfl
  exists_function existing hexisting :=
    ⟨existing, Registry.function?_addFunction_of_some hexisting, rfl, rfl,
      fun _ _ => rfl⟩

theorem attachTest (catalog : Catalog Code) (type : Predicate) :
    SelectsAlike id types catalog (catalog.attachTest type) :=
  (addFunction catalog (membershipTest type)).trans (of_eq rfl rfl fun _ => rfl)

/-- A change of another function, or one that leaves the name and the entries
of a function as they are. -/
theorem modifyFunction (catalog : Catalog Code) (changed : ℕ)
    {change : GenericFunction Code → GenericFunction Code}
    (hchange : changed ≠ id ∨ ∀ function,
      (change function).name = function.name ∧
        (change function).entries = function.entries) :
    SelectsAlike id types catalog (catalog.modifyFunction changed change) := by
  by_cases hid : id = changed
  · obtain hkept := hchange.resolve_left fun hne => hne hid.symm
    refine ⟨rfl, fun function hfunction => ?_⟩
    obtain ⟨hname, hentries⟩ := hkept function
    refine ⟨change function, ?_, hname, ?_, fun _ _ => by rw [hentries]⟩
    · rw [← hid, Registry.function?_modifyFunction_self, hfunction]
      rfl
    · rw [GenericFunction.signatures, hentries]
      rfl
  · exact of_eq rfl (Registry.function?_modifyFunction_of_ne catalog hid change)
      fun _ => rfl

/-- Selections do not depend on roles and tests. -/
theorem changeRole (catalog : Catalog Code) (changed : ℕ) (role : Role)
    (tests : Std.TreeMap ℕ ℕ) :
    SelectsAlike id types catalog
      { catalog.modifyFunction changed ({ · with role := role }) with
        tests := tests } := by
  have hmodified : SelectsAlike id types catalog
      (catalog.modifyFunction changed ({ · with role := role })) :=
    .modifyFunction catalog changed (Or.inr fun _ => ⟨rfl, rfl⟩)
  exact hmodified.trans (.of_eq rfl rfl fun _ => rfl)

/-- An entry of another function, or one that does not accept the types. -/
theorem addEntry (catalog : Catalog Code) (changed : ℕ)
    {entry : MethodEntry Code}
    (hentry : changed ≠ id ∨
      catalog.hierarchy.accepts entry.arguments types = false) :
    SelectsAlike id types catalog
      (catalog.modifyFunction changed (·.addEntry entry)) := by
  by_cases hid : id = changed
  · obtain hrejects := hentry.resolve_left fun hne => hne hid.symm
    refine ⟨rfl, fun function hfunction => ⟨function.addEntry entry, ?_, rfl, ?_, ?_⟩⟩
    · rw [← hid, Registry.function?_modifyFunction_self, hfunction]
      rfl
    · exact GenericFunction.candidatesBy_putEntry hrejects _ 0
        function.entries
    · intro candidate hmem
      obtain ⟨offset, declared, hdeclared, haccepts, rfl⟩ :=
        Hierarchy.mem_candidatesBy_iff.mp hmem
      rw [GenericFunction.signatures, List.getElem?_map] at hdeclared
      obtain ⟨existing, hexisting, rfl⟩ := Option.map_eq_some_iff.mp hdeclared
      rw [Nat.zero_add, hexisting]
      exact GenericFunction.getElem?_putEntry hrejects hexisting haccepts
  · exact of_eq rfl (Registry.function?_modifyFunction_of_ne catalog hid _)
      fun _ => rfl

end SelectsAlike

/-! ## What operations make of a catalog -/

/-- A derivation, for arguments that are not below the child. -/
theorem Derived.selectsAlike {catalog after : Catalog Code}
    {parent child : Predicate} (hderived : catalog.Derived parent child after)
    (hcoherent : catalog.hierarchy.Coherent) (id : ℕ) {types : Signature}
    (hapart : ∀ type ∈ types, catalog.isA child type = false) :
    SelectsAlike id types catalog after := by
  cases hderived with
  | covered hlink _ => exact .relink hlink hcoherent hapart
  | @answered linked test _ hlink _ _ _ =>
      refine (SelectsAlike.relink hlink hcoherent hapart).trans
        (.addEntry _ test (Or.inr ?_))
      exact (Hierarchy.accepts_link_of_apart hlink hcoherent hapart).trans
        (Hierarchy.accepts_singleton_of_apart hapart)

section Known

variable {events : List Event} {catalog : Catalog Code}
  (hkept : catalog.WellKept events) (id : ℕ) {types : Signature}
  (hknown : ∀ type ∈ types, catalog.hierarchy.Knows type)
include hkept hknown

/-- A new predicate is above nothing that is asked about. -/
theorem WellKept.selectsAlike_derive_fresh {name : String} {parent : Predicate}
    {derived : Catalog Code}
    (hderived : (catalog.create name).Derived parent
      (catalog.hierarchy.fresh name) derived) :
    SelectsAlike id types catalog derived :=
  (SelectsAlike.create catalog name).trans
    (hderived.selectsAlike (hkept.coherent.create name) id fun type htype =>
      hkept.confined.isA_fresh_eq_false hkept.coherent name (hknown type htype))

theorem WellKept.selectsAlike_review {reviewed : ℕ} {after : Catalog Code}
    (hreviewed : catalog.Reviewed reviewed after) :
    SelectsAlike id types catalog after := by
  cases hreviewed with
  | kept _ _ _ => exact .refl catalog
  | @promoted function derived _ _ _ hderived =>
      refine (hkept.selectsAlike_derive_fresh id hknown hderived).trans ?_
      exact .changeRole derived reviewed _ _
  | @demoted _ type _ _ _ => exact .changeRole catalog reviewed _ _

end Known

end Catalog

namespace Registry

/-! ## Registries -/

/-- Catalogs that select alike resolve alike: to the same entry, to none, or to
a tie of the same signatures. -/
theorem resolve_eq_of_selectsAlike {before after : Registry Code}
    (hbefore : before.CacheSound) (hafter : after.CacheSound) {id : ℕ}
    {function : GenericFunction Code}
    (hfunction : before.function? id = some function) {types : Signature}
    (halike : Catalog.SelectsAlike id types before.toCatalog after.toCatalog)
    (tolerateTie : Bool) :
    (after.resolve id types tolerateTie).1 =
      (before.resolve id types tolerateTie).1 := by
  obtain ⟨function', hfunction', hname, hcandidates, hentries⟩ :=
    halike.exists_function function hfunction
  have hresolved := Hierarchy.resolve_eq_of_candidates_eq
    (halike.metric_eq ▸ hcandidates)
  rw [hafter.resolve_answer hfunction', hbefore.resolve_answer hfunction,
    halike.metric_eq, hresolved]
  cases hresolve : before.hierarchy.resolve before.metric function.signatures
      types with
  | noMatch =>
      rw [Resolution.answer, Resolution.answer, Except.map, Except.map,
        entryAt?_none, entryAt?_none]
  | unique best =>
      have hmem := Hierarchy.mem_rankBy_iff.mp
        (Hierarchy.mem_rankBy_of_resolveBy_eq_unique hresolve)
      have hentry : after.entryAt? id (some best.index) =
          before.entryAt? id (some best.index) := by
        simp only [entryAt?, hfunction, hfunction', hentries best hmem]
      rw [Resolution.answer, Resolution.answer, Except.map, Except.map, hentry]
  | ambiguous tied =>
      have hsignatures : (tied.filterMap fun candidate =>
            function'.signatures[candidate.index]?) =
          tied.filterMap fun candidate =>
            function.signatures[candidate.index]? := by
        refine List.filterMap_congr fun candidate hcandidate => ?_
        have hmem := Hierarchy.mem_candidatesBy_of_tied hresolve hcandidate
        rw [GenericFunction.signatures, GenericFunction.signatures,
          List.getElem?_map, List.getElem?_map, hentries candidate hmem]
      rw [Resolution.answer, Resolution.answer, hname, hsignatures]
      cases tolerateTie with
      | true =>
          rw [if_pos rfl, Except.map, Except.map, entryAt?_none, entryAt?_none]
      | false => rfl

end Registry

/-! ## Operations -/

namespace Operation

/-- What is asked of a function for these types may depend on the operation. -/
def Concerns (registry : Registry Code) (id : ℕ) (types : Signature) :
    Operation Code → Prop
  | derive _ child => ∃ type ∈ types, registry.isA child type = true
  | register function entry =>
    function = id ∧ registry.hierarchy.accepts entry.arguments types = true
  | _ => False

/-- An operation leaves the selections alone that it does not concern. -/
theorem selectsAlike_of_performed {registry : Registry Code}
    {events new : List Event} (hkept : registry.toCatalog.WellKept events)
    {operation : Operation Code} {after : Catalog Code}
    (hperformed : registry.toCatalog.Performed operation after new) {id : ℕ}
    {types : Signature}
    (hknown : ∀ type ∈ types, registry.hierarchy.Knows type)
    (hremote : ¬ operation.Concerns registry id types) :
    Catalog.SelectsAlike id types registry.toCatalog after := by
  cases hperformed with
  | unchanged => exact .refl _
  | createdPredicate name => exact .create _ name
  | @defined _ _ derived hderived =>
      exact (hkept.selectsAlike_derive_fresh id hknown hderived).trans
        (.attachTest derived _)
  | @derived _ child _ hderived =>
      have hapart : ∀ type ∈ types, registry.isA child type = false :=
        fun type htype => Bool.eq_false_iff.mpr fun habove =>
          hremote ⟨type, htype, habove⟩
      exact hderived.selectsAlike hkept.coherent id hapart
  | createdFunction name => exact .addFunction _ _
  | @registered function entry _ _ hfunction hreviewed =>
      have hentry : function ≠ id ∨
          registry.hierarchy.accepts entry.arguments types = false := by
        by_cases hid : function = id
        · exact Or.inr (Bool.eq_false_iff.mpr fun haccepts =>
            hremote ⟨hid, haccepts⟩)
        · exact Or.inl hid
      have hadded : Catalog.SelectsAlike id types registry.toCatalog _ :=
        .addEntry _ function hentry
      exact hadded.trans
        ((hkept.addEntry hfunction entry).selectsAlike_review id hknown hreviewed)
  | @defaulted function _ _ _ =>
      exact .modifyFunction _ function (Or.inr fun _ => ⟨rfl, rfl⟩)

end Operation

/-! ## Main statement -/

/-- Under either metric, an operation changes what a function selects for
existing types only if it is a derivation of a child at or above one of them, or
a registration on this function of an entry that accepts them.  And beside
links, a derivation changes nothing but the membership test of the parent, to
which it may append that the child is accepted. -/
theorem operations_act_locally {registry : Registry Code} {events : List Event}
    (hpast : registry.Past events) {operation : Operation Code}
    (hcaches : operation.CachesUnder registry.metric)
    (hlinks : operation.LinksKnown registry.hierarchy) {id : ℕ}
    {function : GenericFunction Code}
    (hfunction : registry.function? id = some function) :
    (∀ types : Signature, (∀ type ∈ types, registry.hierarchy.Knows type) →
      ¬ operation.Concerns registry id types → ∀ tolerateTie,
        ((operation.perform registry).2.resolve id types tolerateTie).1 =
          (registry.resolve id types tolerateTie).1) ∧
    (∀ parent child, operation = .derive parent child →
      (operation.perform registry).2.function? id = some function ∨
        (registry.membershipTest? parent = some id ∧
          (operation.perform registry).2.function? id =
            some { function with
              entries := function.entries ++
                [Catalog.fixedAnswer child true] })) := by
  have hsound := hpast.reachable.cacheSound
  have hsound' := (hpast.reachable.perform operation hcaches).cacheSound
  have hperformed := hpast.performed hlinks
  refine ⟨fun types hknown hremote tolerateTie => ?_, ?_⟩
  · exact Registry.resolve_eq_of_selectsAlike hsound hsound' hfunction
      (Operation.selectsAlike_of_performed hpast.wellKept hperformed hknown
        hremote) tolerateTie
  · rintro parent child rfl
    exact hperformed.function?_of_derive hfunction

/-- A function that is promoted to the test of a predicate, and one more
predicate, still apart. -/
def beforeLink : History Unit :=
  History.run (.start { distance := .symmetric }) [
    .createFunction "isTruthy",
    .register 5 ⟨[Predicate.boolean], Predicate.boolean, .code ()⟩,
    .createPredicate "isYes"]

/-- The other predicate is linked below the one of the function. -/
def lateLink : Operation Unit :=
  .derive ⟨5, "isTruthy"⟩ ⟨6, "isYes"⟩

theorem operations_act_locally_lateLink :
    beforeLink.Holds ∧
    lateLink.CachesUnder beforeLink.registry.metric ∧
    lateLink.LinksKnown beforeLink.registry.hierarchy ∧
    (∃ function, beforeLink.registry.function? 5 = some function ∧
      (lateLink.perform beforeLink.registry).2.function? 5 =
        some { function with
          entries := function.entries ++
            [Catalog.fixedAnswer ⟨6, "isYes"⟩ true] }) ∧
    (∀ type ∈ [Predicate.boolean], beforeLink.registry.hierarchy.Knows type) ∧
    ¬ lateLink.Concerns beforeLink.registry 5 [Predicate.boolean] ∧
    ((lateLink.perform beforeLink.registry).2.resolve 5 [Predicate.boolean]
        false).1 =
      (beforeLink.registry.resolve 5 [Predicate.boolean] false).1 := by
  have hholds : beforeLink.Holds :=
    (History.holds_start _).run (by decide +kernel)
  have hcaches : lateLink.CachesUnder beforeLink.registry.metric := trivial
  have hlinks : lateLink.LinksKnown beforeLink.registry.hierarchy :=
    ⟨by decide +kernel, by decide +kernel⟩
  have hknown : ∀ type ∈ [Predicate.boolean],
      beforeLink.registry.hierarchy.Knows type := by decide +kernel
  have hremote : ¬ lateLink.Concerns beforeLink.registry 5
      [Predicate.boolean] := by
    rintro ⟨type, htype, habove⟩
    rw [List.mem_singleton.mp htype] at habove
    exact absurd habove (by decide +kernel)
  obtain ⟨function, hfunction⟩ : ∃ function,
      beforeLink.registry.function? 5 = some function := ⟨_, rfl⟩
  obtain ⟨hlocal, htests⟩ :=
    operations_act_locally hholds hcaches hlinks hfunction
  have hgrows : ((lateLink.perform beforeLink.registry).2.function? 5).map
        (fun function => function.entries.length) ≠
      (beforeLink.registry.function? 5).map
        (fun function => function.entries.length) := by decide +kernel
  refine ⟨hholds, hcaches, hlinks, ⟨function, hfunction, ?_⟩, hknown, hremote,
    hlocal _ hknown hremote false⟩
  rcases htests _ _ rfl with hsame | ⟨-, hextended⟩
  · rw [hsame, hfunction] at hgrows
    exact absurd rfl hgrows
  · exact hextended

end PredicateDispatch
