import PredicateDispatch.Proofs.Registry.Effects

/-!
# What stays as it was

Operations take nothing back: links, predicates and functions stay.  A function
on which nothing is registered keeps its entries, and only as the membership
test of a predicate may it get more, each for a predicate that is linked below.
This holds of single operations and so of any number of them.
-/

namespace PredicateDispatch

variable {Code : Type}

namespace GenericFunction

/-- The entries are those of an earlier function, with answers for further
predicates behind them if it was a membership test. -/
def Extends (function earlier : GenericFunction Code) : Prop :=
  ∃ children : List Predicate,
    function.entries =
      earlier.entries ++ children.map (Catalog.fixedAnswer · true) ∧
    (earlier.role = .ordinary → children = [] ∧ function.role = .ordinary)

theorem extends_of_eq {function earlier : GenericFunction Code}
    (hentries : function.entries = earlier.entries)
    (hrole : function.role = earlier.role) : function.Extends earlier :=
  ⟨[], by rw [hentries, List.map_nil, List.append_nil],
    fun hordinary => ⟨rfl, hrole.trans hordinary⟩⟩

theorem Extends.refl (function : GenericFunction Code) :
    function.Extends function :=
  extends_of_eq rfl rfl

theorem Extends.trans {first second third : GenericFunction Code}
    (hlater : third.Extends second) (hearlier : second.Extends first) :
    third.Extends first := by
  obtain ⟨more, hmore, hmore_role⟩ := hlater
  obtain ⟨children, hchildren, hrole⟩ := hearlier
  refine ⟨children ++ more, ?_, fun hordinary => ?_⟩
  · rw [hmore, hchildren, List.map_append, List.append_assoc]
  · obtain ⟨rfl, hsecond⟩ := hrole hordinary
    exact hmore_role hsecond

theorem Extends.entries_eq {function earlier : GenericFunction Code}
    (hextends : function.Extends earlier) (hordinary : earlier.role = .ordinary) :
    function.entries = earlier.entries ∧ function.role = .ordinary := by
  obtain ⟨children, hentries, hrole⟩ := hextends
  obtain ⟨rfl, hordinary'⟩ := hrole hordinary
  exact ⟨by rw [hentries, List.map_nil, List.append_nil], hordinary'⟩

/-- Answers for predicates take one argument. -/
theorem Extends.forall_length_eq_one {function earlier : GenericFunction Code}
    (hextends : function.Extends earlier)
    (hunary : ∀ entry ∈ earlier.entries, entry.arguments.length = 1) :
    ∀ entry ∈ function.entries, entry.arguments.length = 1 := by
  obtain ⟨children, hentries, -⟩ := hextends
  intro entry hentry
  rw [hentries] at hentry
  rcases List.mem_append.mp hentry with hold | hchild
  · exact hunary entry hold
  · obtain ⟨child, -, rfl⟩ := List.mem_map.mp hchild
    rfl

end GenericFunction

/-- The function on which an operation registers an entry, if it does. -/
def Operation.registered : Operation Code → Set ℕ
  | .register id _ => {id}
  | _ => ∅

namespace Catalog

/-! ## Catalogs -/

/-- The second catalog comes later than the first: links and predicates stay,
and so do all functions but those on which entries have been registered. -/
structure Keeps (registered : Set ℕ) (before after : Catalog Code) : Prop where
  metric_eq : after.metric = before.metric
  parent? : ∀ type parent, before.hierarchy.parent? type = some parent →
    after.hierarchy.parent? type = some parent
  knows : ∀ type, before.hierarchy.Knows type → after.hierarchy.Knows type
  function? : ∀ id function, id ∉ registered →
    before.function? id = some function →
      ∃ found, after.function? id = some found ∧ found.Extends function

namespace Keeps

variable {registered : Set ℕ}

theorem refl (registered : Set ℕ) (catalog : Catalog Code) :
    Keeps registered catalog catalog where
  metric_eq := rfl
  parent? _ _ hparent := hparent
  knows _ hknown := hknown
  function? _ function _ hfunction := ⟨function, hfunction, .refl function⟩

theorem trans {first second third : Catalog Code}
    (hfirst : Keeps registered first second)
    (hsecond : Keeps registered second third) : Keeps registered first third where
  metric_eq := hsecond.metric_eq.trans hfirst.metric_eq
  parent? type parent hparent :=
    hsecond.parent? type parent (hfirst.parent? type parent hparent)
  knows type hknown := hsecond.knows type (hfirst.knows type hknown)
  function? id function hid hfunction := by
    obtain ⟨middle, hmiddle, hearlier⟩ := hfirst.function? id function hid hfunction
    obtain ⟨found, hfound, hlater⟩ := hsecond.function? id middle hid hmiddle
    exact ⟨found, hfound, hlater.trans hearlier⟩

/-- What is kept of all functions but some is kept of fewer. -/
theorem mono {more : Set ℕ} {before after : Catalog Code}
    (hkeeps : Keeps registered before after) (hsubset : registered ⊆ more) :
    Keeps more before after where
  metric_eq := hkeeps.metric_eq
  parent? := hkeeps.parent?
  knows := hkeeps.knows
  function? id function hid := hkeeps.function? id function fun hmem =>
    hid (hsubset hmem)

/-! ### Single changes -/

theorem create (catalog : Catalog Code) (name : String) :
    Keeps ∅ catalog (catalog.create name) where
  metric_eq := rfl
  parent? _ _ hparent := hparent
  knows _ hknown := hknown.create name
  function? _ function _ hfunction := ⟨function, hfunction, .refl function⟩

theorem changeTests (registered : Set ℕ) (catalog : Catalog Code)
    (tests : Std.TreeMap ℕ ℕ) :
    Keeps registered catalog { catalog with tests := tests } where
  metric_eq := rfl
  parent? _ _ hparent := hparent
  knows _ hknown := hknown
  function? _ function _ hfunction := ⟨function, hfunction, .refl function⟩

theorem addFunction (catalog : Catalog Code) (function : GenericFunction Code) :
    Keeps ∅ catalog (catalog.addFunction function) where
  metric_eq := rfl
  parent? _ _ hparent := hparent
  knows _ hknown := hknown
  function? _ existing _ hexisting :=
    ⟨existing, Registry.function?_addFunction_of_some hexisting, .refl existing⟩

/-- A change of one function keeps the others, and that one as well if its
entries and its role stay. -/
theorem modifyFunction (catalog : Catalog Code) (id : ℕ)
    {change : GenericFunction Code → GenericFunction Code}
    (hchange : id ∈ registered ∨ ∀ function, (change function).Extends function) :
    Keeps registered catalog (catalog.modifyFunction id change) where
  metric_eq := rfl
  parent? _ _ hparent := hparent
  knows _ hknown := hknown
  function? other function hother hfunction := by
    by_cases hid : other = id
    · subst hid
      refine ⟨change function, ?_, hchange.resolve_left hother function⟩
      rw [Registry.function?_modifyFunction_self, hfunction]
      rfl
    · refine ⟨function, ?_, .refl function⟩
      rw [Registry.function?_modifyFunction_of_ne _ hid]
      exact hfunction

end Keeps

/-! ### What operations make of a catalog -/

theorem Derived.keeps {events : List Event} {catalog after : Catalog Code}
    {parent child : Predicate} (hderived : catalog.Derived parent child after)
    (hkept : catalog.WellKept events) : Keeps ∅ catalog after where
  metric_eq := hderived.metric_eq
  parent? _ _ hparent := Hierarchy.parent?_link_of_some hderived.link_eq hparent
  knows _ hknown := hknown.link hderived.link_eq
  function? id function _ hfunction := by
    rcases hderived.function?_append hfunction with hsame | ⟨htest, hextended⟩
    · exact ⟨function, hsame, .refl function⟩
    · refine ⟨_, hextended, [child], rfl, fun hordinary => ?_⟩
      obtain ⟨tested, htested, -⟩ := hkept.exists_tested htest hfunction
      rw [GenericFunction.predicate?, hordinary] at htested
      cases htested

theorem Keeps.changeRole (catalog : Catalog Code) (id : ℕ) (role : Role)
    (tests : Std.TreeMap ℕ ℕ) :
    Keeps {id} catalog
      { catalog.modifyFunction id ({ · with role := role }) with
        tests := tests } :=
  (modifyFunction catalog id (Or.inl (Set.mem_singleton id))).trans
    (changeTests _ _ tests)

theorem Reviewed.keeps {events : List Event} {catalog after : Catalog Code}
    {id : ℕ} (hreviewed : catalog.Reviewed id after)
    (hkept : catalog.WellKept events) : Keeps {id} catalog after := by
  cases hreviewed with
  | kept _ _ _ => exact .refl _ catalog
  | @promoted function derived _ _ _ hderived =>
      have hcreated := Keeps.create catalog function.name
      have hlinked := hderived.keeps (hkept.create function.name)
      exact ((hcreated.trans hlinked).mono (Set.empty_subset _)).trans
        (.changeRole derived id _ _)
  | demoted _ _ _ => exact .changeRole catalog id _ _

/-- An operation keeps everything but the function on which it registers. -/
theorem Performed.keeps {events new : List Event} {catalog after : Catalog Code}
    {operation : Operation Code}
    (hperformed : catalog.Performed operation after new)
    (hkept : catalog.WellKept events) :
    Keeps operation.registered catalog after := by
  cases hperformed with
  | unchanged => exact .refl _ catalog
  | createdPredicate name => exact .create catalog name
  | @defined name _ derived hderived =>
      have hlinked := hderived.keeps (hkept.create name)
      exact ((Keeps.create catalog name).trans hlinked).trans
        ((Keeps.addFunction derived _).trans (.changeTests _ _ _))
  | derived hderived => exact hderived.keeps hkept
  | createdFunction name => exact .addFunction catalog _
  | @registered id entry _ _ hfunction hreviewed =>
      exact (Keeps.modifyFunction catalog id (Or.inl (Set.mem_singleton id))).trans
        (hreviewed.keeps (hkept.addEntry hfunction entry))
  | @defaulted id _ _ _ =>
      exact .modifyFunction catalog id
        (Or.inr fun _ => GenericFunction.extends_of_eq rfl rfl)

end Catalog

namespace Registry

/-! ## Registries -/

/-- The registry has grown from another one by operations that join its own
predicates and register no entries on some functions. -/
inductive GrownFrom (closed : List ℕ) (base : Registry Code) :
    Registry Code → Prop
  | refl : GrownFrom closed base base
  | perform {registry : Registry Code} (operation : Operation Code) :
      GrownFrom closed base registry → operation.CachesUnder registry.metric →
        operation.LinksKnown registry.hierarchy →
          (∀ id ∈ closed, id ∉ operation.registered) →
            GrownFrom closed base (operation.perform registry).2

theorem Past.keeps {registry : Registry Code} {events : List Event}
    (hpast : registry.Past events) (operation : Operation Code)
    (hlinks : operation.LinksKnown registry.hierarchy) :
    Catalog.Keeps operation.registered registry.toCatalog
      (operation.perform registry).2.toCatalog :=
  (hpast.performed hlinks).keeps hpast.wellKept

/-- Growth keeps the functions on which nothing is registered. -/
theorem GrownFrom.keeps {closed : List ℕ} {base registry : Registry Code}
    (hgrown : GrownFrom closed base registry) {events : List Event}
    (hpast : base.Past events) :
    (∃ events, registry.Past events) ∧
      Catalog.Keeps {id | id ∉ closed} base.toCatalog registry.toCatalog := by
  induction hgrown with
  | refl => exact ⟨⟨events, hpast⟩, .refl _ _⟩
  | perform operation _ hcaches hlinks hclosed ih =>
      obtain ⟨⟨past, hregistry⟩, hkeeps⟩ := ih
      exact ⟨⟨_, hregistry.perform operation hcaches hlinks⟩,
        hkeeps.trans ((hregistry.keeps operation hlinks).mono
          fun id hid hmem => hclosed id hmem hid)⟩

theorem GrownFrom.run {closed : List ℕ} {base : Registry Code}
    {history : History Code} (hgrown : GrownFrom closed base history.registry)
    {operations : List (Operation Code)}
    (hadmits : history.admitsAll operations = true)
    (hclosed : ∀ operation ∈ operations, ∀ id ∈ closed, id ∉ operation.registered) :
    GrownFrom closed base (history.run operations).registry := by
  induction operations generalizing history with
  | nil => exact hgrown
  | cons operation rest ih =>
      obtain ⟨hfirst, hrest⟩ := Bool.and_eq_true_iff.mp hadmits
      obtain ⟨hoperation, hothers⟩ := List.forall_mem_cons.mp hclosed
      have hstep : GrownFrom closed base (history.step operation).registry :=
        hgrown.perform operation (History.cachesUnder_of_admits hfirst)
          (History.linksKnown_of_admits hfirst) hoperation
      exact ih hstep hrest hothers

end Registry

end PredicateDispatch
