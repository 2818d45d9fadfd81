import PredicateDispatch.Proofs.Library.Installation
import PredicateDispatch.Proofs.Program.Computes
import PredicateDispatch.Proofs.Resolution.Specification

/-!
# Calls of installed functions

A registry in which the base library was installed may grow by any operations, and
a base function on which none of them registers an entry still has its rows with
their code.  Which row a call picks is then a matter of the base types that are
above those of the arguments, under the symmetric metric as well, unless one of
several accepting rows is too far away for it.  The code of the rows asks for nothing
that would tell registries with one catalog apart.
-/

namespace PredicateDispatch

/-! ## Base types -/

namespace BaseTypes.Placed

variable {types : BaseTypes} {hierarchy : Hierarchy}
  (hplaced : types.Placed hierarchy) (hcoherent : hierarchy.Coherent)
include hplaced hcoherent

theorem typeDistance_handle_le {upper lower : BaseType}
    (habove : BaseType.above upper lower = true) :
    hierarchy.typeDistance (types.handle lower) (types.handle upper) ≤
      (BaseType.climb 3 lower).length := by
  induction lower using BaseType.downward_induction with
  | root lower hroot =>
      rw [BaseType.above_root hroot, beq_iff_eq] at habove
      subst habove
      exact (hierarchy.typeDistance_self rfl).le.trans (Nat.zero_le _)
  | child lower parent hparent ih =>
      rw [BaseType.above_parent hparent, Bool.or_eq_true, beq_iff_eq] at habove
      rcases habove with rfl | habove
      · exact (hierarchy.typeDistance_self rfl).le.trans (Nat.zero_le _)
      · have hdeeper : (BaseType.climb 3 lower).length =
            (BaseType.climb 3 parent).length + 1 := by
          cases lower <;> cases hparent <;> rfl
        have hbelow := (hplaced.isA_handle hcoherent upper parent).trans habove
        have hlinked := hplaced.parent? lower parent hparent
        calc hierarchy.typeDistance (types.handle lower) (types.handle upper)
            = hierarchy.typeDistance (types.handle parent) (types.handle upper) + 1 :=
              hcoherent.typeDistance_of_parent hlinked hbelow
          _ ≤ (BaseType.climb 3 parent).length + 1 := Nat.succ_le_succ (ih habove)
          _ = (BaseType.climb 3 lower).length := hdeeper.symm

/-- No base type is too far below another one for the symmetric metric. -/
theorem inReach_handles (metric : Metric) {upper lower : List BaseType}
    (habove : BaseType.aboveAll upper lower = true) :
    hierarchy.InReach metric (types.handles upper) (types.handles lower) := by
  induction upper generalizing lower with
  | nil => trivial
  | cons first rest ih =>
      cases lower with
      | nil => trivial
      | cons second others =>
          obtain ⟨hfirst, hrest⟩ := Bool.and_eq_true_iff.mp habove
          refine ⟨fun _ => ?_, ih hrest⟩
          refine (hplaced.typeDistance_handle_le hcoherent hfirst).trans_lt ?_
          cases second <;> decide

end BaseTypes.Placed

/-! ## Reading arguments -/

theorem Payload.char?_toNat (c : Char) : (Payload.int c.toNat).char? = some c := by
  have hvalid : c.toNat.isValidChar := c.valid
  change (if c.toNat.isValidChar then some (Char.ofNat c.toNat) else none) = some c
  rw [if_pos hvalid, Char.ofNat_toNat]

theorem Arguments.read_eq_ok_iff {α : Type} {view : Payload → Option α}
    {expected : Expectation} {arguments : List Value} {index : ℕ} {result : α} :
    read view expected arguments index = .ok result ↔
      ∃ value, arguments[index]? = some value ∧ view value.payload = some result := by
  rw [read, Arguments.value]
  cases arguments[index]? with
  | none => simp
  | some value =>
      dsimp only
      cases hview : view value.payload <;> simp [hview]

/-- An argument that cannot be read is no matter of bounds. -/
theorem Arguments.read_ne_bounds {α : Type} (view : Payload → Option α)
    (expected : Expectation) (arguments : List Value) (index : ℕ) (place : ℤ)
    (length : ℕ) :
    read view expected arguments index ≠ .error (.bounds place length) := by
  rw [read, Arguments.value]
  cases arguments[index]? with
  | none => exact nofun
  | some value =>
      dsimp only
      cases view value.payload <;> exact nofun

/-! ## What the code asks for -/

section Uses

variable {Code α β : Type} {metric : Metric} {allowed : Request Code → Prop}

theorem Program.Uses.collect {program : α → Program Code β}
    (hprogram : ∀ item, (program item).Uses allowed) (earlier : List β)
    (items : List α) : (Program.collect program earlier items).Uses allowed := by
  induction items generalizing earlier with
  | nil => exact .done _
  | cons item items ih =>
      exact (hprogram item).bind fun result => ih (result :: earlier)

/-- Everything that the code of the base library asks for, but writing. -/
structure Program.AllowsLibrary (allowed : Request Code → Prop) : Prop
    extends Program.AllowsDispatch allowed where
  derive : ∀ parent child, allowed (.registry (.derive parent child))
  runClosure : ∀ identity arguments, allowed (.runClosure identity arguments)

theorem Request.allowsLibrary (metric : Metric) :
    Program.AllowsLibrary (Request.CachesUnder metric : Request Code → Prop) where
  toAllowsDispatch := Request.allowsDispatch metric
  derive _ _ := trivial
  runClosure _ _ := trivial

/-- The code that writes to the console. -/
def Primitive.prints : Primitive → Bool
  | printNewline | printLine _ => true
  | _ => false

section

variable (hallows : Program.AllowsLibrary allowed)
include hallows

theorem Program.uses_toText (render : ℕ) (value : Value) :
    (Program.toText render value : Program Code String).Uses allowed := by
  refine (Program.uses_call hallows.toAllowsDispatch render [value]).bind
    fun answer => ?_
  split <;> exact .done _

theorem Program.uses_bindingText (render : ℕ) (binding : Binding) :
    (Program.bindingText render binding : Program Code String).Uses allowed :=
  (Program.uses_toText hallows render binding.key).bind fun _ =>
    (Program.uses_toText hallows render binding.value).bind fun _ => .done _

theorem Program.uses_apply (callee : Value) (arguments : List Value) :
    (Program.apply callee arguments : Program Code Value).Uses allowed := by
  have hdispatch := hallows.toAllowsDispatch
  rw [Program.apply]
  split
  · exact Program.uses_call hdispatch _ arguments
  · exact .request (hallows.runClosure _ _)
  · refine (Program.uses_inspect hdispatch).bind fun catalog => ?_
    split
    · exact Program.uses_call hdispatch _ arguments
    · exact .done _
  · exact .done _

/-- Primitives ask for nothing else, but for writing if they print. -/
theorem Primitive.uses_run (primitive : Primitive) (arguments : List Value)
    (hwrites : primitive.prints = true → ∀ text, allowed (.write text)) :
    (primitive.run arguments : Program Code Value).Uses allowed := by
  have hdispatch := hallows.toAllowsDispatch
  have htext := Program.uses_toText hallows
  cases primitive with
  | listText render types =>
      exact (Program.Uses.done _).bind fun items =>
        (Program.Uses.collect (htext render) [] items).bind
          fun _ => .done _
  | mapText render types =>
      exact (Program.Uses.done _).bind fun bindings =>
        (Program.Uses.collect (Program.uses_bindingText hallows render) [] bindings).bind
          fun _ => .done _
  | appendRendered render types =>
      exact (Program.Uses.done _).bind fun value =>
        (htext render value).bind fun _ =>
          (Program.Uses.done _).bind fun _ => .done _
  | prependRendered render types =>
      exact (Program.Uses.done _).bind fun value =>
        (htext render value).bind fun _ =>
          (Program.Uses.done _).bind fun _ => .done _
  | derive =>
      exact (Program.Uses.done _).bind fun parent =>
        (Program.Uses.done _).bind fun child =>
          (Program.Uses.request (hallows.derive parent child)).bind fun _ => .done _
  | isA =>
      exact (Program.Uses.done _).bind fun ancestor =>
        (Program.Uses.done _).bind fun descendant =>
          (Program.uses_inspect hdispatch).bind fun _ => .done _
  | cast =>
      exact (Program.Uses.done _).bind fun expected =>
        (Program.Uses.done _).bind fun value =>
          Program.uses_coerce hdispatch expected value _
  | apply =>
      exact (Program.Uses.done _).bind fun callee =>
        (Program.Uses.done _).bind fun items => Program.uses_apply hallows callee items
  | printNewline => exact (Program.Uses.request (hwrites rfl _)).bind fun _ => .done _
  | printLine render =>
      exact (Program.Uses.done _).bind fun value =>
        (htext render value).bind fun text =>
          (Program.Uses.request (hwrites rfl _)).bind fun _ => .done _
  | _ => exact .done _

end

theorem Body.uses_meaning {Custom : Type}
    {custom : Custom → List Value → Program (Body Custom) Value}
    (hcustom : ∀ code arguments,
      (custom code arguments).Uses (Request.CachesUnder metric))
    (body : Body Custom) (arguments : List Value) :
    (body.meaning custom arguments).Uses (Request.CachesUnder metric) := by
  cases body with
  | primitive primitive =>
      exact primitive.uses_run (Request.allowsLibrary metric) arguments fun _ _ => trivial
  | custom code => exact hcustom code arguments

end Uses

/-! ## Picking a row -/

/-- The function has these rows with their code and is nobody's test, in a forest
with the base types. -/
structure Catalog.Provides {Custom : Type} (catalog : Catalog (Body Custom))
    (types : BaseTypes) (id : ℕ) (rows : List (Row × Primitive)) : Prop where
  coherent : catalog.hierarchy.Coherent
  placed : types.Placed catalog.hierarchy
  fitted : catalog.Fitted id (rows.map types.entry)

namespace Catalog.Provides

variable {Custom : Type} {catalog : Catalog (Body Custom)} {types : BaseTypes}
  {id : ℕ} {rows : List (Row × Primitive)} {row : Row} {primitive : Primitive}
  {actual : Signature}

/-- A row that accepts the call is picked if all others that accept it are farther. -/
theorem picks_of_nearest (hprovides : catalog.Provides types id rows)
    (hnodup : ((rows.map Prod.fst).map Row.arguments).Nodup)
    (hrow : (row, primitive) ∈ rows)
    (haccepts : catalog.hierarchy.accepts (types.handles row.arguments) actual =
      true)
    (hfarther : ∀ other ∈ (rows.map Prod.fst).map Row.arguments,
      other ≠ row.arguments →
        catalog.hierarchy.accepts (types.handles other) actual = true →
          catalog.hierarchy.totalDistance catalog.metric
              (types.handles row.arguments) actual <
            catalog.hierarchy.totalDistance catalog.metric (types.handles other)
              actual) :
    catalog.Picks id actual (types.entry (row, primitive)) := by
  obtain ⟨function, hfunction, hentries, -⟩ := hprovides.fitted.function
  have hsignatures : function.signatures =
      ((rows.map Prod.fst).map Row.arguments).map types.handles :=
    (GenericFunction.has_of_entries_eq hentries).signatures_eq
  obtain ⟨index, hindex⟩ := List.getElem?_of_mem hrow
  have hentry : function.entries[index]? = some (types.entry (row, primitive)) := by
    rw [hentries, List.getElem?_map, hindex]
    rfl
  have hdeclared : function.signatures[index]? =
      some (types.handles row.arguments) := by
    rw [GenericFunction.signatures, List.getElem?_map, hentry]
    rfl
  refine ⟨function, _, hfunction, Hierarchy.resolveBy_eq_unique_of_nearest hdeclared
    haccepts fun position declared hposition hdeclared_accepts hne => ?_, hentry⟩
  rw [hsignatures, List.getElem?_map] at hposition
  obtain ⟨other, hother, rfl⟩ := Option.map_eq_some_iff.mp hposition
  have hdifferent : other ≠ row.arguments := by
    rintro rfl
    have hrow_at : ((rows.map Prod.fst).map Row.arguments)[index]? =
        some row.arguments := by
      rw [List.getElem?_map, List.getElem?_map, hindex]
      rfl
    have hlt := (List.getElem?_eq_some_iff.mp hother).1
    exact hne ((List.getElem?_inj hlt hnodup).mp (hother.trans hrow_at.symm))
  exact hfarther other (List.mem_of_getElem? hother) hdifferent hdeclared_accepts

/-- A row that accepts the call is picked if all others that accept it are above,
and it is itself not too far away. -/
theorem picks (hprovides : catalog.Provides types id rows)
    (hnodup : ((rows.map Prod.fst).map Row.arguments).Nodup)
    (hrow : (row, primitive) ∈ rows)
    (haccepts : catalog.hierarchy.accepts (types.handles row.arguments) actual =
      true)
    (hothers : ∀ other ∈ (rows.map Prod.fst).map Row.arguments,
      other ≠ row.arguments →
        catalog.hierarchy.accepts (types.handles other) actual = true →
          BaseType.aboveAll other row.arguments = true ∧
            catalog.hierarchy.InReach catalog.metric
              (types.handles row.arguments) actual) :
    catalog.Picks id actual (types.entry (row, primitive)) := by
  refine hprovides.picks_of_nearest hnodup hrow haccepts
    fun other hother hne hother_accepts => ?_
  obtain ⟨habove, hreach⟩ := hothers other hother hne hother_accepts
  have hbase := hprovides.placed.accepts_handles hprovides.coherent
  exact (hprovides.coherent.totalDistance_le_and_lt haccepts
    ((hbase _ _).trans habove) hreach).2
      fun hids => hne (hprovides.placed.eq_of_handles_eq hids)

variable {table : List Row} (hprovides : catalog.Provides types id rows)
  (htable : rows.map Prod.fst = table) (hnodup : (table.map Row.arguments).Nodup)
  (hrow : (row, primitive) ∈ rows)
include hprovides htable hnodup hrow

/-- The only row that can accept the call is picked: no other one has a row below
it and the base types that are known of the arguments. -/
theorem picks_of_sole {known : List BaseType}
    (hknown : catalog.hierarchy.accepts (types.handles known) actual = true)
    (habove : BaseType.aboveAll row.arguments known = true)
    (hsole : ∀ other ∈ table.map Row.arguments, other ≠ row.arguments →
      BaseType.meet? other known = none) :
    catalog.Picks id actual (types.entry (row, primitive)) := by
  subst htable
  have haccepts : catalog.hierarchy.accepts (types.handles row.arguments) actual =
      true :=
    hprovides.coherent.accepts_trans hknown
      ((hprovides.placed.accepts_handles hprovides.coherent _ _).trans habove)
  refine hprovides.picks hnodup hrow haccepts fun other hother hne
    hother_accepts => ?_
  obtain ⟨meet, hmeet, -⟩ :=
    hprovides.placed.exists_meet hprovides.coherent hother_accepts hknown
  rw [hsole other hother hne] at hmeet
  cases hmeet

/-- For arguments that have base types themselves, the lowest row above these is
picked. -/
theorem picks_handles {actual : List BaseType}
    (haccepts : BaseType.aboveAll row.arguments actual = true)
    (hbelow : ∀ other ∈ table.map Row.arguments,
      BaseType.aboveAll other actual = true →
        BaseType.aboveAll other row.arguments = true) :
    catalog.Picks id (types.handles actual) (types.entry (row, primitive)) := by
  subst htable
  have hactual := hprovides.placed.accepts_handles hprovides.coherent
  refine hprovides.picks hnodup hrow ((hactual _ _).trans haccepts)
    fun other hother _ hother_accepts => ⟨?_, ?_⟩
  · exact hbelow other hother ((hactual _ _).symm.trans hother_accepts)
  · exact hprovides.placed.inReach_handles hprovides.coherent _ haccepts

end Catalog.Provides

/-! ## Registries with the base library -/

namespace Library

variable {Custom : Type}

/-- The library was installed in a registry from which this one has grown, and
since then no entry was registered on the functions that are closed. -/
def InstalledIn (library : Library) (closed : List ℕ)
    (registry : Registry (Body Custom)) : Prop :=
  ∃ (runTask : Runner (Body Custom)) (world after : World (Body Custom)),
    world.registry.Reachable ∧
    install.runWith runTask world = some (.ok library, after) ∧
    Registry.Follows closed after.registry registry

namespace InstalledIn

variable {library : Library} {closed : List ℕ} {registry : Registry (Body Custom)}
  (hinstalled : library.InstalledIn closed registry)
include hinstalled

theorem exists_equipped : ∃ (base : Registry (Body Custom)) (metric : Metric),
    base.Equipped metric library.types library.fittings
      [library.collections.isEmpty] ∧ Registry.Follows closed base registry := by
  obtain ⟨runTask, world, after, hreachable, hinstall, hfollows⟩ := hinstalled
  exact ⟨after.registry, world.registry.metric,
    install_leaves hreachable library after hinstall, hfollows⟩

theorem reachable : registry.Reachable := by
  obtain ⟨base, metric, hequipped, hfollows⟩ := hinstalled.exists_equipped
  exact hfollows.reachable hequipped.reachable

theorem placed : library.types.Placed registry.hierarchy := by
  obtain ⟨base, metric, hequipped, hfollows⟩ := hinstalled.exists_equipped
  have hremains := (hfollows.becomes.orderly_and_remains
    hequipped.reachable.orderly).2
  exact ⟨fun type parent hparent =>
    hremains.parent? _ _ (hequipped.placed.parent? type parent hparent),
    hequipped.placed.distinct⟩

theorem isA_handle (upper lower : BaseType) :
    registry.isA (library.types.handle upper) (library.types.handle lower) =
      BaseType.above upper lower :=
  hinstalled.placed.isA_handle hinstalled.reachable.orderly.coherent upper lower

/-- A closed function has its rows. -/
theorem provides {id : ℕ} {rows : List (Row × Primitive)} (hid : id ∈ closed)
    (hfitting : (id, rows) ∈ library.fittings) :
    registry.Provides library.types id rows := by
  obtain ⟨base, metric, hequipped, hfollows⟩ := hinstalled.exists_equipped
  exact {
    coherent := hinstalled.reachable.orderly.coherent
    placed := hinstalled.placed
    fitted := hfollows.fitted hequipped.reachable hid (hequipped.fitted _ hfitting) }

theorem provides_get (hget : library.collections.get ∈ closed) :
    registry.Provides library.types library.collections.get
      (getFittings library.types) :=
  hinstalled.provides hget
    (library.collectionFittings_subset (by simp [collectionFittings]))

theorem provides_set (hset : library.collections.set ∈ closed) :
    registry.Provides library.types library.collections.set
      (setFittings library.types) :=
  hinstalled.provides hset
    (library.collectionFittings_subset (by simp [collectionFittings]))

end InstalledIn

/-- The library can be installed into every fresh registry. -/
theorem exists_installedIn (configuration : Configuration)
    (meaning : Body Custom → List Value → Program (Body Custom) Value) (depth : ℕ) :
    ∃ library registry,
      install.exec meaning depth { registry := .fresh configuration } =
        some (.ok library, { registry := registry }) ∧
      ∀ closed, library.InstalledIn closed registry := by
  have hpast : (Registry.fresh configuration : Registry (Body Custom)).Past
      Registry.kernelPast := .fresh configuration
  obtain ⟨library, registry, hinstall, -⟩ :=
    exists_installs { registry := .fresh configuration } hpast meaning depth
  exact ⟨library, registry, hinstall, fun closed =>
    ⟨_, _, _, hpast.reachable, hinstall, .refl⟩⟩

/-- And then the registry has a past. -/
theorem exists_installedIn_of_past (Custom : Type) (configuration : Configuration) :
    ∃ (library : Library) (registry : Registry (Body Custom)),
      (∃ events, registry.Past events) ∧
      registry.metric = configuration.distance ∧
      ∀ closed, library.InstalledIn closed registry := by
  have hpast : (Registry.fresh configuration : Registry (Body Custom)).Past
      Registry.kernelPast := .fresh configuration
  obtain ⟨library, registry, hinstall, hinstalls⟩ := exists_installs
    { registry := .fresh configuration } hpast (fun _ _ => .done (.ok .null)) 0
  have hequipped := install_leaves hpast.reachable library _ hinstall
  exact ⟨library, registry, hinstalls.past, hequipped.metric_eq, fun closed =>
    ⟨_, _, _, hpast.reachable, hinstall, .refl⟩⟩

/-- Operations that register nothing on the closed functions change nothing. -/
theorem InstalledIn.perform {library : Library} {closed : List ℕ}
    {registry : Registry (Body Custom)}
    (hinstalled : library.InstalledIn closed registry)
    (operation : Operation (Body Custom))
    (hcaches : operation.CachesUnder registry.metric)
    (hclosed : ∀ id ∈ closed, id ∉ operation.registered) :
    library.InstalledIn closed (operation.perform registry).2 := by
  obtain ⟨runTask, world, after, hreachable, hinstall, hfollows⟩ := hinstalled
  exact ⟨runTask, world, after, hreachable, hinstall,
    hfollows.perform operation hcaches hclosed⟩

end Library

end PredicateDispatch
