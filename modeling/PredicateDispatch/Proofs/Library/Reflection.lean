import PredicateDispatch.Proofs.Library.Sequences
import PredicateDispatch.Proofs.Membership.Casts

/-!
# Casts by library functions

`AS` tags a value and `as` casts it, and both answers are then held to the return type
`isAny` of these functions.  So they are what they should be wherever the answer is
below `isAny`.  A predicate that is not below `isAny` shows: `AS` never answers with a
value that is tagged with it, and `as` never with one that only the cast has tagged.
-/

namespace PredicateDispatch

variable {Code : Type}

/-- An answer that is held to a type comes back as it is only if it is of the type. -/
theorem World.isA_of_castOrFail_eq_self
    {meaning : Code → List Value → Program Code Value} {depth : ℕ}
    {world final : World Code} {caller : String} {type : Predicate} {value : Value}
    (hrun : (Program.castOrFail caller type value).exec meaning depth world =
      some (.ok value, final)) : world.registry.isA type value.type = true := by
  rw [Program.castOrFail, World.exec_coerce_eq_casting] at hrun
  obtain ⟨⟨casting, after⟩, hcasting, hended⟩ := Option.map_eq_some_iff.mp hrun
  obtain ⟨houtcome, rfl⟩ := Prod.mk.inj hended
  cases casting with
  | given answer =>
      obtain rfl := Except.ok.inj houtcome
      by_contra hnot
      have hother := Bool.eq_false_iff.mpr hnot
      obtain ⟨hretagged, -⟩ := World.exists_verdict_of_casting_given hcasting hother
      have htype : answer.type = type := by
        rw [hretagged]
        rfl
      rw [htype] at hnot
      exact hnot (Hierarchy.isA_self _ type)
  | refused => cases houtcome
  | failed error => cases houtcome

/-- Holding what a program gives to a type of it changes nothing. -/
theorem Program.exec_bind_castOrFail {meaning : Code → List Value → Program Code Value}
    {depth : ℕ} {world : World Code} {caller : String} {type : Predicate}
    {program : Program Code Value}
    (hof : ∀ answer final, program.exec meaning depth world = some (.ok answer, final) →
      final.registry.isA type answer.type = true) :
    (program >>= castOrFail caller type).exec meaning depth world =
      program.exec meaning depth world := by
  rw [exec, bind_eq, runWith_bind]
  rcases hrun : program.exec meaning depth world with _ | ⟨error | answer, final⟩
  all_goals rw [exec] at hrun; rw [hrun]
  exact runWith_coerce_of_isA _ (hof answer final hrun) _

/-- What only ends as the other program does. -/
theorem Result.Related.exists_of_eq_some {related : World Code → World Code → Prop}
    {left right : Result Code Value} {outcome : Except Error Value} {final : World Code}
    (hrelated : Result.Related related left right)
    (hleft : left = some (outcome, final)) :
    ∃ final', right = some (outcome, final') := by
  subst hleft
  cases hrelated with
  | ended _ _ => exact ⟨_, rfl⟩

/-- A value that was below some type and is cast to another type below it gives a
value below it. -/
theorem World.isA_of_cast {meaning : Code → List Value → Program Code Value} {depth : ℕ}
    {world final : World Code} (horderly : world.registry.toCatalog.Orderly)
    {upper type : Predicate} {value answer : Value}
    (hvalue : world.registry.isA upper value.type = true)
    (htype : world.registry.isA upper type = true)
    (hcast : (Program.cast type value).exec meaning depth world =
      some (.ok answer, final)) : final.registry.isA upper answer.type = true := by
  have hbecomes := Program.continues_exec meaning depth (Program.cast type value) world
    _ _ hcast
  rw [Program.cast, World.exec_coerce_eq_casting] at hcast
  obtain ⟨⟨casting, after⟩, hcasting, hended⟩ := Option.map_eq_some_iff.mp hcast
  obtain ⟨houtcome, rfl⟩ := Prod.mk.inj hended
  cases casting with
  | given given =>
      obtain rfl := Except.ok.inj houtcome
      cases hbelow : world.registry.isA type value.type with
      | true =>
          obtain ⟨rfl, -⟩ := World.eq_of_casting_given hcasting hbelow
          exact hbecomes.isA horderly hvalue
      | false =>
          obtain ⟨rfl, -⟩ := World.exists_verdict_of_casting_given hcasting hbelow
          exact hbecomes.isA horderly htype
  | refused => cases houtcome
  | failed error => cases houtcome

namespace Library

variable {Custom : Type} {custom : Custom → List Value → Program (Body Custom) Value}
  {catalog : Catalog (Body Custom)} {types : BaseTypes} {id : ℕ} {type : Predicate}
  {value : Value}

/-- The row of a function on a predicate and a value of any type. -/
def castRow : Row := ⟨[.predicate, .any], .any⟩

theorem picks_castRow {primitive : Primitive}
    (hprovides : catalog.Provides types id [(castRow, primitive)])
    (hvalue : catalog.isA Predicate.any value.type = true) :
    catalog.Picks id ([Value.predicate type, value].map Value.type)
      (types.entry (castRow, primitive)) := by
  have haccepts : catalog.hierarchy.accepts (types.handles castRow.arguments)
      [Predicate.predicate, value.type] = true :=
    Hierarchy.accepts_iff_covers.mpr
      (.cons (Hierarchy.isA_self _ _) (.cons hvalue .nil))
  have hapart : Apart [castRow] := by decide
  exact picks_of_apart hprovides rfl hapart List.mem_cons_self haccepts

theorem answers_retag
    (hprovides : catalog.Provides types id [(castRow, .retag)])
    (hvalue : catalog.isA Predicate.any value.type = true)
    (htype : catalog.isA Predicate.any type = true) :
    Answers custom catalog id [.predicate type, value] (.ok (value.retag type)) :=
  answers_value (picks_castRow hprovides hvalue) rfl htype

/-- A call of such a function runs its code and holds the answer to `isAny`. -/
theorem exists_held {world : World (Body Custom)}
    (huses : ∀ code arguments,
      (custom code arguments).Uses (Request.CachesUnder world.registry.metric))
    (hreachable : world.registry.Reachable) {primitive : Primitive}
    (hprovides : world.registry.Provides types id [(castRow, primitive)])
    (hvalue : world.registry.isA Predicate.any value.type = true) :
    ∃ caller, ∀ depth, Result.Related World.Agrees
      ((Program.call id [.predicate type, value]).exec (Body.meaning custom) (depth + 1)
        world)
      ((primitive.run [.predicate type, value] >>=
          Program.castOrFail caller Predicate.any).exec (Body.meaning custom) depth
        world) := by
  have hpicks : world.registry.Picks id ([Value.predicate type, value].map Value.type)
      (types.entry (castRow, primitive)) := picks_castRow hprovides hvalue
  obtain ⟨function, hfunction⟩ := hpicks.exists_function?
  exact ⟨function.name, hpicks.exec_call_related (Body.uses_meaning huses) hreachable
    hfunction rfl⟩

/-- What `AS` and `as` make of a predicate and a value, compared with tagging and
casting it. -/
structure CastsInScripts (custom : Custom → List Value → Program (Body Custom) Value)
    (library : Library) (world : World (Body Custom)) (type : Predicate)
    (value : Value) : Prop where
  retag : world.registry.isA Predicate.any type = true →
    Answers custom world.registry.toCatalog library.reflection.retag
      [.predicate type, value] (.ok (value.retag type))
  retag_never : world.registry.isA Predicate.any type = false → ∀ depth final,
    (Program.call library.reflection.retag [.predicate type, value]).exec
        (Body.meaning custom) depth world ≠ some (.ok (value.retag type), final)
  /-- In any case `AS` holds the tagged value to the type `isAny`. -/
  retag_held : ∃ caller, ∀ depth, Result.Related World.Agrees
    ((Program.call library.reflection.retag [.predicate type, value]).exec
      (Body.meaning custom) (depth + 1) world)
    ((Program.castOrFail caller Predicate.any (value.retag type)).exec
      (Body.meaning custom) depth world)
  cast : world.registry.isA Predicate.any type = true → ∀ depth,
    Result.Related World.Agrees
      ((Program.call library.reflection.cast [.predicate type, value]).exec
        (Body.meaning custom) (depth + 1) world)
      ((Program.cast type value).exec (Body.meaning custom) depth world)
  /-- For other predicates as well, unless the cast gives a value that is not below
  `isAny`. -/
  cast_unless : ∀ depth,
    (∀ answer final, (Program.cast type value).exec (Body.meaning custom) depth world =
        some (.ok answer, final) →
      final.registry.isA Predicate.any answer.type = true) →
    Result.Related World.Agrees
      ((Program.call library.reflection.cast [.predicate type, value]).exec
        (Body.meaning custom) (depth + 1) world)
      ((Program.cast type value).exec (Body.meaning custom) depth world)
  cast_never : ∀ depth answer middle final,
    (Program.cast type value).exec (Body.meaning custom) depth world =
        some (.ok answer, middle) →
      middle.registry.isA Predicate.any answer.type = false →
        (Program.call library.reflection.cast [.predicate type, value]).exec
          (Body.meaning custom) (depth + 1) world ≠ some (.ok answer, final)
  /-- In any case `as` holds what the cast gives to the type `isAny`. -/
  cast_held : ∃ caller, ∀ depth, Result.Related World.Agrees
    ((Program.call library.reflection.cast [.predicate type, value]).exec
      (Body.meaning custom) (depth + 1) world)
    ((Program.cast type value >>= Program.castOrFail caller Predicate.any).exec
      (Body.meaning custom) depth world)

/-- Wherever the base library has been installed and `AS` and `as` have got no further
entries, they tag and cast values below `isAny` as they should, for all predicates
below `isAny`, and with the exceptions described for all others. -/
theorem casts_in_scripts {library : Library} {world : World (Body Custom)}
    (hinstalled : library.InstalledIn [library.reflection.retag, library.reflection.cast]
      world.registry)
    (huses : ∀ code arguments,
      (custom code arguments).Uses (Request.CachesUnder world.registry.metric))
    (type : Predicate) {value : Value}
    (hvalue : world.registry.isA Predicate.any value.type = true) :
    CastsInScripts custom library world type value := by
  have hretag : world.registry.Provides library.types library.reflection.retag
      [(castRow, .retag)] :=
    hinstalled.provides (by simp) (by simp [fittings, reflectionFittings, castRow])
  have hcast : world.registry.Provides library.types library.reflection.cast
      [(castRow, .cast)] :=
    hinstalled.provides (by simp) (by simp [fittings, reflectionFittings, castRow])
  have hreachable := hinstalled.reachable
  obtain ⟨retagger, hretag_held⟩ := exists_held huses hreachable hretag hvalue
  obtain ⟨caster, hcast_held⟩ := exists_held huses hreachable hcast hvalue
  have hunless : ∀ depth,
      (∀ answer final, (Program.cast type value).exec (Body.meaning custom) depth world =
          some (.ok answer, final) →
        final.registry.isA Predicate.any answer.type = true) →
      (Program.cast type value >>= Program.castOrFail caster Predicate.any).exec
          (Body.meaning custom) depth world =
        (Program.cast type value).exec (Body.meaning custom) depth world :=
    fun _ => Program.exec_bind_castOrFail
  refine {
    retag := answers_retag hretag hvalue
    retag_never := fun hnot depth final hrun => ?_
    retag_held := ⟨retagger, hretag_held⟩
    cast := fun htype depth => ?_
    cast_unless := fun depth hany => hunless depth hany ▸ hcast_held depth
    cast_never := fun depth answer middle final hanswer hnot hrun => ?_
    cast_held := ⟨caster, hcast_held⟩ }
  · cases depth with
    | zero =>
        rw [(picks_castRow hretag hvalue).exec_call_zero hreachable] at hrun
        cases hrun
    | succ depth =>
        obtain ⟨final', hheld⟩ := (hretag_held depth).exists_of_eq_some hrun
        exact Bool.false_ne_true (hnot.symm.trans (World.isA_of_castOrFail_eq_self hheld))
  · exact hunless depth (fun _ _ => World.isA_of_cast hreachable.orderly hvalue htype) ▸
      hcast_held depth
  · obtain ⟨final', hheld⟩ := (hcast_held depth).exists_of_eq_some hrun
    obtain ⟨answer', middle', hfirst, hsecond⟩ := Program.exists_of_runWith_bind hheld
    obtain ⟨hsame, rfl⟩ := Prod.mk.inj (Option.some.inj (hanswer.symm.trans hfirst))
    obtain rfl := Except.ok.inj hsame
    exact Bool.false_ne_true (hnot.symm.trans (World.isA_of_castOrFail_eq_self hsecond))

/-- An integer can be tagged as a text, but not with a new predicate that has not been
linked. -/
theorem casts_in_scripts_loose :
    ∃ (library : Library) (world : World (Body Empty)) (loose : Predicate),
      library.InstalledIn [library.reflection.retag, library.reflection.cast]
        world.registry ∧
      world.registry.hierarchy.Knows loose ∧
      Answers nofun world.registry.toCatalog library.reflection.retag
        [.predicate library.types.string, library.types.intValue 1]
        (.ok (.tagged (.int 1) library.types.string)) ∧
      ∀ depth final,
        (Program.call library.reflection.retag
            [.predicate loose, library.types.intValue 5]).exec
          (Body.meaning nofun) depth world ≠ some (.ok (.tagged (.int 5) loose), final) := by
  obtain ⟨library, registry, ⟨events, hpast⟩, -, hinstalled⟩ :=
    exists_installedIn_of_past Empty {}
  have hclosed := (hinstalled [library.reflection.retag, library.reflection.cast]).perform
    (.createPredicate "isLoose") trivial fun id _ => Set.notMem_empty id
  have hany : ∀ type : BaseType, (registry.createPredicate "isLoose").isA Predicate.any
      (library.types.handle type) = true := fun type =>
    (hclosed.isA_handle .any type).trans (by cases type <;> rfl)
  have hloose : (registry.createPredicate "isLoose").isA Predicate.any
      (registry.hierarchy.fresh "isLoose") = false :=
    hpast.wellKept.confined.isA_create_fresh_eq_false hpast.wellKept.coherent "isLoose"
      hpast.knows_any
  refine ⟨library, { registry := registry.createPredicate "isLoose" },
    registry.hierarchy.fresh "isLoose", hclosed,
    Hierarchy.knows_fresh registry.hierarchy "isLoose", ?_, ?_⟩
  · have hcasts : CastsInScripts nofun library
        { registry := registry.createPredicate "isLoose" } library.types.string
        (library.types.intValue 1) := casts_in_scripts hclosed nofun _ (hany .int)
    exact hcasts.retag (hany .string)
  · have hcasts : CastsInScripts nofun library
        { registry := registry.createPredicate "isLoose" }
        (registry.hierarchy.fresh "isLoose") (library.types.intValue 5) :=
      casts_in_scripts hclosed nofun _ (hany .int)
    exact hcasts.retag_never hloose

end Library

end PredicateDispatch
