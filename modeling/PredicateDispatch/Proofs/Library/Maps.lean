import PredicateDispatch.Proofs.Library.Sequences
import PredicateDispatch.Proofs.Value.Equality

/-!
# Reading and changing maps

A map is a list of bindings, and a key stands for the first of them whose key has
an equal payload.  This equality mixes integers and reals, fails on NaN and is not
transitive, and keys may occur more than once, so that the laws of `get` and `set`
are stated for bindings of any kind, with what they need of the keys.
-/

namespace PredicateDispatch

/-! ## Bindings -/

namespace Collections

/-- None of the bindings has an equal key. -/
def Absent (key : Payload) (bindings : List Binding) : Prop :=
  ∀ binding ∈ bindings, (binding.key.payload == key) = false

variable {key value : Value} {other : Payload} {binding : Binding}
  {bindings before after : List Binding}

theorem lookup_cons_of_eq (hequal : (binding.key.payload == other) = true) :
    lookup other (binding :: bindings) = some binding.value :=
  if_pos hequal

theorem lookup_cons_of_ne (hdiffers : (binding.key.payload == other) = false) :
    lookup other (binding :: bindings) = lookup other bindings :=
  if_neg (Bool.eq_false_iff.mp hdiffers)

theorem bindKey_cons_of_eq (hequal : (binding.key.payload == key.payload) = true) :
    bindKey key value (binding :: bindings) = ⟨binding.key, value⟩ :: bindings :=
  if_pos hequal

theorem bindKey_cons_of_ne (hdiffers : (binding.key.payload == key.payload) = false) :
    bindKey key value (binding :: bindings) = binding :: bindKey key value bindings :=
  if_neg (Bool.eq_false_iff.mp hdiffers)

theorem absent_cons_iff :
    Absent other (binding :: bindings) ↔
      (binding.key.payload == other) = false ∧ Absent other bindings :=
  List.forall_mem_cons

/-- What the bindings have for a key: the value of the first one with an equal key,
and null if there is none. -/
inductive Finds (key : Payload) : List Binding → Value → Prop
  | absent {bindings : List Binding} : Absent key bindings → Finds key bindings .null
  | first {before after : List Binding} {binding : Binding} : Absent key before →
      (binding.key.payload == key) = true →
        Finds key (before ++ binding :: after) binding.value

/-- The key is absent, or there is a first binding that has it. -/
theorem absent_or_exists_first (other : Payload) (bindings : List Binding) :
    Absent other bindings ∨ ∃ before binding after,
      bindings = before ++ binding :: after ∧ Absent other before ∧
        (binding.key.payload == other) = true := by
  induction bindings with
  | nil => exact Or.inl (List.forall_mem_nil _)
  | cons binding bindings ih =>
      cases hkey : binding.key.payload == other with
      | true => exact Or.inr ⟨[], binding, bindings, rfl, List.forall_mem_nil _, hkey⟩
      | false =>
          rcases ih with habsent | ⟨before, found, after, rfl, hbefore, hfound⟩
          · exact Or.inl (absent_cons_iff.mpr ⟨hkey, habsent⟩)
          · exact Or.inr ⟨binding :: before, found, after, rfl,
              absent_cons_iff.mpr ⟨hkey, hbefore⟩, hfound⟩

theorem lookup_of_absent (habsent : Absent other bindings) :
    lookup other bindings = none := by
  induction bindings with
  | nil => rfl
  | cons binding bindings ih =>
      obtain ⟨hkey, hrest⟩ := absent_cons_iff.mp habsent
      rw [lookup_cons_of_ne hkey, ih hrest]

theorem lookup_of_first (hbefore : Absent other before)
    (hequal : (binding.key.payload == other) = true) :
    lookup other (before ++ binding :: after) = some binding.value := by
  induction before with
  | nil => exact lookup_cons_of_eq hequal
  | cons earlier before ih =>
      obtain ⟨hkey, hrest⟩ := absent_cons_iff.mp hbefore
      rw [List.cons_append, lookup_cons_of_ne hkey, ih hrest]

theorem Finds.lookup_eq {found : Value} (hfinds : Finds other bindings found) :
    (lookup other bindings).getD .null = found := by
  cases hfinds with
  | absent habsent => rw [lookup_of_absent habsent, Option.getD_none]
  | first hbefore hequal => rw [lookup_of_first hbefore hequal, Option.getD_some]

theorem bindKey_of_absent (habsent : Absent key.payload bindings) :
    bindKey key value bindings = bindings ++ [⟨key, value⟩] := by
  induction bindings with
  | nil => rfl
  | cons binding bindings ih =>
      obtain ⟨hkey, hrest⟩ := absent_cons_iff.mp habsent
      rw [bindKey_cons_of_ne hkey, ih hrest, List.cons_append]

theorem bindKey_of_first (hbefore : Absent key.payload before)
    (hequal : (binding.key.payload == key.payload) = true) :
    bindKey key value (before ++ binding :: after) =
      before ++ ⟨binding.key, value⟩ :: after := by
  induction before with
  | nil => exact bindKey_cons_of_eq hequal
  | cons earlier before ih =>
      obtain ⟨hkey, hrest⟩ := absent_cons_iff.mp hbefore
      rw [List.cons_append, bindKey_cons_of_ne hkey, ih hrest, List.cons_append]

/-- The map grows exactly if the key was absent. -/
theorem bindKey_eq_append_iff :
    bindKey key value bindings = bindings ++ [⟨key, value⟩] ↔
      Absent key.payload bindings := by
  refine ⟨fun hgrown => ?_, bindKey_of_absent⟩
  rcases absent_or_exists_first key.payload bindings with
    habsent | ⟨before, binding, after, rfl, hbefore, hequal⟩
  · exact habsent
  · rw [bindKey_of_first hbefore hequal] at hgrown
    have hlength := congrArg List.length hgrown
    simp at hlength

theorem keys_prefix_bindKey :
    bindings.map Binding.key <+: (bindKey key value bindings).map Binding.key := by
  rcases absent_or_exists_first key.payload bindings with
    habsent | ⟨before, binding, after, rfl, hbefore, hequal⟩
  · rw [bindKey_of_absent habsent, List.map_append]
    exact List.prefix_append _ _
  · rw [bindKey_of_first hbefore hequal, List.map_append, List.map_append]
    exact List.prefix_rfl

section Reflexive

variable (hself : (key.payload == key.payload) = true)
include hself

theorem lookup_bindKey_self :
    lookup key.payload (bindKey key value bindings) = some value := by
  rcases absent_or_exists_first key.payload bindings with
    habsent | ⟨before, binding, after, rfl, hbefore, hequal⟩
  · rw [bindKey_of_absent habsent]
    exact lookup_of_first habsent hself
  · rw [bindKey_of_first hbefore hequal]
    exact lookup_of_first hbefore hequal

theorem bindKey_bindKey {last : Value} :
    bindKey key last (bindKey key value bindings) = bindKey key last bindings := by
  rcases absent_or_exists_first key.payload bindings with
    habsent | ⟨before, binding, after, rfl, hbefore, hequal⟩
  · rw [bindKey_of_absent habsent, bindKey_of_absent habsent]
    exact bindKey_of_first habsent hself
  · rw [bindKey_of_first hbefore hequal, bindKey_of_first hbefore hequal]
    exact bindKey_of_first hbefore hequal

end Reflexive

/-- A key that differs from the one that is set, also by all keys that are stored,
keeps its value. -/
theorem lookup_bindKey_other (hdiffers : (key.payload == other) = false)
    (hnone : ∀ binding ∈ bindings, (binding.key.payload == key.payload) = true →
      (binding.key.payload == other) = false) :
    lookup other (bindKey key value bindings) = lookup other bindings := by
  induction bindings with
  | nil => exact lookup_cons_of_ne hdiffers
  | cons binding bindings ih =>
      obtain ⟨hfirst, hrest⟩ := List.forall_mem_cons.mp hnone
      cases hkey : binding.key.payload == key.payload with
      | true =>
          have hskipped := hfirst hkey
          rw [bindKey_cons_of_eq hkey, lookup_cons_of_ne hskipped]
          exact lookup_cons_of_ne hskipped
      | false =>
          rw [bindKey_cons_of_ne hkey, lookup, lookup, ih hrest]

end Collections

namespace Library

variable {Custom : Type} {custom : Custom → List Value → Program (Body Custom) Value}

/-! ## What the functions answer -/

/-- The value is a map with these bindings. -/
structure IsMap (catalog : Catalog (Body Custom)) (types : BaseTypes) (map : Value)
    (bindings : List Binding) : Prop where
  type : catalog.isA types.map map.type = true
  reads : map.payload.map? = some bindings

section Calls

variable {catalog : Catalog (Body Custom)} {types : BaseTypes} {id : ℕ}
  {map key value : Value} {bindings : List Binding}

theorem isMap_mapValue (catalog : Catalog (Body Custom)) (types : BaseTypes)
    (bindings : List Binding) :
    IsMap catalog types (types.mapValue bindings) bindings :=
  ⟨Hierarchy.isA_self _ types.map, rfl⟩

variable (hmap : IsMap catalog types map bindings)
  (hkey : catalog.isA Predicate.any key.type = true)

theorem run_getBound (hreads : map.payload.map? = some bindings) :
    (Primitive.getBound.run [map, key] : Program (Body Custom) Value) =
      .done (.ok ((Collections.lookup key.payload bindings).getD .null)) := by
  change Program.done (Arguments.map [map, key] 0 >>= fun bindings =>
    .ok ((Collections.lookup key.payload bindings).getD .null)) = _
  have hread : Arguments.map [map, key] 0 = .ok bindings :=
    Arguments.read_eq_ok_iff.mpr ⟨map, rfl, hreads⟩
  rw [hread]
  rfl

theorem run_setBound (hreads : map.payload.map? = some bindings) :
    ((Primitive.setBound types).run [map, key, value] : Program (Body Custom) Value) =
      .done (.ok (types.mapValue (Collections.bindKey key value bindings))) := by
  change Program.done (Arguments.map [map, key, value] 0 >>= fun bindings =>
    .ok (types.mapValue (Collections.bindKey key value bindings))) = _
  have hread : Arguments.map [map, key, value] 0 = .ok bindings :=
    Arguments.read_eq_ok_iff.mpr ⟨map, rfl, hreads⟩
  rw [hread]
  rfl

include hmap hkey

section Get

variable (hget : catalog.Provides types id (getFittings types))
include hget

theorem picks_getBound :
    catalog.Picks id ([map, key].map Value.type)
      (types.entry (⟨[.map, .any], .any⟩, .getBound)) := by
  have hrow : (⟨[.map, .any], .any⟩, .getBound) ∈ getFittings types := by
    simp [getFittings, getTable]
  have haccepts : catalog.hierarchy.accepts (types.handles [.map, .any])
      [map.type, key.type] = true :=
    Hierarchy.accepts_iff_covers.mpr (.cons hmap.type (.cons hkey .nil))
  exact picks_of_apart hget rfl apart_getTable hrow haccepts

theorem answers_getBound {result : Value}
    (hresult : (Collections.lookup key.payload bindings).getD .null = result)
    (htype : catalog.isA Predicate.any result.type = true) :
    Answers custom catalog id [map, key] (.ok result) := by
  refine answers_value (picks_getBound hmap hkey hget) ?_ htype
  rw [run_getBound hmap.reads, hresult]

/-- Reading two maps that have the same value for the key. -/
theorem get_endAlike (huses : ∀ code arguments,
      (custom code arguments).Uses (Request.CachesUnder catalog.metric))
    {map' : Value} {bindings' : List Binding} (hmap' : IsMap catalog types map' bindings')
    (hlookup : Collections.lookup key.payload bindings =
      Collections.lookup key.payload bindings') :
    catalog.EndAlike (Body.meaning custom) (Program.call id [map, key])
      (Program.call id [map', key]) := by
  refine Catalog.Picks.calls_endAlike (Body.uses_meaning huses)
    (picks_getBound hmap hkey hget) (picks_getBound hmap' hkey hget) rfl ?_
  change Primitive.getBound.run [map, key] = Primitive.getBound.run [map', key]
  rw [run_getBound hmap.reads, run_getBound hmap'.reads, hlookup]

end Get

theorem answers_setBound (hset : catalog.Provides types id (setFittings types))
    (hvalue : catalog.isA Predicate.any value.type = true) :
    Answers custom catalog id [map, key, value]
      (.ok (types.mapValue (Collections.bindKey key value bindings))) := by
  have hrow : (⟨[.map, .any, .any], .map⟩, .setBound types) ∈ setFittings types := by
    simp [setFittings, setTable]
  have haccepts : catalog.hierarchy.accepts (types.handles [.map, .any, .any])
      [map.type, key.type, value.type] = true :=
    Hierarchy.accepts_iff_covers.mpr
      (.cons hmap.type (.cons hkey (.cons hvalue .nil)))
  have hpicks : catalog.Picks id ([map, key, value].map Value.type)
      (types.entry (⟨[.map, .any, .any], .map⟩, .setBound types)) :=
    picks_of_apart hset rfl apart_setTable hrow haccepts
  exact answers_value hpicks (run_setBound hmap.reads) (Hierarchy.isA_self _ types.map)

end Calls

/-! ## The laws of maps -/

/-- What setting a key of a map has to do with its bindings, and with what is read
from it before and afterwards. -/
structure MapLaws (custom : Custom → List Value → Program (Body Custom) Value)
    (catalog : Catalog (Body Custom)) (library : Library) (map : Value)
    (bindings updated : List Binding) (key value : Value) : Prop where
  set : Answers custom catalog library.collections.set [map, key, value]
    (.ok (library.types.mapValue updated))
  keys : bindings.map Binding.key <+: updated.map Binding.key
  grows : updated = bindings ++ [⟨key, value⟩] ↔
    Collections.Absent key.payload bindings
  changes : ∀ before binding after, bindings = before ++ binding :: after →
    Collections.Absent key.payload before →
    (binding.key.payload == key.payload) = true →
      updated = before ++ ⟨binding.key, value⟩ :: after
  get : ∀ other found, catalog.isA Predicate.any other.type = true →
    Collections.Finds other.payload bindings found →
    catalog.isA Predicate.any found.type = true →
      Answers custom catalog library.collections.get [map, other] (.ok found)
  get_absent : ∀ other, catalog.isA Predicate.any other.type = true →
    Collections.Absent other.payload bindings →
      Answers custom catalog library.collections.get [map, other] (.ok .null)
  get_updated : Answers custom catalog library.collections.get
    [library.types.mapValue updated, key] (.ok value)
  set_updated : ∀ later, catalog.isA Predicate.any later.type = true →
    ∃ result, Answers custom catalog library.collections.set [map, key, later]
        (.ok result) ∧
      Answers custom catalog library.collections.set
        [library.types.mapValue updated, key, later] (.ok result)
  get_updated_other : ∀ other, catalog.isA Predicate.any other.type = true →
    (key.payload == other.payload) = false →
    (∀ binding ∈ bindings, (binding.key.payload == key.payload) = true →
      (binding.key.payload == other.payload) = false) →
      (∀ found, Collections.Finds other.payload bindings found →
        catalog.isA Predicate.any found.type = true →
          Answers custom catalog library.collections.get
            [library.types.mapValue updated, other] (.ok found)) ∧
      ((∀ code arguments,
        (custom code arguments).Uses (Request.CachesUnder catalog.metric)) →
          catalog.EndAlike (Body.meaning custom)
            (Program.call library.collections.get
              [library.types.mapValue updated, other])
            (Program.call library.collections.get [map, other]))

/-- Wherever the base library has been installed and `get` and `set` have got no
further entries, these obey the laws of maps, whatever the keys of the map are, for
every new key that is equal to itself.  A stored value that has no type below
`isAny` is held to it when it is read, and this ends alike before and after another
key is set. -/
theorem map_laws {library : Library} {registry : Registry (Body Custom)}
    (hinstalled : library.InstalledIn [library.collections.get,
      library.collections.set] registry)
    (custom : Custom → List Value → Program (Body Custom) Value)
    {map key value : Value} {bindings : List Binding}
    (hpayload : map.payload = .map bindings)
    (htype : registry.isA library.types.map map.type = true)
    (hkey : registry.isA Predicate.any key.type = true)
    (hvalue : registry.isA Predicate.any value.type = true)
    (hself : (key.payload == key.payload) = true) :
    MapLaws custom registry.toCatalog library map bindings
      (Collections.bindKey key value bindings) key value := by
  have hget := hinstalled.provides_get (by simp)
  have hset := hinstalled.provides_set (by simp)
  have hmap : IsMap registry.toCatalog library.types map bindings :=
    ⟨htype, congrArg Payload.map? hpayload⟩
  have hupdated := isMap_mapValue registry.toCatalog library.types
    (Collections.bindKey key value bindings)
  refine {
    set := answers_setBound hmap hkey hset hvalue
    keys := Collections.keys_prefix_bindKey
    grows := Collections.bindKey_eq_append_iff
    changes := ?changes
    get := fun other found hother hfinds hfound =>
      answers_getBound hmap hother hget hfinds.lookup_eq hfound
    get_absent := fun other hother habsent =>
      answers_getBound hmap hother hget (Collections.Finds.absent habsent).lookup_eq
        (hinstalled.isA_handle .any .null)
    get_updated := ?same
    set_updated := ?twice
    get_updated_other := ?other }
  case changes =>
    rintro before binding after rfl hbefore hequal
    exact Collections.bindKey_of_first hbefore hequal
  case same =>
    refine answers_getBound hupdated hkey hget ?_ hvalue
    rw [Collections.lookup_bindKey_self hself, Option.getD_some]
  case twice =>
    intro later hlater
    have htwice : Answers custom registry.toCatalog library.collections.set
        [library.types.mapValue (Collections.bindKey key value bindings), key, later]
        (.ok (library.types.mapValue (Collections.bindKey key later
          (Collections.bindKey key value bindings)))) :=
      answers_setBound hupdated hkey hset hlater
    rw [Collections.bindKey_bindKey hself] at htwice
    exact ⟨_, answers_setBound hmap hkey hset hlater, htwice⟩
  case other =>
    intro other hother hdiffers hnone
    have hlookup : Collections.lookup other.payload
          (Collections.bindKey key value bindings) =
        Collections.lookup other.payload bindings :=
      Collections.lookup_bindKey_other hdiffers hnone
    refine ⟨fun found hfinds hfound => ?_, fun huses =>
      get_endAlike hupdated hother hget huses hmap hlookup⟩
    refine answers_getBound hupdated hother hget ?_ hfound
    rw [hlookup, hfinds.lookup_eq]

def nan : Float :=
  Float.ofBits 0x7ff8000000000000

def one : Float :=
  Float.ofBits 0x3ff0000000000000

/-- Bindings of NaN, of an integer and of the real that equals it. -/
def mixedBindings (types : BaseTypes) (value : Value) : List Binding :=
  [⟨types.realValue nan, .null⟩, ⟨types.intValue 1, value⟩,
    ⟨types.realValue one, .null⟩]

/-- Setting the real finds the integer, and what was read for another key is read
again. -/
theorem map_laws_mixedBindings :
    ∃ (library : Library) (registry : Registry (Body Empty)),
      install.exec (Body.meaning nofun) 0 { registry := .fresh {} } =
        some (.ok library, { registry := registry }) ∧
      Answers nofun registry.toCatalog library.collections.set
        [library.types.mapValue (mixedBindings library.types .null),
          library.types.realValue one, .boolean true]
        (.ok (library.types.mapValue
          (mixedBindings library.types (.boolean true)))) ∧
      registry.EndAlike (Body.meaning nofun)
        (Program.call library.collections.get
          [library.types.mapValue (mixedBindings library.types (.boolean true)),
            library.types.intValue 2])
        (Program.call library.collections.get
          [library.types.mapValue (mixedBindings library.types .null),
            library.types.intValue 2]) := by
  obtain ⟨library, registry, hinstall, hinstalled⟩ := exists_installedIn {}
    (Body.meaning (nofun : Empty → List Value → Program (Body Empty) Value)) 0
  have hclosed := hinstalled [library.collections.get, library.collections.set]
  have hbase := hclosed.isA_handle
  have hself : (Payload.real one == .real one) = true := by decide +kernel
  have hnan : (Payload.real nan == .real one) = false := by decide +kernel
  have hmixed : (Payload.int 1 == .real one) = true := by decide +kernel
  have htwo : (Payload.real one == .int 2) = false := by decide +kernel
  have hnan_two : (Payload.real nan == .int 2) = false := by decide +kernel
  have hlaws : MapLaws nofun registry.toCatalog library
      (library.types.mapValue (mixedBindings library.types .null))
      (mixedBindings library.types .null)
      (Collections.bindKey (library.types.realValue one) (.boolean true)
        (mixedBindings library.types .null))
      (library.types.realValue one) (.boolean true) :=
    map_laws hclosed nofun rfl (hbase .map .map) (hbase .any .real)
      (hbase .any .boolean) hself
  have hupdated := hlaws.changes [⟨library.types.realValue nan, .null⟩]
    ⟨library.types.intValue 1, .null⟩ _ rfl (List.forall_mem_singleton.mpr hnan) hmixed
  have hset := hlaws.set
  have hother := hlaws.get_updated_other (library.types.intValue 2) (hbase .any .int)
    htwo (List.forall_mem_cons.mpr ⟨fun _ => hnan_two, List.forall_mem_cons.mpr
      ⟨fun _ => rfl, List.forall_mem_singleton.mpr fun _ => htwo⟩⟩)
  rw [hupdated] at hset hother
  exact ⟨library, registry, hinstall, hset, hother.2 nofun⟩

end Library

end PredicateDispatch
