import PredicateDispatch.Proofs.Registry.History

/-!
# Well kept functions

A table has at most one entry for each list of argument types.  Every entry was
registered by a client, or it is a fixed answer of a membership test: one that
the test was made with, or one for a predicate that was linked below.  This
holds of each function through every change of its table, of its role and of
the forest.
-/

namespace PredicateDispatch

variable {Code : Type}

namespace GenericFunction

/-! ## Argument types of a table -/

/-- The numbers of the argument types of each entry. -/
def argumentIds (function : GenericFunction Code) : List (List ℕ) :=
  function.entries.map fun entry => entry.arguments.ids

theorem map_ids_signatures (function : GenericFunction Code) :
    function.signatures.map Signature.ids = function.argumentIds :=
  List.map_map

/-- There is an entry for values of one type. -/
def Declares (function : GenericFunction Code) (type : ℕ) : Prop :=
  [type] ∈ function.argumentIds

theorem declares_iff {function : GenericFunction Code} {type : ℕ} :
    function.Declares type ↔
      ∃ single : Predicate, [single] ∈ function.signatures ∧ single.id = type := by
  rw [Declares, ← map_ids_signatures, List.mem_map]
  constructor
  · rintro ⟨declared, hmem, hids⟩
    cases declared with
    | nil => cases hids
    | cons single rest =>
        obtain ⟨hid, hrest⟩ := List.cons.inj hids
        obtain rfl : rest = [] := List.map_eq_nil_iff.mp hrest
        exact ⟨single, hmem, hid⟩
  · rintro ⟨single, hmem, rfl⟩
    exact ⟨[single], hmem, rfl⟩

/-- To the forest, the type that an entry declares is the same as any other with
its number. -/
theorem exists_of_declares {function : GenericFunction Code} {type : Predicate}
    (hdeclares : function.Declares type.id) (hierarchy : Hierarchy) :
    ∃ single : Predicate, [single] ∈ function.signatures ∧
      (∀ lower, hierarchy.isA single lower = hierarchy.isA type lower) ∧
      (∀ upper, hierarchy.isA upper single = hierarchy.isA upper type) := by
  obtain ⟨single, hmem, hid⟩ := declares_iff.mp hdeclares
  exact ⟨single, hmem, hierarchy.isA_congr_left hid,
    fun upper => hierarchy.isA_congr upper hid⟩

theorem mem_putEntry {entry candidate : MethodEntry Code}
    {entries : List (MethodEntry Code)}
    (hmem : candidate ∈ putEntry entry entries) :
    candidate = entry ∨ candidate ∈ entries := by
  induction entries with
  | nil => exact Or.inl (List.mem_singleton.mp hmem)
  | cons existing rest ih =>
      rw [putEntry] at hmem
      split at hmem
      · rcases List.mem_cons.mp hmem with hnew | hold
        · exact Or.inl hnew
        · exact Or.inr (List.mem_cons_of_mem _ hold)
      · rcases List.mem_cons.mp hmem with rfl | hrest
        · exact Or.inr List.mem_cons_self
        · exact (ih hrest).imp_right (List.mem_cons_of_mem _)

theorem self_mem_putEntry (entry : MethodEntry Code)
    (entries : List (MethodEntry Code)) : entry ∈ putEntry entry entries := by
  induction entries with
  | nil => exact List.mem_singleton_self entry
  | cons existing rest ih =>
      rw [putEntry]
      split
      · exact List.mem_cons_self
      · exact List.mem_cons_of_mem _ ih

theorem putEntry_eq_append {entry : MethodEntry Code}
    {entries : List (MethodEntry Code)}
    (hnew : ∀ existing ∈ entries, existing.arguments.ids ≠ entry.arguments.ids) :
    putEntry entry entries = entries ++ [entry] := by
  induction entries with
  | nil => rfl
  | cons existing rest ih =>
      have hne : (existing.arguments.ids == entry.arguments.ids) = false := by
        simpa using hnew existing List.mem_cons_self
      rw [putEntry, if_neg (by simp [hne]),
        ih fun other hother => hnew other (List.mem_cons_of_mem _ hother)]
      rfl

theorem ids_putEntry (entry : MethodEntry Code)
    (entries : List (MethodEntry Code)) :
    (putEntry entry entries).map (fun entry => entry.arguments.ids) =
      if entry.arguments.ids ∈ entries.map fun entry => entry.arguments.ids then
        entries.map fun entry => entry.arguments.ids
      else (entries.map fun entry => entry.arguments.ids) ++
        [entry.arguments.ids] := by
  induction entries with
  | nil => rfl
  | cons existing rest ih =>
      rw [putEntry]
      by_cases hids : existing.arguments.ids = entry.arguments.ids
      · simp [hids]
      · have hne : (existing.arguments.ids == entry.arguments.ids) = false := by
          simpa using hids
        rw [if_neg (by simp [hne]), List.map_cons, ih, List.map_cons]
        by_cases hmem : entry.arguments.ids ∈
            rest.map fun entry => entry.arguments.ids
        · rw [if_pos hmem, if_pos (List.mem_cons_of_mem _ hmem)]
        · have hout : entry.arguments.ids ∉ existing.arguments.ids ::
              rest.map fun entry => entry.arguments.ids :=
            List.not_mem_cons_of_ne_of_not_mem (Ne.symm hids) hmem
          rw [if_neg hmem, if_neg hout]
          rfl

theorem argumentIds_addEntry (function : GenericFunction Code)
    (entry : MethodEntry Code) :
    (function.addEntry entry).argumentIds =
      if entry.arguments.ids ∈ function.argumentIds then function.argumentIds
      else function.argumentIds ++ [entry.arguments.ids] :=
  ids_putEntry entry function.entries

/-- An entry for new argument types comes last. -/
theorem addEntry_eq_append {function : GenericFunction Code}
    (entry : MethodEntry Code) (hnew : entry.arguments.ids ∉ function.argumentIds) :
    function.addEntry entry =
      { function with entries := function.entries ++ [entry] } := by
  rw [addEntry, putEntry_eq_append]
  intro existing hexisting hids
  rw [← hids] at hnew
  exact hnew (List.mem_map_of_mem hexisting)

theorem nodup_addEntry {function : GenericFunction Code}
    (hnodup : function.argumentIds.Nodup) (entry : MethodEntry Code) :
    (function.addEntry entry).argumentIds.Nodup := by
  rw [argumentIds_addEntry]
  split
  case isTrue => exact hnodup
  case isFalse hnew => exact hnodup.append (List.nodup_singleton _) (by simpa using hnew)

theorem Declares.addEntry {function : GenericFunction Code} {type : ℕ}
    (hdeclares : function.Declares type) (entry : MethodEntry Code) :
    (function.addEntry entry).Declares type := by
  rw [Declares, argumentIds_addEntry]
  split
  · exact hdeclares
  · exact List.mem_append_left _ hdeclares

theorem declares_addEntry_self (function : GenericFunction Code)
    (entry : MethodEntry Code) {type : ℕ} (hids : entry.arguments.ids = [type]) :
    (function.addEntry entry).Declares type := by
  rw [Declares, argumentIds_addEntry, hids]
  split
  case isTrue hmem => exact hmem
  case isFalse => exact List.mem_append_right _ List.mem_cons_self

/-! ## Functions -/

theorem predicate?_of_defined {function : GenericFunction Code}
    {type : Predicate} (hrole : function.role = .defined type) :
    function.predicate? = some type := by
  rw [predicate?, hrole]
  rfl

theorem predicate?_of_promoted {function : GenericFunction Code}
    {type : Predicate} (hrole : function.role = .promoted type) :
    function.predicate? = some type := by
  rw [predicate?, hrole]
  rfl

theorem role_of_predicate? {function : GenericFunction Code}
    {type : Predicate} (htype : function.predicate? = some type) :
    function.role = .defined type ∨ function.role = .promoted type := by
  rw [predicate?] at htype
  cases hrole : function.role with
  | ordinary =>
      rw [hrole] at htype
      cases htype
  | defined made =>
      rw [hrole] at htype
      exact Or.inl (congrArg Role.defined (Option.some.inj htype))
  | promoted made =>
      rw [hrole] at htype
      exact Or.inr (congrArg Role.promoted (Option.some.inj htype))

/-- Where an entry comes from.  A function that is or was a membership test has
entries that no client registered: those it was made with, and those for links
below its predicate. -/
inductive Origin (events : List Event) (hierarchy : Hierarchy) (id : ℕ)
    (role : Role) : MethodEntry Code → Prop
  | registered {entry : MethodEntry Code} :
      Event.registered id entry.arguments ∈ events →
        Origin events hierarchy id role entry
  | denial {tested : Predicate} :
      role = .defined tested → tested.id ≠ Predicate.any.id →
        Origin events hierarchy id role
          (Catalog.fixedAnswer Predicate.any false)
  | affirmation {tested : Predicate} :
      role = .defined tested →
        Origin events hierarchy id role (Catalog.fixedAnswer tested true)
  | child {type : Predicate} {parent : ℕ} :
      hierarchy.ParentLink type.id parent →
        (∀ tested, role = .defined tested →
          tested.id = parent ∧ type.id ≠ Predicate.any.id) →
          Origin events hierarchy id role (Catalog.fixedAnswer type true)

theorem Origin.mono {events events' : List Event}
    {hierarchy hierarchy' : Hierarchy} {id : ℕ} {role : Role}
    {entry : MethodEntry Code} (horigin : Origin events hierarchy id role entry)
    (hevents : events ⊆ events')
    (hlinks : ∀ child parent, hierarchy.ParentLink child parent →
      hierarchy'.ParentLink child parent) :
    Origin events' hierarchy' id role entry := by
  cases horigin with
  | registered hmem => exact .registered (hevents hmem)
  | denial hrole hne => exact .denial hrole hne
  | affirmation hrole => exact .affirmation hrole
  | child hlink hrole => exact .child (hlinks _ _ hlink) hrole

/-- An entry of a function that was not made with a predicate keeps its origin
when the function is promoted or demoted. -/
theorem Origin.of_not_defined {events : List Event} {hierarchy : Hierarchy}
    {id : ℕ} {role role' : Role} {entry : MethodEntry Code}
    (horigin : Origin events hierarchy id role entry)
    (hrole : ∀ type, role ≠ .defined type)
    (hrole' : ∀ type, role' ≠ .defined type) :
    Origin events hierarchy id role' entry := by
  cases horigin with
  | registered hmem => exact .registered hmem
  | denial hdefined _ => exact absurd hdefined (hrole _)
  | affirmation hdefined => exact absurd hdefined (hrole _)
  | child hlink _ =>
      exact .child hlink fun tested hdefined => absurd hdefined (hrole' tested)

/-- What holds of each function of a well kept catalog. -/
structure WellKept (events : List Event) (hierarchy : Hierarchy) (id : ℕ)
    (function : GenericFunction Code) : Prop where
  nodup : function.argumentIds.Nodup
  origin : ∀ entry ∈ function.entries,
    Origin events hierarchy id function.role entry
  fallback : function.fallback ≠ none → Event.defaulted id ∈ events
  tested : ∀ type, function.predicate? = some type →
    hierarchy.predicates[type.id]? = some type ∧ function.name = type.name
  /-- The test answers for each child of its predicate by an entry for the
  child, or else by one for the predicate. -/
  covers : ∀ type, function.predicate? = some type → ∀ child,
    hierarchy.ParentLink child type.id →
      function.Declares child ∨ function.Declares type.id
  defined : ∀ type, function.role = .defined type →
    function.Declares type.id ∧ function.Declares Predicate.any.id
  /-- Only a client gives a promoted function an entry for its predicate. -/
  promoted : ∀ type, function.role = .promoted type →
    hierarchy.ParentLink type.id Predicate.any.id ∧
      ∀ entry ∈ function.entries, entry.arguments.ids = [type.id] →
        Event.registered id entry.arguments ∈ events

namespace WellKept

variable {events : List Event} {hierarchy : Hierarchy} {id : ℕ}
  {function : GenericFunction Code}
  (hkept : function.WellKept events hierarchy id)
include hkept

theorem weaken {events' : List Event} (hevents : events ⊆ events') :
    function.WellKept events' hierarchy id where
  nodup := hkept.nodup
  origin entry hentry := (hkept.origin entry hentry).mono hevents
    fun _ _ hlink => hlink
  fallback hfallback := hevents (hkept.fallback hfallback)
  tested := hkept.tested
  covers := hkept.covers
  defined := hkept.defined
  promoted type hrole := by
    obtain ⟨hlink, hentries⟩ := hkept.promoted type hrole
    exact ⟨hlink, fun entry hentry hids => hevents (hentries entry hentry hids)⟩

theorem create (name : String) :
    function.WellKept events (hierarchy.create name) id where
  nodup := hkept.nodup
  origin entry hentry := (hkept.origin entry hentry).mono (List.Subset.refl _)
    fun _ _ hlink => hlink
  fallback := hkept.fallback
  tested type htype := by
    obtain ⟨hknown, hname⟩ := hkept.tested type htype
    refine ⟨?_, hname⟩
    have hlt := (Array.getElem?_eq_some_iff.mp hknown).1
    rw [Hierarchy.create, Array.getElem?_push, if_neg (Nat.ne_of_lt hlt)]
    exact hknown
  covers := hkept.covers
  defined := hkept.defined
  promoted := hkept.promoted

/-- A link keeps a function well if its test answers for the child. -/
theorem link {linked : Hierarchy} {parent child : Predicate}
    (hlink : hierarchy.link parent child = .ok linked)
    (hcovers : ∀ type, function.predicate? = some type →
      type.id = parent.id →
        function.Declares child.id ∨ function.Declares type.id) :
    function.WellKept events linked id where
  nodup := hkept.nodup
  origin entry hentry := (hkept.origin entry hentry).mono (List.Subset.refl _)
    fun _ _ hold => (Hierarchy.parentLink_link_iff hlink _ _).mpr (Or.inl hold)
  fallback := hkept.fallback
  tested type htype := by
    rw [Hierarchy.predicates_of_link hlink]
    exact hkept.tested type htype
  covers type htype lower hlower := by
    rcases (Hierarchy.parentLink_link_iff hlink _ _).mp hlower with
      hold | ⟨rfl, hparent⟩
    · exact hkept.covers type htype lower hold
    · exact hcovers type htype hparent
  defined := hkept.defined
  promoted type hrole := by
    obtain ⟨hold, hentries⟩ := hkept.promoted type hrole
    exact ⟨(Hierarchy.parentLink_link_iff hlink _ _).mpr (Or.inl hold), hentries⟩

theorem addEntry {entry : MethodEntry Code}
    (horigin : Origin events hierarchy id function.role entry)
    (hpromoted : ∀ type, function.role = .promoted type →
      entry.arguments.ids = [type.id] →
        Event.registered id entry.arguments ∈ events) :
    (function.addEntry entry).WellKept events hierarchy id where
  nodup := nodup_addEntry hkept.nodup entry
  origin candidate hcandidate := by
    rcases mem_putEntry hcandidate with rfl | hold
    · exact horigin
    · exact hkept.origin candidate hold
  fallback := hkept.fallback
  tested := hkept.tested
  covers type htype child hchild :=
    (hkept.covers type htype child hchild).imp (·.addEntry entry)
      (·.addEntry entry)
  defined type hrole :=
    (hkept.defined type hrole).imp (·.addEntry entry) (·.addEntry entry)
  promoted type hrole := by
    obtain ⟨hlink, hentries⟩ := hkept.promoted type hrole
    refine ⟨hlink, fun candidate hcandidate hids => ?_⟩
    rcases mem_putEntry hcandidate with rfl | hold
    · exact hpromoted type hrole hids
    · exact hentries candidate hold hids

/-- A link with a new entry that says yes for the child. -/
theorem answer {linked : Hierarchy} {parent child : Predicate}
    (hlink : hierarchy.link parent child = .ok linked)
    (htested : ∃ type, function.predicate? = some type ∧ type.id = parent.id)
    (hnew : ¬ function.Declares child.id) :
    (function.addEntry (Catalog.fixedAnswer child true)).WellKept events linked
      id where
  nodup := nodup_addEntry hkept.nodup _
  origin entry hentry := by
    rcases mem_putEntry hentry with rfl | hold
    · refine .child (Hierarchy.parentLink_of_link hlink) fun tested hrole => ?_
      obtain ⟨type, htype, hid⟩ := htested
      obtain rfl : tested = type :=
        Option.some.inj ((predicate?_of_defined hrole).symm.trans htype)
      exact ⟨hid, fun hany => hnew (hany ▸ (hkept.defined tested hrole).2)⟩
    · exact (hkept.origin entry hold).mono (List.Subset.refl _) fun _ _ hstep =>
        (Hierarchy.parentLink_link_iff hlink _ _).mpr (Or.inl hstep)
  fallback := hkept.fallback
  tested type htype := by
    rw [Hierarchy.predicates_of_link hlink]
    exact hkept.tested type htype
  covers type htype lower hlower := by
    rcases (Hierarchy.parentLink_link_iff hlink _ _).mp hlower with
      hold | ⟨rfl, -⟩
    · exact (hkept.covers type htype lower hold).imp (·.addEntry _)
        (·.addEntry _)
    · exact Or.inl (declares_addEntry_self function _ rfl)
  defined type hrole :=
    (hkept.defined type hrole).imp (·.addEntry _) (·.addEntry _)
  promoted type hrole := by
    obtain ⟨hold, hentries⟩ := hkept.promoted type hrole
    refine ⟨(Hierarchy.parentLink_link_iff hlink _ _).mpr (Or.inl hold),
      fun entry hentry hids => ?_⟩
    rcases mem_putEntry hentry with rfl | hmem
    · -- The child is not the predicate that it is linked under.
      obtain ⟨tested, htested, hid⟩ := htested
      obtain rfl : type = tested :=
        Option.some.inj ((predicate?_of_promoted hrole).symm.trans htested)
      have hself : child.id = type.id := List.head_eq_of_cons_eq hids
      exact absurd (hself.trans hid) (Hierarchy.ids_ne_of_link hlink)
    · exact hentries entry hmem hids

theorem setDefault {fallback : DefaultEntry Code}
    (hmem : Event.defaulted id ∈ events) :
    WellKept events hierarchy id { function with fallback := some fallback } where
  nodup := hkept.nodup
  origin := hkept.origin
  fallback _ := hmem
  tested := hkept.tested
  covers := hkept.covers
  defined := hkept.defined
  promoted := hkept.promoted

/-- A function becomes the test of a new predicate below `isAny`. -/
theorem promote (hrole : function.role = .ordinary) {type : Predicate}
    (hknown : hierarchy.predicates[type.id]? = some type)
    (hname : function.name = type.name)
    (hchildless : ∀ child, ¬ hierarchy.ParentLink child type.id)
    (hparent : hierarchy.ParentLink type.id Predicate.any.id)
    (hentries : ∀ entry ∈ function.entries, entry.arguments.ids = [type.id] →
      Event.registered id entry.arguments ∈ events) :
    WellKept events hierarchy id { function with role := .promoted type } where
  nodup := hkept.nodup
  origin entry hentry := (hkept.origin entry hentry).of_not_defined
    (by simp [hrole]) (by simp)
  fallback := hkept.fallback
  tested tested htested := by
    obtain rfl : type = tested := Option.some.inj htested
    exact ⟨hknown, hname⟩
  covers tested htested child hchild := by
    obtain rfl : type = tested := Option.some.inj htested
    exact absurd hchild (hchildless child)
  defined tested htested := by cases htested
  promoted tested htested := by
    obtain rfl : type = tested := Role.promoted.inj htested
    exact ⟨hparent, hentries⟩

theorem demote {type : Predicate} (hrole : function.role = .promoted type) :
    WellKept events hierarchy id { function with role := .ordinary } where
  nodup := hkept.nodup
  origin entry hentry := (hkept.origin entry hentry).of_not_defined
    (by simp [hrole]) (by simp)
  fallback := hkept.fallback
  tested tested htested := by cases htested
  covers tested htested := by cases htested
  defined tested htested := by cases htested
  promoted tested htested := by cases htested

end WellKept

theorem wellKept_empty (events : List Event) (hierarchy : Hierarchy) (id : ℕ)
    (name : String) :
    WellKept events hierarchy id ({ name := name } : GenericFunction Code) where
  nodup := List.nodup_nil
  origin entry hentry := absurd hentry List.not_mem_nil
  fallback hfallback := absurd rfl hfallback
  tested type htype := by cases htype
  covers type htype := by cases htype
  defined type htype := by cases htype
  promoted type htype := by cases htype

theorem argumentIds_membershipTest (type : Predicate) :
    (Catalog.membershipTest type : GenericFunction Code).argumentIds =
      if type.id = Predicate.any.id then [[type.id]]
      else [[Predicate.any.id], [type.id]] := by
  rw [argumentIds, Catalog.membershipTest]
  by_cases hany : type.id = Predicate.any.id
  · rw [if_pos (by simpa using hany), if_pos hany]
    rfl
  · rw [if_neg (by simpa using hany), if_neg hany]
    rfl

theorem nodup_membershipTest (type : Predicate) :
    (Catalog.membershipTest type : GenericFunction Code).argumentIds.Nodup := by
  rw [argumentIds_membershipTest]
  split
  case isTrue => exact List.nodup_singleton _
  case isFalse hany => simpa using Ne.symm hany

theorem declares_membershipTest (type : Predicate) :
    (Catalog.membershipTest type : GenericFunction Code).Declares type.id ∧
      (Catalog.membershipTest type : GenericFunction Code).Declares
        Predicate.any.id := by
  rw [Declares, Declares, argumentIds_membershipTest]
  split
  case isTrue hany => simp [hany]
  case isFalse => simp

theorem wellKept_membershipTest (events : List Event) {hierarchy : Hierarchy}
    (id : ℕ) {type : Predicate}
    (hknown : hierarchy.predicates[type.id]? = some type) :
    WellKept events hierarchy id
      (Catalog.membershipTest type : GenericFunction Code) where
  nodup := nodup_membershipTest type
  origin entry hentry := by
    rw [Catalog.membershipTest] at hentry ⊢
    dsimp only at hentry ⊢
    split at hentry
    case isTrue =>
      rw [List.mem_singleton.mp hentry]
      exact .affirmation rfl
    case isFalse hany =>
      rcases List.mem_pair.mp hentry with rfl | rfl
      · exact .denial rfl (by simpa using hany)
      · exact .affirmation rfl
  fallback hfallback := absurd rfl hfallback
  tested tested htested := by
    obtain rfl : type = tested := Option.some.inj htested
    exact ⟨hknown, rfl⟩
  covers tested htested child _ := by
    obtain rfl : type = tested := Option.some.inj htested
    exact Or.inr (declares_membershipTest type).1
  defined tested htested := by
    obtain rfl : type = tested := Role.defined.inj htested
    exact declares_membershipTest type
  promoted tested htested := by cases htested

end GenericFunction

end PredicateDispatch
