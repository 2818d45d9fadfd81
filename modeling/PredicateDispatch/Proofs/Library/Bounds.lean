import PredicateDispatch.Proofs.Library.Sequences

/-!
# Indices out of bounds

`get` and `set` take an index of any size, tell whether it is a position, and put it
into the failure if it is not.  A failure has room for 64 bits only.  An index that
does not fit is reported as the greatest one that does, on both sides, so reports are
right for all indices but those below the least one.  The index is judged before any
element is looked at, whatever the elements are.
-/

namespace PredicateDispatch

/-! ## Reported indices -/

/-- The least index that a bounds failure has room for. -/
def leastIndex : ℤ := -0x8000000000000000

/-- Of the indices that a bounds failure has room for, the one nearest to this. -/
def nearestIndex (n : ℤ) : ℤ :=
  max leastIndex (min n Arguments.greatestIndex)

/-- How a bounds failure reports an index: as it is, or as the greatest one if there is
no room for it.  Below the least index this is neither near nor on the right side. -/
structure Reports (n reported : ℤ) : Prop where
  kept : leastIndex ≤ n → n ≤ Arguments.greatestIndex → reported = n
  capped : n < leastIndex ∨ Arguments.greatestIndex < n →
    reported = Arguments.greatestIndex
  nearest_iff : reported = nearestIndex n ↔ leastIndex ≤ n
  sign_iff : (reported < 0 ↔ n < 0) ↔ leastIndex ≤ n

theorem reports_reportedIndex (n : ℤ) : Reports n (Arguments.reportedIndex n) := by
  have hreported : Arguments.reportedIndex n =
      if leastIndex ≤ n ∧ n ≤ Arguments.greatestIndex then n
      else Arguments.greatestIndex := rfl
  have hleast : leastIndex < 0 := by decide
  have hgreatest : 0 < Arguments.greatestIndex := by decide
  rw [hreported]
  constructor
  case kept => exact fun hlow hhigh => if_pos ⟨hlow, hhigh⟩
  case capped => exact fun hoff => if_neg (by omega)
  case nearest_iff =>
    rw [nearestIndex]
    split <;> omega
  case sign_iff => split <;> omega

namespace Library

variable {Custom : Type} {custom : Custom → List Value → Program (Body Custom) Value}
  {catalog : Catalog (Body Custom)} {id : ℕ} {arguments : List Value}

/-! ## Accepted indices -/

/-- The code that the call picks ends without complaining about an index. -/
def AcceptsIndex (custom : Custom → List Value → Program (Body Custom) Value)
    (catalog : Catalog (Body Custom)) (id : ℕ) (arguments : List Value) : Prop :=
  ∃ returns outcome, CodeGives custom catalog id arguments returns outcome ∧
    ∀ place length, outcome ≠ .error (.bounds place length)

theorem CodeGives.unique {returns returns' : Predicate}
    {outcome outcome' : Except Error Value}
    (hgives : CodeGives custom catalog id arguments returns outcome)
    (hgives' : CodeGives custom catalog id arguments returns' outcome') :
    outcome = outcome' := by
  obtain ⟨entry, body, hpicks, -, hbody, hrun⟩ := hgives
  obtain ⟨entry', body', hpicks', -, hbody', hrun'⟩ := hgives'
  obtain rfl := hpicks.unique hpicks'
  obtain rfl := Implementation.code.inj (hbody.symm.trans hbody')
  exact Program.done.inj (hrun.symm.trans hrun')

section Located

variable {returns : Predicate} {n : ℤ} {length : ℕ} {result : ℕ → Except Error Value}
  (hgives : CodeGives custom catalog id arguments returns (located n length >>= result))
include hgives

/-- Code that locates a position first, and does nothing of the kind afterwards,
accepts exactly the positions. -/
theorem CodeGives.acceptsIndex_iff
    (hresult : ∀ position place length,
      result position ≠ .error (.bounds place length)) :
    AcceptsIndex custom catalog id arguments ↔ Inside n length := by
  constructor
  · rintro ⟨returns', outcome, hgives', hfine⟩
    by_contra houtside
    refine hfine (Arguments.reportedIndex n) length ?_
    rw [← hgives.unique hgives', located_bind_of_outside houtside]
  · intro hinside
    rw [located_bind_of_inside hinside] at hgives
    exact ⟨returns, _, hgives, hresult n.toNat⟩

/-- It complains about everything else, with the index as it can be reported. -/
theorem CodeGives.refuses (houtside : ¬ Inside n length) :
    Answers custom catalog id arguments
      (.error (.bounds (Arguments.reportedIndex n) length)) := by
  rw [located_bind_of_outside houtside] at hgives
  exact hgives.answers nofun

/-- At a position the result is the answer if its type is right. -/
theorem CodeGives.answers_inside (hinside : Inside n length) {value : Value}
    (hvalue : result n.toNat = .ok value)
    (htype : catalog.isA returns value.type = true) :
    Answers custom catalog id arguments (.ok value) := by
  rw [located_bind_of_inside hinside, hvalue] at hgives
  refine hgives.answers fun other hother => ?_
  obtain rfl := Except.ok.inj hother
  exact htype

end Located

/-- What reading and changing a sequence has to do with whether an index is a position
of it.  Nothing is asked of the elements, and of a new one only that its type is one
for elements. -/
structure JudgesIndex {α : Type}
    (custom : Custom → List Value → Program (Body Custom) Value)
    (catalog : Catalog (Body Custom)) (library : Library)
    (format : SequenceFormat α) (sequence : Value) (items : List α) (index : Value)
    (n : ℤ) : Prop where
  get_accepts_iff :
    AcceptsIndex custom catalog library.collections.get [sequence, index] ↔
      Inside n items.length
  get_accepted : Inside n items.length → ∃ found, items[n.toNat]? = some found ∧
    (catalog.isA (library.types.handle format.element)
        (format.itemValue library.types found).type = true →
      Answers custom catalog library.collections.get [sequence, index]
        (.ok (format.itemValue library.types found)))
  set_accepts_iff : ∀ value : Value,
    catalog.isA (library.types.handle format.element) value.type = true →
      (AcceptsIndex custom catalog library.collections.set [sequence, index, value] ↔
        Inside n items.length)
  set_accepted : Inside n items.length → ∀ value item,
    format.IsItem catalog library.types value item →
      Answers custom catalog library.collections.set [sequence, index, value]
        (.ok (format.updated library.types items n item))
  refused : ¬ Inside n items.length → ∃ reported, Reports n reported ∧
    Answers custom catalog library.collections.get [sequence, index]
      (.error (.bounds reported items.length)) ∧
    ∀ value : Value,
      catalog.isA (library.types.handle format.element) value.type = true →
        Answers custom catalog library.collections.set [sequence, index, value]
          (.error (.bounds reported items.length))

/-- A value that cannot be read fails, but not on account of the index. -/
theorem bind_ne_bounds {α : Type} {reading : Except Error α} {value : α → Value}
    (hreading : ∀ place length, reading ≠ .error (.bounds place length)) (place : ℤ)
    (length : ℕ) :
    (reading >>= fun item => .ok (value item)) ≠ .error (.bounds place length) := by
  cases reading with
  | ok item => exact nofun
  | error error =>
      intro hbounds
      obtain rfl := Except.error.inj hbounds
      exact hreading place length rfl

theorem Performs.judgesIndex {α : Type} {library : Library}
    {format : SequenceFormat α} (hperforms : Performs custom catalog library format)
    {sequence index : Value} {items : List α} {n : ℤ}
    (htype : catalog.isA (library.types.handle format.type) sequence.type = true)
    (hreads : format.items? sequence.payload = some items)
    (hindex : IsIndex catalog library.types index n) :
    JudgesIndex custom catalog library format sequence items index n := by
  obtain ⟨missing, hget⟩ := hperforms.get htype hreads hindex
  constructor
  case get_accepts_iff => exact hget.acceptsIndex_iff fun _ => nofun
  case get_accepted =>
    intro hinside
    have hfound := List.getElem?_eq_getElem hinside.toNat_lt
    refine ⟨_, hfound, fun helement => hget.answers_inside hinside ?_ helement⟩
    rw [hfound]
    rfl
  case set_accepts_iff =>
    intro value hvalue
    obtain ⟨reading, -, hreading, hset⟩ :=
      hperforms.set htype hreads hindex hvalue
    exact hset.acceptsIndex_iff fun _ => bind_ne_bounds hreading
  case set_accepted =>
    intro hinside value item hitem
    obtain ⟨reading, hread, -, hset⟩ :=
      hperforms.set htype hreads hindex hitem.type
    rw [hread item hitem.reads] at hset
    refine hset.answers_inside hinside rfl ?_
    rw [SequenceFormat.updated, format.type_value]
    exact Hierarchy.isA_self _ _
  case refused =>
    intro houtside
    refine ⟨_, reports_reportedIndex n, hget.refuses houtside, fun value hvalue => ?_⟩
    obtain ⟨reading, -, -, hset⟩ := hperforms.set htype hreads hindex hvalue
    exact hset.refuses houtside

/-- Wherever the base library has been installed and `get` and `set` have got no
further entries, both take exactly the positions of a list or text, and report all
other indices with its length: as they are, or as the nearest one that there is room
for, unless the index is below the least one. -/
theorem bounds_failures_report_index {library : Library}
    {registry : Registry (Body Custom)}
    (hinstalled : library.InstalledIn [library.collections.get,
      library.collections.set] registry)
    (custom : Custom → List Value → Program (Body Custom) Value)
    {sequence index : Value} {n : ℤ}
    (hindex : registry.isA library.types.int index.type = true)
    (hinteger : index.payload.int? = some n) :
    (∀ items, sequence.payload = .list items →
      registry.isA library.types.list sequence.type = true →
        JudgesIndex custom registry.toCatalog library .list sequence items index n) ∧
    ∀ s, sequence.payload = .text s →
      registry.isA library.types.string sequence.type = true →
        JudgesIndex custom registry.toCatalog library .text sequence s.toList index
          n := by
  have hget := hinstalled.provides_get (by simp)
  have hset := hinstalled.provides_set (by simp)
  constructor
  · intro items hpayload htype
    exact (performs_lists hget hset).judgesIndex htype
      (congrArg Payload.list? hpayload) ⟨hindex, hinteger⟩
  · intro s hpayload htype
    have hreads : SequenceFormat.text.items? sequence.payload = some s.toList := by
      rw [hpayload]
      rfl
    exact (performs_texts hget hset).judgesIndex htype hreads ⟨hindex, hinteger⟩

/-- The least index is reported as it is; the one below it, as the greatest. -/
theorem bounds_failures_report_index_samples :
    ∃ (library : Library) (registry : Registry (Body Empty)),
      install.exec (Body.meaning nofun) 0 { registry := .fresh {} } =
        some (.ok library, { registry := registry }) ∧
      Answers nofun registry.toCatalog library.collections.set
        [library.types.textValue "né", library.types.intValue leastIndex,
          library.types.characterValue 'o']
        (.error (.bounds leastIndex 2)) ∧
      Answers nofun registry.toCatalog library.collections.get
        [library.types.listValue [.null], library.types.intValue (leastIndex - 1)]
        (.error (.bounds Arguments.greatestIndex 1)) ∧
      nearestIndex (leastIndex - 1) = leastIndex := by
  obtain ⟨library, registry, hinstall, hinstalled⟩ := exists_installedIn {}
    (Body.meaning (nofun : Empty → List Value → Program (Body Empty) Value)) 0
  have hclosed := hinstalled [library.collections.get, library.collections.set]
  have hbase := hclosed.isA_handle
  have hindex : ∀ n, registry.isA library.types.int (library.types.intValue n).type =
      true := fun _ => hbase .int .int
  refine ⟨library, registry, hinstall, ?_, ?_, by decide⟩
  · have hjudges : JudgesIndex nofun registry.toCatalog library .text
        (library.types.textValue "né") ['n', 'é'] (library.types.intValue leastIndex)
        leastIndex :=
      (bounds_failures_report_index hclosed nofun (hindex _) rfl).2 "né" rfl
        (hbase .string .string)
    obtain ⟨reported, hreports, -, hset⟩ := hjudges.refused (by decide)
    obtain rfl := hreports.kept le_rfl (by decide)
    exact hset _ (hbase .character .character)
  · have hjudges : JudgesIndex nofun registry.toCatalog library .list
        (library.types.listValue [.null]) [.null]
        (library.types.intValue (leastIndex - 1)) (leastIndex - 1) :=
      (bounds_failures_report_index hclosed nofun (hindex _) rfl).1 [.null] rfl
        (hbase .list .list)
    obtain ⟨reported, hreports, hget, -⟩ := hjudges.refused (by decide)
    obtain rfl := hreports.capped (by decide)
    exact hget

end Library

end PredicateDispatch
