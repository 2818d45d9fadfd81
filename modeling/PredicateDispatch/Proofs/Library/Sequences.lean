import PredicateDispatch.Proofs.Library.Calls

/-!
# Reading and changing sequences

Lists are sequences of values and texts are sequences of characters, and `size`,
`get` and `set` treat both alike.  Where the base library has been installed these
functions obey the laws of sequences, for all values with the right types: lists
and texts of types below `isList` and `isString`, indices of any size, and reals
without fractional part that are tagged as integers.
-/

namespace PredicateDispatch

/-! ## Sequences of both kinds -/

/-- How values stand for sequences and their elements: `items?` and `item?` read
them, and `value` and `itemValue` are what changing and reading answer with. -/
structure SequenceFormat (α : Type) where
  type : BaseType
  element : BaseType
  items? : Payload → Option (List α)
  item? : Value → Option α
  value : BaseTypes → List α → Value
  itemValue : BaseTypes → α → Value
  type_value : ∀ types items, (value types items).type = types.handle type
  reads_value : ∀ types items, items? (value types items).payload = some items
  type_itemValue : ∀ types value item, item? value = some item →
    (itemValue types item).type = value.type ∨
      (itemValue types item).type = types.handle element
  reads_itemValue : ∀ types item, item? (itemValue types item) = some item

namespace SequenceFormat

/-- The elements of a list are values as they are. -/
def list : SequenceFormat Value where
  type := .list
  element := .any
  items? := Payload.list?
  item? := some
  value := BaseTypes.listValue
  itemValue _ item := item
  type_value _ _ := rfl
  reads_value _ _ := rfl
  type_itemValue _ _ _ hitem := Or.inl (congrArg Value.type (Option.some.inj hitem).symm)
  reads_itemValue _ _ := rfl

/-- The elements of a text are characters, not bytes. -/
def text : SequenceFormat Char where
  type := .string
  element := .character
  items? payload := payload.text?.map String.toList
  item? value := value.payload.char?
  value types characters := types.textValue (String.ofList characters)
  itemValue := BaseTypes.characterValue
  type_value _ _ := rfl
  reads_value _ _ := congrArg some String.toList_ofList
  type_itemValue _ _ _ _ := Or.inr rfl
  reads_itemValue _ := Payload.char?_toNat

section Values

variable {α Code : Type} (format : SequenceFormat α) (catalog : Catalog Code)
  (types : BaseTypes)

/-- The value can be an element and stands for this one. -/
structure IsItem (value : Value) (item : α) : Prop where
  type : catalog.isA (types.handle format.element) value.type = true
  reads : format.item? value = some item

/-- The value is a sequence of these elements, and all of them can be elements. -/
structure IsSequence (value : Value) (items : List α) : Prop where
  type : catalog.isA (types.handle format.type) value.type = true
  reads : format.items? value.payload = some items
  elements : ∀ item ∈ items,
    format.IsItem catalog types (format.itemValue types item) item

/-- The sequence with another element at a position. -/
def updated (items : List α) (i : ℤ) (item : α) : Value :=
  format.value types (items.set i.toNat item)

end Values

section Made

variable {α Code : Type} {format : SequenceFormat α} {catalog : Catalog Code}
  {types : BaseTypes}

theorem IsItem.itemValue {value : Value} {item : α}
    (hitem : format.IsItem catalog types value item) :
    format.IsItem catalog types (format.itemValue types item) item := by
  refine ⟨?_, format.reads_itemValue types item⟩
  rcases format.type_itemValue types value item hitem.reads with htype | htype
  · rw [htype]
    exact hitem.type
  · rw [htype]
    exact Hierarchy.isA_self _ _

theorem isSequence_value {items : List α} (helements : ∀ item ∈ items,
    format.IsItem catalog types (format.itemValue types item) item) :
    format.IsSequence catalog types (format.value types items) items := by
  refine ⟨?_, format.reads_value types items, helements⟩
  rw [format.type_value]
  exact Hierarchy.isA_self _ _

/-- An element that was put at the position before leaves no trace. -/
theorem updated_set (items : List α) (i : ℤ) (item last : α) :
    format.updated types (items.set i.toNat item) i last =
      format.updated types items i last := by
  rw [SequenceFormat.updated, List.set_set]
  rfl

theorem IsSequence.updated {sequence value : Value} {items : List α} {item : α}
    (hsequence : format.IsSequence catalog types sequence items)
    (hitem : format.IsItem catalog types value item) (i : ℤ) :
    format.IsSequence catalog types (format.updated types items i item)
      (items.set i.toNat item) := by
  refine isSequence_value fun other hother => ?_
  rcases List.mem_or_eq_of_mem_set hother with hold | rfl
  · exact hsequence.elements other hold
  · exact hitem.itemValue

end Made

end SequenceFormat

/-! ## Positions -/

/-- The integer is a position among so many elements. -/
def Inside (i : ℤ) (length : ℕ) : Prop :=
  0 ≤ i ∧ i < length

instance (i : ℤ) (length : ℕ) : Decidable (Inside i length) :=
  inferInstanceAs (Decidable (0 ≤ i ∧ i < length))

theorem Inside.toNat_lt {i : ℤ} {length : ℕ} (hinside : Inside i length) :
    i.toNat < length := by
  obtain ⟨hnonneg, hlt⟩ := hinside
  omega

theorem Inside.toNat_ne {i j : ℤ} {length : ℕ} (hi : Inside i length)
    (hj : Inside j length) (hne : j ≠ i) : i.toNat ≠ j.toNat := by
  obtain ⟨hnonneg, -⟩ := hi
  obtain ⟨hnonneg', -⟩ := hj
  omega

/-- The value can be an index and stands for this integer. -/
structure IsIndex {Code : Type} (catalog : Catalog Code) (types : BaseTypes)
    (index : Value) (i : ℤ) : Prop where
  type : catalog.isA types.int index.type = true
  reads : index.payload.int? = some i

namespace Library

variable {Custom : Type} {custom : Custom → List Value → Program (Body Custom) Value}
  {catalog : Catalog (Body Custom)} {types : BaseTypes}

/-! ## What the collection functions pick -/

section Picks

variable {id : ℕ} {row : Row} {primitive : Primitive} {actual : Signature}

/-- No two rows of the table accept the same call. -/
def Apart (table : List Row) : Prop :=
  (table.map Row.arguments).Nodup ∧
    ∀ left ∈ table.map Row.arguments, ∀ right ∈ table.map Row.arguments,
      left ≠ right → BaseType.meet? left right = none

instance (table : List Row) : Decidable (Apart table) :=
  inferInstanceAs (Decidable (_ ∧ _))

theorem apart_sizeTable : Apart sizeTable := by decide

theorem apart_getTable : Apart getTable := by decide

theorem apart_setTable : Apart setTable := by decide

/-- The row that accepts a call is picked if the others are apart from it. -/
theorem picks_of_apart {rows : List (Row × Primitive)} {table : List Row}
    (hprovides : catalog.Provides types id rows)
    (htable : rows.map Prod.fst = table) (hapart : Apart table)
    (hrow : (row, primitive) ∈ rows)
    (haccepts : catalog.hierarchy.accepts (types.handles row.arguments) actual =
      true) :
    catalog.Picks id actual (types.entry (row, primitive)) := by
  obtain ⟨hnodup, hnone⟩ := hapart
  have hmem : row.arguments ∈ table.map Row.arguments := by
    rw [← htable]
    exact List.mem_map_of_mem (List.mem_map_of_mem (f := Prod.fst) hrow)
  exact hprovides.picks_of_sole htable hnodup hrow haccepts
    (BaseType.aboveAll_self row.arguments)
    fun other hother hne => hnone other hother row.arguments hmem hne

end Picks

/-! ## What the code does at a position -/

/-- The position for an index, or the failure that carries the length. -/
def located (i : ℤ) (length : ℕ) : Except Error ℕ :=
  if Inside i length then .ok i.toNat
  else .error (.bounds (Arguments.reportedIndex i) length)

theorem located_bind_of_inside {β : Type} {i : ℤ} {length : ℕ}
    (hinside : Inside i length) (result : ℕ → Except Error β) :
    (located i length >>= result) = result i.toNat := by
  rw [located, if_pos hinside]
  rfl

theorem located_bind_of_outside {β : Type} {i : ℤ} {length : ℕ}
    (houtside : ¬ Inside i length) (result : ℕ → Except Error β) :
    (located i length >>= result) =
      .error (.bounds (Arguments.reportedIndex i) length) := by
  rw [located, if_neg houtside]
  rfl

section Code

variable {sequence index value : Value} {i : ℤ}
  (hindex : index.payload.int? = some i)
include hindex

theorem position_eq_located {arguments : List Value} {place length : ℕ}
    (hplace : arguments[place]? = some index) :
    Arguments.position arguments place length = located i length := by
  have hread : Arguments.int arguments place = .ok i :=
    Arguments.read_eq_ok_iff.mpr ⟨index, hplace, hindex⟩
  rw [Arguments.position, hread]
  rfl

section Lists

variable {items : List Value} (hlist : sequence.payload.list? = some items)
include hlist

theorem run_getItem :
    (Primitive.getItem.run [sequence, index] : Program (Body Custom) Value) =
      .done (located i items.length >>= fun position =>
        .ok (items.getD position .null)) := by
  change Program.done (Arguments.list [sequence, index] 0 >>= fun items =>
    Arguments.position [sequence, index] 1 items.length >>= fun position =>
      .ok (items.getD position .null)) = _
  have hread : Arguments.list [sequence, index] 0 = .ok items :=
    Arguments.read_eq_ok_iff.mpr ⟨sequence, rfl, hlist⟩
  rw [hread, ← position_eq_located hindex (rfl : [sequence, index][1]? = some index)]
  rfl

theorem run_setItem :
    ((Primitive.setItem types).run [sequence, index, value] :
        Program (Body Custom) Value) =
      .done (located i items.length >>= fun position =>
        .ok (types.listValue (items.set position value))) := by
  change Program.done (Arguments.list [sequence, index, value] 0 >>= fun items =>
    Arguments.position [sequence, index, value] 1 items.length >>= fun position =>
      .ok (types.listValue (items.set position value))) = _
  have hread : Arguments.list [sequence, index, value] 0 = .ok items :=
    Arguments.read_eq_ok_iff.mpr ⟨sequence, rfl, hlist⟩
  rw [hread,
    ← position_eq_located hindex (rfl : [sequence, index, value][1]? = some index)]
  rfl

end Lists

section Texts

variable {s : String} (htext : sequence.payload.text? = some s)
include htext

theorem run_getCharacter :
    ((Primitive.getCharacter types).run [sequence, index] :
        Program (Body Custom) Value) =
      .done (located i s.toList.length >>= fun position =>
        .ok (types.characterValue (s.toList.getD position default))) := by
  change Program.done (Arguments.text [sequence, index] 0 >>= fun s =>
    Arguments.position [sequence, index] 1 s.toList.length >>= fun position =>
      .ok (types.characterValue (s.toList.getD position default))) = _
  have hread : Arguments.text [sequence, index] 0 = .ok s :=
    Arguments.read_eq_ok_iff.mpr ⟨sequence, rfl, htext⟩
  rw [hread, ← position_eq_located hindex (rfl : [sequence, index][1]? = some index)]
  rfl

/-- The character is read only once the position is known. -/
theorem run_setCharacter :
    ((Primitive.setCharacter types).run [sequence, index, value] :
        Program (Body Custom) Value) =
      .done (located i s.toList.length >>= fun position =>
        Arguments.character [sequence, index, value] 2 >>= fun character =>
          .ok (types.textValue (String.ofList (s.toList.set position character)))) := by
  change Program.done (Arguments.text [sequence, index, value] 0 >>= fun s =>
    Arguments.position [sequence, index, value] 1 s.toList.length >>= fun position =>
      Arguments.character [sequence, index, value] 2 >>= fun character =>
        .ok (types.textValue (String.ofList (s.toList.set position character)))) = _
  have hread : Arguments.text [sequence, index, value] 0 = .ok s :=
    Arguments.read_eq_ok_iff.mpr ⟨sequence, rfl, htext⟩
  rw [hread,
    ← position_eq_located hindex (rfl : [sequence, index, value][1]? = some index)]
  rfl

end Texts

end Code

/-! ## What the functions answer -/

/-- The call of the function ends with this outcome, if the depth suffices. -/
def Answers (custom : Custom → List Value → Program (Body Custom) Value)
    (catalog : Catalog (Body Custom)) (id : ℕ) (arguments : List Value)
    (outcome : Except Error Value) : Prop :=
  catalog.Computes (Body.meaning custom) (Program.call id arguments) outcome

/-- The code of the entry that a call picks ends with this outcome, and the answer is
then held to this type. -/
def CodeGives (custom : Custom → List Value → Program (Body Custom) Value)
    (catalog : Catalog (Body Custom)) (id : ℕ) (arguments : List Value)
    (returns : Predicate) (outcome : Except Error Value) : Prop :=
  ∃ entry body, catalog.Picks id (arguments.map Value.type) entry ∧
    entry.returns = returns ∧ entry.implementation = .code body ∧
    body.meaning custom arguments = .done outcome

/-- What the code ends with is the answer, if its type is right. -/
theorem CodeGives.answers {id : ℕ} {arguments : List Value} {returns : Predicate}
    {outcome : Except Error Value}
    (hgives : CodeGives custom catalog id arguments returns outcome)
    (htyped : ∀ value, outcome = .ok value →
      catalog.isA returns value.type = true) :
    Answers custom catalog id arguments outcome := by
  obtain ⟨entry, body, hpicks, rfl, hbody, hrun⟩ := hgives
  have hcomputes : catalog.Computes (Body.meaning custom)
      (body.meaning custom arguments) outcome := by
    rw [hrun]
    exact .done _
  exact Catalog.Computes.call hpicks hbody hcomputes htyped

/-- Only what the code ends with at a position has to be of the right type. -/
theorem CodeGives.answers_located {id : ℕ} {arguments : List Value}
    {returns : Predicate} {i : ℤ} {length : ℕ} {result : ℕ → Except Error Value}
    (hgives : CodeGives custom catalog id arguments returns
      (located i length >>= result))
    (htyped : Inside i length → ∀ value, result i.toNat = .ok value →
      catalog.isA returns value.type = true) :
    Answers custom catalog id arguments (located i length >>= result) := by
  refine hgives.answers fun value hvalue => ?_
  by_cases hinside : Inside i length
  · rw [located_bind_of_inside hinside] at hvalue
    exact htyped hinside value hvalue
  · rw [located_bind_of_outside hinside] at hvalue
    cases hvalue

section Answers

variable {id : ℕ} {arguments : List Value} {row : Row} {primitive : Primitive}
  (hpicks : catalog.Picks id (arguments.map Value.type)
    (types.entry (row, primitive)))
include hpicks

theorem codeGives_of_run {outcome : Except Error Value}
    (hrun : (primitive.run arguments : Program (Body Custom) Value) = .done outcome) :
    CodeGives custom catalog id arguments (types.handle row.returns) outcome :=
  ⟨_, _, hpicks, rfl, rfl, hrun⟩

theorem answers_of_run {outcome : Except Error Value}
    (hrun : (primitive.run arguments : Program (Body Custom) Value) = .done outcome)
    (htyped : ∀ value, outcome = .ok value →
      catalog.isA (types.handle row.returns) value.type = true) :
    Answers custom catalog id arguments outcome :=
  (codeGives_of_run hpicks hrun).answers htyped

theorem answers_value {result : Value}
    (hrun : (primitive.run arguments : Program (Body Custom) Value) =
      .done (.ok result))
    (htype : catalog.isA (types.handle row.returns) result.type = true) :
    Answers custom catalog id arguments (.ok result) := by
  refine answers_of_run hpicks hrun fun value hvalue => ?_
  obtain rfl := Except.ok.inj hvalue
  exact htype

end Answers

theorem run_size {value : Value} {length : ℕ}
    (hlength : Collections.length value.payload = .ok length) :
    ((Primitive.size types).run [value] : Program (Body Custom) Value) =
      .done (.ok (types.intValue length)) := by
  change Program.done (Collections.length value.payload >>= fun length =>
    .ok (types.intValue length)) = _
  rw [hlength]
  rfl

theorem answers_size {id : ℕ} (hsize : catalog.Provides types id (sizeFittings types))
    {type : BaseType} (hrow : (⟨[type], .int⟩, .size types) ∈ sizeFittings types)
    {sequence : Value}
    (htype : catalog.isA (types.handle type) sequence.type = true) {length : ℕ}
    (hlength : Collections.length sequence.payload = .ok length) :
    Answers custom catalog id [sequence] (.ok (types.intValue length)) := by
  have haccepts : catalog.hierarchy.accepts (types.handles [type])
      [sequence.type] = true := Hierarchy.accepts_iff_covers.mpr (.cons htype .nil)
  have hpicks : catalog.Picks id ([sequence].map Value.type)
      (types.entry (⟨[type], .int⟩, .size types)) :=
    picks_of_apart hsize rfl apart_sizeTable hrow haccepts
  exact answers_value hpicks (run_size hlength) (Hierarchy.isA_self _ types.int)

section Picked

variable {α : Type} (format : SequenceFormat α) {id : ℕ}
  {sequence index value : Value} {i : ℤ} {primitive : Primitive}
  (htype : catalog.isA (types.handle format.type) sequence.type = true)
  (hindex : IsIndex catalog types index i)
include htype hindex

/-- Both kinds of sequences have a row of their own for reading. -/
theorem picks_get (hget : catalog.Provides types id (getFittings types))
    (hrow : (⟨[format.type, .int], format.element⟩, primitive) ∈ getFittings types) :
    catalog.Picks id ([sequence, index].map Value.type)
      (types.entry (⟨[format.type, .int], format.element⟩, primitive)) := by
  have haccepts : catalog.hierarchy.accepts (types.handles [format.type, .int])
      [sequence.type, index.type] = true :=
    Hierarchy.accepts_iff_covers.mpr (.cons htype (.cons hindex.type .nil))
  exact picks_of_apart hget rfl apart_getTable hrow haccepts

/-- And one for changing an element. -/
theorem picks_set (hset : catalog.Provides types id (setFittings types))
    (hrow : (⟨[format.type, .int, format.element], format.type⟩, primitive) ∈
      setFittings types)
    (hvalue : catalog.isA (types.handle format.element) value.type = true) :
    catalog.Picks id ([sequence, index, value].map Value.type)
      (types.entry (⟨[format.type, .int, format.element], format.type⟩, primitive)) := by
  have haccepts : catalog.hierarchy.accepts
      (types.handles [format.type, .int, format.element])
      [sequence.type, index.type, value.type] = true :=
    Hierarchy.accepts_iff_covers.mpr
      (.cons htype (.cons hindex.type (.cons hvalue .nil)))
  exact picks_of_apart hset rfl apart_setTable hrow haccepts

end Picked

/-- What the code of `get` and `set` ends with on sequences of this kind, whatever
their elements are.  A value that is put into a sequence is read after the index. -/
structure Performs {α : Type}
    (custom : Custom → List Value → Program (Body Custom) Value)
    (catalog : Catalog (Body Custom)) (library : Library)
    (format : SequenceFormat α) : Prop where
  get : ∀ {sequence index : Value} {items : List α} {i : ℤ},
    catalog.isA (library.types.handle format.type) sequence.type = true →
    format.items? sequence.payload = some items →
    IsIndex catalog library.types index i → ∃ missing,
      CodeGives custom catalog library.collections.get [sequence, index]
        (library.types.handle format.element)
        (located i items.length >>= fun position =>
          .ok ((items[position]?.map (format.itemValue library.types)).getD missing))
  set : ∀ {sequence index value : Value} {items : List α} {i : ℤ},
    catalog.isA (library.types.handle format.type) sequence.type = true →
    format.items? sequence.payload = some items →
    IsIndex catalog library.types index i →
    catalog.isA (library.types.handle format.element) value.type = true →
      ∃ reading : Except Error α,
        (∀ item, format.item? value = some item → reading = .ok item) ∧
        (∀ place length, reading ≠ .error (.bounds place length)) ∧
        CodeGives custom catalog library.collections.set [sequence, index, value]
          (library.types.handle format.type)
          (located i items.length >>= fun position => reading >>= fun item =>
            .ok (format.value library.types (items.set position item)))

section Code

variable {library : Library}
  (hget : catalog.Provides library.types library.collections.get
    (getFittings library.types))
  (hset : catalog.Provides library.types library.collections.set
    (setFittings library.types))
include hget hset

theorem performs_lists : Performs custom catalog library .list where
  get := fun {sequence index items i} htype hlist hindex => by
    have hrow : (⟨[.list, .int], .any⟩, .getItem) ∈ getFittings library.types := by
      simp [getFittings, getTable]
    refine ⟨.null, ?_⟩
    simp only [SequenceFormat.list, Option.map_id_fun', id_eq,
      ← List.getD_eq_getElem?_getD]
    exact codeGives_of_run (picks_get .list htype hindex hget hrow)
      (run_getItem hindex.reads hlist)
  set := fun {sequence index value items i} htype hlist hindex hvalue => by
    have hrow : (⟨[.list, .int, .any], .list⟩, .setItem library.types) ∈
        setFittings library.types := by simp [setFittings, setTable]
    exact ⟨.ok value, fun _ hsame => congrArg Except.ok (Option.some.inj hsame),
      nofun, codeGives_of_run (picks_set .list htype hindex hset hrow hvalue)
        (run_setItem hindex.reads hlist)⟩

theorem performs_texts : Performs custom catalog library .text where
  get := fun {sequence index items i} htype hreads hindex => by
    obtain ⟨s, htext, rfl⟩ := Option.map_eq_some_iff.mp hreads
    have hrow : (⟨[.string, .int], .character⟩, .getCharacter library.types) ∈
        getFittings library.types := by simp [getFittings, getTable]
    refine ⟨library.types.characterValue default, ?_⟩
    simp only [SequenceFormat.text, Option.getD_map, ← List.getD_eq_getElem?_getD]
    exact codeGives_of_run (picks_get .text htype hindex hget hrow)
      (run_getCharacter hindex.reads htext)
  set := fun {sequence index value items i} htype hreads hindex hvalue => by
    obtain ⟨s, htext, rfl⟩ := Option.map_eq_some_iff.mp hreads
    have hrow : (⟨[.string, .int, .character], .string⟩,
        .setCharacter library.types) ∈ setFittings library.types := by
      simp [setFittings, setTable]
    exact ⟨Arguments.character [sequence, index, value] 2,
      fun _ hcharacter => Arguments.read_eq_ok_iff.mpr ⟨value, rfl, hcharacter⟩,
      Arguments.read_ne_bounds _ _ _ _,
      codeGives_of_run (picks_set .text htype hindex hset hrow hvalue)
        (run_setCharacter hindex.reads htext)⟩

end Code

/-- For sequences of this kind the functions answer by position. -/
structure Serves {α : Type}
    (custom : Custom → List Value → Program (Body Custom) Value)
    (catalog : Catalog (Body Custom)) (library : Library)
    (format : SequenceFormat α) : Prop where
  size : ∀ {sequence : Value} {items : List α},
    format.IsSequence catalog library.types sequence items →
      Answers custom catalog library.collections.size [sequence]
        (.ok (library.types.intValue items.length))
  get : ∀ {sequence index : Value} {items : List α} {i : ℤ},
    format.IsSequence catalog library.types sequence items →
    IsIndex catalog library.types index i → ∃ missing,
      Answers custom catalog library.collections.get [sequence, index]
        (located i items.length >>= fun position =>
          .ok ((items[position]?.map (format.itemValue library.types)).getD missing))
  set : ∀ {sequence index value : Value} {items : List α} {i : ℤ} {item : α},
    format.IsSequence catalog library.types sequence items →
    IsIndex catalog library.types index i →
    format.IsItem catalog library.types value item →
      Answers custom catalog library.collections.set [sequence, index, value]
        (located i items.length >>= fun position =>
          .ok (format.value library.types (items.set position item)))

/-- Elements and sequences have the types that the answers are held to. -/
theorem Performs.serves {α : Type} {library : Library} {format : SequenceFormat α}
    (hperforms : Performs custom catalog library format)
    (hsize : ∀ {sequence : Value} {items : List α},
      format.IsSequence catalog library.types sequence items →
        Answers custom catalog library.collections.size [sequence]
          (.ok (library.types.intValue items.length))) :
    Serves custom catalog library format where
  size := hsize
  get := fun {sequence index items i} hsequence hindex => by
    obtain ⟨missing, hgives⟩ := hperforms.get hsequence.type hsequence.reads hindex
    refine ⟨missing, hgives.answers_located fun hinside value hvalue => ?_⟩
    have hfound := List.getElem?_eq_getElem hinside.toNat_lt
    rw [hfound] at hvalue
    obtain rfl := Except.ok.inj hvalue
    exact (hsequence.elements _ (List.getElem_mem hinside.toNat_lt)).type
  set := fun {sequence index value items i item} hsequence hindex hitem => by
    obtain ⟨reading, hread, -, hgives⟩ :=
      hperforms.set hsequence.type hsequence.reads hindex hitem.type
    rw [hread item hitem.reads] at hgives
    refine hgives.answers_located fun _ value hvalue => ?_
    obtain rfl := Except.ok.inj hvalue
    rw [format.type_value]
    exact Hierarchy.isA_self _ _

section Kinds

variable {library : Library}
  (hsize : catalog.Provides library.types library.collections.size
    (sizeFittings library.types))
  (hget : catalog.Provides library.types library.collections.get
    (getFittings library.types))
  (hset : catalog.Provides library.types library.collections.set
    (setFittings library.types))
include hsize hget hset

theorem serves_lists : Serves custom catalog library .list := by
  refine (performs_lists hget hset).serves fun {sequence items} hsequence => ?_
  have hrow : (⟨[.list], .int⟩, .size library.types) ∈
      sizeFittings library.types := by simp [sizeFittings, sizeTable]
  have hlength : Collections.length sequence.payload = .ok items.length := by
    have hlist : sequence.payload.list? = some items := hsequence.reads
    cases hpayload : sequence.payload <;> rw [hpayload] at hlist <;> cases hlist
    rfl
  exact answers_size hsize hrow hsequence.type hlength

theorem serves_texts : Serves custom catalog library .text := by
  refine (performs_texts hget hset).serves fun {sequence items} hsequence => ?_
  have hrow : (⟨[.string], .int⟩, .size library.types) ∈
      sizeFittings library.types := by simp [sizeFittings, sizeTable]
  obtain ⟨s, htext, rfl⟩ := Option.map_eq_some_iff.mp hsequence.reads
  have hlength : Collections.length sequence.payload = .ok s.toList.length := by
    cases hpayload : sequence.payload <;> rw [hpayload] at htext <;> cases htext
    rw [String.length_toList]
    rfl
  exact answers_size hsize hrow hsequence.type hlength

end Kinds

/-! ## The laws of sequences -/

/-- What reading and changing a sequence at an index has to do with its elements,
where a value stands for the new element. -/
structure SequenceLaws {α : Type}
    (custom : Custom → List Value → Program (Body Custom) Value)
    (catalog : Catalog (Body Custom)) (library : Library)
    (format : SequenceFormat α) (sequence : Value) (items : List α)
    (index : Value) (i : ℤ) (value : Value) (item : α) : Prop where
  size : Answers custom catalog library.collections.size [sequence]
    (.ok (library.types.intValue items.length))
  outside : ¬ Inside i items.length →
    Answers custom catalog library.collections.get [sequence, index]
        (.error (.bounds (Arguments.reportedIndex i) items.length)) ∧
      Answers custom catalog library.collections.set [sequence, index, value]
        (.error (.bounds (Arguments.reportedIndex i) items.length))
  set : Inside i items.length →
    Answers custom catalog library.collections.set [sequence, index, value]
      (.ok (format.updated library.types items i item))
  size_updated : Inside i items.length →
    Answers custom catalog library.collections.size
      [format.updated library.types items i item]
      (.ok (library.types.intValue items.length))
  get_updated : Inside i items.length →
    Answers custom catalog library.collections.get
      [format.updated library.types items i item, index]
      (.ok (format.itemValue library.types item))
  get_updated_other : Inside i items.length → ∀ (other : Value) (j : ℤ),
    IsIndex catalog library.types other j → Inside j items.length → j ≠ i →
      ∃ found, Answers custom catalog library.collections.get [sequence, other]
          (.ok found) ∧
        Answers custom catalog library.collections.get
          [format.updated library.types items i item, other] (.ok found)
  set_updated : Inside i items.length → ∀ (later : Value) (last : α),
    format.IsItem catalog library.types later last →
      ∃ result, Answers custom catalog library.collections.set
          [sequence, index, later] (.ok result) ∧
        Answers custom catalog library.collections.set
          [format.updated library.types items i item, index, later] (.ok result)
  restore : Inside i items.length → ∃ found,
    items[i.toNat]? = some found ∧
      Answers custom catalog library.collections.get [sequence, index]
        (.ok (format.itemValue library.types found)) ∧
      Answers custom catalog library.collections.set
        [sequence, index, format.itemValue library.types found]
        (.ok (format.value library.types items))

namespace Serves

variable {α : Type} {library : Library} {format : SequenceFormat α}
  (hserves : Serves custom catalog library format) {sequence index : Value}
  {items : List α} {i : ℤ}
  (hsequence : format.IsSequence catalog library.types sequence items)
  (hindex : IsIndex catalog library.types index i)
include hserves hsequence hindex

theorem get_inside (hinside : Inside i items.length) {found : α}
    (hfound : items[i.toNat]? = some found) :
    Answers custom catalog library.collections.get [sequence, index]
      (.ok (format.itemValue library.types found)) := by
  obtain ⟨missing, hget⟩ := hserves.get hsequence hindex
  rw [located_bind_of_inside hinside, hfound] at hget
  exact hget

theorem get_outside (houtside : ¬ Inside i items.length) :
    Answers custom catalog library.collections.get [sequence, index]
      (.error (.bounds (Arguments.reportedIndex i) items.length)) := by
  obtain ⟨missing, hget⟩ := hserves.get hsequence hindex
  rw [located_bind_of_outside houtside] at hget
  exact hget

section Set

variable {value : Value} {item : α}
  (hitem : format.IsItem catalog library.types value item)
include hitem

theorem set_inside (hinside : Inside i items.length) :
    Answers custom catalog library.collections.set [sequence, index, value]
      (.ok (format.updated library.types items i item)) := by
  have hset := hserves.set hsequence hindex hitem
  rw [located_bind_of_inside hinside] at hset
  exact hset

theorem set_outside (houtside : ¬ Inside i items.length) :
    Answers custom catalog library.collections.set [sequence, index, value]
      (.error (.bounds (Arguments.reportedIndex i) items.length)) := by
  have hset := hserves.set hsequence hindex hitem
  rw [located_bind_of_outside houtside] at hset
  exact hset

theorem laws :
    SequenceLaws custom catalog library format sequence items index i value item := by
  have hupdated := hsequence.updated hitem i
  have hlength : (items.set i.toNat item).length = items.length := List.length_set
  have hinside' : ∀ {j}, Inside j items.length →
      Inside j (items.set i.toNat item).length := fun hinside => by
    rw [hlength]
    exact hinside
  refine ⟨hserves.size hsequence, fun houtside =>
    ⟨hserves.get_outside hsequence hindex houtside,
      hserves.set_outside hsequence hindex hitem houtside⟩,
    hserves.set_inside hsequence hindex hitem, fun _ => ?size, fun hinside => ?same,
    fun hinside other j hother hj hne => ?other, fun hinside later last hlater => ?set,
    fun hinside => ?restore⟩
  case size =>
    have hsize := hserves.size hupdated
    rw [hlength] at hsize
    exact hsize
  case same =>
    exact hserves.get_inside hupdated hindex (hinside' hinside)
      (List.getElem?_set_self hinside.toNat_lt)
  case other =>
    have hfound := List.getElem?_eq_getElem hj.toNat_lt
    refine ⟨_, hserves.get_inside hsequence hother hj hfound,
      hserves.get_inside hupdated hother (hinside' hj) ?_⟩
    rw [List.getElem?_set_ne (hinside.toNat_ne hj hne)]
    exact hfound
  case set =>
    have hlast := hserves.set_inside hupdated hindex hlater (hinside' hinside)
    rw [SequenceFormat.updated_set] at hlast
    exact ⟨_, hserves.set_inside hsequence hindex hlater hinside, hlast⟩
  case restore =>
    have hlt := hinside.toNat_lt
    have hfound := List.getElem?_eq_getElem hlt
    have hrestored := hserves.set_inside hsequence hindex
      (hsequence.elements _ (List.getElem_mem hlt)) hinside
    rw [SequenceFormat.updated, List.set_getElem_self] at hrestored
    exact ⟨_, hfound, hserves.get_inside hsequence hindex hinside hfound, hrestored⟩

end Set

end Serves

/-- Wherever the base library has been installed and `size`, `get` and `set` have
got no further entries, these obey the laws of sequences: on lists, for all
values, and on texts for characters. -/
theorem sequence_laws {library : Library} {registry : Registry (Body Custom)}
    (hinstalled : library.InstalledIn [library.collections.size,
      library.collections.get, library.collections.set] registry)
    (custom : Custom → List Value → Program (Body Custom) Value)
    {sequence index value : Value} {i : ℤ}
    (hindex : registry.isA library.types.int index.type = true)
    (hinteger : index.payload.int? = some i) :
    (∀ items, sequence.payload = .list items →
      registry.isA library.types.list sequence.type = true →
      (∀ item ∈ items, registry.isA Predicate.any item.type = true) →
      registry.isA Predicate.any value.type = true →
        SequenceLaws custom registry.toCatalog library .list sequence items index i
          value value) ∧
    ∀ s character, sequence.payload = .text s →
      registry.isA library.types.string sequence.type = true →
      value.payload.char? = some character →
      registry.isA library.types.character value.type = true →
        SequenceLaws custom registry.toCatalog library .text sequence s.toList index
          i value character := by
  have hsize : registry.Provides library.types library.collections.size
      (sizeFittings library.types) :=
    hinstalled.provides (by simp)
      (library.collectionFittings_subset (by simp [collectionFittings]))
  have hget := hinstalled.provides_get (by simp)
  have hset := hinstalled.provides_set (by simp)
  constructor
  · intro items hpayload htype hitems hany
    have hsequence : SequenceFormat.list.IsSequence registry.toCatalog library.types
        sequence items :=
      ⟨htype, congrArg Payload.list? hpayload, fun item hitem =>
        ⟨hitems item hitem, rfl⟩⟩
    exact (serves_lists hsize hget hset).laws hsequence ⟨hindex, hinteger⟩
      ⟨hany, rfl⟩
  · intro s character hpayload htype hcharacter hvalue
    have hsequence : SequenceFormat.text.IsSequence registry.toCatalog library.types
        sequence s.toList := by
      refine ⟨htype, ?_, fun character _ =>
        ⟨Hierarchy.isA_self _ library.types.character, Payload.char?_toNat character⟩⟩
      rw [hpayload]
      rfl
    exact (serves_texts hsize hget hset).laws hsequence ⟨hindex, hinteger⟩
      ⟨hvalue, hcharacter⟩

/-- An index beyond all lengths, and a text with more bytes than characters. -/
theorem sequence_laws_samples :
    ∃ (library : Library) (registry : Registry (Body Empty)),
      install.exec (Body.meaning nofun) 0 { registry := .fresh {} } =
        some (.ok library, { registry := registry }) ∧
      Answers nofun registry.toCatalog library.collections.get
        [library.types.listValue [.null],
          library.types.intValue (Arguments.greatestIndex + 1)]
        (.error (.bounds Arguments.greatestIndex 1)) ∧
      Answers nofun registry.toCatalog library.collections.set
        [library.types.textValue "né", library.types.intValue 1,
          library.types.characterValue 'o']
        (.ok (library.types.textValue "no")) := by
  obtain ⟨library, registry, hinstall, hinstalled⟩ := exists_installedIn {}
    (Body.meaning (nofun : Empty → List Value → Program (Body Empty) Value)) 0
  have hclosed := hinstalled [library.collections.size, library.collections.get,
    library.collections.set]
  have hbase := hclosed.isA_handle
  have hindex : ∀ n, registry.isA library.types.int (library.types.intValue n).type =
      true := fun _ => hbase .int .int
  refine ⟨library, registry, hinstall, ?_, ?_⟩
  · have hlaws : SequenceLaws nofun registry.toCatalog library .list
        (library.types.listValue [.null]) [.null]
        (library.types.intValue (Arguments.greatestIndex + 1))
        (Arguments.greatestIndex + 1) .null .null :=
      (sequence_laws hclosed nofun (hindex _) rfl).1 [.null] rfl (hbase .list .list)
        (List.forall_mem_singleton.mpr (hbase .any .null)) (hbase .any .null)
    exact (hlaws.outside (by decide)).1
  · have hlaws : SequenceLaws nofun registry.toCatalog library .text
        (library.types.textValue "né") ['n', 'é'] (library.types.intValue 1) 1
        (library.types.characterValue 'o') 'o' :=
      (sequence_laws hclosed nofun (hindex _) rfl).2 "né" 'o' rfl
        (hbase .string .string) (Payload.char?_toNat 'o')
        (hbase .character .character)
    exact hlaws.set (by decide)

end Library

end PredicateDispatch
