import PredicateDispatch.Proofs.Library.Calls

/-!
# Rendering by `str`

`str` has an entry of its own for numbers, characters, functions, predicates, lists
and maps, and those for lists and maps call `str` again for every element.  On data
with the types that the base library gives them, all these calls together are one
recursion, and but for characters and functions it is that of the display text.
-/

namespace PredicateDispatch

/-! ## Data with their own types -/

/-- What is no collection. -/
inductive Leaf where
  | null
  | boolean (truth : Bool)
  | int (n : ℤ)
  | real (x : Float)
  | character (c : Char)
  | text (s : String)
  | predicate (type : Predicate)
  | function (callable : Callable)

namespace Leaf

def type : Leaf → BaseType
  | null => .null
  | boolean _ => .boolean
  | int _ => .int
  | real _ => .real
  | character _ => .character
  | text _ => .string
  | predicate _ => .predicate
  | function _ => .function

def value (types : BaseTypes) : Leaf → Value
  | null => .null
  | boolean truth => .boolean truth
  | int n => types.intValue n
  | real x => types.realValue x
  | character c => types.characterValue c
  | text s => types.textValue s
  | predicate type => .predicate type
  | function callable => .function callable

/-- A character is shown as itself and a function with a mark, everything else by
its display text. -/
def render : Leaf → String
  | null => "null"
  | boolean truth => if truth then "true" else "false"
  | int n => toString n
  | real x => Decimal.plain x
  | character c => toString c
  | text s => s
  | predicate type => type.name
  | function callable => "<fn " ++ callable.name ++ ">"

/-- Neither a character, which is displayed as a number, nor a function. -/
def IsPlain : Leaf → Prop
  | character _ => False
  | function _ => False
  | _ => True

theorem type_value (types : BaseTypes) (leaf : Leaf) :
    (leaf.value types).type = types.handle leaf.type := by
  cases leaf <;> rfl

theorem display_value (types : BaseTypes) {leaf : Leaf} (hplain : leaf.IsPlain) :
    (leaf.value types).display = leaf.render := by
  cases leaf <;> first | rfl | cases hplain

end Leaf

/-- Leaves, lists and maps of any depth. -/
inductive Datum where
  | leaf (content : Leaf)
  | list (items : List Datum)
  | map (bindings : List (Datum × Datum))

namespace Datum

mutual

def value (types : BaseTypes) : Datum → Value
  | leaf content => content.value types
  | list items => types.listValue (values types items)
  | map bindings => types.mapValue (bindingValues types bindings)
termination_by structural datum => datum

def values (types : BaseTypes) : List Datum → List Value
  | [] => []
  | item :: items => item.value types :: values types items
termination_by structural items => items

def bindingValue (types : BaseTypes) : Datum × Datum → Binding
  | (key, bound) => ⟨key.value types, bound.value types⟩
termination_by structural binding => binding

def bindingValues (types : BaseTypes) : List (Datum × Datum) → List Binding
  | [] => []
  | binding :: bindings =>
    bindingValue types binding :: bindingValues types bindings
termination_by structural bindings => bindings

end

mutual

/-- A list is shown as `[x, y, ..]` and a map as `{k: v, ..}`. -/
def render : Datum → String
  | leaf content => content.render
  | list items => bracketed (renders items)
  | map bindings => braced (bindingRenders bindings)
termination_by structural datum => datum

def renders : List Datum → List String
  | [] => []
  | item :: items => item.render :: renders items
termination_by structural items => items

def bindingRender : Datum × Datum → String
  | (key, bound) => key.render ++ ": " ++ bound.render
termination_by structural binding => binding

def bindingRenders : List (Datum × Datum) → List String
  | [] => []
  | binding :: bindings => bindingRender binding :: bindingRenders bindings
termination_by structural bindings => bindings

end

mutual

/-- There is no character and no function in it. -/
def IsPlain : Datum → Prop
  | leaf content => content.IsPlain
  | list items => ArePlain items
  | map bindings => BindingsArePlain bindings
termination_by structural datum => datum

def ArePlain : List Datum → Prop
  | [] => True
  | item :: items => item.IsPlain ∧ ArePlain items
termination_by structural items => items

def BindingIsPlain : Datum × Datum → Prop
  | (key, bound) => key.IsPlain ∧ bound.IsPlain
termination_by structural binding => binding

def BindingsArePlain : List (Datum × Datum) → Prop
  | [] => True
  | binding :: bindings => BindingIsPlain binding ∧ BindingsArePlain bindings
termination_by structural bindings => bindings

end

/-! ## Display text -/

mutual

theorem display_value (types : BaseTypes) : ∀ {datum : Datum}, datum.IsPlain →
    (datum.value types).display = datum.render
  | leaf _, hplain => Leaf.display_value types hplain
  | list _, hplain => congrArg bracketed (display_values types hplain)
  | map _, hplain => congrArg braced (display_bindingValues types hplain)
termination_by structural datum => datum

theorem display_values (types : BaseTypes) : ∀ {items : List Datum},
    ArePlain items → displayItems (values types items) = renders items
  | [], _ => rfl
  | _ :: _, ⟨hitem, hitems⟩ =>
    congrArg₂ List.cons (display_value types hitem) (display_values types hitems)
termination_by structural items => items

theorem display_bindingValue (types : BaseTypes) : ∀ {binding : Datum × Datum},
    BindingIsPlain binding →
      (bindingValue types binding).display = bindingRender binding
  | (_, _), ⟨hkey, hbound⟩ => congrArg₂ (fun key bound => key ++ ": " ++ bound)
    (display_value types hkey) (display_value types hbound)
termination_by structural binding => binding

theorem display_bindingValues (types : BaseTypes) :
    ∀ {bindings : List (Datum × Datum)}, BindingsArePlain bindings →
      displayBindings (bindingValues types bindings) = bindingRenders bindings
  | [], _ => rfl
  | _ :: _, ⟨hbinding, hbindings⟩ =>
    congrArg₂ List.cons (display_bindingValue types hbinding)
      (display_bindingValues types hbindings)
termination_by structural bindings => bindings

end

end Datum

/-! ## Texts of values -/

namespace Library

variable {Custom : Type} {custom : Custom → List Value → Program (Body Custom) Value}
  {catalog : Catalog (Body Custom)} {types : BaseTypes} {str : ℕ}

/-- The declared type of the row of `str` for a base type. -/
def strRow : BaseType → BaseType
  | .int => .int
  | .character => .character
  | .function => .function
  | .predicate => .predicate
  | .list => .list
  | .map => .map
  | _ => .any

/-- The code of that row. -/
def strCode (types : BaseTypes) (str : ℕ) : BaseType → Primitive
  | .int => .intText types
  | .character => .characterText types
  | .function => .functionText types
  | .predicate => .predicateText types
  | .list => .listText str types
  | .map => .mapText str types
  | _ => .displayText types

/-- An entry that is declared to answer with a text, and does if it succeeds. -/
theorem computes_text_of_picks (text : Except Error String) {id : ℕ}
    {arguments : List Value} {row : Row} {primitive : Primitive}
    (hpicks : catalog.Picks id (arguments.map Value.type)
      (types.entry (row, primitive)))
    (hreturns : row.returns = .string)
    (hcomputes : catalog.Computes (Body.meaning custom) (primitive.run arguments)
      (text.map types.textValue)) :
    catalog.Computes (Body.meaning custom) (Program.call id arguments)
      (text.map types.textValue) := by
  refine .call hpicks rfl hcomputes fun value hvalue => ?_
  cases text with
  | error error => cases hvalue
  | ok text =>
      obtain rfl := Except.ok.inj hvalue
      change catalog.isA (types.handle row.returns) types.string = true
      rw [hreturns]
      exact Hierarchy.isA_self _ types.string

/-- The text of a value is what `str` answers. -/
theorem computes_toText (text : Except Error String) {value : Value}
    (hcall : catalog.Computes (Body.meaning custom) (Program.call str [value])
      (text.map types.textValue)) :
    catalog.Computes (Body.meaning custom) (Program.toText str value) text := by
  cases text with
  | ok text => exact hcall.bind_ok (.done _)
  | error error => exact hcall.bind_error

theorem computes_bindingText {binding : Binding} {key value : String}
    (hkey : catalog.Computes (Body.meaning custom)
      (Program.call str [binding.key]) (.ok (types.textValue key)))
    (hvalue : catalog.Computes (Body.meaning custom)
      (Program.call str [binding.value]) (.ok (types.textValue value))) :
    catalog.Computes (Body.meaning custom) (Program.bindingText str binding)
      (.ok (key ++ ": " ++ value)) :=
  (computes_toText (.ok key) hkey).bind_ok
    ((computes_toText (.ok value) hvalue).bind_ok (.done _))

/-- A list is shown by the texts of its elements. -/
theorem computes_listText {items : List Value} {texts : List String}
    (htexts : List.Forall₂ (fun item text => catalog.Computes
      (Body.meaning custom) (Program.call str [item]) (.ok (types.textValue text)))
      items texts) :
    catalog.Computes (Body.meaning custom)
      ((Primitive.listText str types).run [types.listValue items])
      (.ok (types.textValue (bracketed texts))) := by
  have hcollected : catalog.Computes (Body.meaning custom)
      (Program.toTexts str items) (.ok texts) :=
    .collect (htexts.imp fun _ text hcall => computes_toText (.ok text) hcall) []
  exact (Catalog.Computes.done (.ok items)).bind_ok (hcollected.bind_ok (.done _))

theorem computes_mapText {bindings : List Binding} {texts : List String}
    (htexts : List.Forall₂ (fun binding text => catalog.Computes
      (Body.meaning custom) (Program.bindingText str binding) (.ok text))
      bindings texts) :
    catalog.Computes (Body.meaning custom)
      ((Primitive.mapText str types).run [types.mapValue bindings])
      (.ok (types.textValue (braced texts))) := by
  have hcollected : catalog.Computes (Body.meaning custom)
      (Program.bindingTexts str bindings) (.ok texts) := .collect htexts []
  exact (Catalog.Computes.done (.ok bindings)).bind_ok (hcollected.bind_ok (.done _))

section Str

variable (hstr : catalog.Provides types str (strFittings types str))
include hstr

/-- For a base type `str` picks the row of that type, or else the general one. -/
theorem picks_str (own : BaseType) :
    catalog.Picks str [types.handle own]
      (types.entry (⟨[strRow own], .string⟩, strCode types str own)) := by
  have htable : (strFittings types str).map Prod.fst = strTable := rfl
  have hnodup : (strTable.map Row.arguments).Nodup := by decide
  have hrow : (⟨[strRow own], .string⟩, strCode types str own) ∈
      strFittings types str := by
    cases own <;> simp [strFittings, strTable, strRow, strCode]
  have habove : BaseType.aboveAll [strRow own] [own] = true := by
    cases own <;> rfl
  have hbelow : ∀ other ∈ strTable.map Row.arguments,
      BaseType.aboveAll other [own] = true →
        BaseType.aboveAll other [strRow own] = true := by
    cases own <;> decide
  exact hstr.picks_handles htable hnodup hrow habove hbelow

theorem computes_str {value : Value} (own : BaseType)
    (htype : value.type = types.handle own) {text : String}
    (hcomputes : catalog.Computes (Body.meaning custom)
      ((strCode types str own).run [value]) (.ok (types.textValue text))) :
    catalog.Computes (Body.meaning custom) (Program.call str [value])
      (.ok (types.textValue text)) := by
  have hpicks := picks_str hstr own
  rw [← htype] at hpicks
  exact computes_text_of_picks (.ok text) hpicks rfl hcomputes

theorem computes_str_leaf (leaf : Leaf) :
    catalog.Computes (Body.meaning custom)
      (Program.call str [leaf.value types])
      (.ok (types.textValue leaf.render)) := by
  refine computes_str hstr leaf.type (leaf.type_value types) ?_
  cases leaf with
  | character c =>
      have hread : Arguments.character [types.characterValue c] 0 = .ok c :=
        Arguments.read_eq_ok_iff.mpr ⟨_, rfl, Payload.char?_toNat c⟩
      change catalog.Computes _ (Program.done (Arguments.character
        [types.characterValue c] 0 >>= fun c => .ok (types.textValue (toString c)))) _
      rw [hread]
      exact .done _
  | _ => exact .done _

end Str

mutual

/-- All calls of `str` for a datum together are its rendering. -/
theorem computes_str_datum
    (hstr : catalog.Provides types str (strFittings types str)) : ∀ datum : Datum,
    catalog.Computes (Body.meaning custom)
      (Program.call str [datum.value types]) (.ok (types.textValue datum.render))
  | .leaf content => computes_str_leaf hstr content
  | .list items =>
    computes_str hstr .list rfl (computes_listText (computes_str_items hstr items))
  | .map bindings => computes_str hstr .map rfl
      (computes_mapText (computes_str_bindings hstr bindings))
termination_by structural datum => datum

theorem computes_str_items
    (hstr : catalog.Provides types str (strFittings types str)) :
    ∀ items : List Datum,
    List.Forall₂ (fun item text => catalog.Computes (Body.meaning custom)
        (Program.call str [item]) (.ok (types.textValue text)))
      (Datum.values types items) (Datum.renders items)
  | [] => .nil
  | item :: items =>
    .cons (computes_str_datum hstr item) (computes_str_items hstr items)
termination_by structural items => items

theorem computes_str_binding
    (hstr : catalog.Provides types str (strFittings types str)) :
    ∀ binding : Datum × Datum,
    catalog.Computes (Body.meaning custom)
      (Program.bindingText str (Datum.bindingValue types binding))
      (.ok (Datum.bindingRender binding))
  | (key, bound) =>
    computes_bindingText (computes_str_datum hstr key)
      (computes_str_datum hstr bound)
termination_by structural binding => binding

theorem computes_str_bindings
    (hstr : catalog.Provides types str (strFittings types str)) :
    ∀ bindings : List (Datum × Datum),
    List.Forall₂ (fun binding text => catalog.Computes (Body.meaning custom)
        (Program.bindingText str binding) (.ok text))
      (Datum.bindingValues types bindings) (Datum.bindingRenders bindings)
  | [] => .nil
  | binding :: bindings =>
    .cons (computes_str_binding hstr binding) (computes_str_bindings hstr bindings)
termination_by structural bindings => bindings

end

/-- Wherever the base library has been installed and `str` has got no further
entries, `str` answers for every datum with the text of its rendering, of type
`isString`, and for data without characters and functions this is the display
text. -/
theorem str_renders {library : Library} {registry : Registry (Body Custom)}
    (hinstalled : library.InstalledIn [library.text] registry)
    (custom : Custom → List Value → Program (Body Custom) Value) (datum : Datum) :
    registry.Computes (Body.meaning custom)
        (Program.call library.text [datum.value library.types])
        (.ok (library.types.textValue datum.render)) ∧
      (datum.IsPlain → datum.render = (datum.value library.types).display) := by
  have hstr := hinstalled.provides List.mem_cons_self library.text_mem_fittings
  exact ⟨computes_str_datum hstr datum, fun hplain =>
    (Datum.display_value library.types hplain).symm⟩

/-- A list with a number, a map and a closure. -/
def sampleDatum : Datum :=
  .list [.leaf (.int 1), .map [(.leaf (.character 'k'), .leaf (.text "v"))],
    .leaf (.function (.closure 0 "f"))]

/-- Another function of the same name makes no difference. -/
theorem str_renders_sampleDatum :
    ∃ (library : Library) (registry : Registry (Body Empty)),
      install.exec (Body.meaning nofun) 0
          { registry := .fresh { distance := .symmetric } } =
        some (.ok library, { registry := registry }) ∧
      (registry.createFunction "str").Computes (Body.meaning nofun)
        (Program.call library.text [sampleDatum.value library.types])
        (.ok (library.types.textValue "[1, \x7bk: v\x7d, <fn f>]")) := by
  obtain ⟨library, registry, hinstall, hinstalled⟩ := exists_installedIn
    { distance := .symmetric }
    (Body.meaning (nofun : Empty → List Value → Program (Body Empty) Value)) 0
  have hnamed := (hinstalled [library.text]).perform (.createFunction "str") trivial
    fun _ _ => Set.notMem_empty _
  exact ⟨library, registry, hinstall, (str_renders hnamed nofun sampleDatum).1⟩

end Library

end PredicateDispatch
