import PredicateDispatch.Proofs.Library.Rendering

/-!
# Joining texts by `add`

`add` has three entries for texts: one for two texts, which joins them, and two for
a text and anything else, which call `str` for the other value.  They are one law:
the text of the one argument is put before or behind that by which `str` shows the
other one.  The exception is a value that is tagged as a text and has another
payload, which the entry for two texts refuses.

Two texts have to be in reach of `isString`.  Only the symmetric metric leaves any
out, where it cuts a distance off and can no longer tell the entry for two texts from
the other ones.
-/

namespace PredicateDispatch.Library

open Catalog (Computes Decides)

variable {Custom : Type} {custom : Custom → List Value → Program (Body Custom) Value}
  {catalog : Catalog (Body Custom)} {types : BaseTypes} {str : ℕ}

/-! ## What `str` shows -/

theorem sizeOf_item_lt {value item : Value} {items : List Value}
    (hlist : value.payload.list? = some items) (hitem : item ∈ items) :
    sizeOf item < sizeOf value := by
  obtain ⟨payload, tag⟩ := value
  cases payload <;> cases hlist
  have hsmaller := List.sizeOf_lt_of_mem hitem
  simp only [Value.mk.sizeOf_spec, Payload.list.sizeOf_spec]
  omega

theorem sizeOf_binding_lt {value : Value} {binding : Binding}
    {bindings : List Binding} (hmap : value.payload.map? = some bindings)
    (hbinding : binding ∈ bindings) :
    sizeOf binding.key < sizeOf value ∧ sizeOf binding.value < sizeOf value := by
  obtain ⟨payload, tag⟩ := value
  cases payload <;> cases hmap
  have hsmaller := List.sizeOf_lt_of_mem hbinding
  obtain ⟨key, bound⟩ := binding
  simp only [Value.mk.sizeOf_spec, Payload.map.sizeOf_spec,
    Binding.mk.sizeOf_spec] at hsmaller ⊢
  omega

/-- The program answers with a text of type `isString`, or fails. -/
def AnswersText (custom : Custom → List Value → Program (Body Custom) Value)
    (catalog : Catalog (Body Custom)) (types : BaseTypes)
    (program : Program (Body Custom) Value) : Prop :=
  ∃ text : Except Error String,
    catalog.Computes (Body.meaning custom) program (text.map types.textValue)

namespace AnswersText

theorem pure (text : String) :
    AnswersText custom catalog types (Pure.pure (types.textValue text)) :=
  ⟨.ok text, .done _⟩

theorem bind {α : Type} {program : Program (Body Custom) α}
    {outcome : Except Error α} {rest : α → Program (Body Custom) Value}
    (hprogram : catalog.Computes (Body.meaning custom) program outcome)
    (hrest : ∀ answer, outcome = .ok answer →
      AnswersText custom catalog types (rest answer)) :
    AnswersText custom catalog types (program >>= rest) := by
  cases outcome with
  | error error => exact ⟨.error error, hprogram.bind_error⟩
  | ok answer =>
      obtain ⟨text, htext⟩ := hrest answer rfl
      exact ⟨text, hprogram.bind_ok htext⟩

/-- What is shown of something that was read. -/
theorem read {α : Type} (outcome : Except Error α) (shown : α → String) :
    AnswersText custom catalog types
      (.done (outcome >>= fun answer => .ok (types.textValue (shown answer)))) :=
  ⟨outcome.map shown, by cases outcome <;> exact .done _⟩

variable {value : Value}

theorem functionText : AnswersText custom catalog types
    ((Primitive.functionText types).run [value]) := by
  obtain ⟨payload, tag⟩ := value
  cases payload with
  | function callable => exact ⟨.ok ("<fn " ++ callable.name ++ ">"), .done _⟩
  | predicate type => exact ⟨.ok type.name, .done _⟩
  | _ => exact ⟨.error _, .done _⟩

section Collections

variable (hsmaller : ∀ other : Value, sizeOf other < sizeOf value →
  AnswersText custom catalog types (Program.call str [other]))
include hsmaller

theorem decides_toText {other : Value} (hother : sizeOf other < sizeOf value) :
    catalog.Decides (Body.meaning custom) (Program.toText str other) := by
  obtain ⟨text, hcall⟩ := hsmaller other hother
  exact ⟨text, computes_toText text hcall⟩

theorem listText : AnswersText custom catalog types
    ((Primitive.listText str types).run [value]) := by
  refine bind (.done (Arguments.list [value] 0)) fun items hread => ?_
  obtain ⟨_, hvalue, hlist⟩ := Arguments.read_eq_ok_iff.mp hread
  obtain rfl := Option.some.inj hvalue
  have htexts : catalog.Decides (Body.meaning custom)
      (Program.toTexts str items) :=
    .collect (fun item hitem =>
      decides_toText hsmaller (sizeOf_item_lt hlist hitem)) []
  obtain ⟨outcome, htexts⟩ := htexts
  exact bind htexts fun texts _ => pure (bracketed texts)

theorem mapText : AnswersText custom catalog types
    ((Primitive.mapText str types).run [value]) := by
  refine bind (.done (Arguments.map [value] 0)) fun bindings hread => ?_
  obtain ⟨_, hvalue, hmap⟩ := Arguments.read_eq_ok_iff.mp hread
  obtain rfl := Option.some.inj hvalue
  have htexts : catalog.Decides (Body.meaning custom)
      (Program.bindingTexts str bindings) := by
    refine .collect (fun binding hbinding => ?_) []
    obtain ⟨hkey, hbound⟩ := sizeOf_binding_lt hmap hbinding
    exact (decides_toText hsmaller hkey).bind fun key =>
      (decides_toText hsmaller hbound).bind fun bound => .done _
  obtain ⟨outcome, htexts⟩ := htexts
  exact bind htexts fun texts _ => pure (braced texts)

/-- All code of `str` answers with a text or fails, if `str` does so for all
smaller values. -/
theorem of_code {row : Row} {primitive : Primitive}
    (hcode : (row, primitive) ∈ strFittings types str) :
    AnswersText custom catalog types (primitive.run [value]) := by
  simp only [strFittings, strTable, List.zip_cons_cons, List.zip_nil_left,
    List.mem_cons, List.not_mem_nil, or_false, Prod.mk.injEq] at hcode
  rcases hcode with ⟨-, rfl⟩ | ⟨-, rfl⟩ | ⟨-, rfl⟩ | ⟨-, rfl⟩ | ⟨-, rfl⟩ | ⟨-, rfl⟩ |
    ⟨-, rfl⟩
  · exact ⟨.ok value.payload.display, .done _⟩
  · exact read (Arguments.int [value] 0) toString
  · exact read (Arguments.character [value] 0) toString
  · exact functionText
  · exact read (Arguments.predicate [value] 0) Predicate.name
  · exact listText hsmaller
  · exact mapText hsmaller

end Collections

/-- Without a default `str` runs nothing but its own code, whatever value it is
asked for. -/
theorem call_str (hstr : catalog.Provides types str (strFittings types str))
    (hdefault : ∀ function, catalog.function? str = some function →
      function.fallback = none) (value : Value) :
    AnswersText custom catalog types (Program.call str [value]) := by
  obtain ⟨function, hfunction, hentries, -⟩ := hstr.fitted.function
  rcases Catalog.exists_picks_or_computes_error (Body.meaning custom) hfunction
    (hdefault function hfunction) [value] with ⟨entry, hentry, hpicks⟩ | ⟨error, hfails⟩
  · rw [hentries] at hentry
    obtain ⟨⟨row, primitive⟩, hrow, rfl⟩ := List.mem_map.mp hentry
    have hreturns : row.returns = .string := by
      have hall : ∀ row ∈ strTable, row.returns = .string := by decide
      exact hall row (List.mem_map_of_mem (f := Prod.fst) hrow)
    obtain ⟨text, hcode⟩ := of_code
      (fun other _ => call_str hstr hdefault other) hrow
    exact ⟨text, computes_text_of_picks text hpicks hreturns hcode⟩
  · exact ⟨.error error, hfails⟩
termination_by sizeOf value

end AnswersText

/-! ## What `add` picks -/

section Add

variable {add : ℕ} (hadd : catalog.Provides types add
  (arithmeticFittings types .add ++ joinFittings types str))
include hadd

/-- With a text among the arguments no entry for numbers accepts them. -/
theorem picks_add {first second : Predicate} {row : Row} {primitive : Primitive}
    (hrow : (row, primitive) ∈ joinFittings types str)
    (haccepts : catalog.hierarchy.accepts (types.handles row.arguments)
      [first, second] = true)
    (hstring : catalog.isA types.string first = true ∨
      catalog.isA types.string second = true)
    (hothers : ∀ other ∈ joinTable.map Row.arguments, other ≠ row.arguments →
      catalog.hierarchy.accepts (types.handles other) [first, second] = true →
        BaseType.aboveAll other row.arguments = true ∧
          catalog.hierarchy.InReach catalog.metric (types.handles row.arguments)
            [first, second]) :
    catalog.Picks add [first, second] (types.entry (row, primitive)) := by
  have hnodup : ((arithmeticTable ++ joinTable).map Row.arguments).Nodup := by
    decide
  refine hadd.picks hnodup (List.mem_append_right _ hrow) haccepts
    fun other hother hne hother_accepts => ?_
  have hmem : other ∈ arithmeticTable.map Row.arguments ++
      joinTable.map Row.arguments := hother
  rcases List.mem_append.mp hmem with harithmetic | hjoin
  · -- A number would have to be at the place of the text.
    have happart : ∀ number ∈ [BaseType.int, .real],
        BaseType.above .string number = false ∧
          BaseType.above number .string = false := by decide
    have hnumber : ∀ number ∈ [BaseType.int, .real],
        ¬ (catalog.isA (types.handle number) first = true ∧
          catalog.isA (types.handle number) second = true) := by
      intro number hnumber ⟨hfirst, hsecond⟩
      have hnone := hadd.placed.isA_eq_false_of_apart hadd.coherent
      rcases hstring with htext | htext
      · cases hfirst.symm.trans (hnone .string number htext (happart number hnumber))
      · cases hsecond.symm.trans
          (hnone .string number htext (happart number hnumber))
    rcases List.mem_pair.mp harithmetic with rfl | rfl
    · rw [Catalog.accepts_pair, Bool.and_eq_true] at hother_accepts
      exact absurd hother_accepts (hnumber .int (by decide))
    · rw [Catalog.accepts_pair, Bool.and_eq_true] at hother_accepts
      exact absurd hother_accepts (hnumber .real (by decide))
  · exact hothers other hjoin hne hother_accepts

section Texts

variable {first second : Predicate}

/-- Two texts are joined, unless they are too far away for the metric. -/
theorem picks_joinTexts (hfirst : catalog.isA types.string first = true)
    (hsecond : catalog.isA types.string second = true)
    (hreach : catalog.hierarchy.InReach catalog.metric [types.string, types.string]
      [first, second]) :
    catalog.Picks add [first, second]
      (types.entry (⟨[.string, .string], .string⟩, .joinTexts types)) := by
  have hbelow : ∀ other ∈ joinTable.map Row.arguments,
      BaseType.aboveAll other [.string, .string] = true := by decide
  exact picks_add hadd (by simp [joinFittings, joinTable])
    (Hierarchy.accepts_iff_covers.mpr (.cons hfirst (.cons hsecond .nil)))
    (Or.inl hfirst)
    fun other hother _ _ => ⟨hbelow other hother, hreach⟩

/-- A text and something else, which the other entries would have to take for a
text. -/
theorem picks_appendRendered (hfirst : catalog.isA types.string first = true)
    (hany : catalog.isA Predicate.any second = true)
    (hsecond : catalog.isA types.string second = false) :
    catalog.Picks add [first, second]
      (types.entry (⟨[.string, .any], .string⟩, .appendRendered str types)) := by
  have htext : ∀ other ∈ joinTable.map Row.arguments, other ≠ [.string, .any] →
      other = [.string, .string] ∨ other = [.any, .string] := by decide
  refine picks_add hadd (by simp [joinFittings, joinTable])
    (Hierarchy.accepts_iff_covers.mpr (.cons hfirst (.cons hany .nil))) (Or.inl hfirst)
    fun other hother hne haccepts => ?_
  rcases htext other hother hne with rfl | rfl <;>
    rw [Catalog.accepts_pair] at haccepts <;>
    cases hsecond.symm.trans (Bool.and_eq_true_iff.mp haccepts).2

theorem picks_prependRendered (hany : catalog.isA Predicate.any first = true)
    (hfirst : catalog.isA types.string first = false)
    (hsecond : catalog.isA types.string second = true) :
    catalog.Picks add [first, second]
      (types.entry (⟨[.any, .string], .string⟩, .prependRendered str types)) := by
  have htext : ∀ other ∈ joinTable.map Row.arguments, other ≠ [.any, .string] →
      other = [.string, .string] ∨ other = [.string, .any] := by decide
  refine picks_add hadd (by simp [joinFittings, joinTable])
    (Hierarchy.accepts_iff_covers.mpr (.cons hany (.cons hsecond .nil))) (Or.inr hsecond)
    fun other hother hne haccepts => ?_
  rcases htext other hother hne with rfl | rfl <;>
    rw [Catalog.accepts_pair] at haccepts <;>
    cases hfirst.symm.trans (Bool.and_eq_true_iff.mp haccepts).1

end Texts

end Add

/-! ## What the code makes of a text and a value -/

section Code

theorem computes_str_of_isA_string {value : Value}
    (hstr : catalog.Provides types str (strFittings types str))
    (htext : catalog.isA types.string value.type = true) :
    catalog.Computes (Body.meaning custom) (Program.call str [value])
      (.ok (types.textValue value.payload.display)) := by
  have htable : (strFittings types str).map Prod.fst = strTable := rfl
  have hnodup : (strTable.map Row.arguments).Nodup := by decide
  have hrow : (⟨[.any], .string⟩, .displayText types) ∈ strFittings types str := by
    simp [strFittings, strTable]
  have hknown : catalog.hierarchy.accepts (types.handles [.string]) [value.type] =
      true := Hierarchy.accepts_singleton_iff.mpr ⟨types.string, rfl, htext⟩
  have hsole : ∀ other ∈ strTable.map Row.arguments, other ≠ [.any] →
      BaseType.meet? other [.string] = none := by decide
  exact computes_text_of_picks (.ok value.payload.display)
    (hstr.picks_of_sole htable hnodup hrow hknown rfl hsole) rfl (.done _)

/-- The text of a value, whatever its tag. -/
def textOf (value : Value) : Except Error String :=
  match value.payload with
  | .text s => .ok s
  | other => .error (.type (.mismatch .text other))

theorem text_eq_textOf {arguments : List Value} {index : ℕ} {value : Value}
    (hvalue : arguments[index]? = some value) :
    Arguments.text arguments index = textOf value := by
  rw [Arguments.text, Arguments.read, Arguments.value, hvalue]
  dsimp only
  rw [textOf]
  cases value.payload <;> rfl

variable {text value : Value} {t : String} (htext : textOf text = .ok t)
include htext

/-- Two texts, or the failure of what is none. -/
theorem run_joinTexts :
    (Primitive.joinTexts types).run [text, value] =
        (.done (((textOf value).map (t ++ ·)).map types.textValue) :
          Program (Body Custom) Value) ∧
      (Primitive.joinTexts types).run [value, text] =
        (.done (((textOf value).map (· ++ t)).map types.textValue) :
          Program (Body Custom) Value) := by
  constructor
  · change Program.done (Arguments.text [text, value] 0 >>= fun a =>
      Arguments.text [text, value] 1 >>= fun b => .ok (types.textValue (a ++ b))) = _
    rw [text_eq_textOf rfl, text_eq_textOf rfl, htext]
    cases textOf value <;> rfl
  · change Program.done (Arguments.text [value, text] 0 >>= fun a =>
      Arguments.text [value, text] 1 >>= fun b => .ok (types.textValue (a ++ b))) = _
    rw [text_eq_textOf rfl, text_eq_textOf rfl, htext]
    cases textOf value <;> rfl

section Shown

variable {shown : Except Error String} (hshown : catalog.Computes
  (Body.meaning custom) (Program.toText str value) shown)
include hshown

omit hshown in
theorem computes_text {arguments : List Value} {index : ℕ}
    (hindex : arguments[index]? = some text) :
    catalog.Computes (Body.meaning custom)
      (Program.done (Arguments.text arguments index)) (.ok t) := by
  rw [text_eq_textOf hindex, htext]
  exact .done _

theorem computes_appendRendered :
    catalog.Computes (Body.meaning custom)
      ((Primitive.appendRendered str types).run [text, value])
      ((shown.map (t ++ ·)).map types.textValue) := by
  have hrun : catalog.Computes (Body.meaning custom)
      ((Primitive.appendRendered str types).run [text, value])
      (shown >>= fun x => .ok (types.textValue (t ++ x))) :=
    (Computes.done (.ok value)).bind_ok (hshown.bind fun x _ =>
      (computes_text htext rfl).bind_ok (.done _))
  cases shown <;> exact hrun

theorem computes_prependRendered :
    catalog.Computes (Body.meaning custom)
      ((Primitive.prependRendered str types).run [value, text])
      ((shown.map (· ++ t)).map types.textValue) := by
  have hrun : catalog.Computes (Body.meaning custom)
      ((Primitive.prependRendered str types).run [value, text])
      (shown >>= fun x => .ok (types.textValue (x ++ t))) :=
    (Computes.done (.ok value)).bind_ok (hshown.bind fun x _ =>
      (computes_text htext rfl).bind_ok (.done _))
  cases shown <;> exact hrun

end Shown

end Code

/-! ## The law -/

/-- The call of `str` for the value answers with a text, or fails. -/
def Shows (custom : Custom → List Value → Program (Body Custom) Value)
    (catalog : Catalog (Body Custom)) (library : Library) (value : Value)
    (shown : Except Error String) : Prop :=
  catalog.Computes (Body.meaning custom) (Program.call library.text [value])
    (shown.map library.types.textValue)

theorem Shows.unique {registry : Registry (Body Custom)}
    (hreachable : registry.Reachable) {library : Library} {value : Value}
    {left right : Except Error String}
    (hleft : Shows custom registry.toCatalog library value left)
    (hright : Shows custom registry.toCatalog library value right) :
    left = right := by
  have heq := Computes.unique hreachable hleft hright
  cases left <;> cases right <;> cases heq <;> rfl

/-- Addition puts the text `t` before or behind what another value is shown as, and
fails if that fails. -/
structure Joins (custom : Custom → List Value → Program (Body Custom) Value)
    (catalog : Catalog (Body Custom)) (library : Library) (text value : Value)
    (t : String) (shown : Except Error String) : Prop where
  append : catalog.Computes (Body.meaning custom)
    (Program.call library.numbers.add [text, value])
    ((shown.map (t ++ ·)).map library.types.textValue)
  prepend : catalog.Computes (Body.meaning custom)
    (Program.call library.numbers.add [value, text])
    ((shown.map (· ++ t)).map library.types.textValue)

section Law

variable {library : Library} {text value : Value} {t : String}
  (hadd : catalog.Provides library.types library.numbers.add
    (arithmeticFittings library.types .add ++
      joinFittings library.types library.text))
  (htext : textOf text = .ok t)
  (hstring : catalog.isA library.types.string text.type = true)
include hadd htext hstring

theorem joins_of_shows (hany : catalog.isA Predicate.any value.type = true)
    (hother : catalog.isA library.types.string value.type = false)
    {shown : Except Error String} (hshows : Shows custom catalog library value shown) :
    Joins custom catalog library text value t shown where
  append := computes_text_of_picks _ (picks_appendRendered hadd hstring hany hother)
    rfl (computes_appendRendered htext (computes_toText shown hshows))
  prepend := computes_text_of_picks _ (picks_prependRendered hadd hany hother hstring)
    rfl (computes_prependRendered htext (computes_toText shown hshows))

/-- Two values that are tagged as texts are joined by their payloads. -/
theorem joins_of_isA_string
    (hvalue : catalog.isA library.types.string value.type = true)
    (hreach : catalog.hierarchy.InReach catalog.metric
      [library.types.string, library.types.string] [text.type, value.type]) :
    Joins custom catalog library text value t (textOf value) := by
  obtain ⟨hfirst, hsecond, -⟩ := hreach
  obtain ⟨happend, hprepend⟩ := @run_joinTexts Custom library.types text value t htext
  constructor
  · refine computes_text_of_picks _ (picks_joinTexts hadd hstring hvalue
      ⟨hfirst, hsecond, trivial⟩) rfl ?_
    rw [happend]
    exact .done _
  · refine computes_text_of_picks _ (picks_joinTexts hadd hvalue hstring
      ⟨hsecond, hfirst, trivial⟩) rfl ?_
    rw [hprepend]
    exact .done _

end Law

/-- Wherever the base library has been installed and `add` and `str` have got no
further entries, adding a text to a value, on either side, joins it with the text
by which `str` shows the value, and fails as `str` does.  For a value that is itself
tagged as a text the texts are joined as they are, which is the same, unless that
value has another payload: then addition fails.

The two texts have to be in reach of `isString`, which under the directed metric all
are.  Under the symmetric one this leaves out exactly the pairs with a type a hundred
links or more below it, whose distance is cut off. -/
theorem add_joins_with_str {library : Library} {registry : Registry (Body Custom)}
    (hinstalled : library.InstalledIn [library.numbers.add, library.text] registry)
    (custom : Custom → List Value → Program (Body Custom) Value)
    {text value : Value} {t : String} (htext : text.payload = .text t)
    (hstring : registry.isA library.types.string text.type = true)
    (hany : registry.isA Predicate.any value.type = true)
    (hreach : registry.isA library.types.string value.type = true →
      registry.hierarchy.InReach registry.metric
        [library.types.string, library.types.string] [text.type, value.type]) :
    ((∀ function, registry.function? library.text = some function →
        function.fallback = none) →
      ∃ shown, Shows custom registry.toCatalog library value shown) ∧
    ((registry.isA library.types.string value.type = true →
        ∃ u, value.payload = .text u) →
      ∀ shown, Shows custom registry.toCatalog library value shown →
        Joins custom registry.toCatalog library text value t shown) ∧
    (registry.isA library.types.string value.type = true →
      ∀ u, value.payload = .text u →
        (∀ code ∈ [Primitive.joinTexts library.types,
            .appendRendered library.text library.types],
          registry.Computes (Body.meaning custom) (code.run [text, value])
            (.ok (library.types.textValue (t ++ u)))) ∧
        ∀ code ∈ [Primitive.joinTexts library.types,
            .prependRendered library.text library.types],
          registry.Computes (Body.meaning custom) (code.run [value, text])
            (.ok (library.types.textValue (u ++ t)))) ∧
    (registry.isA library.types.string value.type = true →
      (∀ u, value.payload ≠ .text u) →
        Shows custom registry.toCatalog library value (.ok value.payload.display) ∧
        Joins custom registry.toCatalog library text value t
          (.error (.type (.mismatch .text value.payload)))) := by
  have hadd := hinstalled.provides (by simp) library.add_mem_fittings
  have hstr := hinstalled.provides (by simp) library.text_mem_fittings
  have ht : textOf text = .ok t := by rw [textOf, htext]
  have hdisplayed : registry.isA library.types.string value.type = true →
      Shows custom registry.toCatalog library value (.ok value.payload.display) :=
    fun hvalue => computes_str_of_isA_string hstr hvalue
  have hjoined : registry.isA library.types.string value.type = true →
      Joins custom registry.toCatalog library text value t (textOf value) :=
    fun hvalue => joins_of_isA_string hadd ht hstring hvalue (hreach hvalue)
  refine ⟨fun hdefault => AnswersText.call_str hstr hdefault value,
    fun hpayload shown hshows => ?_, fun hvalue u hu => ?_, fun hvalue hu => ?_⟩
  · cases hvalue : registry.isA library.types.string value.type with
    | false => exact joins_of_shows hadd ht hstring hany hvalue hshows
    | true =>
        obtain ⟨u, hu⟩ := hpayload hvalue
        have hsame : shown = textOf value := by
          rw [hshows.unique hinstalled.reachable (hdisplayed hvalue), textOf, hu]
          rfl
        rw [hsame]
        exact hjoined hvalue
  · have hshown : registry.Computes (Body.meaning custom)
        (Program.toText library.text value) (.ok u) := by
      have hshows := hdisplayed hvalue
      rw [hu] at hshows
      exact computes_toText (.ok u) hshows
    obtain ⟨happend, hprepend⟩ :=
      @run_joinTexts Custom library.types text value t ht
    have hboth : textOf value = .ok u := by rw [textOf, hu]
    rw [hboth] at happend hprepend
    refine ⟨List.forall_mem_cons.mpr ⟨?_, List.forall_mem_singleton.mpr ?_⟩,
      List.forall_mem_cons.mpr ⟨?_, List.forall_mem_singleton.mpr ?_⟩⟩
    · exact happend ▸ .done _
    · exact computes_appendRendered ht hshown
    · exact hprepend ▸ .done _
    · exact computes_prependRendered ht hshown
  · have hmistagged : textOf value = .error (.type (.mismatch .text value.payload)) := by
      rw [textOf]
      cases hpayload : value.payload with
      | text u => exact absurd hpayload (hu u)
      | _ => rfl
    exact ⟨hdisplayed hvalue, hmistagged ▸ hjoined hvalue⟩

theorem add_joins_with_str_number :
    ∃ (library : Library) (registry : Registry (Body Empty)),
      install.exec (Body.meaning nofun) 0 { registry := .fresh {} } =
        some (.ok library, { registry := registry }) ∧
      Joins nofun registry.toCatalog library (library.types.textValue "a")
        (library.types.intValue 5) "a" (.ok "5") := by
  obtain ⟨library, registry, hinstall, hinstalled⟩ := exists_installedIn {}
    (Body.meaning (nofun : Empty → List Value → Program (Body Empty) Value)) 0
  have hclosed := hinstalled [library.numbers.add, library.text]
  have hstr := hclosed.provides (by simp) library.text_mem_fittings
  have hbase := hclosed.isA_handle
  have htext : (library.types.textValue "a").payload = .text "a" := rfl
  have hany : registry.isA Predicate.any (library.types.intValue 5).type = true :=
    hbase .any .int
  have hother : registry.isA library.types.string
      (library.types.intValue 5).type ≠ true :=
    Bool.eq_false_iff.mp (hbase .string .int)
  obtain ⟨-, hjoins, -⟩ := add_joins_with_str hclosed nofun htext
    (hbase .string .string) hany fun hstring => absurd hstring hother
  exact ⟨library, registry, hinstall, hjoins (fun hstring => absurd hstring hother)
    (.ok "5") (computes_str_leaf hstr (.int 5))⟩

/-- A number that is tagged as a text is shown by `str`, but not joined. -/
theorem add_refuses_mistagged_number :
    ∃ (library : Library) (registry : Registry (Body Empty)),
      install.exec (Body.meaning nofun) 0 { registry := .fresh {} } =
        some (.ok library, { registry := registry }) ∧
      library.InstalledIn [library.numbers.add, library.text] registry ∧
      let text := library.types.textValue "a"
      let value := Value.tagged (.int 5) library.types.string
      registry.isA library.types.string text.type = true ∧
      registry.isA Predicate.any value.type = true ∧
      Shows nofun registry.toCatalog library value (.ok "5") ∧
      ¬ Joins nofun registry.toCatalog library text value "a" (.ok "5") := by
  obtain ⟨library, registry, hinstall, hinstalled⟩ := exists_installedIn {}
    (Body.meaning (nofun : Empty → List Value → Program (Body Empty) Value)) 0
  have hclosed := hinstalled [library.numbers.add, library.text]
  have hstr := hclosed.provides (by simp) library.text_mem_fittings
  have hadd := hclosed.provides (by simp) library.add_mem_fittings
  have hbase := hclosed.isA_handle
  have hself : registry.isA library.types.string library.types.string = true :=
    hbase .string .string
  have hzero := registry.hierarchy.typeDistance_self
    (rfl : library.types.string.id = library.types.string.id)
  have hnear : registry.hierarchy.typeDistance library.types.string
      library.types.string < unreachableDistance := hzero ▸ Nat.succ_pos 99
  refine ⟨library, registry, hinstall, hclosed, hself, hbase .any .string,
    computes_str_of_isA_string hstr hself, fun hjoins => ?_⟩
  have hfails : Joins nofun registry.toCatalog library (library.types.textValue "a")
      (.tagged (.int 5) library.types.string) "a"
      (.error (.type (.mismatch .text (.int 5)))) :=
    joins_of_isA_string hadd rfl hself hself
      ⟨fun _ => hnear, fun _ => hnear, trivial⟩
  cases Computes.unique hclosed.reachable hjoins.append hfails.append

end PredicateDispatch.Library
