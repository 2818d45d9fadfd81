import PredicateDispatch.Proofs.Json.Tokens

/-!
# Documents are read as they were written

Every document has a written form, at any depth of indentation, and the reader
takes exactly this form from the start of a text and gives the document back.  The
fuel that it needs is bounded by the length of what it reads.
-/

namespace PredicateDispatch.Json

/-! ## Blanks -/

theorem skipBlanks_newline (depth : ℕ) (rest : List Char) :
    skipBlanks (newline depth ++ rest) = skipBlanks rest := by
  refine List.dropWhile_append_of_pos fun c hc => ?_
  rcases List.mem_cons.mp hc with rfl | hblank
  · rfl
  · rw [(List.mem_replicate.mp hblank).2]
    rfl

theorem readValue_newline (fuel depth : ℕ) (rest : List Char) :
    readValue fuel (newline depth ++ rest) = readValue fuel rest := by
  cases fuel with
  | zero => rfl
  | succ fuel => rw [readValue, readValue, skipBlanks_newline]

theorem readItems_newline (fuel depth : ℕ) (rest : List Char) :
    readItems fuel (newline depth ++ rest) = readItems fuel rest := by
  cases fuel with
  | zero => rfl
  | succ fuel => rw [readItems, readItems, readValue_newline]

theorem readFields_newline (fuel depth : ℕ) (rest : List Char) :
    readFields fuel (newline depth ++ rest) = readFields fuel rest := by
  cases fuel with
  | zero => rfl
  | succ fuel => rw [readFields, readFields, skipBlanks_newline]

theorem terminated_newline (depth : ℕ) (rest : List Char) :
    Terminated (newline depth ++ rest) :=
  terminated_cons (Or.inr rfl) _

/-! ## Values -/

/-- A document is read back from its written form, whatever follows it. -/
def Reads (json : Json) : Prop :=
  ∀ depth fuel rest, Terminated rest → (json.write depth).length < fuel →
    readValue fuel (json.write depth ++ rest) = some (json, rest)

theorem reads_null : Reads .null := by
  rintro depth (_ | fuel) rest - hfuel
  · cases hfuel
  · rfl

theorem reads_boolean (truth : Bool) : Reads (.boolean truth) := by
  rintro depth (_ | fuel) rest - hfuel
  · cases hfuel
  · cases truth <;> rfl

theorem reads_text (text : Option String) : Reads (.text text) := by
  rintro depth (_ | fuel) rest - hfuel
  · cases hfuel
  · obtain ⟨body, hbody, hread⟩ := exists_writeText text
    rw [write, hbody, List.cons_append]
    change (readText (body ++ rest)).map _ = _
    rw [hread]
    rfl

/-- Nothing but a number starts like one. -/
theorem readValue_of_readNumber {c : Char} (hfirst : c = '-' ∨ isDigit c = true)
    {input rest : List Char} {natural : Option ℕ}
    (hread : readNumber (c :: input) = some (natural, rest)) (fuel : ℕ) :
    readValue (fuel + 1) (c :: input) = some (.number natural, rest) := by
  have hother : ∀ d ∈ [' ', '\t', '\n', '\r', 'n', 't', 'f', '"', '[', '\x7b'],
      c ≠ d := by
    have hothers : ∀ d ∈ [' ', '\t', '\n', '\r', 'n', 't', 'f', '"', '[', '\x7b'],
        d ≠ '-' ∧ isDigit d = false := by simp [isDigit]
    rintro d hd rfl
    obtain ⟨hminus, hdigit⟩ := hothers c hd
    exact hfirst.elim hminus fun h => Bool.noConfusion (h.symm.trans hdigit)
  have hblank : skipBlanks (c :: input) = c :: input := by
    simp [skipBlanks, isBlank, hother]
  rw [readValue.eq_def]
  dsimp only
  rw [hblank]
  split
  case h_7 =>
    rw [hread]
    rfl
  all_goals exact absurd (List.cons.inj ‹_ :: _ = _ :: _›).1 (hother _ (by decide))

theorem reads_number (natural : Option ℕ) : Reads (.number natural) := by
  rintro depth (_ | fuel) rest hrest hfuel
  · cases hfuel
  · obtain ⟨c, others, hnumber, hfirst⟩ := exists_writeNumber natural
    have hread := hrest.readNumber natural
    rw [hnumber, List.cons_append] at hread
    rw [write, hnumber, List.cons_append]
    exact readValue_of_readNumber hfirst hread fuel

/-! ## Lists -/

theorem terminated_writeItems (depth outer : ℕ) (items : List Json)
    (rest : List Char) :
    Terminated (writeItems depth items ++ (newline outer ++ rest)) := by
  cases items with
  | nil => exact terminated_newline outer rest
  | cons item items => exact terminated_cons (Or.inl rfl) _

theorem readItems_write {item : Json} {items : List Json} (hitem : Reads item)
    (hitems : ∀ other ∈ items, Reads other) (depth outer fuel : ℕ)
    (hfuel : (item.write depth).length + (writeItems depth items).length + 1 < fuel)
    (rest : List Char) :
    readItems fuel (item.write depth ++
        (writeItems depth items ++ (newline outer ++ ']' :: rest))) =
      some (item :: items, rest) := by
  induction items generalizing item fuel with
  | nil =>
      obtain _ | fuel := fuel
      · cases hfuel
      · have hread := hitem depth fuel _
          (terminated_writeItems depth outer [] (']' :: rest)) (by omega)
        rw [readItems, hread]
        dsimp only
        rw [writeItems, List.nil_append, skipBlanks_newline]
        rfl
  | cons next items ih =>
      obtain _ | fuel := fuel
      · cases hfuel
      · obtain ⟨hnext, hothers⟩ := List.forall_mem_cons.mp hitems
        have hread := hitem depth fuel _
          (terminated_writeItems depth outer (next :: items) (']' :: rest)) (by omega)
        rw [writeItems] at hfuel
        simp only [List.length_cons, List.length_append] at hfuel
        have hrest := ih hnext hothers fuel (by omega)
        rw [readItems, hread]
        dsimp only
        rw [writeItems]
        simp only [List.cons_append, List.append_assoc]
        change (readItems fuel (newline depth ++ _)).map _ = _
        rw [readItems_newline, hrest]
        rfl

/-- No value starts with a closing bracket. -/
theorem readValue_of_bracket {input rest : List Char}
    (hbracket : skipBlanks input = ']' :: rest) (fuel : ℕ) :
    readValue fuel input = none := by
  cases fuel with
  | zero => rfl
  | succ fuel =>
      rw [readValue.eq_def]
      dsimp only
      rw [hbracket]
      rfl

theorem readValue_list {input : List Char}
    (hitem : ∀ rest, skipBlanks input ≠ ']' :: rest) (fuel : ℕ) :
    readValue (fuel + 1) ('[' :: input) =
      (readItems fuel input).map fun (items, rest) => (.list items, rest) := by
  have hopen : skipBlanks ('[' :: input) = '[' :: input := rfl
  rw [readValue.eq_def]
  simp only [hopen]

theorem reads_list {items : List Json} (hitems : ∀ item ∈ items, Reads item) :
    Reads (.list items) := by
  rintro depth (_ | fuel) rest - hfuel
  · cases hfuel
  · cases items with
    | nil => rfl
    | cons item items =>
        obtain ⟨hitem, hothers⟩ := List.forall_mem_cons.mp hitems
        rw [write] at hfuel ⊢
        simp only [List.length_cons, List.length_append] at hfuel
        simp only [List.cons_append, List.append_assoc, List.nil_append]
        have hread := readItems_write hitem hothers (depth + 1) depth fuel (by omega)
          rest
        have hvalue := hitem (depth + 1) fuel _
          (terminated_writeItems (depth + 1) depth items (']' :: rest)) (by omega)
        rw [readValue_list, readItems_newline, hread]
        · rfl
        · intro others hclose
          rw [skipBlanks_newline] at hclose
          cases hvalue.symm.trans (readValue_of_bracket hclose fuel)

/-! ## Objects -/

theorem terminated_writeFields (depth outer : ℕ) (fields : List Field)
    (rest : List Char) :
    Terminated (writeFields depth fields ++ (newline outer ++ rest)) := by
  cases fields with
  | nil => exact terminated_newline outer rest
  | cons field fields => exact terminated_cons (Or.inl rfl) _

/-- A field is read up to its end, and then the next one or the closing brace. -/
theorem readFields_field {field : Field} (hvalue : Reads field.value)
    (depth fuel : ℕ) (hfuel : (field.write depth).length < fuel) {rest : List Char}
    (hrest : Terminated rest) :
    readFields (fuel + 1) (field.write depth ++ rest) =
      match skipBlanks rest with
      | '\x7d' :: rest => some ([field], rest)
      | ',' :: rest =>
        (readFields fuel rest).map fun (fields, rest) => (field :: fields, rest)
      | _ => none := by
  obtain ⟨key, value⟩ := field
  obtain ⟨body, hbody, hkey⟩ := exists_writeText key
  have hstep := readFields.eq_def (fuel + 1) (Field.write depth ⟨key, value⟩ ++ rest)
  rw [Field.write, hbody] at hfuel hstep ⊢
  simp only [List.cons_append, List.append_assoc, List.length_cons,
    List.length_append] at hfuel hstep ⊢
  have hread := hvalue depth fuel rest hrest (by dsimp only; omega)
  have hblank : readValue fuel (' ' :: (value.write depth ++ rest)) =
      readValue fuel (value.write depth ++ rest) := by
    cases fuel <;> rfl
  have hquote : ∀ input, skipBlanks ('"' :: input) = '"' :: input := fun _ => rfl
  have hcolon : ∀ input, skipBlanks (':' :: input) = ':' :: input := fun _ => rfl
  simp only [hquote, hkey, hcolon, hblank, hread] at hstep
  exact hstep

theorem readFields_write {field : Field} {fields : List Field}
    (hfield : Reads field.value) (hfields : ∀ other ∈ fields, Reads other.value)
    (depth outer fuel : ℕ)
    (hfuel : (field.write depth).length + (writeFields depth fields).length + 1 < fuel)
    (rest : List Char) :
    readFields fuel (field.write depth ++
        (writeFields depth fields ++ (newline outer ++ '\x7d' :: rest))) =
      some (field :: fields, rest) := by
  induction fields generalizing field fuel with
  | nil =>
      obtain _ | fuel := fuel
      · cases hfuel
      · rw [readFields_field hfield depth fuel (by omega)
          (terminated_writeFields depth outer [] ('\x7d' :: rest)),
          writeFields, List.nil_append, skipBlanks_newline]
        rfl
  | cons next fields ih =>
      obtain _ | fuel := fuel
      · cases hfuel
      · obtain ⟨hnext, hothers⟩ := List.forall_mem_cons.mp hfields
        rw [readFields_field hfield depth fuel (by omega)
          (terminated_writeFields depth outer (next :: fields) ('\x7d' :: rest)),
          writeFields]
        rw [writeFields] at hfuel
        simp only [List.length_cons, List.length_append] at hfuel
        have hrest := ih hnext hothers fuel (by omega)
        simp only [List.cons_append, List.append_assoc]
        change (readFields fuel (newline depth ++ _)).map _ = _
        rw [readFields_newline, hrest]
        rfl

theorem readValue_object {input : List Char}
    (hfield : ∀ rest, skipBlanks input ≠ '\x7d' :: rest) (fuel : ℕ) :
    readValue (fuel + 1) ('\x7b' :: input) =
      (readFields fuel input).map fun (fields, rest) => (.object fields, rest) := by
  have hopen : skipBlanks ('\x7b' :: input) = '\x7b' :: input := rfl
  rw [readValue.eq_def]
  simp only [hopen]

theorem reads_object {fields : List Field}
    (hfields : ∀ field ∈ fields, Reads field.value) : Reads (.object fields) := by
  rintro depth (_ | fuel) rest - hfuel
  · cases hfuel
  · cases fields with
    | nil => rfl
    | cons field fields =>
        obtain ⟨hfield, hothers⟩ := List.forall_mem_cons.mp hfields
        rw [write] at hfuel ⊢
        simp only [List.length_cons, List.length_append] at hfuel
        simp only [List.cons_append, List.append_assoc, List.nil_append]
        have hread := readFields_write hfield hothers (depth + 1) depth fuel
          (by omega) rest
        rw [readValue_object, readFields_newline, hread]
        · rfl
        · obtain ⟨key, value⟩ := field
          obtain ⟨body, hbody, -⟩ := exists_writeText key
          intro others hclose
          rw [skipBlanks_newline, Field.write, hbody] at hclose
          cases hclose

/-! ## All documents -/

mutual

theorem reads : ∀ json : Json, Reads json
  | .null => reads_null
  | .boolean truth => reads_boolean truth
  | .number natural => reads_number natural
  | .text characters => reads_text characters
  | .list items => reads_list (forall_reads items)
  | .object fields => reads_object (forall_reads_value fields)
termination_by structural json => json

theorem forall_reads : ∀ items : List Json, ∀ item ∈ items, Reads item
  | [] => List.forall_mem_nil _
  | item :: items => List.forall_mem_cons.mpr ⟨reads item, forall_reads items⟩
termination_by structural items => items

theorem reads_value : ∀ field : Field, Reads field.value
  | ⟨_, value⟩ => reads value
termination_by structural field => field

theorem forall_reads_value : ∀ fields : List Field, ∀ field ∈ fields, Reads field.value
  | [] => List.forall_mem_nil _
  | field :: fields =>
    List.forall_mem_cons.mpr ⟨reads_value field, forall_reads_value fields⟩
termination_by structural fields => fields

end

/-- Reading inverts writing, for every document. -/
theorem parse?_render (json : Json) : parse? json.render = some json := by
  have hread := reads json 0 (json.render.length + 1) [] terminated_nil (by
    rw [render, String.length_ofList]
    exact Nat.lt_succ_self _)
  rw [List.append_nil] at hread
  rw [parse?, render, String.toList_ofList]
  rw [render] at hread
  rw [hread]
  rfl

end PredicateDispatch.Json
