import PredicateDispatch.Proofs.Json.RoundTrip
import PredicateDispatch.Report.Document

/-!
# Reports are read as they were written

The written form of a report can be read, and gives the report back: every number,
every name whatever characters it has, and every absent one.  So no two reports
have the same written form.
-/

namespace PredicateDispatch

namespace Json

theorem mapM_map_of_forall {α β γ : Type} {written : α → β} {read : β → Option γ}
    {value : α → γ} {items : List α}
    (hread : ∀ item ∈ items, read (written item) = some (value item)) :
    (items.map written).mapM read = some (items.map value) := by
  induction items with
  | nil => rfl
  | cons item items ih =>
      obtain ⟨hitem, hitems⟩ := List.forall_mem_cons.mp hread
      rw [List.map_cons, List.mapM_cons, hitem, ih hitems]
      rfl

theorem list?_map {α : Type} {written : α → Json} {read : Json → Option α}
    (hread : ∀ item, read (written item) = some item) (items : List α) :
    list? read (.list (items.map written)) = some items := by
  rw [list?, mapM_map_of_forall fun item _ => hread item, List.map_id']

/-! ## Records -/

/-- A field of a record as a field of a document. -/
theorem filter_record {fields : List (String × Json)}
    (hnodup : (fields.map Prod.fst).Nodup) {field : String × Json}
    (hfield : field ∈ fields) :
    ((fields.map fun field => (⟨some field.1, field.2⟩ : Field)).filter
        fun other => other.key == some field.1) = [⟨some field.1, field.2⟩] := by
  induction fields with
  | nil => cases hfield
  | cons first others ih =>
      obtain ⟨hnew, hothers⟩ := List.nodup_cons.mp hnodup
      rcases List.mem_cons.mp hfield with rfl | hother
      · have hrest : (others.map fun field =>
            (⟨some field.1, field.2⟩ : Field)).filter
              (fun other => other.key == some field.1) = [] := by
          rw [List.filter_eq_nil_iff]
          intro other hother hsame
          obtain ⟨written, hwritten, rfl⟩ := List.mem_map.mp hother
          obtain hname : written.1 = field.1 :=
            Option.some.inj (beq_iff_eq.mp hsame)
          exact hnew (hname ▸ List.mem_map_of_mem hwritten)
        rw [List.map_cons, List.filter_cons_of_pos (by simp), hrest]
      · have hne : first.1 ≠ field.1 :=
          fun hname => hnew (hname ▸ List.mem_map_of_mem hother)
        rw [List.map_cons, List.filter_cons_of_neg (by simpa using hne)]
        exact ih hothers hother

/-- Of a record with distinct names, all fields are found. -/
theorem fields?_record (fields : List (String × Json))
    (hnodup : (fields.map Prod.fst).Nodup) :
    (record fields).fields? (fields.map Prod.fst) =
      some (fields.map fun field => some field.2) := by
  have hnamed : (fields.map fun field => (⟨some field.1, field.2⟩ : Field)).all
      (fun field => field.key.isSome) = true := by
    simp
  rw [record, fields?, if_pos hnamed]
  refine mapM_map_of_forall fun field hfield => ?_
  rw [single?, filter_record hnodup hfield]

/-! ## Fields -/

theorem id?_number (id : UInt32) : id? (.number (some id.toNat)) = some id := by
  rw [id?, if_pos id.toNat_lt, UInt32.ofNat_toNat]

theorem optional?_ofOptional (text : Option String) :
    optional? (some (ofOptional text)) = some text := by
  cases text <;> rfl

theorem list?_ofTexts (texts : List String) :
    list? text? (ofTexts texts) = some texts :=
  list?_map (fun _ : String => rfl) texts

end Json

theorem Metric.ofJson?_name (metric : Metric) :
    ofJson? (.ofText metric.name) = some metric := by
  cases metric <;> rfl

theorem Configuration.ofJson?_toJson (configuration : Configuration) :
    ofJson? configuration.toJson = some configuration := by
  have hfields : configuration.toJson.fields? ["distance", "dispatch_cache"] =
      some [some (.ofText configuration.distance.name),
        some (.boolean configuration.caching)] :=
    Json.fields?_record _ (by simp)
  rw [ofJson?, hfields]
  simp only [Metric.ofJson?_name]
  rfl

theorem PredicateReport.ofJson?_toJson (report : PredicateReport) :
    ofJson? report.toJson = some report := by
  have hfields :
      report.toJson.fields? ["id", "name", "parent", "ancestors", "membership_test"] =
        some [some (.number (some report.id.toNat)), some (.ofText report.name),
          some (.ofOptional report.parent), some (.ofTexts report.ancestors),
          some (.ofOptional report.membershipTest)] :=
    Json.fields?_record _ (by simp)
  rw [ofJson?, hfields]
  simp only [Json.id?_number, Json.optional?_ofOptional, Json.list?_ofTexts]
  rfl

theorem SignatureReport.ofJson?_toJson (report : SignatureReport) :
    ofJson? report.toJson = some report := by
  have hfields : report.toJson.fields? ["args", "returns"] =
      some [some (.ofTexts report.arguments), some (.ofText report.returns)] :=
    Json.fields?_record _ (by simp)
  rw [ofJson?, hfields]
  simp only [Json.list?_ofTexts]
  rfl

theorem FunctionReport.ofJson?_toJson (report : FunctionReport) :
    ofJson? report.toJson = some report := by
  have hfields :
      report.toJson.fields? ["id", "name", "entries", "has_default", "predicate"] =
        some [some (.number (some report.id.toNat)), some (.ofText report.name),
          some (.list (report.entries.map SignatureReport.toJson)),
          some (.boolean report.hasDefault), some (.ofOptional report.predicate)] :=
    Json.fields?_record _ (by simp)
  rw [ofJson?, hfields]
  simp only [Json.id?_number, Json.optional?_ofOptional,
    Json.list?_map SignatureReport.ofJson?_toJson]
  rfl

namespace Report

theorem ofJson?_toJson (report : Report) : ofJson? report.toJson = some report := by
  have hfields : report.toJson.fields? ["config", "predicates", "functions"] =
      some [some report.configuration.toJson,
        some (.list (report.predicates.map PredicateReport.toJson)),
        some (.list (report.functions.map FunctionReport.toJson))] :=
    Json.fields?_record _ (by simp)
  rw [ofJson?, hfields]
  simp only [Configuration.ofJson?_toJson,
    Json.list?_map PredicateReport.ofJson?_toJson,
    Json.list?_map FunctionReport.ofJson?_toJson]
  rfl

theorem read_write (report : Report) : read report.write = .ok report := by
  rw [read, write, Json.parse?_render, Option.bind_some, ofJson?_toJson]

end Report

/-- Every report is read back from its written form, and so no two reports are
written alike. -/
theorem report_round_trip :
    (∀ report : Report, Report.read report.write = .ok report) ∧
      Function.Injective Report.write := by
  refine ⟨Report.read_write, fun first second heq => ?_⟩
  have hread := congrArg Report.read heq
  rw [Report.read_write, Report.read_write] at hread
  exact Except.ok.inj hread

end PredicateDispatch
