import PredicateDispatch.Report
import PredicateDispatch.Json.Reader

/-!
# Reports as documents

A report is written as a JSON document with its fields in a fixed order.  Reading takes the fields in any
order, ignores unknown ones, refuses a known one that comes twice, and takes an absent optional field for
`null`; a record may also be a list of all its fields in order.
-/

namespace PredicateDispatch

namespace Json

def ofText (text : String) : Json :=
  .text (some text)

def ofTexts (texts : List String) : Json :=
  .list (texts.map ofText)

def ofOptional (text : Option String) : Json :=
  match text with
  | some text => ofText text
  | none => .null

def record (fields : List (String × Json)) : Json :=
  .object (fields.map fun field => ⟨some field.1, field.2⟩)

/-- The value of a field that occurs at most once; `some none` if it does not occur. -/
def single? (fields : List Json.Field) (name : String) : Option (Option Json) :=
  match fields.filter fun field => field.key == some name with
  | [] => some none
  | [field] => some (some field.value)
  | _ => none

/-- The values of the named fields of a record, each if it is present. -/
def fields? (names : List String) : Json → Option (List (Option Json))
  | .list items => if items.length = names.length then some (items.map some) else none
  | .object fields =>
    if fields.all fun field => field.key.isSome then names.mapM (single? fields) else none
  | _ => none

def text? : Json → Option String
  | .text characters => characters
  | _ => none

def boolean? : Json → Option Bool
  | .boolean truth => some truth
  | _ => none

/-- A natural number of 32 bits. -/
def id? : Json → Option UInt32
  | .number (some n) => if n < UInt32.size then some (.ofNat n) else none
  | _ => none

/-- An optional text: absent, `null` or a text. -/
def optional? : Option Json → Option (Option String)
  | none => some none
  | some .null => some none
  | some json => (text? json).map some

def list? {α : Type} (item? : Json → Option α) : Json → Option (List α)
  | .list items => items.mapM item?
  | _ => none

end Json

namespace Metric

def name : Metric → String
  | directed => "Directed"
  | symmetric => "Symmetric"

def ofName? (name : String) : Option Metric :=
  if name = "Directed" then some directed
  else if name = "Symmetric" then some symmetric
  else none

/-- A metric by its name, or a record that holds only that name with nothing behind it. -/
def ofJson? : Json → Option Metric
  | .text (some name) => ofName? name
  | .object [⟨some name, .null⟩] => ofName? name
  | _ => none

end Metric

namespace Configuration

def toJson (configuration : Configuration) : Json :=
  .record [("distance", .ofText configuration.distance.name),
    ("dispatch_cache", .boolean configuration.caching)]

def ofJson? (json : Json) : Option Configuration :=
  match json.fields? ["distance", "dispatch_cache"] with
  | some [some distance, some caching] => do
    return ⟨← Metric.ofJson? distance, ← caching.boolean?⟩
  | _ => none

end Configuration

namespace PredicateReport

def toJson (report : PredicateReport) : Json :=
  .record [("id", .number (some report.id.toNat)), ("name", .ofText report.name),
    ("parent", .ofOptional report.parent), ("ancestors", .ofTexts report.ancestors),
    ("membership_test", .ofOptional report.membershipTest)]

def ofJson? (json : Json) : Option PredicateReport :=
  match json.fields? ["id", "name", "parent", "ancestors", "membership_test"] with
  | some [some id, some name, parent, some ancestors, membershipTest] => do
    return ⟨← id.id?, ← name.text?, ← Json.optional? parent, ← ancestors.list? Json.text?,
      ← Json.optional? membershipTest⟩
  | _ => none

end PredicateReport

namespace SignatureReport

def toJson (report : SignatureReport) : Json :=
  .record [("args", .ofTexts report.arguments), ("returns", .ofText report.returns)]

def ofJson? (json : Json) : Option SignatureReport :=
  match json.fields? ["args", "returns"] with
  | some [some arguments, some returns] => do
    return ⟨← arguments.list? Json.text?, ← returns.text?⟩
  | _ => none

end SignatureReport

namespace FunctionReport

def toJson (report : FunctionReport) : Json :=
  .record [("id", .number (some report.id.toNat)), ("name", .ofText report.name),
    ("entries", .list (report.entries.map SignatureReport.toJson)),
    ("has_default", .boolean report.hasDefault), ("predicate", .ofOptional report.predicate)]

def ofJson? (json : Json) : Option FunctionReport :=
  match json.fields? ["id", "name", "entries", "has_default", "predicate"] with
  | some [some id, some name, some entries, some hasDefault, predicate] => do
    return ⟨← id.id?, ← name.text?, ← entries.list? SignatureReport.ofJson?,
      ← hasDefault.boolean?, ← Json.optional? predicate⟩
  | _ => none

end FunctionReport

namespace Report

def toJson (report : Report) : Json :=
  .record [("config", report.configuration.toJson),
    ("predicates", .list (report.predicates.map PredicateReport.toJson)),
    ("functions", .list (report.functions.map FunctionReport.toJson))]

def ofJson? (json : Json) : Option Report :=
  match json.fields? ["config", "predicates", "functions"] with
  | some [some configuration, some predicates, some functions] => do
    return ⟨← Configuration.ofJson? configuration, ← predicates.list? PredicateReport.ofJson?,
      ← functions.list? FunctionReport.ofJson?⟩
  | _ => none

/-- The written form of a report. -/
def write (report : Report) : String :=
  report.toJson.render

/-- The report that a text is the written form of. -/
def read (text : String) : Except Error Report :=
  match (Json.parse? text).bind ofJson? with
  | some report => .ok report
  | none => .error .serialization

end Report

end PredicateDispatch
