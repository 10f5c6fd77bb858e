import StubGen.Generation
import StubGen.Service.Request

/-!
# Responses

The payloads of the service. What a response says about the running process (the time, the uptime,
the version of the runtime) is given by a `Moment`.
-/

namespace StubGen

/-- What is known of the running process when a response is written. -/
structure Moment where
  time : String
  /-- Whole seconds since the service started. -/
  uptime : Nat
  runtimeVersion : String
  deriving DecidableEq, Repr, Inhabited

/-- A status and a JSON payload. -/
structure Response where
  status : Nat
  payload : Json
  deriving Repr, Inhabited

namespace Fault

def toJson (f : Fault) : Json :=
  .obj [("field", .str f.field), ("message", .str f.message), ("value", f.value)]

end Fault

def Json.texts (entries : List (String × String)) : Json :=
  .obj (entries.map fun (name, text) => (.whole name, .str text))

namespace Registry

/-- The answer to a template request whose file has been rendered. -/
def templatePayload (moment : Moment) (q : TemplateRequest) (template : String) : Json :=
  .obj [("language", .str q.language), ("template", .str template),
    ("metadata", .obj
      [("question_id", .str q.questionId), ("title", .str q.title),
       ("function_name", .str q.signature.functionName),
       ("parameter_count", .int q.signature.parameters.length),
       ("generated_at", .str moment.time)])]

/-- The type of a signature and its spelling in the language. -/
def mappingEntry (r : Registry) (settings : Settings) (language : String) (text : RawText) :
    Json.Fields :=
  [("dsl_type", .str text),
   ("mapped_type", .str (r.spellingOf text language settings.maxNestingDepth))]

/-- The analysis of a signature all of whose types are supported. -/
def analysis (r : Registry) (settings : Settings) (q : ValidationRequest) : Json :=
  let s := q.signature
  .obj [("function_name", .str s.functionName), ("parameter_count", .int s.parameters.length),
    ("return_type", .str s.returns),
    ("language_mapping", .obj
      [("parameters", .arr (s.parameters.map fun p =>
          .obj (("name", .str p.name) :: r.mappingEntry settings q.language p.type))),
       ("return_type", .obj (r.mappingEntry settings q.language s.returns))])]

/-- The answer to a dry run. -/
def validationPayload (r : Registry) (settings : Settings) (q : ValidationRequest) : Json :=
  match r.typeFaults (some settings) q.signature.typeTexts q.language with
  | [] =>
    .obj [("valid", .bool true), ("message", .str "Template can be generated successfully"),
      ("signature_analysis", r.analysis settings q)]
  | faults =>
    .obj [("valid", .bool false), ("errors", .arr (faults.map fun f => .str f.message))]

end Registry

/-- The languages that are enabled, and the types of signatures. -/
def Settings.languagesPayload (settings : Settings) : Json :=
  .obj [("supported_languages", Json.strings settings.languages),
    ("max_nesting_depth", .int settings.maxNestingDepth),
    ("type_system", .obj
      [("primitives", Json.strings (Primitive.all.map Primitive.name)),
       ("collections", Json.strings ["T[]", "List<T>"]),
       ("special", Json.strings ["Tree<T>", "Graph"])]),
    ("examples", .obj
      [("primitives", Json.strings ["int", "string", "bool"]),
       ("arrays", Json.strings ["int[]", "string[]", "int[][]"]),
       ("lists", Json.strings ["List<int>", "List<string>", "List<List<int>>"]),
       ("trees", Json.strings ["Tree<int>", "Tree<string>"]),
       ("graphs", Json.strings ["Graph"])])]

/-- The part of a type table to which a type belongs. -/
inductive TableGroup where
  | primitives | collections | special
  deriving DecidableEq, Repr, Inhabited

namespace TableGroup

def name : TableGroup → String
  | primitives => "primitives"
  | collections => "collections"
  | special => "special"

def ofCategory : Category → TableGroup
  | .primitive => primitives
  | .array | .list => collections
  | .tree | .graph => special

def ofSpelling (text : String) : TableGroup :=
  match TypeExpr.parse? text with
  | some t => ofCategory t.category
  | none => special

/-- The entries of a type table that belong to the group. -/
def select (g : TableGroup) (table : List (String × String)) : List (String × String) :=
  table.filter fun entry => ofSpelling entry.1 = g

end TableGroup

namespace Registry

/-- The type table of a language, as a whole and by groups. -/
def tablePayload (r : Registry) (settings : Settings) (language : String) : Json :=
  let table := r.typeTable language settings.maxNestingDepth
  .obj [("language", .str language), ("type_mappings", Json.texts table),
    ("total_types", .int table.length),
    ("categories", .obj ([.primitives, .collections, .special].map fun (g : TableGroup) =>
      (.whole g.name, Json.texts (g.select table))))]

/-- Numbers about the service. -/
def statsPayload (r : Registry) (settings : Settings) (moment : Moment) : Json :=
  let count (language : String) : Json :=
    .int (r.typeTable language settings.maxNestingDepth).length
  .obj [("api_version", .str "v1"), ("supported_languages", .int settings.languages.length),
    ("total_supported_types",
      .obj (Json.dedup (settings.languages.map fun l => (.whole l, count l)))),
    ("uptime_seconds", .int moment.uptime), ("python_version", .str moment.runtimeVersion),
    ("last_updated", .str moment.time)]

/-- Whether the service can serve: a language is enabled, and each enabled one has types. -/
def isReady (r : Registry) (settings : Settings) : Bool :=
  !settings.languages.isEmpty &&
    settings.languages.all fun l => !(r.typeTable l defaultMaxNestingDepth).isEmpty

end Registry

/-- The kinds of health probes. -/
inductive Probe where
  | basic | readiness | liveness
  deriving DecidableEq, Repr, Inhabited

/-- The probe of a given name; every other name means the basic one. -/
def Probe.ofName : String → Probe
  | "ready" => readiness
  | "live" => liveness
  | _ => basic

namespace Registry

def healthPayload (r : Registry) (settings : Settings) (moment : Moment) : Probe → Json
  | .liveness => .obj [("status", .str "alive"), ("timestamp", .str moment.time)]
  | .readiness =>
    .obj [("status", .str (if r.isReady settings then "ready" else "not_ready")),
      ("checks", .obj
        [("template_service", .bool (!settings.languages.isEmpty)),
         ("type_mappings", .bool (settings.languages.all fun l =>
           !(r.typeTable l defaultMaxNestingDepth).isEmpty)),
         ("validation_service", .bool true)]),
      ("timestamp", .str moment.time)]
  | .basic =>
    .obj [("status", .str "healthy"), ("timestamp", .str moment.time),
      ("uptime", .int moment.uptime), ("environment", .str settings.environment),
      ("version", .str "0.1.0")]

end Registry

/-- The answer about the types of a language that is not enabled. -/
def Settings.languageNotFound (settings : Settings) (language : String) : Response :=
  ⟨404, .obj [("error", .str "Language not supported"),
    ("message", .str (Unsupported.language language).message),
    ("supported_languages", Json.strings settings.languages)]⟩

end StubGen
