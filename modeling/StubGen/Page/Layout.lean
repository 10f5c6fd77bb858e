import StubGen.Json.Printer
import StubGen.Settings.Basic

/-!
# The layout of the preview page

The page is a tree of components. A component has a class, properties, and content: nothing, a text,
or further components.
-/

namespace StubGen

inductive Component where
  | leaf (kind : String) (props : Json.Fields)
  | text (kind content : String) (props : Json.Fields)
  | group (kind : String) (content : List Component) (props : Json.Fields)
  deriving Repr, Inhabited

namespace Component

mutual

/-- The encoding of a component; its content is the property `children`. -/
def toJson : Component → Json
  | leaf name props => .obj [("type", .str name), ("props", .obj props)]
  | text name content props =>
    .obj [("type", .str name), ("props", .obj (("children", .str content) :: props))]
  | group name content props =>
    .obj [("type", .str name), ("props", .obj (("children", .arr (toJsons content)) :: props))]

def toJsons : List Component → List Json
  | [] => []
  | c :: rest => c.toJson :: toJsons rest

end

end Component

def pageTitle : String := "Codestub Template Preview"

/-- The request that the page starts with. -/
def exampleRequest : Json :=
  .obj [("question_id", .str "two-sum"), ("title", .str "Two Sum"),
    ("description", .str "Return the indices of the two numbers that add up to target."),
    ("signature", .obj
      [("function_name", .str "twoSum"),
       ("parameters", .arr
         [.obj [("name", .str "nums"), ("type", .str "int[]")],
          .obj [("name", .str "target"), ("type", .str "int")]]),
       ("returns", .obj [("type", .str "int[]")])])]

namespace Settings

/-- The choice of the language; the first enabled one is chosen at the start. -/
def languageChoice (settings : Settings) : Component :=
  let options := settings.languages.map fun (l : String) =>
    Json.obj [("label", .str l), ("value", .str l)]
  let chosen : Json.Fields := match settings.languages with
    | [] => []
    | l :: _ => [("value", .str l)]
  let fixed : Json.Fields := [("clearable", .bool false)]
  .leaf "Dropdown" (("id", .str "language-dropdown") :: ("options", .arr options) ::
    (chosen ++ fixed))

def layout (settings : Settings) : Component :=
  .group "Div"
    [.text "H1" pageTitle [],
     .text "P" ("Environment: " ++ settings.environment) [],
     .leaf "Hr" [],
     .text "Label" "Language" [("htmlFor", .str "language-dropdown")],
     settings.languageChoice,
     .text "Label" "Request" [("htmlFor", .str "request-input")],
     .leaf "Textarea"
       [("id", .str "request-input"), ("value", .str exampleRequest.pretty),
        ("style", .obj [("width", .str "100%"), ("height", .str "18rem"),
          ("fontFamily", .str "monospace")])],
     .text "H2" "Template" [],
     .leaf "Pre"
       [("id", .str "template-output"),
        ("style", .obj [("background", .str "#f6f8fa"), ("padding", .str "1rem"),
          ("whiteSpace", .str "pre-wrap")])]]
    [("style", .obj [("fontFamily", .str "sans-serif"), ("padding", .str "2rem")])]

end Settings

end StubGen
