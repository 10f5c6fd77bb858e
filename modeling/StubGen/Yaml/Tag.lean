/-!
# Tags

A tag names the kind of a value. A plain scalar without a tag gets one from its text, and so does a
scalar with the tag `!`.
-/

namespace StubGen.Yaml

inductive Tag where
  | null | truth | integer | float | text | binary | timestamp
  | sequence | mapping | set | orderedMap | pairs
  /-- The sign that merges mappings. -/
  | merge
  /-- The sign of a default value. -/
  | value
  | unknown
  deriving DecidableEq, Repr, Inhabited

namespace Tag

/-- The names of the tags behind their common beginning. -/
def names : List (String × Tag) :=
  [("null", null), ("bool", truth), ("int", integer), ("float", float), ("str", text),
   ("binary", binary), ("timestamp", timestamp), ("seq", sequence), ("map", mapping), ("set", set),
   ("omap", orderedMap), ("pairs", pairs), ("merge", merge), ("value", value)]

def beginning : String := "tag:yaml.org,2002:"

def ofName (name : String) : Tag :=
  ((names.find? fun (short, _) => beginning ++ short = name).map Prod.snd).getD unknown

end Tag

/-- Without a line break at the end. -/
def withoutFinalBreak (text : List Char) : List Char :=
  match text.reverse with
  | '\n' :: rest => rest.reverse
  | _ => text

/-- A digit or an underscore. -/
def isGrouped (c : Char) : Bool := c.isDigit || c == '_'

def withoutSign : List Char → List Char
  | '-' :: rest | '+' :: rest => rest
  | text => text

/-- Whether the text consists of sexagesimal digits, a colon before each; `last` says what may stand
behind them. -/
def sexagesimal (last : List Char → Bool) : List Char → Bool
  | ':' :: a :: b :: rest =>
    ('0' ≤ a && a ≤ '5' && b.isDigit && (last rest || sexagesimal last rest)) ||
      (a.isDigit && (last (b :: rest) || sexagesimal last (b :: rest)))
  | [':', a] => a.isDigit && last []
  | _ => false

/-- Whether a text is an integer: binary, octal, decimal, hexadecimal or sexagesimal. -/
def isInteger (text : List Char) : Bool :=
  let digits := withoutSign text
  match digits with
  | [] => false
  | c :: rest =>
    let binary := match rest with
      | 'b' :: ds => !ds.isEmpty && ds.all fun d => d == '0' || d == '1' || d == '_'
      | _ => false
    let hexadecimal := match rest with
      | 'x' :: ds => !ds.isEmpty && ds.all fun d =>
          isGrouped d || ('a' ≤ d && d ≤ 'f') || ('A' ≤ d && d ≤ 'F')
      | _ => false
    let octal := rest.all fun d => ('0' ≤ d && d ≤ '7') || d == '_'
    if c == '0' then binary || hexadecimal || octal
    else c.isDigit && (rest.all isGrouped || sexagesimal List.isEmpty (rest.dropWhile isGrouped))

/-- Whether a text is an exponent, or empty. -/
def isExponent : List Char → Bool
  | [] => true
  | e :: sign :: digits =>
    (e == 'e' || e == 'E') && (sign == '-' || sign == '+') && !digits.isEmpty &&
      digits.all Char.isDigit
  | _ => false

/-- Whether a text is a point, digits, and perhaps an exponent. -/
def isFraction : List Char → Bool
  | '.' :: rest => isExponent (rest.dropWhile isGrouped)
  | _ => false

/-- Whether a text is a number with a point, decimal or sexagesimal, or one of the special values.
-/
def isFloat (text : List Char) : Bool :=
  let number := withoutSign text
  let decimal := match number with
    | c :: rest => c.isDigit &&
        (isFraction (rest.dropWhile isGrouped) ||
          sexagesimal (fun tail => match tail with
            | '.' :: ds => ds.all isGrouped
            | _ => false) (rest.dropWhile isGrouped))
    | [] => false
  let fraction := match text with
    | '.' :: d :: _ => d.isDigit && isFraction text
    | _ => false
  decimal || fraction || [".inf", ".Inf", ".INF"].contains (String.ofList number) ||
    [".nan", ".NaN", ".NAN"].contains (String.ofList text)

def truthTexts : List (String × Bool) :=
  [("yes", true), ("no", false), ("true", true), ("false", false), ("on", true), ("off", false)]

/-- A text with its first letter in upper case, and one with all letters in upper case. -/
def capitalForms (text : String) : List String :=
  [text, text.capitalize, text.toUpper]

/-- Whether a text is a truth value: in lower or upper case, or with a capital. -/
def isTruth (text : String) : Bool :=
  (truthTexts.flatMap fun (t, _) => capitalForms t).contains text

def isNull (text : String) : Bool := ["", "~", "null", "Null", "NULL"].contains text

end StubGen.Yaml
