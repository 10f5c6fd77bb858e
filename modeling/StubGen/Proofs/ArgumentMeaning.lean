import Mathlib.Data.List.TakeWhile
import Mathlib.Logic.Function.Basic
import StubGen.Proofs.TreeHelper

/-!
# The meaning of arguments

An argument of the call in a stub file is an expression over the decoded input. A `Dialect` reads it
from its text, and `Expr.eval` gives its value in a scope, which maps names to values. What the
value should be says `rebuilt`: that of the parameter, with the function that rebuilds trees applied
wherever the type has a tree.
-/

namespace StubGen.Proofs

/-- The expressions that stand as arguments. -/
inductive Expr where
  | var (name : String)
  /-- What a record holds under a key. -/
  | field (record key : String)
  | call (function : String) (argument : Expr)
  /-- The list of the values of `body`, while `name` runs through `source`. -/
  | collect (body : Expr) (name : String) (source : Expr)
  deriving DecidableEq

/-- The variables of the comprehensions in an expression, outermost first. -/
def Expr.loopNames : Expr → List String
  | var _ | field _ _ => []
  | call _ argument => argument.loopNames
  | collect body name source => name :: (body.loopNames ++ source.loopNames)

/-- How a language writes the access to a key, and whether it has comprehensions. -/
structure Dialect where
  key? : List Char → Option (String × List Char)
  hasComprehensions : Bool

section Reading

variable {name : String} {text rest : List Char}

/-- The longest word at the start of a text. -/
def word? (text : List Char) : Option (String × List Char) :=
  match text.takeWhile Pattern.isWord with
  | [] => none
  | name => some (String.ofList name, text.dropWhile Pattern.isWord)

def Dialect.python : Dialect where
  key? text := do
    let inside ← text.dropPrefix? ['[', '"']
    let (key, rest) ← word? inside
    return (key, ← rest.dropPrefix? ['"', ']'])
  hasComprehensions := true

def Dialect.javascript : Dialect where
  key? text := text.dropPrefix? ['.'] >>= word?
  hasComprehensions := false

/-- Reads what makes an expression of a word: an application, or the access to a key. -/
def Dialect.readAfter (d : Dialect) (read : List Char → Option (Expr × List Char)) (name : String)
    (text : List Char) : Option (Expr × List Char) :=
  match text with
  | '(' :: text => do
    let (argument, text) ← read text
    return (.call name argument, ← text.dropPrefix? [')'])
  | _ =>
    match d.key? text with
    | some (key, text) => some (.field name key, text)
    | none => some (.var name, text)

/-- Reads a comprehension behind its opening bracket. -/
def readCollect (read : List Char → Option (Expr × List Char)) (text : List Char) :
    Option (Expr × List Char) := do
  let (body, text) ← read text
  let (name, text) ← text.dropPrefix? [' ', 'f', 'o', 'r', ' '] >>= word?
  let (source, text) ← text.dropPrefix? [' ', 'i', 'n', ' '] >>= read
  return (.collect body name source, ← text.dropPrefix? [']'])

/-- Reads an expression at the start of a text; nesting is read with a budget. -/
def Dialect.read (d : Dialect) : Nat → List Char → Option (Expr × List Char)
  | 0, _ => none
  | fuel + 1, text =>
    match text with
    | '[' :: text => if d.hasComprehensions then readCollect (d.read fuel) text else none
    | text => word? text >>= fun (name, text) => d.readAfter (d.read fuel) name text

def Dialect.expression? (d : Dialect) (text : String) : Option Expr :=
  match d.read (text.length + 1) text.toList with
  | some (e, []) => some e
  | _ => none

/-- What follows an expression: nothing that could belong to it. -/
def Closes (rest : List Char) : Prop := ∀ c ∈ rest.head?, c = ' ' ∨ c = ')' ∨ c = ']'

def EndsWord (rest : List Char) : Prop := ∀ c ∈ rest.head?, Pattern.isWord c = false

lemma endsWord_of_closes (h : Closes rest) : EndsWord rest := by
  intro c hc
  obtain rfl | rfl | rfl := h c hc <;> rfl

lemma closes_nil : Closes [] := nofun

lemma closes_cons {c : Char} (h : c = ' ' ∨ c = ')' ∨ c = ']') : Closes (c :: rest) := by
  intro d hd
  cases hd
  exact h

lemma endsWord_cons {c : Char} (h : Pattern.isWord c = false) : EndsWord (c :: rest) := by
  intro d hd
  cases hd
  exact h

def IsWord (name : String) : Prop := name ≠ "" ∧ Consists Pattern.isWord name

lemma isWord_ofList {cs : List Char} (hne : cs ≠ []) (h : cs.all Pattern.isWord = true) :
    IsWord (String.ofList cs) :=
  ⟨ofList_ne hne, consists_ofList h⟩

lemma isWord_of_identifier (h : IsIdentifier name) : IsWord name :=
  ⟨ne_empty_of_identifier h, consists_of_identifier h⟩

lemma isWord_itemName (depth : Nat) : IsWord (Decoding.itemName depth) := by
  have hdigits : Consists Pattern.isWord (toString depth) := by
    intro c hc
    have hdigit : c.isDigit = true := consists_toString depth c hc
    simp [Pattern.isWord, Char.isAlphanum, hdigit]
  constructor
  · intro h
    exact absurd (String.append_eq_empty_iff.mp h).1 (by decide)
  · exact consists_append.mpr ⟨consists_ofList (by decide), hdigits⟩

lemma word?_append (h : IsWord name) (hrest : EndsWord rest) :
    word? (name.toList ++ rest) = some (name, rest) := by
  have hnone : rest.takeWhile Pattern.isWord = [] ∧ rest.dropWhile Pattern.isWord = rest := by
    cases rest with
    | nil => exact ⟨rfl, rfl⟩
    | cons c rest =>
      have hc : ¬Pattern.isWord c = true := Bool.eq_false_iff.mp (hrest c rfl)
      exact ⟨List.takeWhile_cons_of_neg hc, List.dropWhile_cons_of_neg hc⟩
  have htake : (name.toList ++ rest).takeWhile Pattern.isWord = name.toList := by
    rw [List.takeWhile_append_of_pos h.2, hnone.1, List.append_nil]
  have hdrop : (name.toList ++ rest).dropWhile Pattern.isWord = rest := by
    rw [List.dropWhile_append_of_pos h.2, hnone.2]
  unfold word?
  rw [htake, hdrop]
  split
  · next hempty => exact (h.1 (String.toList_eq_nil_iff.mp hempty)).elim
  · rw [String.ofList_toList]

/-- No bracket opens a word, so that what follows it decides. -/
lemma read_word {d : Dialect} (h : IsWord name) (hrest : EndsWord rest) (fuel : Nat) :
    d.read (fuel + 1) (name.toList ++ rest) = d.readAfter (d.read fuel) name rest := by
  have hhead : ∀ text, name.toList ++ rest ≠ '[' :: text := by
    intro text heq
    cases hname : name.toList with
    | nil => exact h.1 (String.toList_eq_nil_iff.mp hname)
    | cons c tail =>
      rw [hname] at heq
      have hc : Pattern.isWord c = true := h.2 c (hname ▸ List.mem_cons_self)
      rw [(List.cons.inj heq).1] at hc
      exact absurd hc (by decide)
  rw [Dialect.read.eq_3 d _ fuel hhead, word?_append h hrest]
  rfl

variable {d : Dialect} {e : Expr} {fuel : Nat}

lemma dropPrefix?_append (front rest : List Char) :
    (front ++ rest).dropPrefix? front = some rest :=
  List.dropPrefix?_append_of_beq rest (beq_self_eq_true front)

lemma read_var (h : IsWord name) (hkey : d.key? rest = none) (hrest : Closes rest) :
    d.read (fuel + 1) (name.toList ++ rest) = some (.var name, rest) := by
  rw [read_word h (endsWord_of_closes hrest)]
  unfold Dialect.readAfter
  split
  · next inside => exact absurd (hrest '(' rfl) (by decide)
  · rw [hkey]

lemma read_call (h : IsWord name) (hread : d.read fuel text = some (e, ')' :: rest)) :
    d.read (fuel + 1) (name.toList ++ '(' :: text) = some (.call name e, rest) := by
  have hclose : (')' :: rest).dropPrefix? [')'] = some rest := dropPrefix?_append [')'] rest
  rw [read_word h (endsWord_cons (by decide))]
  unfold Dialect.readAfter
  simp only [hread, hclose, Option.bind_eq_bind, Option.bind_some]
  rfl

lemma read_field {key : String} {start : Char} (h : IsWord name)
    (hstart : Pattern.isWord start = false) (hparen : start ≠ '(')
    (hkey : d.key? (start :: text) = some (key, rest)) :
    d.read (fuel + 1) (name.toList ++ start :: text) = some (.field name key, rest) := by
  rw [read_word h (endsWord_cons hstart)]
  unfold Dialect.readAfter
  split
  · next heq => exact (hparen (List.cons.inj heq).1).elim
  · rw [hkey]

lemma read_collect {body source : Expr} {sourceText : List Char} (hd : d.hasComprehensions = true)
    (hbody : d.read fuel text =
      some (body, ' ' :: 'f' :: 'o' :: 'r' :: ' ' ::
        (name.toList ++ ' ' :: 'i' :: 'n' :: ' ' :: sourceText)))
    (h : IsWord name) (hsource : d.read fuel sourceText = some (source, ']' :: rest)) :
    d.read (fuel + 1) ('[' :: text) = some (.collect body name source, rest) := by
  have hfor := dropPrefix?_append [' ', 'f', 'o', 'r', ' ']
    (name.toList ++ ' ' :: 'i' :: 'n' :: ' ' :: sourceText)
  have hname : word? (name.toList ++ ' ' :: 'i' :: 'n' :: ' ' :: sourceText) =
      some (name, ' ' :: 'i' :: 'n' :: ' ' :: sourceText) :=
    word?_append h (endsWord_cons (by decide))
  have hin := dropPrefix?_append [' ', 'i', 'n', ' '] sourceText
  have hclose := dropPrefix?_append [']'] rest
  simp only [List.cons_append, List.nil_append] at hfor hin hclose
  rw [Dialect.read.eq_2, if_pos hd]
  unfold readCollect
  simp only [hbody, hfor, hname, hin, hsource, hclose, Option.bind_eq_bind, Option.bind_some]
  rfl

end Reading

section Values

variable {ν : Type}

/-- A value at run time: what JSON can hold, an object of the program, or the function that rebuilds
trees. -/
inductive Value (ν : Type) where
  | atom (j : Json)
  | list (items : List (Value ν))
  | record (fields : List (RawText × Value ν))
  | object (o : ν)
  | builder

namespace Value

mutual

/-- A JSON value as it is decoded. -/
def ofJson : Json → Value ν
  | .arr items => list (ofItems items)
  | .obj fields => record (ofFields fields)
  | j => atom j

def ofItems : List Json → List (Value ν)
  | [] => []
  | j :: rest => ofJson j :: ofItems rest

def ofFields : Json.Fields → List (RawText × Value ν)
  | [] => []
  | (name, j) :: rest => (name, ofJson j) :: ofFields rest

end

def items? : Value ν → Option (List (Value ν))
  | list items => some items
  | _ => none

def field? (key : String) : Value ν → Option (Value ν)
  | record fields => fields.lookup (RawText.whole key)
  | _ => none

/-- What an application gives; nothing but the function that rebuilds trees can be applied. -/
def applied? (build : Value ν → Option (Value ν)) : Value ν → Value ν → Option (Value ν)
  | builder => build
  | _ => fun _ => none

lemma ofItems_eq_map (items : List Json) : (ofItems items : List (Value ν)) = items.map ofJson := by
  induction items with
  | nil => rfl
  | cons j rest ih => rw [ofItems, ih, List.map_cons]

lemma field?_ofJson {fields : Json.Fields} {key : String} {j : Json}
    (h : Json.lookup (.whole key) fields = some j) :
    (ofJson (.obj fields) : Value ν).field? key = some (ofJson j) := by
  show (ofFields fields).lookup (RawText.whole key) = some (ofJson j)
  induction fields with
  | nil => cases h
  | cons entry rest ih =>
    obtain ⟨name, value⟩ := entry
    rw [Json.lookup] at h
    rw [ofFields]
    by_cases hname : name = .whole key
    · rw [if_pos hname] at h
      cases h
      rw [hname, List.lookup_cons_self]
    · rw [if_neg hname] at h
      have hkey : (RawText.whole key == name) = false := beq_false_of_ne (Ne.symm hname)
      rw [List.lookup_cons, hkey]
      exact ih h

end Value

/-- The value of an expression in a scope, where it has one; `build` is what the function that
rebuilds trees does. -/
def Expr.eval (build : Value ν → Option (Value ν)) :
    Expr → (String → Option (Value ν)) → Option (Value ν)
  | var name, scope => scope name
  | field record key, scope => (scope record).bind (Value.field? key)
  | call function argument, scope =>
    (scope function).bind fun f => (argument.eval build scope).bind (f.applied? build)
  | collect body name source, scope =>
    ((source.eval build scope).bind Value.items?).bind fun items =>
      (items.mapM fun item => body.eval build (Function.update scope name (some item))).map .list

/-- Where the type has lists or arrays, the value has arrays. -/
def Conforms : TypeExpr → Json → Prop
  | .array element, j | .list element, j =>
    ∃ items, j = .arr items ∧ ∀ item ∈ items, Conforms element item
  | _, _ => True

/-- The value with `build` applied wherever the type has a tree, unless that fails somewhere. -/
def rebuilt (build : Value ν → Option (Value ν)) : TypeExpr → Value ν → Option (Value ν)
  | .tree _, v => build v
  | .array element, .list items | .list element, .list items =>
    (items.mapM (rebuilt build element)).map .list
  | _, v => some v

variable {build : Value ν → Option (Value ν)}

lemma rebuilt_of_no_tree {t : TypeExpr} (h : t.contains .tree = false) (v : Value ν) :
    rebuilt build t v = some v := by
  induction t generalizing v with
  | array element ih | list element ih =>
    have hsome : rebuilt build element = some := funext (ih h)
    cases v with
    | list items =>
      have hitems : items.mapM (some : Value ν → Option (Value ν)) = some items := by
        have hpure := List.mapM_pure (m := Option) (f := id) (l := items)
        simpa using hpure
      rw [rebuilt, hsome, hitems]
      rfl
    | _ => rfl
  | tree value => cases h
  | primitive p => rfl
  | graph => rfl

end Values

/-- From every decoded input that holds the parameter in the form of its type, the expression gives
the value of the parameter with its trees rebuilt by the function of that name. -/
def PassesRebuilt (builder : String) (p : TypedParameter) (e : Expr) : Prop :=
  ∀ (ν : Type) (build : Value ν → Option (Value ν)) (scope : String → Option (Value ν))
    (fields : Json.Fields) (j : Json),
    scope "data" = some (.ofJson (.obj fields)) → scope builder = some .builder →
    Json.lookup p.name fields = some j → Conforms p.type j →
    e.eval build scope = rebuilt build p.type (.ofJson j)

/-- How a file decodes: how arguments are written, and which function rebuilds trees. -/
structure Decoder extends TreeDecoder where
  dialect : Dialect
  builder : String

def Decoder.python : Decoder := ⟨(treeDecoder? .python).get rfl, .python, "_build_tree"⟩

def Decoder.javascript : Decoder := ⟨(treeDecoder? .javascript).get rfl, .javascript, "buildTree"⟩

/-- The trees in a parameter reach the solution rebuilt: the file calls it with an argument that
rebuilds them, and defines the function that the argument applies. -/
structure RebuildsTrees (d : Decoder) (c : Context) (p : MappedParameter) (lines : List String) :
    Prop where
  call : d.call c ∈ lines
  argument : ∃ e, d.dialect.expression? (d.argument p) = some e ∧
    PassesRebuilt d.builder p.toTypedParameter e
  defined : d.opening ∈ lines

end StubGen.Proofs
