import StubGen.Proofs.Except
import StubGen.TypeExpr.Basic
import StubGen.TypeExpr.Token

/-!
# Lexing type spellings

The tokens of a scanned text spell the text, so that the scanner neither skips nor invents a
character. Conversely `spellingTokens` gives the tokens of a canonical spelling outright, and
scanning the spelling finds exactly these, whatever follows that cannot extend a name.
-/

namespace StubGen.Proofs
open TypeExpr

lemma ofChar?_eq_some_iff {c : Char} {b : Bracket} : Bracket.ofChar? c = some b ↔ b.char = c := by
  constructor
  · intro h
    simpa using List.find?_some h
  · intro h
    subst h
    cases b <;> rfl

/-- The tokens of a scanned text cover the text, each character once and in order. -/
theorem scan_chars {a : Alphabet} {column : Nat} {text : List Char} {ts : Tokens}
    (h : a.scan column text = .ok ts) : ts.list.flatMap Token.chars = text := by
  fun_induction Alphabet.scan a column text generalizing ts with
  | case1 column =>
    cases h
    rfl
  | case2 column c rest b hb ih =>
    obtain ⟨tail, htail, rfl⟩ := map_eq_ok_iff.mp h
    have hc : b.char = c := ofChar?_eq_some_iff.mp hb
    simp only [Tokens.cons, List.flatMap_cons, ih htail, Token.chars, hc, List.singleton_append]
  | case3 column c rest hb hs name =>
    rename_i ih
    obtain ⟨tail, htail, rfl⟩ := map_eq_ok_iff.mp h
    simp only [Tokens.cons, List.flatMap_cons, ih htail, Token.chars, name, List.cons_append,
      List.takeWhile_append_dropWhile]
  | case4 column c rest hb hs => cases h

/-- No name can go on into the text. -/
def Closed (a : Alphabet) (text : List Char) : Prop := ∀ c ∈ text.head?, a.continues c = false

/-- Puts tokens in front of scanned ones. -/
def precede (front : List Token) (ts : Tokens) : Tokens := { ts with list := front ++ ts.list }

/-- From the column on, the scanner finds the tokens in the text and goes on behind it. -/
def Scans (a : Alphabet) (column : Nat) (text : List Char) (tokens : List Token) : Prop :=
  ∀ rest, Closed a rest →
    a.scan column (text ++ rest) = (a.scan (column + text.length) rest).map (precede tokens)

lemma map_precede_map_precede (x : Except StrayCharacter Tokens) (front next : List Token) :
    (x.map (precede next)).map (precede front) = x.map (precede (front ++ next)) := by
  cases x with
  | error e => rfl
  | ok ts => simp [Except.map, precede]

lemma scans_nil (a : Alphabet) (column : Nat) : Scans a column [] [] := by
  intro rest _
  cases h : a.scan column rest <;> simp [h, Except.map, precede]

lemma scans_bracket {a : Alphabet} {column : Nat} {next : List Char} {tokens : List Token}
    (b : Bracket) (h : Scans a (column + 1) next tokens) :
    Scans a column (b.char :: next) (⟨.bracket b, column⟩ :: tokens) := by
  intro rest hr
  have hb : Bracket.ofChar? b.char = some b := ofChar?_eq_some_iff.mpr rfl
  rw [List.cons_append, Alphabet.scan, hb]
  dsimp only
  rw [h rest hr, List.length_cons, Nat.add_right_comm, Nat.add_assoc]
  exact map_precede_map_precede _ [⟨.bracket b, column⟩] tokens

/-- A text that the scanner takes as one name. -/
def IsName (a : Alphabet) : List Char → Prop
  | [] => False
  | c :: rest => Bracket.ofChar? c = none ∧ a.starts c = true ∧ rest.all a.continues = true

lemma scans_name {a : Alphabet} {name : List Char} (hn : IsName a name) (column : Nat) :
    Scans a column name [⟨.name name, column⟩] := by
  intro rest hr
  cases name with
  | nil => exact hn.elim
  | cons c tail =>
    obtain ⟨hb, hs, hall⟩ := hn
    have ht := List.all_eq_true.mp hall
    have hstop : rest.takeWhile a.continues = [] ∧ rest.dropWhile a.continues = rest := by
      cases rest with
      | nil => exact ⟨rfl, rfl⟩
      | cons d rest =>
        have hd : a.continues d = false := hr d rfl
        simp [hd]
    rw [List.cons_append, Alphabet.scan, hb]
    simp only [hs, ite_true, List.takeWhile_append_of_pos ht, List.dropWhile_append_of_pos ht,
      hstop.1, hstop.2, List.append_nil]
    rfl

/-- A bracket ends the name before it. -/
lemma closed_bracket (b : Bracket) (rest : List Char) : Closed .unicode (b.char :: rest) := by
  intro c hc
  cases hc
  cases b <;> decide

lemma scans_append_bracket {column : Nat} {text next : List Char} {tokens more : List Token}
    {b : Bracket} (h : Scans .unicode column text tokens)
    (hn : Scans .unicode (column + text.length) (b.char :: next) more) :
    Scans .unicode column (text ++ b.char :: next) (tokens ++ more) := by
  intro rest hr
  have hfirst := h (b.char :: next ++ rest) (closed_bracket b (next ++ rest))
  rw [List.append_assoc, hfirst, hn rest hr, map_precede_map_precede, List.length_append,
    Nat.add_assoc]

/-- The tokens of the canonical spelling of a type, the first of them at the column. -/
def spellingTokens (column : Nat) : TypeExpr → List Token
  | .primitive p => [⟨.name p.name.toList, column⟩]
  | .array element =>
    let finish := column + element.spellingChars.length
    spellingTokens column element ++
      [⟨.bracket .openSquare, finish⟩, ⟨.bracket .closeSquare, finish + 1⟩]
  | .list element =>
    ⟨.name "List".toList, column⟩ :: ⟨.bracket .openAngle, column + 4⟩ ::
      (spellingTokens (column + 5) element ++
        [⟨.bracket .closeAngle, column + 5 + element.spellingChars.length⟩])
  | .tree value =>
    [⟨.name "Tree".toList, column⟩, ⟨.bracket .openAngle, column + 4⟩,
     ⟨.name value.name.toList, column + 5⟩,
     ⟨.bracket .closeAngle, column + 5 + value.name.toList.length⟩]
  | .graph => [⟨.name "Graph".toList, column⟩]

lemma isName_primitive (p : Primitive) : IsName .unicode p.name.toList := by
  cases p <;> exact ⟨by decide, by decide, by decide⟩

lemma isName_list : IsName .unicode "List".toList := ⟨by decide, by decide, by decide⟩

lemma isName_tree : IsName .unicode "Tree".toList := ⟨by decide, by decide, by decide⟩

lemma isName_graph : IsName .unicode "Graph".toList := ⟨by decide, by decide, by decide⟩

/-- A constructor with its operand between angle brackets; both names have four characters. -/
lemma scans_applied {name inner : List Char} {tokens : List Token} {column : Nat}
    (hname : IsName .unicode name) (hlen : name.length = 4)
    (h : Scans .unicode (column + 5) inner tokens) :
    Scans .unicode column (name ++ '<' :: (inner ++ ['>']))
      (⟨.name name, column⟩ :: ⟨.bracket .openAngle, column + 4⟩ ::
        (tokens ++ [⟨.bracket .closeAngle, column + 5 + inner.length⟩])) := by
  have hclose := scans_append_bracket h (scans_bracket .closeAngle (scans_nil _ _))
  have hopen := scans_bracket .openAngle hclose
  rw [← hlen] at hopen ⊢
  exact scans_append_bracket (scans_name hname column) hopen

/-- Scanning a canonical spelling finds the tokens of its type. -/
theorem scans_spelling (t : TypeExpr) (column : Nat) :
    Scans .unicode column t.spellingChars (spellingTokens column t) := by
  induction t generalizing column with
  | primitive p =>
    rw [spellingChars_primitive, spellingTokens]
    exact scans_name (isName_primitive p) column
  | array element ih =>
    rw [spellingChars_array, spellingTokens]
    exact scans_append_bracket (ih column)
      (scans_bracket .openSquare (scans_bracket .closeSquare (scans_nil _ _)))
  | list element ih =>
    have hsplit : (list element).spellingChars =
        "List".toList ++ '<' :: (element.spellingChars ++ ['>']) := by
      simp
    rw [hsplit, spellingTokens]
    exact scans_applied isName_list (by decide) (ih (column + 5))
  | tree value =>
    have hsplit : (tree value).spellingChars =
        "Tree".toList ++ '<' :: (value.name.toList ++ ['>']) := by
      simp
    rw [hsplit, spellingTokens]
    exact scans_applied isName_tree (by decide) (scans_name (isName_primitive value) (column + 5))
  | graph =>
    rw [spellingChars_graph, spellingTokens]
    exact scans_name isName_graph column

/-- The canonical spelling of a type scans to the tokens of the type. -/
theorem tokenize_spelling (t : TypeExpr) :
    tokenize t.spelling = .ok ⟨spellingTokens 1 t, 1 + t.spellingChars.length⟩ := by
  have hnil : Closed .unicode [] := by
    intro c hc
    cases hc
  have h := scans_spelling t 1 [] hnil
  rw [List.append_nil] at h
  rw [tokenize, spelling, String.toList_ofList, h, Alphabet.scan]
  simp [Except.map, precede]

end StubGen.Proofs
