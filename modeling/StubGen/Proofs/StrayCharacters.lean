import Mathlib.Data.List.Chain
import Mathlib.Order.Bounds.Basic
import StubGen.Proofs.Lexing

/-!
# Stray characters

Whether a character belongs to a token depends on it and on the one before it only. The scanner
stops at the first character that belongs to none, and cuts every other text into tokens that cover
it, so that each column is one more than the number of characters before it. `Cuts` states what
has been read at any moment of a scan.
-/

namespace StubGen.Proofs

/-- Letters continue names, and neither the brackets nor the underscore count as alphanumeric. -/
structure Separating (a : Alphabet) : Prop where
  alphanumeric_of_letter : ∀ c, a.isLetter c = true → a.isAlphanumeric c = true
  not_alphanumeric : ∀ c ∈ ['<', '>', '[', ']', '_'], a.isAlphanumeric c = false

lemma separating_unicode : Separating .unicode where
  alphanumeric_of_letter _ := Text.isAlphanumeric_of_isLetter
  not_alphanumeric := by
    simp only [List.forall_mem_cons, List.not_mem_nil, false_imp_iff, implies_true, and_true]
    and_intros <;> decide

section Strays

variable {a : Alphabet} {front text rest : List Char}

/-- Behind `front` the character belongs to no token: it is no bracket and starts no name, nor does
it continue one. -/
def IsStray (a : Alphabet) (front : List Char) (c : Char) : Prop :=
  c ∉ ['<', '>', '[', ']'] ∧ c ≠ '_' ∧ a.isLetter c = false ∧
    ¬(a.isAlphanumeric c = true ∧ ∃ d ∈ front.getLast?, a.continues d = true)

/-- The positions of the characters that belong to no token. -/
def strays (a : Alphabet) (text : List Char) : Set Nat :=
  {i | ∃ c, text[i]? = some c ∧ IsStray a (text.take i) c}

lemma ofChar?_eq_none_iff {c : Char} : Bracket.ofChar? c = none ↔ c ∉ ['<', '>', '[', ']'] := by
  rw [Bracket.ofChar?, List.find?_eq_none]
  simp [Bracket.char, eq_comm]

lemma starts_eq_false_iff {c : Char} : a.starts c = false ↔ a.isLetter c = false ∧ c ≠ '_' := by
  simp [Alphabet.starts]

lemma mem_strays_iff {i : Nat} :
    i ∈ strays a text ↔ ∃ front c rest, text = front ++ c :: rest ∧ front.length = i ∧
      IsStray a front c := by
  constructor
  · rintro ⟨c, hc, hstray⟩
    obtain ⟨hi, rfl⟩ := List.getElem?_eq_some_iff.mp hc
    refine ⟨text.take i, text[i], text.drop (i + 1), ?_, List.length_take_of_le hi.le, hstray⟩
    rw [List.getElem_cons_drop, List.take_append_drop]
  · rintro ⟨front, c, rest, rfl, rfl, hstray⟩
    refine ⟨c, by simp, ?_⟩
    rwa [List.take_left]

end Strays

section Cutting

variable {a : Alphabet} {column finish : Nat} {front text rest : List Char} {tokens : List Token}

/-- From `column` on, the tokens are read of the text and `rest` remains, at column `finish`. -/
inductive Cuts (a : Alphabet) : Nat → List Char → List Token → Nat → List Char → Prop
  | done {column : Nat} {rest : List Char} : Cuts a column rest [] column rest
  | bracket {column finish : Nat} {text rest : List Char} {tokens : List Token} (b : Bracket)
      (h : Cuts a (column + 1) text tokens finish rest) :
    Cuts a column (b.char :: text) (⟨.bracket b, column⟩ :: tokens) finish rest
  | name {column finish : Nat} {name text rest : List Char} {tokens : List Token}
      (hn : IsName a name) (hc : Closed a text)
      (h : Cuts a (column + name.length) text tokens finish rest) :
    Cuts a column (name ++ text) (⟨.name name, column⟩ :: tokens) finish rest

lemma isName_takeWhile {c : Char} (hb : Bracket.ofChar? c = none) (hs : a.starts c = true)
    (rest : List Char) : IsName a (c :: rest.takeWhile a.continues) :=
  ⟨hb, hs, List.all_takeWhile⟩

lemma closed_dropWhile (a : Alphabet) (rest : List Char) :
    Closed a (rest.dropWhile a.continues) := by
  intro c hc
  have hnot := List.head?_dropWhile_not a.continues rest
  rw [Option.mem_def.mp hc] at hnot
  simpa using hnot

lemma cuts_of_scan {ts : Tokens} (h : a.scan column text = .ok ts) :
    Cuts a column text ts.list ts.endColumn [] := by
  fun_induction Alphabet.scan a column text generalizing ts with
  | case1 column =>
    cases h
    exact .done
  | case2 column c rest b hb ih =>
    obtain ⟨tail, htail, rfl⟩ := map_eq_ok_iff.mp h
    rw [← ofChar?_eq_some_iff.mp hb]
    exact .bracket b (ih htail)
  | case3 column c rest hb hs name =>
    rename_i ih
    obtain ⟨tail, htail, rfl⟩ := map_eq_ok_iff.mp h
    have hcut := Cuts.name (isName_takeWhile hb hs rest) (closed_dropWhile a rest) (ih htail)
    rwa [List.cons_append, List.takeWhile_append_dropWhile] at hcut
  | case4 column c rest hb hs => cases h

/-- Before it stops at a character, the scanner has read all that stands before it. -/
lemma cuts_of_scan_error {e : StrayCharacter} (h : a.scan column text = .error e) :
    ∃ tokens rest, Cuts a column text tokens e.column (e.char :: rest) ∧
      Bracket.ofChar? e.char = none ∧ a.starts e.char = false := by
  fun_induction Alphabet.scan a column text with
  | case1 column => cases h
  | case2 column c rest b hb ih =>
    obtain ⟨tokens, after, hcut, hchar⟩ := ih (map_eq_error_iff.mp h)
    rw [← ofChar?_eq_some_iff.mp hb]
    exact ⟨_, after, .bracket b hcut, hchar⟩
  | case3 column c rest hb hs name =>
    rename_i ih
    obtain ⟨tokens, after, hcut, hchar⟩ := ih (map_eq_error_iff.mp h)
    have hcut := Cuts.name (isName_takeWhile hb hs rest) (closed_dropWhile a rest) hcut
    rw [List.cons_append, List.takeWhile_append_dropWhile] at hcut
    exact ⟨_, after, hcut, hchar⟩
  | case4 column c rest hb hs =>
    cases h
    exact ⟨[], rest, .done, hb, by simpa using hs⟩

/-- The tokens read and what remains make up the text. -/
lemma text_of_cuts (h : Cuts a column text tokens finish rest) :
    text = tokens.flatMap Token.chars ++ rest := by
  induction h with
  | done => rfl
  | bracket b _ ih => simpa [Token.chars] using ih
  | name _ _ _ ih => simpa [Token.chars] using ih

/-- Each token stands just behind the one before it, the first one at the column. -/
def Placed : Nat → List Token → Prop
  | _, [] => True
  | column, t :: tokens => t.column = column ∧ Placed (column + t.chars.length) tokens

lemma placed_append {more : List Token} : Placed column (tokens ++ more) ↔
    Placed column tokens ∧ Placed (column + (tokens.flatMap Token.chars).length) more := by
  induction tokens generalizing column with
  | nil => simp [Placed]
  | cons t tokens ih => simp [Placed, ih, and_assoc, Nat.add_assoc]

lemma placed_of_cuts (h : Cuts a column text tokens finish rest) :
    Placed column tokens ∧ finish = column + (tokens.flatMap Token.chars).length := by
  induction h with
  | done => exact ⟨trivial, rfl⟩
  | bracket b _ ih =>
    refine ⟨⟨rfl, ih.1⟩, ?_⟩
    rw [ih.2, List.flatMap_cons, List.length_append, Nat.add_assoc]
    rfl
  | name _ _ _ ih =>
    refine ⟨⟨rfl, ih.1⟩, ?_⟩
    rw [ih.2, List.flatMap_cons, List.length_append, Nat.add_assoc]
    rfl

/-- The token is a bracket, or a name that is not empty. -/
def IsVisible (t : Token) : Prop := t.kind ≠ .endOfInput ∧ t.chars ≠ []

lemma visible_of_cuts (h : Cuts a column text tokens finish rest) : ∀ t ∈ tokens, IsVisible t := by
  induction h with
  | done => simp
  | bracket b _ ih =>
    refine List.forall_mem_cons.mpr ⟨⟨?_, ?_⟩, ih⟩ <;> simp [Token.chars]
  | @name _ _ name _ _ _ hn _ _ ih =>
    refine List.forall_mem_cons.mpr ⟨⟨by simp, ?_⟩, ih⟩
    rintro (rfl : name = [])
    exact hn

def IsNameToken (t : Token) : Prop := ∃ name, t.kind = .name name

/-- A name is read at the start of a text only if the text starts with a character of names. -/
lemma head_of_cuts_name (hsep : Separating a) (h : Cuts a column text tokens finish rest)
    (ht : ∃ t ∈ tokens.head?, IsNameToken t) : ¬Closed a text := by
  obtain ⟨t, ht, name, hname⟩ := ht
  cases h with
  | done => cases ht
  | bracket b _ =>
    cases ht
    cases hname
  | @name _ _ name _ _ _ hn _ _ =>
    cases name with
    | nil => exact hn.elim
    | cons c tail =>
      intro hclosed
      have hnot : a.continues c = false := hclosed c rfl
      have hstarts := hn.2.1
      simp only [Alphabet.continues, Alphabet.starts, Bool.or_eq_false_iff, Bool.or_eq_true] at *
      obtain hletter | hunderscore := hstarts
      · rw [hsep.alphanumeric_of_letter c hletter] at hnot
        exact absurd hnot.1 (by decide)
      · rw [hunderscore] at hnot
        exact absurd hnot.2 (by decide)

lemma separated_of_cuts (hsep : Separating a) (h : Cuts a column text tokens finish rest) :
    tokens.IsChain fun t u => ¬(IsNameToken t ∧ IsNameToken u) := by
  induction h with
  | done => exact List.isChain_nil
  | bracket b _ ih =>
    refine List.isChain_cons.mpr ⟨fun u _ hboth => ?_, ih⟩
    obtain ⟨⟨name, hname⟩, -⟩ := hboth
    cases hname
  | name _ hc hcut ih =>
    -- The name before took all characters of names.
    exact List.isChain_cons.mpr
      ⟨fun u hu hboth => head_of_cuts_name hsep hcut ⟨u, hu, hboth.2⟩ hc, ih⟩

end Cutting

section Positions

variable {a : Alphabet} {column finish : Nat} {front piece text rest : List Char}
  {tokens : List Token}

lemma stray_of_mem {i : Nat} (hi : i ∈ strays a (front ++ (piece ++ rest)))
    (hfront : front.length ≤ i) (hpiece : i < (front ++ piece).length) :
    ∃ before c after, piece = before ++ c :: after ∧ IsStray a (front ++ before) c := by
  obtain ⟨k, rfl⟩ := Nat.exists_eq_add_of_le hfront
  rw [List.length_append, Nat.add_lt_add_iff_left] at hpiece
  obtain ⟨c, hc, hstray⟩ := hi
  have hchar : piece[k] = c := by
    rw [List.getElem?_append_right hfront, Nat.add_sub_cancel_left,
      List.getElem?_append_left hpiece, List.getElem?_eq_getElem hpiece] at hc
    exact Option.some.inj hc
  rw [List.take_length_add_append, List.take_append_of_le_length hpiece.le] at hstray
  refine ⟨piece.take k, c, piece.drop (k + 1), ?_, hstray⟩
  rw [← hchar, List.getElem_cons_drop, List.take_append_drop]

/-- A piece in which every character belongs to a token holds no position of a stray one. -/
lemma le_of_mem_strays (hpiece : ∀ before c after, piece = before ++ c :: after →
      ¬IsStray a (front ++ before) c) {i : Nat} (hi : i ∈ strays a (front ++ (piece ++ rest)))
    (hfront : front.length ≤ i) : (front ++ piece).length ≤ i := by
  by_contra hlt
  obtain ⟨before, c, after, heq, hstray⟩ := stray_of_mem hi hfront (not_le.mp hlt)
  exact hpiece before c after heq hstray

lemma not_isStray_bracket (front : List Char) (b : Bracket) : ¬IsStray a front b.char := by
  intro hstray
  refine hstray.1 ?_
  cases b <;> decide

lemma continues_of_starts (hsep : Separating a) {c : Char} (h : a.starts c = true) :
    a.continues c = true := by
  unfold Alphabet.starts at h
  unfold Alphabet.continues
  rw [Bool.or_eq_true] at h ⊢
  exact h.imp_left (hsep.alphanumeric_of_letter c)

lemma not_isStray_name (hsep : Separating a) {name before after : List Char} {c : Char}
    (hn : IsName a name) (heq : name = before ++ c :: after) (front : List Char) :
    ¬IsStray a (front ++ before) c := by
  rintro ⟨-, hunderscore, hletter, hcontinued⟩
  subst heq
  cases before with
  | nil =>
    have hstarts : a.starts c = true := hn.2.1
    rw [starts_eq_false_iff.mpr ⟨hletter, hunderscore⟩] at hstarts
    cases hstarts
  | cons d before =>
    -- The character before is one of the name as well.
    have hall : ∀ x ∈ d :: (before ++ c :: after), a.continues x = true :=
      List.forall_mem_cons.mpr
        ⟨continues_of_starts hsep hn.2.1, List.all_eq_true.mp hn.2.2⟩
    have hc : a.continues c = true := hall c (by simp)
    have halphanumeric : a.isAlphanumeric c = true := by
      simpa [Alphabet.continues, hunderscore] using hc
    have hlast := List.getLast_mem (List.cons_ne_nil d before)
    refine hcontinued ⟨halphanumeric, (d :: before).getLast (List.cons_ne_nil d before), ?_, ?_⟩
    · rw [List.getLast?_append_of_ne_nil _ (List.cons_ne_nil d before)]
      exact List.getLast?_eq_getLast_of_ne_nil _
    · exact hall _ (List.mem_append_left (c :: after) hlast)

/-- No name goes over from `front` to the text. -/
def Fresh (a : Alphabet) (front text : List Char) : Prop :=
  (∃ d ∈ front.getLast?, a.continues d = true) → Closed a text

lemma fresh_bracket (hsep : Separating a) (front : List Char) (b : Bracket) :
    Fresh a (front ++ [b.char]) text := by
  rintro ⟨d, hd, hcontinues⟩
  rw [List.getLast?_concat] at hd
  cases hd
  have hnot : a.isAlphanumeric b.char = false :=
    hsep.not_alphanumeric _ (by cases b <;> decide)
  rw [Alphabet.continues, hnot] at hcontinues
  cases b <;> exact absurd hcontinues (by decide)

/-- No stray character stands in what has been read, and the rest is a fresh start. -/
lemma strays_of_cuts (hsep : Separating a) (h : Cuts a column text tokens finish rest)
    (hfresh : Fresh a front text) :
    (∀ i ∈ strays a (front ++ text), front.length ≤ i →
      (front ++ tokens.flatMap Token.chars).length ≤ i) ∧
    Fresh a (front ++ tokens.flatMap Token.chars) rest := by
  induction h generalizing front with
  | done =>
    rw [List.flatMap_nil, List.append_nil]
    exact ⟨fun i _ hle => hle, hfresh⟩
  | @bracket _ _ text _ _ b _ ih =>
    obtain ⟨hstrays, hrest⟩ := ih (fresh_bracket hsep front b)
    simp only [List.append_assoc] at hstrays hrest
    refine ⟨fun i hi hle => hstrays i hi (le_of_mem_strays ?_ hi hle), hrest⟩
    intro before c after heq
    obtain ⟨rfl, htail⟩ | ⟨rfl, htail⟩ := List.singleton_eq_append_iff.mp heq
    · cases htail
      exact not_isStray_bracket _ b
    · cases htail
  | @name _ _ name text _ _ hn hc _ ih =>
    have hname : Fresh a (front ++ name) text := fun _ => hc
    obtain ⟨hstrays, hrest⟩ := ih hname
    simp only [List.append_assoc] at hstrays hrest
    exact ⟨fun i hi hle => hstrays i hi
      (le_of_mem_strays (fun _ _ _ heq => not_isStray_name hsep hn heq front) hi hle), hrest⟩

/-- Where the scanner stops no token starts, nor does the name before go on. -/
lemma isStray_of_fresh {c : Char} (hb : Bracket.ofChar? c = none) (hs : a.starts c = false)
    (hfresh : Fresh a front (c :: rest)) : IsStray a front c := by
  obtain ⟨hletter, hunderscore⟩ := starts_eq_false_iff.mp hs
  refine ⟨ofChar?_eq_none_iff.mp hb, hunderscore, hletter, ?_⟩
  rintro ⟨halphanumeric, hname⟩
  have hnot : a.continues c = false := hfresh hname c rfl
  rw [Alphabet.continues, halphanumeric] at hnot
  cases hnot

lemma fresh_nil (a : Alphabet) (text : List Char) : Fresh a [] text := by
  rintro ⟨d, hd, -⟩
  cases hd

lemma isLeast_of_scan_error (hsep : Separating a) {e : StrayCharacter}
    (h : a.scan 1 text = .error e) :
    ∃ i, IsLeast (strays a text) i ∧ text[i]? = some e.char ∧ e.column = i + 1 := by
  obtain ⟨tokens, rest, hcut, hb, hs⟩ := cuts_of_scan_error h
  obtain ⟨hstrays, hfresh⟩ := strays_of_cuts hsep hcut (fresh_nil a text)
  have htext := text_of_cuts hcut
  have hcolumn := (placed_of_cuts hcut).2
  refine ⟨(tokens.flatMap Token.chars).length, ⟨?_, fun i hi => ?_⟩, ?_, ?_⟩
  · exact mem_strays_iff.mpr ⟨_, e.char, rest, htext, rfl, isStray_of_fresh hb hs hfresh⟩
  · exact hstrays i hi (Nat.zero_le i)
  · rw [htext]
    simp
  · rw [hcolumn, Nat.add_comm]

lemma strays_eq_empty_of_scan (hsep : Separating a) {ts : Tokens} (h : a.scan 1 text = .ok ts) :
    strays a text = ∅ := by
  have hcut := cuts_of_scan h
  obtain ⟨hstrays, -⟩ := strays_of_cuts hsep hcut (fresh_nil a text)
  have htext := text_of_cuts hcut
  rw [List.append_nil] at htext
  refine Set.eq_empty_of_forall_notMem fun i hi => ?_
  have hbehind : text.length ≤ i := by
    have hle := hstrays i hi (Nat.zero_le i)
    rwa [List.nil_append, ← htext] at hle
  obtain ⟨c, hc, -⟩ := hi
  rw [List.getElem?_eq_none hbehind] at hc
  cases hc

end Positions

section Cover

variable {a : Alphabet} {text : List Char}

/-- The tokens of a text with the end of the input as the last one. Together they are the text, each
starts where those before it end, and no two names follow each other. -/
structure Covers (text : List Char) (tokens : List Token) : Prop where
  ends : ∃ front, tokens = front ++ [⟨.endOfInput, text.length + 1⟩] ∧ ∀ t ∈ front, IsVisible t
  spelled : tokens.flatMap Token.chars = text
  columns : ∀ front t back, tokens = front ++ t :: back →
    t.column = (front.flatMap Token.chars).length + 1
  separated : tokens.IsChain fun t u => ¬(IsNameToken t ∧ IsNameToken u)

lemma placed_closed {ts : Tokens} (h : a.scan 1 text = .ok ts) : Placed 1 ts.closed := by
  obtain ⟨hplaced, hend⟩ := placed_of_cuts (cuts_of_scan h)
  exact placed_append.mpr ⟨hplaced, hend, trivial⟩

lemma endColumn_of_scan {ts : Tokens} (h : a.scan 1 text = .ok ts) :
    ts.endColumn = text.length + 1 := by
  rw [(placed_of_cuts (cuts_of_scan h)).2, scan_chars h, Nat.add_comm]

lemma covers_of_scan (hsep : Separating a) {ts : Tokens} (h : a.scan 1 text = .ok ts) :
    Covers text ts.closed where
  ends := by
    refine ⟨ts.list, ?_, visible_of_cuts (cuts_of_scan h)⟩
    rw [Tokens.closed, endColumn_of_scan h]
  spelled := by
    rw [Tokens.closed, List.flatMap_append, scan_chars h]
    exact List.append_nil text
  columns := by
    intro front t back heq
    have hplaced := placed_closed h
    rw [heq, placed_append] at hplaced
    rw [hplaced.2.1, Nat.add_comm]
  separated := by
    refine List.isChain_append.mpr
      ⟨separated_of_cuts hsep (cuts_of_scan h), List.isChain_singleton _, ?_⟩
    rintro t - u hu ⟨-, name, hname⟩
    cases hu
    cases hname

/-- Whatever characters count as letters, a text is refused exactly if some character of it belongs
to no token, at the column of the first such character, and otherwise its tokens cover it. -/
theorem tokens_cover_unless_stray (hsep : Separating a) (text : List Char) :
    ((∃ e, a.scan 1 text = .error e) ↔ (strays a text).Nonempty) ∧
    (∀ e, a.scan 1 text = .error e →
      ∃ i, IsLeast (strays a text) i ∧ text[i]? = some e.char ∧ e.column = i + 1) ∧
    ∀ ts, a.scan 1 text = .ok ts → Covers text ts.closed := by
  refine ⟨⟨?_, ?_⟩, fun e => isLeast_of_scan_error hsep, fun ts => covers_of_scan hsep⟩
  · rintro ⟨e, he⟩
    obtain ⟨i, hleast, -⟩ := isLeast_of_scan_error hsep he
    exact ⟨i, hleast.1⟩
  · intro hstray
    cases hscan : a.scan 1 text with
    | error e => exact ⟨e, rfl⟩
    | ok ts => exact (hstray.ne_empty (strays_eq_empty_of_scan hsep hscan)).elim

/-- A superscript goes on with a name, but starts none. -/
theorem tokens_cover_superscripts :
    (∃ ts, tokenize "List<_é²>[]" = .ok ts ∧ Covers "List<_é²>[]".toList ts.closed) ∧
      ∃ e, tokenize "List<²é->" = .error e ∧ e = ⟨'²', 6⟩ ∧
        IsLeast (strays .unicode "List<²é->".toList) 5 := by
  have hcovers := tokens_cover_unless_stray separating_unicode "List<_é²>[]".toList
  have hrefused := tokens_cover_unless_stray separating_unicode "List<²é->".toList
  have hok : (tokenize "List<_é²>[]").toOption.isSome = true := by decide +kernel
  obtain ⟨ts, hts⟩ := Option.isSome_iff_exists.mp hok
  have herror : tokenize "List<²é->" = .error ⟨'²', 6⟩ := by decide +kernel
  obtain ⟨i, hleast, -, hcolumn⟩ := hrefused.2.1 _ herror
  obtain rfl : 5 = i := Nat.succ.inj hcolumn
  have hcut := toOption_eq_some_iff.mp hts
  exact ⟨⟨ts, hcut, hcovers.2.2 ts hcut⟩, _, herror, rfl, hleast⟩

end Cover

end StubGen.Proofs
