import StubGen.Proofs.Lexing
import StubGen.TypeExpr.Parser

/-!
# Reading inverts spelling

The reader keeps a stack of open constructors. `openText` is the text that opened them, and each
step keeps the equation between this text, the type read last and the tokens still to come. The
accepted texts are therefore the canonical spellings of the well-formed types, and nothing else.
-/

namespace StubGen.Proofs
open TypeExpr

/-- The name of a constructor. -/
def openerName : Opener → List Char
  | .list => "List".toList
  | .tree => "Tree".toList

/-- The text that opened the frames, the innermost frame being the first of the list. -/
def openText : List Frame → List Char
  | [] => []
  | frame :: frames => openText frames ++ openerName frame.opener ++ ['<']

lemma ofName?_primitive (p : Primitive) :
    Head.ofName? p.name.toList = some (.atom (.primitive p)) := by
  rw [Head.ofName?, String.ofList_toList, Primitive.ofName?_name]

lemma ofName?_opener (o : Opener) : Head.ofName? (openerName o) = some (.opener o) := by
  cases o <;> decide

lemma ofName?_graph : Head.ofName? "Graph".toList = some (.atom .graph) := by decide

lemma atom_of_ofName? {name : List Char} {t : TypeExpr} (h : Head.ofName? name = some (.atom t)) :
    t.WellFormed ∧ t.spellingChars = name := by
  unfold Head.ofName? at h
  split at h
  · next p hp =>
    cases h
    have hname := congrArg String.toList (Primitive.name_of_ofName? hp)
    rw [String.toList_ofList] at hname
    exact ⟨trivial, hname⟩
  · split_ifs at h with hg hl ht
    · cases h
      exact ⟨trivial, hg.symm⟩
    · cases h
    · cases h

lemma opener_of_ofName? {name : List Char} {o : Opener} (h : Head.ofName? name = some (.opener o)) :
    name = openerName o := by
  unfold Head.ofName? at h
  split at h
  · cases h
  · split_ifs at h with hg hl ht
    · cases h
    · cases h
      exact hl
    · cases h
      exact ht

/-- Closing a constructor keeps well-formedness and writes the operand between angle brackets. -/
lemma close_sound {o : Opener} {t closed : TypeExpr} {column : Nat}
    (h : close o t column = .ok closed) (ht : t.WellFormed) :
    closed.WellFormed ∧
      closed.spellingChars = openerName o ++ '<' :: (t.spellingChars ++ ['>']) := by
  unfold close at h
  split at h
  · cases h
    exact ⟨ht, by simp [openerName]⟩
  · cases h
    exact ⟨trivial, by simp [openerName]⟩
  · cases h

/-- What is accepted after a type was read is spelled by the open text, that type and the tokens. -/
theorem resume_sound {frames : List Frame} {finish column : Nat} {t u : TypeExpr}
    {tokens : List Token} (h : resume frames finish t column tokens = .ok u) (ht : t.WellFormed) :
    u.WellFormed ∧
      u.spellingChars = openText frames ++ t.spellingChars ++ tokens.flatMap Token.chars := by
  fun_induction resume frames finish t column tokens with
  | case1 t column =>
    cases h
    exact ⟨ht, by simp [openText]⟩
  | case4 frames t column c₁ c₂ rest he ih =>
    obtain ⟨hu, hs⟩ := ih h ⟨he, ht⟩
    refine ⟨hu, ?_⟩
    rw [hs]
    simp [Token.chars, Bracket.char]
  | case8 t column next rest hnext frame frames hkind closed hc ih =>
    obtain ⟨hclosed, htext⟩ := close_sound hc ht
    obtain ⟨hu, hs⟩ := ih h hclosed
    refine ⟨hu, ?_⟩
    rw [hs, htext]
    simp [openText, Token.chars, hkind, Bracket.char]
  | _ => cases h

theorem start_sound {frames : List Frame} {finish : Nat} {u : TypeExpr} {tokens : List Token}
    (h : start frames finish tokens = .ok u) :
    u.WellFormed ∧ u.spellingChars = openText frames ++ tokens.flatMap Token.chars := by
  fun_induction start frames finish tokens with
  | case2 frames name column rest t ht =>
    obtain ⟨hatom, hname⟩ := atom_of_ofName? ht
    obtain ⟨hu, hs⟩ := resume_sound h hatom
    refine ⟨hu, ?_⟩
    rw [hs, hname]
    simp [Token.chars]
  | case4 frames name column o ho c rest ih =>
    obtain ⟨hu, hs⟩ := ih h
    refine ⟨hu, ?_⟩
    rw [hs, opener_of_ofName? ho]
    simp [openText, Token.chars, Bracket.char]
  | _ => cases h

section Steps

variable {frames : List Frame} {finish column : Nat} {t : TypeExpr} {rest : List Token}

lemma start_atom {name : List Char} (h : Head.ofName? name = some (.atom t)) :
    start frames finish (⟨.name name, column⟩ :: rest) = resume frames finish t column rest := by
  rw [start, h]

lemma start_opener (o : Opener) (c : Nat) :
    start frames finish (⟨.name (openerName o), column⟩ :: ⟨.bracket .openAngle, c⟩ :: rest) =
      start (⟨o, column⟩ :: frames) finish rest := by
  rw [start, ofName?_opener]

lemma resume_array (h : t.isArrayElement = true) (c₁ c₂ : Nat) :
    resume frames finish t column
        (⟨.bracket .openSquare, c₁⟩ :: ⟨.bracket .closeSquare, c₂⟩ :: rest) =
      resume frames finish (array t) column rest := by
  rw [resume, if_pos h]

lemma resume_close {frame : Frame} {closed : TypeExpr}
    (h : close frame.opener t column = .ok closed) (c : Nat) :
    resume (frame :: frames) finish t column (⟨.bracket .closeAngle, c⟩ :: rest) =
      resume frames finish closed frame.column rest := by
  simp [resume, h]

end Steps

/-- Reading the tokens of a well-formed type arrives at the type, whatever is open around it and
whatever follows. -/
theorem start_spellingTokens {t : TypeExpr} (ht : t.WellFormed) (frames : List Frame)
    (finish column : Nat) (rest : List Token) :
    start frames finish (spellingTokens column t ++ rest) = resume frames finish t column rest := by
  induction t generalizing frames column rest with
  | primitive p => exact start_atom (ofName?_primitive p)
  | array element ih =>
    obtain ⟨he, helement⟩ := ht
    rw [spellingTokens, List.append_assoc, ih helement]
    exact resume_array he _ _
  | list element ih =>
    rw [spellingTokens, List.cons_append, List.cons_append, List.append_assoc]
    refine (start_opener .list (column + 4)).trans ?_
    rw [ih ht]
    exact resume_close rfl _
  | tree value =>
    refine (start_opener .tree (column + 4)).trans ?_
    refine (start_atom (ofName?_primitive value)).trans ?_
    exact resume_close rfl _
  | graph => exact start_atom ofName?_graph

lemma spelling_eq_iff {t : TypeExpr} {s : String} :
    t.spelling = s ↔ t.spellingChars = s.toList := by
  rw [spelling, ← String.toList_inj, String.toList_ofList]

/-- Only canonical spellings are accepted, and they are read as the type that they spell. -/
theorem parse_sound {s : String} {t : TypeExpr} (h : parse s = .ok t) :
    t.WellFormed ∧ t.spelling = s := by
  unfold parse at h
  split at h
  · next tokens htokens =>
    obtain ⟨ht, hchars⟩ := start_sound h
    refine ⟨ht, spelling_eq_iff.mpr ?_⟩
    rw [hchars, scan_chars htokens]
    rfl
  · cases h

/-- Every canonical spelling is accepted. -/
theorem parse_spelling {t : TypeExpr} (ht : t.WellFormed) : parse t.spelling = .ok t := by
  have hread := start_spellingTokens ht [] (1 + t.spellingChars.length) 1 []
  rw [List.append_nil] at hread
  rw [parse, tokenize_spelling]
  dsimp only [ofTokens]
  rw [hread, resume]

/-- Distinct well-formed types have distinct spellings. -/
theorem spelling_injective {t u : TypeExpr} (ht : t.WellFormed) (hu : u.WellFormed)
    (h : t.spelling = u.spelling) : t = u := by
  have hread := parse_spelling ht
  rw [h, parse_spelling hu] at hread
  exact (Except.ok.inj hread).symm

theorem parse_eq_ok_iff {s : String} {t : TypeExpr} :
    parse s = .ok t ↔ t.WellFormed ∧ t.spelling = s := by
  constructor
  · exact parse_sound
  · rintro ⟨ht, rfl⟩
    exact parse_spelling ht

theorem ofText?_eq_some_iff {text : RawText} {t : TypeExpr} :
    ofText? text = some t ↔ t.WellFormed ∧ text = t.spelling := by
  cases text with
  | whole s =>
    have hwhole : RawText.whole s = RawText.whole t.spelling ↔ t.spelling = s := by
      rw [RawText.whole.injEq, eq_comm]
    rw [hwhole, ← parse_eq_ok_iff, ← toOption_eq_some_iff]
    rfl
  | broken before h rest =>
    constructor
    · intro hread
      cases hread
    · rintro ⟨-, htext⟩
      cases htext

/-- The accepted texts are exactly the canonical spellings of the well-formed types, and each is
read as the type that it spells; a text with a lone half of a pair is none of them. -/
theorem reading_inverts_spelling (t : TypeExpr) :
    (∀ s : String, parse s = .ok t ↔ t.WellFormed ∧ t.spelling = s) ∧
      ∀ text : RawText, ofText? text = some t ↔ t.WellFormed ∧ text = t.spelling :=
  ⟨fun _ => parse_eq_ok_iff, fun _ => ofText?_eq_some_iff⟩

end StubGen.Proofs
