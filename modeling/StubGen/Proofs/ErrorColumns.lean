import StubGen.Proofs.SpellingRoundTrip
import StubGen.Proofs.StrayCharacters

/-!
# Where reading a spelling fails

The loose grammar lets arrays and trees hold any type. An error over what had to come stands at the
first token with which the tokens before it cannot go on to a sentence of that grammar; the two
errors over what may be held stand at the start of the held type, and what has been read so far can
still go on. Sentences of the loose grammar therefore only meet errors of the second kind.
-/

namespace StubGen.Proofs
open TypeExpr

section Grammar

/-- The sentences of the loose grammar. -/
inductive Loose : List Token.Kind → Prop
  | primitive (p : Primitive) : Loose [.name p.name.toList]
  | graph : Loose [.name "Graph".toList]
  | list {w : List Token.Kind} (h : Loose w) :
    Loose (.name "List".toList :: .bracket .openAngle :: (w ++ [.bracket .closeAngle]))
  | tree {w : List Token.Kind} (h : Loose w) :
    Loose (.name "Tree".toList :: .bracket .openAngle :: (w ++ [.bracket .closeAngle]))
  | array {w : List Token.Kind} (h : Loose w) :
    Loose (w ++ [.bracket .openSquare, .bracket .closeSquare])

/-- A sentence starts like this. -/
def Viable (w : List Token.Kind) : Prop := ∃ rest, Loose (w ++ rest)

variable {w front rest : List Token.Kind}

lemma loose_applied (o : Opener) (h : Loose w) :
    Loose (.name (openerName o) :: .bracket .openAngle :: (w ++ [.bracket .closeAngle])) := by
  cases o with
  | list => exact .list h
  | tree => exact .tree h

/-- What has to come next in a sentence. -/
inductive Expects where
  | type | openAngle | more | closeSquare
  deriving DecidableEq

/-- Follows a sentence by what has to come next and by the number of open constructors. -/
def advance : Expects × Nat → Token.Kind → Option (Expects × Nat)
  | (.type, n), .name name =>
    match Head.ofName? name with
    | some (.atom _) => some (.more, n)
    | some (.opener _) => some (.openAngle, n)
    | none => none
  | (.openAngle, n), .bracket .openAngle => some (.type, n + 1)
  | (.more, n), .bracket .openSquare => some (.closeSquare, n)
  | (.more, n + 1), .bracket .closeAngle => some (.more, n)
  | (.closeSquare, n), .bracket .closeSquare => some (.more, n)
  | _, _ => none

lemma advance_opener (o : Opener) (n : Nat) :
    advance (.type, n) (.name (openerName o)) = some (.openAngle, n) := by
  rw [advance, ofName?_opener]

/-- Within open constructors a sentence leads from where a type has to come to its end. -/
lemma foldlM_of_loose (h : Loose w) (n : Nat) :
    w.foldlM advance (.type, n) = some (.more, n) := by
  have happlied : ∀ (o : Opener) (w : List Token.Kind) (n : Nat),
      w.foldlM advance (.type, n + 1) = some (.more, n + 1) →
      List.foldlM advance (.type, n)
        (.name (openerName o) :: .bracket .openAngle :: (w ++ [.bracket .closeAngle])) =
          some (.more, n) := by
    intro o w n hw
    rw [List.foldlM_cons, advance_opener]
    show List.foldlM advance (.type, n + 1) (w ++ [.bracket .closeAngle]) = _
    rw [List.foldlM_append, hw]
    rfl
  induction h generalizing n with
  | primitive p =>
    rw [List.foldlM_cons, advance, ofName?_primitive]
    rfl
  | graph =>
    rw [List.foldlM_cons, advance, ofName?_graph]
    rfl
  | list _ ih => exact happlied .list _ n (ih (n + 1))
  | tree _ ih => exact happlied .tree _ n (ih (n + 1))
  | array _ ih =>
    rw [List.foldlM_append, ih n]
    rfl

lemma not_loose_of_advance {st : Expects × Nat} {kind : Token.Kind}
    (hfront : front.foldlM advance (.type, 0) = some st) (hkind : advance st kind = none) :
    ¬Loose (front ++ kind :: rest) := by
  intro h
  have hrun := foldlM_of_loose h 0
  rw [List.foldlM_append, hfront, Option.bind_eq_bind, Option.bind_some, List.foldlM_cons, hkind]
    at hrun
  cases hrun

lemma not_loose_of_open {st : Expects × Nat} (hfront : front.foldlM advance (.type, 0) = some st)
    (hopen : st ≠ (.more, 0)) : ¬Loose front := by
  intro h
  exact hopen (Option.some.inj (hfront.symm.trans (foldlM_of_loose h 0)))

end Grammar

section Types

/-- The tokens of the canonical spelling of a type, without their columns. -/
def kindsOf : TypeExpr → List Token.Kind
  | .primitive p => [.name p.name.toList]
  | .array element => kindsOf element ++ [.bracket .openSquare, .bracket .closeSquare]
  | .list element =>
    .name "List".toList :: .bracket .openAngle :: (kindsOf element ++ [.bracket .closeAngle])
  | .tree value =>
    [.name "Tree".toList, .bracket .openAngle, .name value.name.toList, .bracket .closeAngle]
  | .graph => [.name "Graph".toList]

lemma loose_kindsOf (t : TypeExpr) : Loose (kindsOf t) := by
  induction t with
  | primitive p => exact .primitive p
  | array element ih => exact .array ih
  | list element ih => exact .list ih
  | tree value => exact .tree (.primitive value)
  | graph => exact .graph

lemma kinds_spellingTokens (column : Nat) (t : TypeExpr) :
    (spellingTokens column t).map Token.kind = kindsOf t := by
  induction t generalizing column with
  | array element ih => simp [spellingTokens, kindsOf, ih]
  | list element ih => simp [spellingTokens, kindsOf, ih]
  | _ => rfl

lemma kindsOf_atom {name : List Char} {t : TypeExpr} (h : Head.ofName? name = some (.atom t)) :
    kindsOf t = [.name name] := by
  have hname := (atom_of_ofName? h).2
  unfold Head.ofName? at h
  split at h
  · cases h
    rw [← hname]
    rfl
  · split_ifs at h
    · cases h
      rw [← hname]
      rfl
    all_goals cases h

lemma kindsOf_close {o : Opener} {t closed : TypeExpr} {column : Nat}
    (h : close o t column = .ok closed) :
    kindsOf closed = .name (openerName o) :: .bracket .openAngle ::
      (kindsOf t ++ [.bracket .closeAngle]) := by
  unfold close at h
  split at h
  · cases h
    rfl
  · cases h
    rfl
  · cases h

end Types

section Frames

variable {frames : List Frame} {outer : List Token} {w rest : List Token.Kind}

def kinds (tokens : List Token) : List Token.Kind := tokens.map Token.kind

@[simp] lemma kinds_append (tokens more : List Token) :
    kinds (tokens ++ more) = kinds tokens ++ kinds more := List.map_append

@[simp] lemma kinds_cons (t : Token) (tokens : List Token) :
    kinds (t :: tokens) = t.kind :: kinds tokens := rfl

@[simp] lemma kinds_nil : kinds [] = [] := rfl

/-- The tokens opened the frames, the innermost frame being the first of the list. -/
inductive Opened : List Frame → List Token → Prop
  | nil : Opened [] []
  | cons {frames : List Frame} {outer : List Token} (o : Opener) (column c : Nat)
      (h : Opened frames outer) :
    Opened (⟨o, column⟩ :: frames)
      (outer ++ [⟨.name (openerName o), column⟩, ⟨.bracket .openAngle, c⟩])

lemma foldlM_of_opened (h : Opened frames outer) :
    (kinds outer).foldlM advance (.type, 0) = some (.type, frames.length) := by
  induction h with
  | nil => rfl
  | cons o column c _ ih =>
    rw [kinds_append, List.foldlM_append, ih]
    simp only [Option.bind_eq_bind, Option.bind_some, kinds_cons, kinds_nil, List.foldlM_cons,
      advance_opener]
    rfl

/-- Whatever is open can be closed around a sentence. -/
lemma exists_loose_of_opened (h : Opened frames outer) (hw : Loose w) :
    ∃ closers, Loose (kinds outer ++ (w ++ closers)) := by
  induction h generalizing w with
  | nil => exact ⟨[], by simpa using hw⟩
  | cons o column c _ ih =>
    obtain ⟨closers, hclosed⟩ := ih (loose_applied o hw)
    refine ⟨.bracket .closeAngle :: closers, ?_⟩
    simpa using hclosed

lemma viable_of_opened (h : Opened frames outer) (hw : Loose (w ++ rest)) :
    Viable (kinds outer ++ w) := by
  obtain ⟨closers, hclosed⟩ := exists_loose_of_opened h hw
  refine ⟨rest ++ closers, ?_⟩
  simpa only [List.append_assoc] using hclosed

end Frames

section Columns

variable {tokens outer operand : List Token} {column : Nat} {t : TypeExpr}

lemma chars_eq_of_kind {t u : Token} (h : t.kind = u.kind) : t.chars = u.chars := by
  rw [Token.chars, Token.chars, h]

/-- Tokens that stand one behind the other are known from their kinds and from where they start. -/
lemma eq_of_placed {more : List Token} (h : Placed column tokens) (h' : Placed column more)
    (hkinds : kinds tokens = kinds more) : tokens = more := by
  induction tokens generalizing column more with
  | nil =>
    cases more with
    | nil => rfl
    | cons u more => cases hkinds
  | cons t tokens ih =>
    cases more with
    | nil => cases hkinds
    | cons u more =>
      obtain ⟨hkind, htail⟩ := List.cons.inj hkinds
      obtain ⟨ht, hrest⟩ := h
      obtain ⟨hu, hmore⟩ := h'
      rw [← chars_eq_of_kind hkind] at hmore
      rw [ih hrest hmore htail]
      have heq : t = u := by
        cases t
        cases u
        simp_all
      rw [heq]

lemma placed_spellingTokens (column : Nat) (t : TypeExpr) :
    Placed column (spellingTokens column t) := by
  have hclosed : Closed .unicode [] := nofun
  have hscan := scans_spelling t column [] hclosed
  rw [List.append_nil, Alphabet.scan] at hscan
  simpa [precede] using (placed_of_cuts (cuts_of_scan hscan)).1

/-- The tokens are those of a type that can be read, the first of them at the column. -/
structure Spells (operand : List Token) (column : Nat) (t : TypeExpr) : Prop where
  wellFormed : t.WellFormed
  kinds_eq : kinds operand = kindsOf t
  starts : ∃ first ∈ operand.head?, first.column = column

/-- Within tokens that stand one behind the other, those of a type are the ones of its spelling. -/
lemma eq_spellingTokens {back : List Token} (h : Placed 1 (outer ++ (operand ++ back)))
    (hoperand : Spells operand column t) : operand = spellingTokens column t := by
  obtain ⟨-, hkinds, first, hfirst, rfl⟩ := hoperand
  obtain ⟨-, hplaced, -⟩ := (placed_append.trans (and_congr_right' placed_append)).mp h
  have hstart : 1 + (outer.flatMap Token.chars).length = first.column := by
    cases operand with
    | nil => cases hfirst
    | cons t tokens =>
      cases hfirst
      exact hplaced.1.symm
  rw [hstart] at hplaced
  refine eq_of_placed hplaced (placed_spellingTokens _ t) ?_
  rw [hkinds]
  exact (kinds_spellingTokens _ t).symm

lemma le_column_of_placed (h : Placed column tokens) : ∀ t ∈ tokens, column ≤ t.column := by
  induction tokens generalizing column with
  | nil => simp
  | cons t tokens ih =>
    obtain ⟨hcolumn, hrest⟩ := h
    refine List.forall_mem_cons.mpr ⟨hcolumn.ge, fun u hu => ?_⟩
    have hle := ih hrest u hu
    omega

/-- Columns grow from token to token, because every token but the last has characters. -/
lemma pairwise_of_placed {last : Token} (h : Placed column (tokens ++ [last]))
    (hvisible : ∀ t ∈ tokens, IsVisible t) :
    (tokens ++ [last]).Pairwise fun t u => t.column < u.column := by
  induction tokens generalizing column with
  | nil => exact List.pairwise_singleton _ last
  | cons t tokens ih =>
    obtain ⟨hcolumn, hrest⟩ := h
    obtain ⟨ht, htokens⟩ := List.forall_mem_cons.mp hvisible
    refine List.pairwise_cons.mpr ⟨fun u hu => ?_, ih hrest htokens⟩
    have hle := le_column_of_placed hrest u hu
    have hlength := List.length_pos_iff.mpr ht.2
    omega

end Columns

section Blame

/-- The token cannot stand behind the tokens before it, which themselves are the start of a
sentence. -/
structure Impossible (front : List Token) (t : Token) : Prop where
  viable : Viable (kinds front)
  incomplete : t.kind = .endOfInput → ¬Loose (kinds front)
  discontinued : ∀ rest, ¬Loose (kinds front ++ t.kind :: rest)

/-- The first token that cannot stand where it stands is the one at the column. -/
def ImpossibleAt (tokens : List Token) (column : Nat) : Prop :=
  ∃ front t back, tokens = front ++ t :: back ∧ t.column = column ∧ Impossible front t

/-- Square brackets behind a type that is neither a primitive nor an array. The type starts at the
column, and the tokens up to the brackets are the start of a sentence. -/
def ElementAt (tokens : List Token) (column : Nat) : Prop :=
  ∃ outer t c₁ c₂ back, tokens = outer ++ (spellingTokens column t ++
      ⟨.bracket .openSquare, c₁⟩ :: ⟨.bracket .closeSquare, c₂⟩ :: back) ∧
    t.WellFormed ∧ t.category ≠ .primitive ∧ t.category ≠ .array ∧
    Viable (kinds (outer ++ (spellingTokens column t ++
      [⟨.bracket .openSquare, c₁⟩, ⟨.bracket .closeSquare, c₂⟩])))

/-- A tree around a type that is no primitive. The type starts at the column, and the tokens up to
the end of the tree are the start of a sentence. -/
def ValueAt (tokens : List Token) (column : Nat) : Prop :=
  ∃ outer t c₁ c₂ c₃ back, tokens = outer ++ ⟨.name "Tree".toList, c₁⟩ ::
      ⟨.bracket .openAngle, c₂⟩ :: (spellingTokens column t ++ ⟨.bracket .closeAngle, c₃⟩ :: back) ∧
    t.WellFormed ∧ t.category ≠ .primitive ∧
    Viable (kinds (outer ++ ⟨.name "Tree".toList, c₁⟩ :: ⟨.bracket .openAngle, c₂⟩ ::
      (spellingTokens column t ++ [⟨.bracket .closeAngle, c₃⟩])))

/-- What an error says about the tokens. -/
inductive Blames (tokens : List Token) : SyntaxError → Prop
  | expected {wanted : Option Bracket} {found : Option (List Char)} {column : Nat}
      (h : ImpossibleAt tokens column) : Blames tokens (.expected wanted found column)
  | unknownName {name : List Char} {column : Nat} (h : ImpossibleAt tokens column) :
    Blames tokens (.unknownName name column)
  | trailing {text : List Char} {column : Nat} (h : ImpossibleAt tokens column) :
    Blames tokens (.trailing text column)
  | arrayElement {column : Nat} (h : ElementAt tokens column) : Blames tokens (.arrayElement column)
  | treeValue {column : Nat} (h : ValueAt tokens column) : Blames tokens (.treeValue column)

variable {frames : List Frame} {outer operand front tokens : List Token} {finish column : Nat}
  {t : TypeExpr} {e : SyntaxError}

lemma impossible_of_advance {u : Token} {st : Expects × Nat} (hviable : Viable (kinds front))
    (hfront : (kinds front).foldlM advance (.type, 0) = some st) (hu : advance st u.kind = none)
    (hend : u.kind = .endOfInput → st ≠ (.more, 0)) : Impossible front u where
  viable := hviable
  incomplete h := not_loose_of_open hfront (hend h)
  discontinued _ := not_loose_of_advance hfront hu

lemma foldlM_of_resumed (hopen : Opened frames outer) (hkinds : kinds operand = kindsOf t) :
    (kinds (outer ++ operand)).foldlM advance (.type, 0) = some (.more, frames.length) := by
  rw [kinds_append, List.foldlM_append, foldlM_of_opened hopen, hkinds]
  exact foldlM_of_loose (loose_kindsOf t) frames.length

lemma viable_of_resumed (hopen : Opened frames outer) (hkinds : kinds operand = kindsOf t) :
    Viable (kinds (outer ++ operand)) := by
  have hloose : Loose (kindsOf t ++ []) := by simpa using loose_kindsOf t
  rw [kinds_append, hkinds]
  exact viable_of_opened hopen hloose

section Steps

variable {u : Token} {back : List Token}

lemma impossibleAt_append (h : Impossible front u) (back : List Token) :
    ImpossibleAt (front ++ u :: back) u.column :=
  ⟨front, u, back, rfl, rfl, h⟩

/-- A type has to come, and the token starts none. -/
lemma impossibleAt_type (hopen : Opened frames outer)
    (hu : advance (.type, frames.length) u.kind = none) :
    ImpossibleAt (outer ++ u :: back) u.column := by
  have hviable : Viable (kinds outer) := by
    have hgraph : Loose ([] ++ [.name "Graph".toList]) := .graph
    simpa using viable_of_opened hopen hgraph
  refine impossibleAt_append (impossible_of_advance hviable (foldlM_of_opened hopen) hu ?_) back
  rintro - ⟨⟩

/-- The operand of a constructor has to come, and the token does not open it. -/
lemma impossibleAt_openAngle (hopen : Opened frames outer) (o : Opener) (c : Nat)
    (hu : u.kind ≠ .bracket .openAngle) :
    ImpossibleAt (outer ++ ⟨.name (openerName o), c⟩ :: u :: back) u.column := by
  have hviable : Viable (kinds (outer ++ [⟨.name (openerName o), c⟩])) := by
    have happlied : Loose ([.name (openerName o)] ++ [.bracket .openAngle, .name "Graph".toList,
        .bracket .closeAngle]) := loose_applied o .graph
    simpa using viable_of_opened hopen happlied
  have hfront : (kinds (outer ++ [⟨.name (openerName o), c⟩])).foldlM advance (.type, 0) =
      some (.openAngle, frames.length) := by
    rw [kinds_append, List.foldlM_append, foldlM_of_opened hopen]
    simp [advance_opener]
  have hstep : advance (.openAngle, frames.length) u.kind = none := by
    unfold advance
    split <;> simp_all
  have himpossible := impossible_of_advance hviable hfront hstep (by rintro - ⟨⟩)
  simpa using impossibleAt_append himpossible back

/-- A type has been read, and the token neither goes on with it nor closes what is open. -/
lemma impossibleAt_more (hopen : Opened frames outer) (hkinds : kinds operand = kindsOf t)
    (hsquare : u.kind ≠ .bracket .openSquare)
    (hangle : frames = [] ∨ u.kind ≠ .bracket .closeAngle)
    (hend : u.kind = .endOfInput → frames ≠ []) :
    ImpossibleAt (outer ++ (operand ++ u :: back)) u.column := by
  have hstep : advance (.more, frames.length) u.kind = none := by
    unfold advance
    split <;> simp_all
  have himpossible := impossible_of_advance (viable_of_resumed hopen hkinds)
    (foldlM_of_resumed hopen hkinds) hstep (by simpa using hend)
  simpa using impossibleAt_append himpossible back

/-- A square bracket has been opened behind a type, and the token does not close it. -/
lemma impossibleAt_closeSquare (hopen : Opened frames outer) (hkinds : kinds operand = kindsOf t)
    (c : Nat) (hu : u.kind ≠ .bracket .closeSquare) :
    ImpossibleAt (outer ++ (operand ++ ⟨.bracket .openSquare, c⟩ :: u :: back)) u.column := by
  have hviable : Viable (kinds (outer ++ (operand ++ [⟨.bracket .openSquare, c⟩]))) := by
    have harray : Loose ((kindsOf t ++ [.bracket .openSquare]) ++ [.bracket .closeSquare]) := by
      simpa using Loose.array (loose_kindsOf t)
    simpa [hkinds] using viable_of_opened hopen harray
  have hfront : (kinds (outer ++ (operand ++ [⟨.bracket .openSquare, c⟩]))).foldlM advance
      (.type, 0) = some (.closeSquare, frames.length) := by
    rw [← List.append_assoc, kinds_append, List.foldlM_append, foldlM_of_resumed hopen hkinds]
    rfl
  have hstep : advance (.closeSquare, frames.length) u.kind = none := by
    unfold advance
    split <;> simp_all
  have himpossible := impossible_of_advance hviable hfront hstep (by rintro - ⟨⟩)
  simpa using impossibleAt_append himpossible back

lemma kind_ne_of_forall_ne {b : Bracket} (h : ∀ column, u ≠ ⟨.bracket b, column⟩) :
    u.kind ≠ .bracket b := by
  intro hkind
  exact h u.column (by rw [← hkind])

end Steps

lemma spells_array (h : Spells operand column t) (ht : t.isArrayElement = true) (c₁ c₂ : Nat) :
    Spells (operand ++ [⟨.bracket .openSquare, c₁⟩, ⟨.bracket .closeSquare, c₂⟩]) column
      (.array t) := by
  obtain ⟨hwf, hkinds, first, hfirst, hcolumn⟩ := h
  refine ⟨⟨ht, hwf⟩, by simp [kindsOf, hkinds], first, ?_, hcolumn⟩
  rw [List.head?_append, Option.mem_def.mp hfirst]
  rfl

lemma spells_close {o : Opener} {closed : TypeExpr} {place c : Nat}
    (hclose : close o t place = .ok closed) (h : Spells operand column t) (c₁ c₂ : Nat) :
    Spells ([⟨.name (openerName o), c⟩, ⟨.bracket .openAngle, c₁⟩] ++
      (operand ++ [⟨.bracket .closeAngle, c₂⟩])) c closed := by
  refine ⟨(close_sound hclose h.wellFormed).1, ?_, _, rfl, rfl⟩
  simp [kindsOf_close hclose, h.kinds_eq]

/-- Where square brackets cannot follow, the tokens up to them are the start of a sentence all the
same. -/
lemma elementAt_of_resumed (hopen : Opened frames outer) (hoperand : Spells operand column t)
    (ht : ¬t.isArrayElement = true) {c₁ c₂ : Nat} {back : List Token}
    (hplaced : Placed 1 (outer ++ (operand ++
      ⟨.bracket .openSquare, c₁⟩ :: ⟨.bracket .closeSquare, c₂⟩ :: back))) :
    ElementAt (outer ++ (operand ++
      ⟨.bracket .openSquare, c₁⟩ :: ⟨.bracket .closeSquare, c₂⟩ :: back)) column := by
  obtain rfl := eq_spellingTokens hplaced hoperand
  have harray : kinds (spellingTokens column t ++
      [⟨.bracket .openSquare, c₁⟩, ⟨.bracket .closeSquare, c₂⟩]) = kindsOf (.array t) := by
    simp [kindsOf, hoperand.kinds_eq]
  refine ⟨outer, t, c₁, c₂, back, rfl, hoperand.wellFormed, ?_, ?_, viable_of_resumed hopen harray⟩
  all_goals
    intro hcategory
    cases t <;> simp_all [category, isArrayElement]

lemma treeValue_of_close {o : Opener} (h : close o t column = .error e) :
    e = .treeValue column ∧ o = .tree ∧ t.category ≠ .primitive := by
  unfold close at h
  split at h
  · cases h
  · cases h
  · next hprimitive =>
    cases h
    refine ⟨rfl, rfl, fun hcategory => ?_⟩
    cases t <;> simp_all [category]

lemma valueAt_of_resumed (hopen : Opened frames outer) (hoperand : Spells operand column t)
    (ht : t.category ≠ .primitive) {c₁ c₂ c₃ : Nat} {back : List Token}
    (hplaced : Placed 1 (outer ++ [⟨.name "Tree".toList, c₁⟩, ⟨.bracket .openAngle, c₂⟩] ++
      (operand ++ ⟨.bracket .closeAngle, c₃⟩ :: back))) :
    ValueAt (outer ++ [⟨.name "Tree".toList, c₁⟩, ⟨.bracket .openAngle, c₂⟩] ++
      (operand ++ ⟨.bracket .closeAngle, c₃⟩ :: back)) column := by
  obtain rfl := eq_spellingTokens hplaced hoperand
  refine ⟨outer, t, c₁, c₂, c₃, back, by simp, hoperand.wellFormed, ht, ?_⟩
  have htree : Loose ((.name "Tree".toList :: .bracket .openAngle ::
      (kindsOf t ++ [.bracket .closeAngle])) ++ []) := by
    simpa using Loose.tree (loose_kindsOf t)
  simpa [hoperand.kinds_eq] using viable_of_opened hopen htree

/-- An error after a type was read is to blame on the tokens as it says; they are those that opened
the frames, those of the type and those still to come. -/
theorem blames_of_resume (h : resume frames finish t column tokens = .error e)
    (hopen : Opened frames outer) (hoperand : Spells operand column t)
    (hvisible : ∀ u ∈ tokens, u.kind ≠ .endOfInput)
    (hplaced : Placed 1 (outer ++ (operand ++ (tokens ++ [⟨.endOfInput, finish⟩])))) :
    Blames (outer ++ (operand ++ (tokens ++ [⟨.endOfInput, finish⟩]))) e := by
  fun_induction resume frames finish t column tokens generalizing outer operand with
  | case1 t column => cases h
  | case2 frames t column hframes =>
    cases h
    exact .expected (impossibleAt_more hopen hoperand.kinds_eq (by simp) (.inr (by simp))
      fun _ => hframes)
  | case3 frames t column c =>
    cases h
    exact .expected (impossibleAt_closeSquare hopen hoperand.kinds_eq c (by simp))
  | case4 frames t column c₁ c₂ rest he ih =>
    have hrest : ∀ u ∈ rest, u.kind ≠ .endOfInput := fun u hu => hvisible u (by simp [hu])
    have hblames := ih h hopen (spells_array hoperand he c₁ c₂) hrest (by simpa using hplaced)
    simpa using hblames
  | case5 frames t column c₁ c₂ rest he =>
    cases h
    exact .arrayElement (elementAt_of_resumed hopen hoperand he hplaced)
  | case6 frames t column c next rest hnext =>
    cases h
    exact .expected
      (impossibleAt_closeSquare hopen hoperand.kinds_eq c (kind_ne_of_forall_ne hnext))
  | case7 t column next rest hnext =>
    cases h
    exact .trailing (impossibleAt_more hopen hoperand.kinds_eq (kind_ne_of_forall_ne hnext)
      (.inl rfl) fun hend => (hvisible next List.mem_cons_self hend).elim)
  | case8 t column next rest hnext frame frames hkind closed hc ih =>
    cases hopen with
    | @cons _ before o place c₁ hopen =>
      obtain ⟨kind, c₂⟩ := next
      obtain rfl : kind = .bracket .closeAngle := hkind
      have hrest : ∀ u ∈ rest, u.kind ≠ .endOfInput := fun u hu => hvisible u (by simp [hu])
      have hblames := ih h hopen (spells_close hc hoperand c₁ c₂) hrest (by simpa using hplaced)
      simpa using hblames
  | case9 t column next rest hnext frame frames hkind cause hc =>
    cases h
    cases hopen with
    | @cons _ before o place c₁ hopen =>
      obtain ⟨kind, c₂⟩ := next
      obtain rfl : kind = .bracket .closeAngle := hkind
      obtain ⟨rfl, rfl, ht⟩ := treeValue_of_close hc
      exact .treeValue (valueAt_of_resumed hopen hoperand ht hplaced)
  | case10 t column next rest hnext frame frames hkind =>
    cases h
    exact .expected (impossibleAt_more hopen hoperand.kinds_eq (kind_ne_of_forall_ne hnext)
      (.inr hkind) fun hend => (hvisible next List.mem_cons_self hend).elim)

theorem blames_of_start (h : start frames finish tokens = .error e) (hopen : Opened frames outer)
    (hvisible : ∀ u ∈ tokens, u.kind ≠ .endOfInput)
    (hplaced : Placed 1 (outer ++ (tokens ++ [⟨.endOfInput, finish⟩]))) :
    Blames (outer ++ (tokens ++ [⟨.endOfInput, finish⟩])) e := by
  fun_induction start frames finish tokens generalizing outer with
  | case1 frames =>
    cases h
    exact .expected (impossibleAt_type hopen rfl)
  | case2 frames name column rest t ht =>
    have hoperand : Spells [⟨.name name, column⟩] column t :=
      ⟨(atom_of_ofName? ht).1, (kindsOf_atom ht).symm, _, rfl, rfl⟩
    have hrest : ∀ u ∈ rest, u.kind ≠ .endOfInput := fun u hu => hvisible u (by simp [hu])
    exact blames_of_resume h hopen hoperand hrest hplaced
  | case3 frames name column o ho =>
    cases h
    rw [opener_of_ofName? ho]
    exact .expected (impossibleAt_openAngle hopen o column (by simp))
  | case4 frames name column o ho c rest ih =>
    obtain rfl := opener_of_ofName? ho
    have hrest : ∀ u ∈ rest, u.kind ≠ .endOfInput := fun u hu => hvisible u (by simp [hu])
    have hblames := ih h (.cons o column c hopen) hrest (by simpa using hplaced)
    simpa using hblames
  | case5 frames name column o ho next rest hnext =>
    cases h
    rw [opener_of_ofName? ho]
    exact .expected (impossibleAt_openAngle hopen o column (kind_ne_of_forall_ne hnext))
  | case6 frames name column rest hname =>
    cases h
    exact .unknownName (impossibleAt_type hopen (by rw [advance, hname]))
  | case7 frames next rest hnext =>
    cases h
    refine .expected (impossibleAt_type hopen ?_)
    obtain ⟨kind, column⟩ := next
    cases kind with
    | name name => exact (hnext name column rfl).elim
    | _ => rfl

end Blame

section Reasons

variable {s : String} {ts : Tokens} {e : SyntaxError} {tokens : List Token} {column : Nat}

/-- The text is that of an error over what had to come. -/
def BlamesNext (reason : String) : Prop :=
  "Expected ".toList <+: reason.toList ∨ "Unknown type name ".toList <+: reason.toList ∨
    "Unexpected trailing input ".toList <+: reason.toList

def arrayElementReason : String := "Array element type must be a primitive or an array"

def treeValueReason : String := "Tree value type must be a primitive"

lemma not_blamesNext_arrayElement : ¬BlamesNext arrayElementReason := by
  unfold BlamesNext
  decide +kernel

lemma not_blamesNext_treeValue : ¬BlamesNext treeValueReason := by
  unfold BlamesNext
  decide +kernel

lemma arrayElementReason_ne : arrayElementReason ≠ treeValueReason := by decide +kernel

/-- The reason of an error tells what it says about the tokens. -/
lemma reason_of_blames (h : Blames tokens e) :
    BlamesNext e.reason ∧ ImpossibleAt tokens e.column ∨
      e.reason = arrayElementReason ∧ ElementAt tokens e.column ∨
        e.reason = treeValueReason ∧ ValueAt tokens e.column := by
  cases h with
  | expected h =>
    refine .inl ⟨.inl ?_, h⟩
    unfold SyntaxError.reason
    simp only [String.toList_append, List.append_assoc, List.prefix_append]
  | unknownName h =>
    refine .inl ⟨.inr (.inl ?_), h⟩
    unfold SyntaxError.reason
    simp only [String.toList_append, List.prefix_append]
  | trailing h =>
    refine .inl ⟨.inr (.inr ?_), h⟩
    unfold SyntaxError.reason
    simp only [String.toList_append, List.prefix_append]
  | arrayElement h => exact .inr (.inl ⟨rfl, h⟩)
  | treeValue h => exact .inr (.inr ⟨rfl, h⟩)

/-- In a sentence every token, and the end after the last one, can stand where it stands. -/
lemma not_impossibleAt_of_loose {finish : Nat} (h : Loose (kinds tokens)) :
    ¬ImpossibleAt (tokens ++ [⟨.endOfInput, finish⟩]) column := by
  rintro ⟨front, t, back, heq, -, himpossible⟩
  obtain ⟨rest, rfl, hlast⟩ | ⟨rest, rfl, htail⟩ := List.append_eq_append_iff.mp heq
  · cases rest with
    | nil =>
      cases hlast
      rw [List.append_nil] at himpossible
      exact himpossible.incomplete rfl h
    | cons u rest => simp at hlast
  · cases rest with
    | nil =>
      cases htail
      rw [List.append_nil] at h
      exact himpossible.incomplete rfl h
    | cons u rest =>
      cases htail
      rw [kinds_append] at h
      exact himpossible.discontinued _ h

lemma blames_of_parse (hs : tokenize s = .ok ts) (he : parse s = .error e) :
    Blames ts.closed e := by
  have hstart : start [] ts.endColumn ts.list = .error e := by
    rwa [parse, hs] at he
  have hvisible := visible_of_cuts (cuts_of_scan hs)
  exact blames_of_start hstart .nil (fun t ht => (hvisible t ht).1) (placed_closed hs)

lemma exists_column_spellingTokens (column : Nat) (t : TypeExpr) :
    ∃ u ∈ (spellingTokens column t).head?, u.column = column := by
  induction t generalizing column with
  | array element ih =>
    obtain ⟨u, hu, hcolumn⟩ := ih column
    refine ⟨u, ?_, hcolumn⟩
    rw [spellingTokens, List.head?_append, Option.mem_def.mp hu]
    rfl
  | _ => exact ⟨_, rfl, rfl⟩

lemma exists_column_of_blames (h : Blames tokens e) : ∃ t ∈ tokens, t.column = e.column := by
  obtain ⟨-, h⟩ | ⟨-, h⟩ | ⟨-, h⟩ := reason_of_blames h
  · obtain ⟨front, t, back, rfl, hcolumn, -⟩ := h
    exact ⟨t, by simp, hcolumn⟩
  · obtain ⟨outer, t, c₁, c₂, back, rfl, -⟩ := h
    obtain ⟨u, hu, hcolumn⟩ := exists_column_spellingTokens e.column t
    exact ⟨u, by simp [List.mem_of_head? hu], hcolumn⟩
  · obtain ⟨outer, t, c₁, c₂, c₃, back, rfl, -⟩ := h
    obtain ⟨u, hu, hcolumn⟩ := exists_column_spellingTokens e.column t
    exact ⟨u, by simp [List.mem_of_head? hu], hcolumn⟩

/-- Where an error stands among the tokens of a text, as its reason tells. -/
structure ErrorFits (s : String) (ts : Tokens) (e : SyntaxError) : Prop where
  columns : ts.closed.Pairwise fun t u => t.column < u.column
  token : ∃ t ∈ ts.closed, t.column = e.column
  bounds : 1 ≤ e.column ∧ e.column ≤ s.length + 1
  reasons : BlamesNext e.reason ∨ e.reason = arrayElementReason ∨ e.reason = treeValueReason
  next : BlamesNext e.reason → ImpossibleAt ts.closed e.column
  element : e.reason = arrayElementReason → ElementAt ts.closed e.column
  value : e.reason = treeValueReason → ValueAt ts.closed e.column
  sentence : Loose (kinds ts.list) → ¬BlamesNext e.reason

lemma bounds_of_mem (hs : tokenize s = .ok ts) {t : Token} (ht : t ∈ ts.closed) :
    1 ≤ t.column ∧ t.column ≤ s.length + 1 := by
  have hplaced := placed_closed hs
  have hend := endColumn_of_scan hs
  rw [String.length_toList] at hend
  refine ⟨le_column_of_placed hplaced t ht, ?_⟩
  obtain ht | ht := List.mem_append.mp ht
  · have hpairwise := pairwise_of_placed hplaced (visible_of_cuts (cuts_of_scan hs))
    have hlast := (List.pairwise_append.mp hpairwise).2.2 t ht _ (List.mem_singleton_self _)
    exact hend ▸ hlast.le
  · rw [List.mem_singleton.mp ht]
    exact hend.le

/-- An error stands at a token. One over what had to come stands at the first token with which the
tokens before it cannot go on to a sentence. The others stand where the held type starts, and what
was read can still go on; a sentence meets only these. -/
theorem error_at_impossible_token (hs : tokenize s = .ok ts) (he : parse s = .error e) :
    ErrorFits s ts e := by
  have hblames := blames_of_parse hs he
  obtain ⟨t, ht, hcolumn⟩ := exists_column_of_blames hblames
  have hreason := reason_of_blames hblames
  have hnext : BlamesNext e.reason → ImpossibleAt ts.closed e.column := by
    intro hblamed
    obtain h | h | h := hreason
    · exact h.2
    · exact (not_blamesNext_arrayElement (h.1 ▸ hblamed)).elim
    · exact (not_blamesNext_treeValue (h.1 ▸ hblamed)).elim
  constructor
  case columns => exact pairwise_of_placed (placed_closed hs) (visible_of_cuts (cuts_of_scan hs))
  case token => exact ⟨t, ht, hcolumn⟩
  case bounds => exact hcolumn ▸ bounds_of_mem hs ht
  case reasons => exact hreason.imp And.left (Or.imp And.left And.left)
  case next => exact hnext
  case element =>
    intro harray
    obtain h | h | h := hreason
    · exact (not_blamesNext_arrayElement (harray ▸ h.1)).elim
    · exact h.2
    · exact (arrayElementReason_ne (harray.symm.trans h.1)).elim
  case value =>
    intro htree
    obtain h | h | h := hreason
    · exact (not_blamesNext_treeValue (htree ▸ h.1)).elim
    · exact (arrayElementReason_ne (h.1.symm.trans htree)).elim
    · exact h.2
  case sentence => exact fun hloose hblamed => not_impossibleAt_of_loose hloose (hnext hblamed)

/-- Brackets behind a list are blamed on the list, and a tree of lists on the list within it; a
tree without an operand is blamed on its bracket. -/
theorem error_at_held_type :
    (∃ ts, tokenize "Tree<List<int>[]>" = .ok ts ∧ ElementAt ts.closed 6) ∧
      (∃ ts, tokenize "List<Tree<List<int>>>" = .ok ts ∧ ValueAt ts.closed 11) ∧
        ∃ ts, tokenize "List<Tree<>>" = .ok ts ∧ ImpossibleAt ts.closed 11 := by
  have hscan : ∀ s ∈ ["Tree<List<int>[]>", "List<Tree<List<int>>>", "List<Tree<>>"],
      (tokenize s).toOption.isSome = true := by decide +kernel
  refine ⟨?_, ?_, ?_⟩
  · obtain ⟨ts, hts⟩ := Option.isSome_iff_exists.mp (hscan "Tree<List<int>[]>" (by simp))
    have hs := toOption_eq_some_iff.mp hts
    have he : parse "Tree<List<int>[]>" = .error (.arrayElement 6) := by decide +kernel
    exact ⟨ts, hs, (error_at_impossible_token hs he).element rfl⟩
  · obtain ⟨ts, hts⟩ := Option.isSome_iff_exists.mp (hscan "List<Tree<List<int>>>" (by simp))
    have hs := toOption_eq_some_iff.mp hts
    have he : parse "List<Tree<List<int>>>" = .error (.treeValue 11) := by decide +kernel
    exact ⟨ts, hs, (error_at_impossible_token hs he).value rfl⟩
  · obtain ⟨ts, hts⟩ := Option.isSome_iff_exists.mp (hscan "List<Tree<>>" (by simp))
    have hs := toOption_eq_some_iff.mp hts
    have he : parse "List<Tree<>>" = .error (.expected none (some ['>']) 11) := by decide +kernel
    refine ⟨ts, hs, (error_at_impossible_token hs he).next (.inl ?_)⟩
    decide +kernel

end Reasons

end StubGen.Proofs
