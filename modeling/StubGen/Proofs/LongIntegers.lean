import Mathlib.Data.List.Infix
import Mathlib.Data.List.TakeWhile
import StubGen.Json.Reader
import StubGen.Proofs.Except

/-!
# Integers with too many digits

A reader goes through its text from the left, so that what it leaves is an end of what it was given.
The one error without a position is that of an integer with too many digits, and these stand in the
text as one run.
-/

namespace StubGen.Proofs
open Json

variable {α β : Type} {text : List Char}

/-- A part of the text with only decimal digits, and more of them than are converted. -/
structure IsLongRun (digits text : List Char) : Prop where
  within : digits <:+: text
  decimal : ∀ c ∈ digits, c.isDigit
  long : Text.maxIntegerDigits < digits.length

/-- How a reader may end on a text: it leaves an end of the text, or it meets a problem at some
position or an integer whose digits are too many. -/
def ReadsWithin (text : List Char) : Except ReadError (α × Cursor) → Prop
  | .ok (_, next) => next.rest <:+ text
  | .error (.malformed _ _) => True
  | .error (.longInteger n) => ∃ digits, IsLongRun digits text ∧ digits.length = n

lemma readsWithin_mono {x : Except ReadError (α × Cursor)} {whole : List Char}
    (h : text <:+ whole) (hx : ReadsWithin text x) : ReadsWithin whole x := by
  match x, hx with
  | .ok (_, next), hx => exact List.IsSuffix.trans hx h
  | .error (.malformed _ _), _ => trivial
  | .error (.longInteger _), ⟨digits, hrun, hlength⟩ =>
    exact ⟨digits, ⟨hrun.within.trans h.isInfix, hrun.decimal, hrun.long⟩, hlength⟩

lemma readsWithin_bind {x : Except ReadError (α × Cursor)}
    {f : α × Cursor → Except ReadError (β × Cursor)} (hx : ReadsWithin text x)
    (hf : ∀ a next, next.rest <:+ text → ReadsWithin text (f (a, next))) :
    ReadsWithin text (x >>= f) := by
  match x, hx with
  | .ok (a, next), hx => exact hf a next hx
  | .error (.malformed _ _), hx => exact hx
  | .error (.longInteger _), hx => exact hx

lemma skip_suffix (cursor : Cursor) (n : Nat) : (cursor.skip n).rest <:+ cursor.rest :=
  List.drop_suffix n cursor.rest

lemma trim_suffix (cursor : Cursor) : cursor.trim.rest <:+ cursor.rest :=
  List.dropWhile_suffix isSpace

lemma readString_within (opening fuel : Nat) (done : List CodePoint) (cursor : Cursor) :
    ReadsWithin cursor.rest (readString opening fuel done cursor) := by
  induction fuel generalizing done cursor with
  | zero => trivial
  | succ fuel ih =>
    have hnext : ∀ done n, ReadsWithin cursor.rest (readString opening fuel done (cursor.skip n)) :=
      fun done n => readsWithin_mono (skip_suffix cursor n) (ih done (cursor.skip n))
    unfold readString
    repeat' split
    all_goals first | trivial | exact hnext _ _ | exact skip_suffix cursor 1

lemma integerRun_front (text : List Char) : integerRun text <+: text := by
  have hrun : digitRun text <+: text := List.takeWhile_prefix _
  unfold integerRun
  split
  · next digits heq =>
    rw [heq] at hrun
    exact (List.prefix_append ['0'] digits).trans hrun
  · exact hrun

lemma isDigit_of_mem_integerRun {c : Char} (h : c ∈ integerRun text) : c.isDigit := by
  unfold integerRun at h
  split at h
  · rw [List.mem_singleton.mp h]
    decide
  · exact List.mem_takeWhile_imp h

lemma readNumber_within (cursor : Cursor) : ReadsWithin cursor.rest (readNumber cursor) := by
  unfold readNumber
  split
  next negative unsigned hsign =>
    have hafter : unsigned <:+ cursor.rest := by
      split at hsign
      · next rest heq => exact (Prod.mk.inj hsign).2 ▸ heq ▸ List.suffix_cons '-' rest
      · exact (Prod.mk.inj hsign).2 ▸ List.suffix_rfl
    have hrun : integerRun unsigned <:+: cursor.rest :=
      (integerRun_front unsigned).isInfix.trans hafter.isInfix
    extract_lets whole
    split
    · trivial
    · split
      extract_lets next
      split
      · split
        · next hlong => exact ⟨whole, ⟨hrun, fun c => isDigit_of_mem_integerRun, hlong⟩, rfl⟩
        · exact skip_suffix cursor _
      · exact skip_suffix cursor _

lemma readAtom_within (cursor : Cursor) : ReadsWithin cursor.rest (readAtom cursor) := by
  unfold readAtom
  split
  · exact skip_suffix cursor _
  · exact readNumber_within cursor

/-- What is read after some steps within the text stays within it. -/
lemma readsWithin_rest {x : Cursor → Except ReadError (α × Cursor)}
    (hx : ∀ cursor, ReadsWithin cursor.rest (x cursor)) {next : Cursor} (h : next.rest <:+ text) :
    ReadsWithin text (x next) :=
  readsWithin_mono h (hx next)

/-- So does what is read behind a mark and the blanks after it. -/
lemma readsWithin_after {x : Cursor → Except ReadError (α × Cursor)}
    (hx : ∀ cursor, ReadsWithin cursor.rest (x cursor)) {next : Cursor} (h : next.rest <:+ text) :
    ReadsWithin text (x (next.skip 1).trim) :=
  readsWithin_rest hx ((trim_suffix _).trans ((skip_suffix _ 1).trans h))

lemma quoted_within (cursor : Cursor) (rest : List Char) : ReadsWithin cursor.rest
    (readString cursor.position (rest.length + 1) [] (cursor.skip 1)) :=
  readsWithin_rest (readString_within _ _ _) (skip_suffix cursor 1)

section Nesting

variable {fuel : Nat} (hvalue : ∀ cursor, ReadsWithin cursor.rest (readValue fuel cursor))
  (hitems : ∀ cursor, ReadsWithin cursor.rest (readItems fuel cursor))
  (hfields : ∀ cursor, ReadsWithin cursor.rest (readFields fuel cursor))

include hitems hfields in
lemma readValue_within_succ (cursor : Cursor) :
    ReadsWithin cursor.rest (readValue (fuel + 1) cursor) := by
  have hinside : (cursor.skip 1).trim.rest <:+ cursor.rest :=
    (trim_suffix _).trans (skip_suffix cursor 1)
  unfold readValue
  split
  · exact readsWithin_bind (quoted_within cursor _) fun _ _ hnext => hnext
  · dsimp only
    split
    · exact (skip_suffix _ 1).trans hinside
    · exact readsWithin_bind (readsWithin_rest hfields hinside) fun _ _ hnext => hnext
  · dsimp only
    split
    · exact (skip_suffix _ 1).trans hinside
    · exact readsWithin_bind (readsWithin_rest hitems hinside) fun _ _ hnext => hnext
  · exact readAtom_within cursor

include hvalue hitems in
lemma readItems_within_succ (cursor : Cursor) :
    ReadsWithin cursor.rest (readItems (fuel + 1) cursor) := by
  unfold readItems
  refine readsWithin_bind (hvalue cursor) fun item next hnext => ?_
  have htrim : next.trim.rest <:+ cursor.rest := (trim_suffix next).trans hnext
  dsimp only
  split
  · exact (skip_suffix _ 1).trans htrim
  · exact readsWithin_bind (readsWithin_after hitems htrim) fun _ _ hrest => hrest
  · trivial

include hvalue hfields in
lemma readFields_within_succ (cursor : Cursor) :
    ReadsWithin cursor.rest (readFields (fuel + 1) cursor) := by
  unfold readFields
  split
  · refine readsWithin_bind (quoted_within cursor _) fun name next hname => ?_
    have hcolon : next.trim.rest <:+ cursor.rest := (trim_suffix next).trans hname
    dsimp only
    split
    · refine readsWithin_bind (readsWithin_after hvalue hcolon) fun value next hnext => ?_
      have htrim : next.trim.rest <:+ cursor.rest := (trim_suffix next).trans hnext
      dsimp only
      split
      · exact (skip_suffix _ 1).trans htrim
      · exact readsWithin_bind (readsWithin_after hfields htrim) fun _ _ hrest => hrest
      · trivial
    · trivial
  · trivial

end Nesting

lemma read_within (fuel : Nat) :
    (∀ cursor, ReadsWithin cursor.rest (readValue fuel cursor)) ∧
      (∀ cursor, ReadsWithin cursor.rest (readItems fuel cursor)) ∧
      ∀ cursor, ReadsWithin cursor.rest (readFields fuel cursor) := by
  induction fuel with
  | zero => exact ⟨fun _ => trivial, fun _ => trivial, fun _ => trivial⟩
  | succ fuel ih =>
    obtain ⟨hvalue, hitems, hfields⟩ := ih
    exact ⟨readValue_within_succ hitems hfields, readItems_within_succ hvalue hitems,
      readFields_within_succ hvalue hfields⟩

/-- Only an integer that stands in the text, with more digits than are converted, is refused so. -/
lemma exists_longRun_of_read {n : Nat} (h : Json.read text = .error (.longInteger n)) :
    ∃ digits, IsLongRun digits text ∧ digits.length = n := by
  have hread : ReadsWithin text (readValue (2 * text.length + 2) (Cursor.trim ⟨0, text⟩)) :=
    readsWithin_mono (trim_suffix ⟨0, text⟩) ((read_within _).1 _)
  unfold Json.read at h
  split at h
  · cases h
  · obtain hvalue | ⟨⟨value, next⟩, -, hrest⟩ := bind_eq_error_iff.mp h
    · rwa [hvalue] at hread
    · dsimp only at hrest
      split at hrest <;> cases hrest

section Digits

variable {c : Char} {rest : List Char}

lemma ne_of_isDigit {d : Char} (h : c.isDigit) (hd : d.isDigit = false) : c ≠ d := by
  rintro rfl
  rw [h] at hd
  cases hd

lemma trim_of_isDigit (h : c.isDigit) (position : Nat) :
    Cursor.trim ⟨position, c :: rest⟩ = ⟨position, c :: rest⟩ := by
  have hne : c ≠ ' ' ∧ c ≠ '\t' ∧ c ≠ '\n' ∧ c ≠ '\r' :=
    ⟨ne_of_isDigit h rfl, ne_of_isDigit h rfl, ne_of_isDigit h rfl, ne_of_isDigit h rfl⟩
  have hspace : ¬isSpace c = true := by simpa [isSpace, and_assoc] using hne
  unfold Cursor.trim
  simp [hspace]

lemma readNumber_of_decimal (h : ∀ d ∈ c :: rest, d.isDigit) (hzero : c ≠ '0')
    (hlong : Text.maxIntegerDigits < (c :: rest).length) (position : Nat) :
    readNumber ⟨position, c :: rest⟩ = .error (.longInteger (c :: rest).length) := by
  have hrun : integerRun (c :: rest) = c :: rest := by
    have hdigits : digitRun (c :: rest) = c :: rest := List.takeWhile_eq_self_iff.mpr h
    unfold integerRun
    rw [hdigits]
    split
    · next heq => exact (hzero (List.cons.inj heq).1).elim
    · rfl
  have hminus : c ≠ '-' := ne_of_isDigit (h c List.mem_cons_self) (by decide)
  unfold readNumber
  split
  next negative unsigned hsign =>
    split at hsign
    · next heq => exact (hminus (List.cons.inj heq).1).elim
    · cases hsign
      rw [List.length_cons] at hlong
      simp [hrun, fractionRun, exponentRun, hlong]

lemma readAtom_of_isDigit (h : c.isDigit) (position : Nat) :
    readAtom ⟨position, c :: rest⟩ = readNumber ⟨position, c :: rest⟩ := by
  have hwords : ∀ entry ∈ literals, entry.1.head?.all (fun d => !d.isDigit) ∧ entry.1 ≠ [] := by
    decide
  have hnone : literals.find? (fun entry => entry.1.isPrefixOf (c :: rest)) = none := by
    refine List.find?_eq_none.mpr fun entry hentry hstart => ?_
    obtain ⟨hhead, hne⟩ := hwords entry hentry
    obtain ⟨d, tail, hword⟩ := List.exists_cons_of_ne_nil hne
    rw [hword] at hhead hstart
    have hd : d = c := (List.cons_prefix_cons.mp (List.isPrefixOf_iff_prefix.mp hstart)).1
    simp [hd, h] at hhead
  unfold readAtom
  rw [hnone]

/-- An integer that is too long is refused wherever it stands alone. -/
lemma read_of_decimal (h : ∀ d ∈ c :: rest, d.isDigit) (hzero : c ≠ '0')
    (hlong : Text.maxIntegerDigits < (c :: rest).length) :
    Json.read (c :: rest) = .error (.longInteger (c :: rest).length) := by
  have hc : c.isDigit := h c List.mem_cons_self
  have hvalue : ∀ fuel, readValue (fuel + 1) ⟨0, c :: rest⟩ =
      .error (.longInteger (c :: rest).length) := by
    intro fuel
    unfold readValue
    split
    · next heq => exact (ne_of_isDigit hc (by decide) (List.cons.inj heq).1).elim
    · next heq => exact (ne_of_isDigit hc (by decide) (List.cons.inj heq).1).elim
    · next heq => exact (ne_of_isDigit hc (by decide) (List.cons.inj heq).1).elim
    · rw [readAtom_of_isDigit hc, readNumber_of_decimal h hzero hlong]
  unfold Json.read
  split
  · next heq => exact (ne_of_isDigit hc (by decide) (List.cons.inj heq).1).elim
  · rw [trim_of_isDigit hc, hvalue]
    rfl

end Digits

end StubGen.Proofs
