import StubGen.Http.Exchange
import StubGen.Proofs.Except

/-!
# The route table

A request whose path the rules know, but not for its method, is due an answer that names the methods
of the rule, and an unknown path is due another. The answer is found by looking up the path among
the texts of the rules. That is right for literal rules and goes wrong in two ways: no path of a
type table is the text of its rule, and one unknown path is the text of the rule for all the rest.
-/

namespace StubGen.Proofs
open Http

section Segments

/-- The parts of a path, or of the text of a rule, between its slashes. -/
def segments (path : List Char) : List (List Char) := path.splitOn '/'

lemma segments_injective {path path' : List Char} (h : segments path = segments path') :
    path = path' := by
  have hjoined := congrArg (List.intercalate ['/']) h
  rwa [segments, segments, List.intercalate_splitOn, List.intercalate_splitOn] at hjoined

/-- The path of the interface whose segments after the stem are given. -/
def interfacePath (names : List (List Char)) : List Char :=
  ['/'].intercalate ([] :: "api".toList :: "v1".toList :: names)

def IsSegment (name : List Char) : Prop := name ≠ [] ∧ '/' ∉ name

instance : DecidablePred IsSegment := fun name =>
  inferInstanceAs (Decidable (name ≠ [] ∧ '/' ∉ name))

lemma intercalate_cons (name : List Char) (names : List (List Char)) :
    ['/'].intercalate (name :: names) = name ++ names.flatMap ('/' :: ·) := by
  induction names generalizing name with
  | nil => simp [List.intercalate]
  | cons next names ih => rw [List.intercalate_cons_cons, ih, List.flatMap_cons]; simp

lemma interfacePath_eq (names : List (List Char)) :
    interfacePath names = ("api".toList :: "v1".toList :: names).flatMap ('/' :: ·) :=
  intercalate_cons [] _

lemma segments_interfacePath {names : List (List Char)} (h : ∀ name ∈ names, IsSegment name) :
    segments (interfacePath names) = [] :: "api".toList :: "v1".toList :: names := by
  refine List.splitOn_intercalate '/' ?_ (List.cons_ne_nil _ _)
  simp only [List.forall_mem_cons]
  exact ⟨List.not_mem_nil, by decide, by decide, fun name hname => (h name hname).2⟩

end Segments

section Rules

/-- What stands for the language in the rule of the type tables. -/
def placeholder : List Char := "<language>".toList

/-- The rule of the type tables. -/
def tableRule : Rule := ⟨"/api/v1/types/<language>", ["GET"]⟩

/-- The rule for the rest of the interface. -/
def restRule : Rule := ⟨"/api/v1/<path:rest>", ["GET"]⟩

/-- The rule matches the path: literally, except that the placeholder stands for any segment. -/
def Matches (rule : Rule) (path : List Char) : Prop :=
  List.Forall₂ (fun part segment => part = segment ∨ part = placeholder ∧ segment ≠ [])
    (segments rule.text.toList) (segments path)

/-- The rule declares an endpoint for the path. -/
def Declares (rule : Rule) (path : List Char) : Prop :=
  rule ∈ rules ∧ rule ≠ restRule ∧ Matches rule path

lemma matches_of_text {rule : Rule} {path : List Char} (h : rule.text.toList = path) :
    Matches rule path := by
  rw [Matches, h]
  exact List.forall₂_same.mpr fun _ _ => .inl rfl

lemma text_of_matches {rule : Rule} {path : List Char} (h : Matches rule path)
    (hp : placeholder ∉ segments rule.text.toList) : rule.text.toList = path := by
  refine segments_injective ?_
  rw [← List.forall₂_eq_eq_eq]
  refine ((List.forall₂_and_left _ _).mpr ⟨fun part hpart => hpart, h⟩).imp ?_
  rintro part segment ⟨hpart, heq | ⟨rfl, -⟩⟩
  · exact heq
  · exact (hp hpart).elim

lemma matches_tableRule_iff {names : List (List Char)} (h : ∀ name ∈ names, IsSegment name) :
    Matches tableRule (interfacePath names) ↔ ∃ language, names = ["types".toList, language] := by
  have htext : segments tableRule.text.toList =
      [[], "api".toList, "v1".toList, "types".toList, placeholder] := by decide +kernel
  have htypes : "types".toList ≠ placeholder := by decide
  rw [Matches, htext, segments_interfacePath h]
  constructor
  · intro hmatch
    simp only [List.forall₂_cons] at hmatch
    obtain ⟨-, -, -, hnames⟩ := hmatch
    rcases hnames with _ | ⟨hname, _ | ⟨-, _ | _⟩⟩
    obtain rfl | ⟨heq, -⟩ := hname
    · exact ⟨_, rfl⟩
    · exact (htypes heq).elim
  · rintro ⟨language, rfl⟩
    have hlanguage : language ≠ [] := (h language (by simp)).1
    exact .cons (.inl rfl) (.cons (.inl rfl) (.cons (.inl rfl)
      (.cons (.inl rfl) (.cons (.inr ⟨rfl, hlanguage⟩) .nil))))

/-- No rule has the text of the path of a type table, unless the language is called as the
placeholder is. -/
lemma no_text_of_table {rule : Rule} {language : List Char} (h : rule ∈ rules)
    (hl : language ≠ placeholder) (hs : ∀ name ∈ ["types".toList, language], IsSegment name) :
    rule.text.toList ≠ interfacePath ["types".toList, language] := by
  intro htext
  have hparts := congrArg segments htext
  rw [segments_interfacePath hs] at hparts
  have honly : ∀ rule ∈ rules,
      (segments rule.text.toList).take 4 = [[], "api".toList, "v1".toList, "types".toList] →
        (segments rule.text.toList).getLast? = some placeholder := by decide +kernel
  have hlast := honly rule h (by rw [hparts]; rfl)
  rw [hparts] at hlast
  exact hl (Option.some.inj hlast)

/-- A rule that declares an endpoint for a path has the text of the path, or is the rule of the type
tables and the path is that of a table. -/
lemma declares_cases {rule : Rule} {names : List (List Char)}
    (h : Declares rule (interfacePath names)) (hs : ∀ name ∈ names, IsSegment name) :
    rule.text.toList = interfacePath names ∨
      rule = tableRule ∧ ∃ language ≠ placeholder, names = ["types".toList, language] := by
  obtain ⟨hmem, -, hmatch⟩ := h
  by_cases hp : placeholder ∈ segments rule.text.toList
  · have honly : ∀ rule ∈ rules, placeholder ∈ segments rule.text.toList → rule = tableRule := by
      decide +kernel
    obtain rfl := honly rule hmem hp
    obtain ⟨language, rfl⟩ := (matches_tableRule_iff hs).mp hmatch
    by_cases hl : language = placeholder
    · subst hl
      exact .inl (by decide)
    · exact .inr ⟨rfl, language, hl, rfl⟩
  · exact .inl (text_of_matches hmatch hp)

lemma declares_unique {rule rule' : Rule} {names : List (List Char)}
    (h : Declares rule (interfacePath names)) (h' : Declares rule' (interfacePath names))
    (hs : ∀ name ∈ names, IsSegment name) : rule = rule' := by
  have htexts : ∀ rule ∈ rules, ∀ rule' ∈ rules,
      rule.text.toList = rule'.text.toList → rule = rule' := by decide +kernel
  obtain htext | ⟨htable, language, hl, rfl⟩ := declares_cases h hs
  · obtain htext' | ⟨-, language, hl, rfl⟩ := declares_cases h' hs
    · exact htexts rule h.1 rule' h'.1 (htext.trans htext'.symm)
    · exact (no_text_of_table h.1 hl hs htext).elim
  · obtain htext' | ⟨htable', -⟩ := declares_cases h' hs
    · exact (no_text_of_table h'.1 hl hs htext').elim
    · exact htable.trans htable'.symm

end Rules

section Answers

/-- The answer to a method that is not declared for a path. -/
def methodError (method : String) (path : List Char) (methods : List String) : Reply :=
  ⟨405, true, some (.obj [("error", .str "Method Not Allowed"),
    ("message", .str ("Method " ++ method ++ " is not allowed for " ++ String.ofList path)),
    ("allowed_methods", Json.strings methods)])⟩

/-- The answer to an unknown path of the interface. -/
def pathError (path : List Char) : Reply :=
  ⟨404, true, some (.obj [("error", .str "Not Found"),
    ("message", .str ("No API endpoint at " ++ String.ofList path))])⟩

lemma unmatched_of_text {rule : Rule} (h : rule ∈ rules) (method : String) :
    Reply.ofResponse (unmatchedResponse method rule.text.toList) =
      methodError method rule.text.toList rule.methods := by
  have hallowed : ∀ rule ∈ rules, allowedMethods rule.text.toList = rule.methods := by
    decide +kernel
  have hsome : ∀ rule ∈ rules, rule.methods ≠ [] := by decide
  rw [unmatchedResponse, hallowed rule h]
  cases hm : rule.methods with
  | nil => exact (hsome rule h hm).elim
  | cons m ms => rfl

lemma unmatched_of_no_text {path : List Char} (h : ∀ rule ∈ rules, rule.text.toList ≠ path)
    (method : String) : Reply.ofResponse (unmatchedResponse method path) = pathError path := by
  have hnone : (rules.filter fun rule => rule.text.toList = path) = [] :=
    List.filter_eq_nil_iff.mpr fun rule hrule => by simpa using h rule hrule
  have hallowed : allowedMethods path = [] := by
    rw [allowedMethods, hnone]
    rfl
  rw [unmatchedResponse, hallowed]
  rfl

end Answers

section Routing

lemma after?_eq_some {front text rest : List Char} (h : after? front text = some rest) :
    text = front ++ rest := by
  fun_induction after? front text with
  | case1 text => exact Option.some.inj h
  | case2 b front text ih => rw [ih h, List.cons_append]
  | case3 => cases h
  | case4 => cases h

lemma after?_append (front rest : List Char) : after? front (front ++ rest) = some rest := by
  induction front with
  | nil => rfl
  | cons c front ih => rw [List.cons_append, after?, if_pos rfl, ih]

/-- A literal endpoint is declared by a rule with the text of its path. -/
lemma rule_of_literal {path : List Char} {method : String} {e : Endpoint}
    (h : literalEndpoint? path = some (method, e)) :
    ∃ rule ∈ rules, rule ≠ restRule ∧ rule ≠ tableRule ∧ rule.text.toList = path ∧
      rule.methods = [method] := by
  unfold literalEndpoint? at h
  split_ifs at h with h₁ h₂ h₃ h₄ h₅ h₆ h₇ <;> cases h <;> subst path <;> decide

lemma declares_of_literal {path : List Char} {method : String} {e : Endpoint}
    (h : literalEndpoint? path = some (method, e)) :
    ∃ rule, Declares rule path ∧ rule.methods = [method] := by
  obtain ⟨rule, hmem, hrest, -, htext, hmethods⟩ := rule_of_literal h
  exact ⟨rule, ⟨hmem, hrest, matches_of_text htext⟩, hmethods⟩

lemma declares_of_table {path language : List Char} (h : tableLanguage? path = some language) :
    Declares tableRule path := by
  unfold tableLanguage? at h
  split at h
  · next rest hrest =>
    split_ifs at h with hbad
    simp only [Bool.or_eq_true, List.isEmpty_iff, List.contains_iff_mem, not_or] at hbad
    have hs : ∀ name ∈ ["types".toList, rest], IsSegment name :=
      List.forall_mem_cons.mpr ⟨by decide, List.forall_mem_singleton.mpr hbad⟩
    have hpath : path = interfacePath ["types".toList, rest] := by
      rw [after?_eq_some hrest]
      simp [interfacePath, List.intercalate]
    rw [hpath]
    exact ⟨by decide, by decide, (matches_tableRule_iff hs).mpr ⟨rest, rfl⟩⟩
  · cases h

/-- Where no rule declares the method for the path, the rule for the rest answers a `GET`. -/
lemma matchExact_of_undeclared {method : String} {path : List Char} (hrest : isApiRest path = true)
    (h : ∀ rule, Declares rule path → method ∉ rule.methods) :
    matchExact method path = if method = "GET" then some (.endpoint .unmatched) else none := by
  unfold matchExact
  cases hl : literalEndpoint? path with
  | some found =>
    obtain ⟨rule, hdeclares, hmethods⟩ := declares_of_literal hl
    have hne : found.1 ≠ method := by
      rintro rfl
      refine h rule hdeclares ?_
      rw [hmethods]
      exact List.mem_cons_self
    simp [hne, hrest]
  | none =>
    cases ht : tableLanguage? path with
    | some language =>
      have hne : method ≠ "GET" := by
        rintro rfl
        exact h tableRule (declares_of_table ht) List.mem_cons_self
      simp [hne]
    | none => simp [hrest]

lemma mergeSlashes_append {name : List Char} (h : '/' ∉ name) (text : List Char) :
    mergeSlashes (name ++ text) = name ++ mergeSlashes text := by
  induction name with
  | nil => rfl
  | cons c name ih =>
    rw [List.mem_cons, not_or] at h
    rw [List.cons_append, mergeSlashes, ih h.2, List.cons_append]
    rintro rest rfl -
    exact h.1 rfl

lemma mergeSlashes_flatMap {names : List (List Char)} (h : ∀ name ∈ names, IsSegment name) :
    mergeSlashes (names.flatMap ('/' :: ·)) = names.flatMap ('/' :: ·) := by
  induction names with
  | nil => rfl
  | cons name names ih =>
    obtain ⟨⟨hne, hslash⟩, hs⟩ := List.forall_mem_cons.mp h
    -- No second slash follows the one in front, since the segment has a first character.
    obtain ⟨c, name, rfl⟩ := List.exists_cons_of_ne_nil hne
    have hc : '/' ≠ c := fun heq => hslash (heq ▸ List.mem_cons_self)
    rw [List.flatMap_cons, List.cons_append, List.cons_append, mergeSlashes,
      ← List.cons_append, mergeSlashes_append hslash, ih hs]
    rintro rest - heq
    exact hc (List.cons.inj heq).1.symm

lemma mergeSlashes_interfacePath {names : List (List Char)} (h : ∀ name ∈ names, IsSegment name) :
    mergeSlashes (interfacePath names) = interfacePath names := by
  rw [interfacePath_eq]
  exact mergeSlashes_flatMap
    (List.forall_mem_cons.mpr ⟨by decide, List.forall_mem_cons.mpr ⟨by decide, h⟩⟩)

lemma isApiRest_interfacePath {names : List (List Char)} (hne : names ≠ [])
    (h : ∀ name ∈ names, IsSegment name) : isApiRest (interfacePath names) = true := by
  obtain ⟨name, names, rfl⟩ := List.exists_cons_of_ne_nil hne
  obtain ⟨hname, hslash⟩ := h name List.mem_cons_self
  obtain ⟨c, name, rfl⟩ := List.exists_cons_of_ne_nil hname
  have hc : c ≠ '/' := fun heq => hslash (heq ▸ List.mem_cons_self)
  have hpath : interfacePath ((c :: name) :: names) =
      "/api/v1/".toList ++ c :: (name ++ names.flatMap ('/' :: ·)) := by
    rw [interfacePath_eq]
    rfl
  rw [isApiRest, hpath, after?_append]
  exact decide_eq_true hc

lemma after?_apiStem (names : List (List Char)) :
    after? apiStem (interfacePath names) = some (names.flatMap ('/' :: ·)) := by
  have hpath : interfacePath names = apiStem ++ names.flatMap ('/' :: ·) := by
    rw [interfacePath_eq]
    rfl
  rw [hpath, after?_append]

/-- The methods of requests that ask for something to be done. -/
def requestMethods : List String := ["GET", "POST", "PUT", "PATCH", "DELETE"]

/-- Where no rule declares the method for a path of the interface, the answer is looked up among the
texts of the rules. -/
theorem serve_of_undeclared {q : Request} {names : List (List Char)} (r : Registry)
    (settings : Settings) (moment : Moment) (hq : q.method ∈ requestMethods) (hne : names ≠ [])
    (hs : ∀ name ∈ names, IsSegment name) (hp : pathOf q.target = interfacePath names)
    (h : ∀ rule, Declares rule (interfacePath names) → q.method ∉ rule.methods) :
    (serve r settings moment q).value =
      .ofResponse (unmatchedResponse q.method (interfacePath names)) := by
  have hmethod : q.method ≠ "OPTIONS" ∧ q.method ≠ "HEAD" := by
    have hall : ∀ m ∈ requestMethods, m ≠ "OPTIONS" ∧ m ≠ "HEAD" := by decide
    exact hall q.method hq
  have hexact := matchExact_of_undeclared (isApiRest_interfacePath hne hs) h
  have hroute : route q.method (interfacePath names) =
      if q.method = "GET" then .endpoint .unmatched else .wrongMethod := by
    simp only [route, hmethod.2, ite_false, hexact, mergeSlashes_interfacePath hs]
    by_cases hget : q.method = "GET" <;> simp [hget]
  rw [serve, if_neg hmethod.1, hp]
  dsimp only
  rw [hroute]
  -- A `GET` reaches the rule for the rest, any other method the handler of its error.
  by_cases hget : q.method = "GET"
  · simp [hget, Log.Logged.map, serveEndpoint, Log.silent]
  · simp [hget, Log.silent, after?_apiStem]

end Routing

section Verdict

/-- The reply is the one that the rules ask for where they do not declare the method for the path:
a declared path has its methods named, and any other path is unknown. -/
structure IsDue (method : String) (path : List Char) (reply : Reply) : Prop where
  declared : ∀ rule, Declares rule path → method ∉ rule.methods →
    reply = methodError method path rule.methods
  unknown : (∀ rule, ¬Declares rule path) → reply = pathError path

/-- The path is that of a type table, not the text of its rule, and the method is not declared. -/
def MissesTable (method : String) (names : List (List Char)) : Prop :=
  method ≠ "GET" ∧ ∃ language ≠ placeholder, names = ["types".toList, language]

/-- The segments that the rule for the rest spells. -/
def restNames : List (List Char) := ["<path:rest>".toList]

lemma serve_table {q : Request} {language : List Char} (r : Registry) (settings : Settings)
    (moment : Moment) (hq : q.method ∈ requestMethods) (hget : q.method ≠ "GET")
    (hl : language ≠ placeholder) (hs : ∀ name ∈ ["types".toList, language], IsSegment name)
    (hp : pathOf q.target = interfacePath ["types".toList, language]) :
    (serve r settings moment q).value = pathError (interfacePath ["types".toList, language]) := by
  rw [serve_of_undeclared r settings moment hq (List.cons_ne_nil _ _) hs hp]
  · exact unmatched_of_no_text (fun rule hrule => no_text_of_table hrule hl hs) q.method
  · intro rule hdeclares
    obtain htext | ⟨rfl, -⟩ := declares_cases hdeclares hs
    · exact (no_text_of_table hdeclares.1 hl hs htext).elim
    · exact fun hmem => hget (List.mem_singleton.mp hmem)

/-- The unknown path that the rule for the rest spells is taken for a declared one. -/
lemma serve_restText {q : Request} (r : Registry) (settings : Settings) (moment : Moment)
    (hq : q.method ∈ requestMethods)
    (hp : pathOf q.target = interfacePath restNames) :
    (∀ rule, ¬Declares rule (interfacePath restNames)) ∧
      (serve r settings moment q).value =
        methodError q.method (interfacePath restNames) ["GET"] := by
  have hs : ∀ name ∈ restNames, IsSegment name := by decide
  have honly : ∀ rule ∈ rules, rule.text.toList = interfacePath restNames →
      rule = restRule := by decide +kernel
  have hnone : ∀ rule, ¬Declares rule (interfacePath restNames) := by
    intro rule hdeclares
    obtain htext | ⟨-, language, -, hnames⟩ := declares_cases hdeclares hs
    · exact hdeclares.2.1 (honly rule hdeclares.1 htext)
    · cases hnames
  refine ⟨hnone, ?_⟩
  rw [serve_of_undeclared r settings moment hq (List.cons_ne_nil _ _) hs hp
    fun rule hdeclares => (hnone rule hdeclares).elim]
  exact unmatched_of_text (show restRule ∈ rules by decide) q.method

/-- A method that is not declared for the path of the interface gets the reply that the rules ask
for exactly if the path is neither that of a type table, unless it is the text of its rule, nor the
text of the rule for the rest. The former are taken for unknown, the latter for declared. -/
theorem reply_isDue_iff {q : Request} {names : List (List Char)} (r : Registry)
    (settings : Settings) (moment : Moment) (hq : q.method ∈ requestMethods) (hne : names ≠ [])
    (hs : ∀ name ∈ names, IsSegment name) (hp : pathOf q.target = interfacePath names) :
    let reply := (serve r settings moment q).value
    (IsDue q.method (interfacePath names) reply ↔
      ¬MissesTable q.method names ∧ names ≠ restNames) ∧
      (MissesTable q.method names → reply = pathError (interfacePath names)) ∧
      (names = restNames → reply = methodError q.method (interfacePath names) ["GET"]) := by
  intro reply
  have htable : MissesTable q.method names → reply = pathError (interfacePath names) := by
    rintro ⟨hget, language, hl, rfl⟩
    exact serve_table r settings moment hq hget hl hs hp
  have hrestText : names = restNames → (∀ rule, ¬Declares rule (interfacePath names)) ∧
      reply = methodError q.method (interfacePath names) ["GET"] := by
    rintro rfl
    exact serve_restText r settings moment hq hp
  refine ⟨⟨fun hdue => ⟨fun hon => ?_, fun hon => ?_⟩, ?_⟩, htable, fun hon => (hrestText hon).2⟩
  · have hpath := htable hon
    obtain ⟨hget, language, hl, rfl⟩ := hon
    have hdeclares : Declares tableRule (interfacePath ["types".toList, language]) :=
      ⟨by decide, by decide, (matches_tableRule_iff hs).mpr ⟨language, rfl⟩⟩
    have hmethod := hdue.declared tableRule hdeclares fun hmem => hget (List.mem_singleton.mp hmem)
    cases congrArg Reply.status (hmethod.symm.trans hpath)
  · obtain ⟨hnone, hmethod⟩ := hrestText hon
    cases congrArg Reply.status (hmethod.symm.trans (hdue.unknown hnone))
  · rintro ⟨hnotTable, hnotRest⟩
    have hserve := serve_of_undeclared r settings moment hq hne hs hp
    constructor
    case declared =>
      intro rule hdeclares hmethod
      obtain htext | ⟨htableRule, hon⟩ := declares_cases hdeclares hs
      · have hreply := hserve fun rule' h' => declares_unique hdeclares h' hs ▸ hmethod
        have hunmatched := unmatched_of_text hdeclares.1 q.method
        rw [htext] at hunmatched
        exact hreply.trans hunmatched
      · refine (hnotTable ⟨fun hget => hmethod ?_, hon⟩).elim
        rw [htableRule, hget]
        exact List.mem_cons_self
    case unknown =>
      intro hnone
      refine (hserve fun rule h => (hnone rule h).elim).trans (unmatched_of_no_text ?_ q.method)
      intro rule hmem htext
      by_cases hrule : rule = restRule
      · have hparts := congrArg segments htext
        rw [hrule, segments_interfacePath hs] at hparts
        exact hnotRest (congrArg (List.drop 3) hparts).symm
      · exact hnone rule ⟨hmem, hrule, matches_of_text htext⟩

theorem reply_isDue_of_put :
    let q : Request := ⟨"PUT", "/api/v1/template/validate", none⟩
    q.method ∈ requestMethods ∧
      pathOf q.target = interfacePath ["template".toList, "validate".toList] ∧
      IsDue q.method (interfacePath ["template".toList, "validate".toList])
        (serve .builtin (.default .builtin) default q).value := by
  intro q
  have hq : q.method ∈ requestMethods := by decide
  have hp : pathOf q.target = interfacePath ["template".toList, "validate".toList] := by
    decide +kernel
  have hs : ∀ name ∈ ["template".toList, "validate".toList], IsSegment name := by decide
  have hiff := reply_isDue_iff .builtin (.default .builtin) default hq (List.cons_ne_nil _ _) hs hp
  refine ⟨hq, hp, hiff.1.mpr ⟨?_, by decide⟩⟩
  rintro ⟨-, language, -, hnames⟩
  cases congrArg List.head? hnames

/-- The table of Java types is declared for `GET`, and a `POST` for it finds an unknown path. -/
theorem post_for_java_table :
    let q : Request := ⟨"POST", "/api/v1/types/java", none⟩
    let path := interfacePath ["types".toList, "java".toList]
    let reply := (serve .builtin (.default .builtin) default q).value
    pathOf q.target = path ∧ Declares tableRule path ∧ reply = pathError path ∧
      ¬IsDue q.method path reply := by
  intro q path reply
  have hp : pathOf q.target = path := by decide +kernel
  have hs : ∀ name ∈ ["types".toList, "java".toList], IsSegment name := by decide
  have hdeclares : Declares tableRule path :=
    ⟨by decide, by decide, (matches_tableRule_iff hs).mpr ⟨_, rfl⟩⟩
  have hreply : reply = pathError path :=
    serve_table .builtin (.default .builtin) default (by decide) (by decide) (by decide) hs hp
  refine ⟨hp, hdeclares, hreply, fun hdue => ?_⟩
  have hmethod := hdue.declared tableRule hdeclares (by decide)
  cases congrArg Reply.status (hmethod.symm.trans hreply)

end Verdict

end StubGen.Proofs
