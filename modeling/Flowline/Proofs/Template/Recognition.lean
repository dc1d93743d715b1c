import Flowline.Proofs.Template.Grammar
import Mathlib.Algebra.Group.Nat.Even
import Mathlib.Data.List.DropRight

/-!
# Which tokens are recognised

No two tokens of a text overlap, so a reading from the left could take every one of
them.  The scanner takes those that an even number of opening braces precedes
directly: where the first closing braces do not end a path it goes on behind both of
the opening braces it had found, and a third one is then out of step with its
neighbour.
-/

namespace Flowline.Template

open Text

/-! ## The first pair -/

theorem eq_of_cutAt {first second : Char} {characters before after : List Char}
    (cut : cutAt first second characters = some (before, after)) :
    characters = before ++ first :: second :: after := by
  fun_induction cutAt first second characters generalizing before with
  | case1 left right rest pair =>
      obtain ⟨rfl, rfl⟩ : [] = before ∧ rest = after := by simpa using cut
      simp [pair.1, pair.2]
  | case2 left right rest _ ih =>
      simp only [Option.map_eq_some_iff, Prod.mk.injEq, Prod.exists] at cut
      obtain ⟨inner, _, found, rfl, rfl⟩ := cut
      rw [ih found, List.cons_append]
  | case3 => simp at cut

/-- Where a pair stands, a first one is found, there or further to the left. -/
theorem cutAt_append_pair (first second : Char) (before after : List Char) :
    ∃ early between body, cutAt first second (before ++ first :: second :: after) =
        some (early, body) ∧
      before = early ++ between ∧
      first :: second :: body = between ++ first :: second :: after := by
  induction before with
  | nil => exact ⟨[], [], after, by simp [cutAt], rfl, rfl⟩
  | cons left before ih =>
      obtain ⟨right, rest, split⟩ : ∃ right rest,
          before ++ first :: second :: after = right :: rest := by
        cases before <;> simp
      rw [List.cons_append, split, cutAt]
      split
      next pair =>
        obtain ⟨rfl, rfl⟩ := pair
        exact ⟨[], left :: before, rest, rfl, rfl, by rw [List.cons_append, split]⟩
      next =>
        obtain ⟨early, between, body, found, rfl, same⟩ := ih
        rw [split] at found
        exact ⟨left :: early, between, body, by simp [found], rfl, same⟩

/-- Text without the first character of the pair is passed over. -/
theorem cutAt_append_of_not_mem {first second : Char} {plain : List Char} (absent : first ∉ plain)
    (rest : List Char) :
    cutAt first second (plain ++ rest) =
      (cutAt first second rest).map fun cut => (plain ++ cut.1, cut.2) := by
  induction plain with
  | nil => simp
  | cons left plain ih =>
      simp only [List.mem_cons, not_or] at absent
      cases tail : plain ++ rest with
      | nil =>
          obtain ⟨rfl, rfl⟩ := List.append_eq_nil_iff.mp tail
          simp [cutAt]
      | cons right others =>
          rw [List.cons_append, tail, cutAt, if_neg fun pair => absent.1 pair.1.symm, ← tail,
            ih absent.2, Option.map_map]
          rfl

/-- What stands in front of the first pair of braces does not end with one. -/
theorem getLast?_of_cutAt {brace : Char} {characters before after : List Char}
    (cut : cutAt brace brace characters = some (before, after)) :
    before.getLast? ≠ some brace := by
  intro last
  obtain ⟨shorter, rfl⟩ := List.getLast?_eq_some_iff.mp last
  obtain ⟨early, between, body, found, rfl, -⟩ :=
    cutAt_append_pair brace brace shorter (brace :: after)
  have whole := eq_of_cutAt cut
  rw [List.append_assoc, List.singleton_append] at whole
  rw [← whole, cut] at found
  simp at found

/-! ## The steps of the scanner -/

theorem pieces_of_unopened {characters : List Char} (unopened : cutAt '{' '{' characters = none) :
    pieces characters = [.literal characters] := by
  rw [pieces]
  split <;> simp_all

section Opened

variable {characters before body : List Char}
  (opened : cutAt '{' '{' characters = some (before, body))

include opened

theorem pieces_of_unclosed (unclosed : cutAt '}' '}' body = none) :
    pieces characters = [.literal characters] := by
  rw [pieces]
  split
  next => rfl
  next found =>
    cases opened.symm.trans found
    split <;> simp_all

variable {inner rest : List Char} (closed : cutAt '}' '}' body = some (inner, rest))

include closed

theorem pieces_of_closed :
    pieces characters =
      if isPath (trim inner) then .literal before :: .token (trim inner) :: pieces rest
      else .literal (before ++ ['{', '{']) :: pieces body := by
  rw [pieces]
  split
  next none => simp [opened] at none
  next found =>
    cases opened.symm.trans found
    split
    next none => simp [closed] at none
    next found =>
      cases closed.symm.trans found
      rfl

end Opened

/-! ## Readings -/

/-- A part of a template as it is written. -/
inductive Part where
  | plain (characters : List Char)
  | token (path text : List Char)

namespace Part

/-- The characters of a part. -/
def text : Part → List Char
  | plain characters => characters
  | token _ text => text

/-- What the scanner makes of a part. -/
def piece : Part → Piece
  | plain characters => .literal characters
  | token path _ => .token path

end Part

/-- A template is written as these parts, and what is a token in them is spelled as one. -/
structure Reading (template : List Char) (parts : List Part) : Prop where
  written : parts.flatMap Part.text = template
  spelled : ∀ path text, Part.token path text ∈ parts → SpellsToken path text

/-- The parts hold a token behind the text `before`. -/
def TokenAt (parts : List Part) (before path text : List Char) : Prop :=
  ∃ front back, parts = front ++ .token path text :: back ∧ front.flatMap Part.text = before

/-- The number of opening braces at the end of a text. -/
def openBraces (before : List Char) : Nat := (before.rtakeWhile (· == '{')).length

@[simp] theorem not_tokenAt_nil {before path text : List Char} : ¬ TokenAt [] before path text := by
  rintro ⟨front, back, split, -⟩
  cases front <;> simp at split

theorem tokenAt_plain_cons {characters before path text : List Char} {parts : List Part} :
    TokenAt (.plain characters :: parts) before path text ↔
      ∃ behind, before = characters ++ behind ∧ TokenAt parts behind path text := by
  constructor
  · rintro ⟨_ | ⟨part, front⟩, back, split, rfl⟩
    · simp at split
    · obtain ⟨rfl, rfl⟩ := List.cons.inj split
      exact ⟨_, rfl, front, back, rfl, rfl⟩
  · rintro ⟨behind, rfl, front, back, rfl, rfl⟩
    exact ⟨.plain characters :: front, back, rfl, rfl⟩

theorem tokenAt_token_cons {before path text path' text' : List Char} {parts : List Part} :
    TokenAt (.token path' text' :: parts) before path text ↔
      before = [] ∧ path = path' ∧ text = text' ∨
        ∃ behind, before = text' ++ behind ∧ TokenAt parts behind path text := by
  constructor
  · rintro ⟨_ | ⟨part, front⟩, back, split, rfl⟩
    · simp_all
    · obtain ⟨rfl, rfl⟩ := List.cons.inj split
      exact .inr ⟨_, rfl, front, back, rfl, rfl⟩
  · rintro (⟨rfl, rfl, rfl⟩ | ⟨behind, rfl, front, back, rfl, rfl⟩)
    · exact ⟨[], parts, rfl, rfl⟩
    · exact ⟨.token path' text' :: front, back, rfl, rfl⟩

theorem tokenAt_plain_append {characters behind path text : List Char} {parts : List Part} :
    TokenAt (.plain characters :: parts) (characters ++ behind) path text ↔
      TokenAt parts behind path text := by
  simp [tokenAt_plain_cons]

theorem tokenAt_token_append {behind path text path' text' : List Char} {parts : List Part}
    (nonempty : text' ≠ []) :
    TokenAt (.token path' text' :: parts) (text' ++ behind) path text ↔
      TokenAt parts behind path text := by
  simp [tokenAt_token_cons, nonempty]

/-! ## Opening braces at the end -/

/-- Behind a text that does not end with an opening brace the count starts anew. -/
theorem openBraces_append {front : List Char} (other : front.getLast? ≠ some '{')
    (back : List Char) : openBraces (front ++ back) = openBraces back := by
  induction back using List.reverseRecOn with
  | nil =>
    rcases List.eq_nil_or_concat' front with rfl | ⟨shorter, character, rfl⟩
    · rfl
    · simpa [openBraces, List.rtakeWhile_concat] using other
  | append_singleton back character ih =>
    rw [← List.append_assoc, openBraces, openBraces, List.rtakeWhile_concat,
      List.rtakeWhile_concat]
    split
    · simpa [openBraces] using ih
    · rfl

/-- A pair of opening braces in front leaves the parity as it is. -/
theorem even_openBraces_pair (before : List Char) :
    Even (openBraces ('{' :: '{' :: before)) ↔ Even (openBraces before) := by
  induction before using List.reverseRecOn with
  | nil => decide
  | append_singleton before character ih =>
    simp only [openBraces, ← List.cons_append, List.rtakeWhile_concat] at ih ⊢
    split
    · simpa [Nat.even_add_one] using not_congr ih
    · rfl

theorem openBraces_of_getLast? {before : List Char} (other : before.getLast? ≠ some '{') :
    openBraces before = 0 := by
  rw [← List.append_nil before, openBraces_append other]
  rfl

/-! ## Where tokens stand -/

/-- The first closing braces behind those of a token are its own. -/
theorem cutAt_inner {inner : List Char} (unclosed : '}' ∉ inner) (after : List Char) :
    cutAt '}' '}' (inner ++ '}' :: '}' :: after) = some (inner, after) := by
  rw [cutAt_append_of_not_mem unclosed]
  simp [cutAt]

/-- An opening brace behind a text without any stands in what follows it. -/
theorem exists_behind {plain : List Char} (absent : '{' ∉ plain)
    (rest before after : List Char) (same : plain ++ rest = before ++ '{' :: after) :
    ∃ behind, before = plain ++ behind ∧ rest = behind ++ '{' :: after := by
  rcases List.append_eq_append_iff.mp same with ⟨behind, rfl, rfl⟩ | ⟨between, rfl, split⟩
  · exact ⟨behind, rfl, rfl⟩
  · rcases between with _ | ⟨brace, between⟩
    · exact ⟨[], by simp, by simpa using split.symm⟩
    · obtain ⟨rfl, -⟩ := List.cons.inj split
      simp at absent

/-- Of two tokens one ends before the other begins, or they are the same. -/
theorem tokens_apart {path path' text text' between rest after : List Char}
    (token : SpellsToken path text) (other : SpellsToken path' text')
    (same : text ++ rest = between ++ text' ++ after) :
    (between = [] ∧ path' = path ∧ text' = text) ∨
      ∃ behind, between = text ++ behind ∧ rest = behind ++ text' ++ after := by
  obtain ⟨inner, rfl, rfl, -, absent, unclosed⟩ := token.exists_inner
  obtain ⟨inner', rfl, rfl, -, -, unclosed'⟩ := other.exists_inner
  have unopened : '{' ∉ inner ++ ['}', '}'] := by simp [absent]
  rcases between with _ | ⟨left, _ | ⟨right, between⟩⟩
  · have cut : some (inner, rest) = some (inner', after) := by
      rw [← cutAt_inner unclosed, ← cutAt_inner unclosed']
      congr 1
      simpa using same
    cases cut
    exact .inl ⟨rfl, rfl, rfl⟩
  · -- no opening brace follows the first two
    obtain ⟨_, empty, -⟩ := exists_behind unopened rest []
      (inner' ++ '}' :: '}' :: after) (by simp_all)
    simp at empty
  · obtain ⟨behind, rfl, rfl⟩ := exists_behind unopened rest between
      ('{' :: (inner' ++ '}' :: '}' :: after)) (by simp_all)
    simp only [List.cons_append, List.cons.injEq] at same
    obtain ⟨rfl, rfl, -⟩ := same
    exact .inr ⟨behind, by simp, by simp⟩

/-- A token does not begin in front of the first pair of opening braces. -/
theorem exists_between {characters early body before path text after : List Char}
    (opened : cutAt '{' '{' characters = some (early, body))
    (occurs : characters = before ++ text ++ after) (token : SpellsToken path text) :
    ∃ between, before = early ++ between ∧ '{' :: '{' :: body = between ++ text ++ after := by
  obtain ⟨inner, rfl, -⟩ := token.exists_inner
  obtain ⟨first, between, rest, found, rfl, same⟩ :=
    cutAt_append_pair '{' '{' before (inner ++ ['}', '}'] ++ after)
  have whole : characters = first ++ between ++ '{' :: '{' :: (inner ++ ['}', '}'] ++ after) := by
    simpa using occurs
  rw [← whole, opened] at found
  cases found
  exact ⟨between, rfl, by simpa using same⟩

/-- The parts hold exactly those tokens of the text that an even number of opening
braces precedes. -/
def Recognises (template : List Char) (parts : List Part) : Prop :=
  ∀ before path text after, template = before ++ text ++ after → SpellsToken path text →
    (TokenAt parts before path text ↔ Even (openBraces before))

/-- Without a pair of opening braces there is no token. -/
theorem recognises_of_unopened {template : List Char}
    (unopened : cutAt '{' '{' template = none) : Recognises template [.plain template] := by
  intro before path text after occurs token
  obtain ⟨inner, rfl, -⟩ := token.exists_inner
  obtain ⟨_, _, _, found, -, -⟩ := cutAt_append_pair '{' '{' before (inner ++ ['}', '}'] ++ after)
  simp_all

/-- Without closing braces behind the first pair of opening ones there is no token. -/
theorem recognises_of_unclosed {template early body : List Char}
    (opened : cutAt '{' '{' template = some (early, body)) (unclosed : cutAt '}' '}' body = none) :
    Recognises template [.plain template] := by
  intro before path text after occurs token
  have closed : ∃ front, body = front ++ '}' :: '}' :: after := by
    obtain ⟨between, -, same⟩ := exists_between opened occurs token
    obtain ⟨inner, rfl, -⟩ := token.exists_inner
    rcases between with _ | ⟨left, _ | ⟨right, between⟩⟩
    · exact ⟨inner, by simpa using same⟩
    · exact ⟨'{' :: inner, by simp_all⟩
    · exact ⟨between ++ '{' :: '{' :: inner, by simp_all⟩
  obtain ⟨front, rfl⟩ := closed
  obtain ⟨_, _, _, found, -, -⟩ := cutAt_append_pair '}' '}' front after
  simp [unclosed] at found

/-- A token at the first pair of opening braces is recognised, and so are those behind
it. -/
theorem recognises_of_token {template early inner rest : List Char} {parts : List Part}
    (opened : cutAt '{' '{' template = some (early, inner ++ '}' :: '}' :: rest))
    (accepted : isPath (trim inner) = true) (behind : Recognises rest parts) :
    Recognises template
      (.plain early :: .token (trim inner) ('{' :: '{' :: inner ++ ['}', '}']) :: parts) := by
  intro before path text after occurs token
  obtain ⟨between, rfl, same⟩ := exists_between opened occurs token
  have own := spellsToken_of_isPath accepted
  have split : ('{' :: '{' :: inner ++ ['}', '}']) ++ rest = between ++ text ++ after := by
    simpa using same
  rcases tokens_apart own token split with ⟨rfl, rfl, rfl⟩ | ⟨further, rfl, later⟩
  · refine iff_of_true ?_ ?_
    · exact tokenAt_plain_append.mpr (tokenAt_token_cons.mpr (.inl ⟨rfl, rfl, rfl⟩))
    · rw [List.append_nil, openBraces_of_getLast? (getLast?_of_cutAt opened)]
      exact Even.zero
  · have closed : (early ++ ('{' :: '{' :: inner ++ ['}', '}'])).getLast? ≠ some '{' := by
      simp [List.getLast?_cons]
    rw [tokenAt_plain_append, tokenAt_token_append (by simp), ← List.append_assoc,
      openBraces_append closed]
    exact behind further path text after later token

/-- Where no path ends at the first closing braces, the tokens are those behind the
first pair of opening ones. -/
theorem recognises_of_skip {template early inner rest : List Char} {parts : List Part}
    (opened : cutAt '{' '{' template = some (early, inner ++ '}' :: '}' :: rest))
    (first : cutAt '}' '}' (inner ++ '}' :: '}' :: rest) = some (inner, rest))
    (rejected : ¬ isPath (trim inner) = true)
    (behind : Recognises (inner ++ '}' :: '}' :: rest) parts) :
    Recognises template (.plain (early ++ ['{', '{']) :: parts) := by
  intro before path text after occurs token
  have apart := getLast?_of_cutAt opened
  obtain ⟨between, rfl, same⟩ := exists_between opened occurs token
  rcases between with _ | ⟨left, _ | ⟨right, further⟩⟩
  · -- the braces would close a path
    obtain ⟨inner', rfl, rfl, accepted, -, unclosed⟩ := token.exists_inner
    have cut : some (inner, rest) = some (inner', after) := by
      rw [← first, ← cutAt_inner unclosed]
      congr 1
      simpa using same
    cases cut
    exact (rejected accepted).elim
  · -- one brace out of step
    obtain ⟨rfl, -⟩ := List.cons.inj same
    refine iff_of_false ?_ ?_
    · rw [tokenAt_plain_cons]
      rintro ⟨_, short, -⟩
      simp at short
    · rw [openBraces_append apart]
      decide
  · simp only [List.cons_append, List.cons.injEq] at same
    obtain ⟨rfl, rfl, later⟩ := same
    have regroup : early ++ '{' :: '{' :: further = early ++ ['{', '{'] ++ further := by simp
    rw [regroup, tokenAt_plain_append, behind further path text after later token,
      List.append_assoc, openBraces_append apart]
    exact (even_openBraces_pair further).symm

/-- Every template has a reading that the scanner follows. -/
theorem exists_reading (template : List Char) :
    ∃ parts, Reading template parts ∧ parts.map Part.piece = pieces template ∧
      Recognises template parts := by
  fun_induction pieces template with
  | case1 characters unopened =>
      exact ⟨[.plain characters], ⟨by simp [Part.text], by simp⟩, rfl,
        recognises_of_unopened unopened⟩
  | case2 characters early body opened unclosed =>
      exact ⟨[.plain characters], ⟨by simp [Part.text], by simp⟩, rfl,
        recognises_of_unclosed opened unclosed⟩
  | case3 characters early body opened inner rest closed accepted ih =>
      obtain ⟨parts, reading, scanned, recognises⟩ := ih
      obtain rfl := eq_of_cutAt closed
      refine ⟨_, ⟨?_, ?_⟩, ?_, recognises_of_token opened accepted recognises⟩
      · rw [eq_of_cutAt opened]
        simp [Part.text, reading.written]
      · intro path text member
        simp only [List.mem_cons, reduceCtorEq, Part.token.injEq, false_or] at member
        rcases member with ⟨rfl, rfl⟩ | member
        · exact spellsToken_of_isPath accepted
        · exact reading.spelled path text member
      · simp [Part.piece, scanned]
  | case4 characters early body opened inner rest closed rejected ih =>
      obtain ⟨parts, reading, scanned, recognises⟩ := ih
      obtain rfl := eq_of_cutAt closed
      refine ⟨_, ⟨?_, ?_⟩, ?_, recognises_of_skip opened closed rejected recognises⟩
      · rw [eq_of_cutAt opened]
        simp [Part.text, reading.written]
      · intro path text member
        exact reading.spelled path text (by simpa using member)
      · simp [Part.piece, scanned]

/-! ## Rendering and resolving -/

/-- What stands for a path in a rendered text. -/
def inserted (context : Context) (path : List Char) : List Char :=
  match context.lookup (String.ofList path) with
  | some value => (display value).toList
  | none => []

/-- What becomes of a part in a rendered text. -/
def Part.filled (context : Context) : Part → List Char
  | plain characters => characters
  | token path _ => inserted context path

theorem Part.render_piece (context : Context) (part : Part) :
    part.piece.render context = part.filled context := by
  cases part <;> rfl

theorem cutAt_braces (rest : List Char) : cutAt '{' '{' ('{' :: '{' :: rest) = some ([], rest) := by
  simp [cutAt]

theorem Part.text_of_isEmpty {part : Part} (empty : part.piece.isEmpty = true) :
    part.text = [] := by
  cases part with
  | plain characters => exact List.isEmpty_iff.mp empty
  | token path text => cases empty

/-- Parts without text add nothing to what is written. -/
theorem flatMap_text_filter (parts : List Part) :
    (parts.filter fun part => !part.piece.isEmpty).flatMap Part.text =
      parts.flatMap Part.text := by
  induction parts with
  | nil => rfl
  | cons part parts ih =>
      rw [List.filter_cons, List.flatMap_cons, ← ih]
      split
      next => rfl
      next empty => rw [Part.text_of_isEmpty (by simpa using empty), List.nil_append]

/-- A template in which nothing but one token is written is that token. -/
theorem Reading.spells_of_kept {template path text : List Char} {parts : List Part}
    (reading : Reading template parts)
    (kept : (parts.filter fun part => !part.piece.isEmpty) = [.token path text]) :
    SpellsToken path template := by
  have member : Part.token path text ∈ parts :=
    List.mem_of_mem_filter (kept ▸ List.mem_singleton_self _)
  have written := flatMap_text_filter parts
  rw [kept, reading.written] at written
  have whole : text = template := by simpa [Part.text] using written
  exact whole ▸ reading.spelled path text member

/-- A template is one token exactly if it is spelled as one. -/
theorem wholeToken?_eq_some_iff (template path : List Char) :
    wholeToken? template = some path ↔ SpellsToken path template := by
  constructor
  · intro whole
    obtain ⟨parts, reading, scanned, -⟩ := exists_reading template
    have filtered : (pieces template).filter (!·.isEmpty) = [.token path] := by
      rw [wholeToken?] at whole
      split at whole <;> simp_all
    rw [← scanned, List.filter_map] at filtered
    obtain ⟨part, kept, pieced⟩ := List.map_eq_singleton_iff.mp filtered
    cases part with
    | plain characters => cases pieced
    | token path' text =>
        cases pieced
        exact reading.spells_of_kept kept
  · intro token
    obtain ⟨inner, rfl, rfl, accepted, -, unclosed⟩ := token.exists_inner
    have pieced := pieces_of_closed (cutAt_braces (inner ++ ['}', '}'])) (cutAt_inner unclosed [])
    have last : pieces [] = [.literal []] := pieces_of_unopened rfl
    rw [if_pos accepted, last] at pieced
    rw [wholeToken?, List.cons_append, List.cons_append, pieced]
    rfl

theorem render_of_reading {template : String} {parts : List Part}
    (scanned : parts.map Part.piece = pieces template.toList) (context : Context) :
    render context template = String.ofList (parts.flatMap (Part.filled context)) := by
  rw [render, ← scanned, List.flatMap_map]
  simp only [Part.render_piece]

theorem resolve_of_token {template : String} {path : List Char}
    (token : SpellsToken path template.toList) (context : Context) :
    resolve context (.string template) =
      (context.lookup (String.ofList path)).getD (.string template) := by
  rw [resolve, resolveText, (wholeToken?_eq_some_iff _ _).mpr token]

theorem resolve_of_text {template : String}
    (several : ∀ path, ¬ SpellsToken path template.toList) (context : Context) :
    resolve context (.string template) = .string (render context template) := by
  have none : wholeToken? template.toList = none := by
    rw [Option.eq_none_iff_forall_ne_some]
    intro path whole
    exact several path ((wholeToken?_eq_some_iff _ _).mp whole)
  rw [resolve, resolveText, none]

/-- A template is read as parts, and its tokens among them are exactly the occurrences of
the grammar that an even number of opening braces directly precedes.  Rendering replaces
these tokens and nothing else; resolving takes the value of a template that is one token
and renders any other. -/
theorem substitutes_in_step (template : String) :
    ∃ parts, Reading template.toList parts ∧ Recognises template.toList parts ∧
      ∀ context,
        render context template = String.ofList (parts.flatMap (Part.filled context)) ∧
        (∀ path, SpellsToken path template.toList →
          resolve context (.string template) =
            (context.lookup (String.ofList path)).getD (.string template)) ∧
        ((∀ path, ¬ SpellsToken path template.toList) →
          resolve context (.string template) = .string (render context template)) := by
  obtain ⟨parts, reading, scanned, recognises⟩ := exists_reading template.toList
  exact ⟨parts, reading, recognises, fun context =>
    ⟨render_of_reading scanned context, fun _ token => resolve_of_token token context,
      fun several => resolve_of_text several context⟩⟩

/-- The path `x` between its braces. -/
def bracedX : List Char := ['{', '{', 'x', '}', '}']

theorem spellsToken_bracedX : SpellsToken ['x'] bracedX :=
  @spellsToken_of_isPath ['x'] (by decide)

/-- Two braces in front of a token leave it a token, one brace hides it. -/
theorem substitutes_in_step_mixed :
    ∃ parts, Reading ('{' :: '{' :: bracedX ++ [' ', '{'] ++ bracedX) parts ∧
      TokenAt parts ['{', '{'] ['x'] bracedX ∧
      ¬ TokenAt parts ('{' :: '{' :: bracedX ++ [' ', '{']) ['x'] bracedX := by
  obtain ⟨parts, reading, recognised, -⟩ :=
    substitutes_in_step (String.ofList ('{' :: '{' :: bracedX ++ [' ', '{'] ++ bracedX))
  rw [String.toList_ofList] at reading recognised
  refine ⟨parts, reading, ?_, ?_⟩
  · exact (recognised _ _ _ ([' ', '{'] ++ bracedX) rfl spellsToken_bracedX).mpr (by decide)
  · rw [recognised _ _ _ [] rfl spellsToken_bracedX]
    decide

/-- The one token of this text stands behind a brace, and the text is left as it is: the value
of the path does not show. -/
theorem brace_hides_token :
    SpellsToken ['x'] bracedX ∧
      (∀ before path text after, '{' :: bracedX = before ++ text ++ after →
        SpellsToken path text → before = ['{'] ∧ path = ['x'] ∧ text = bracedX) ∧
      inserted ⟨.null, [("x", .string "v")]⟩ ['x'] = ['v'] ∧
      render ⟨.null, [("x", .string "v")]⟩ (String.ofList ('{' :: bracedX)) =
        String.ofList ('{' :: bracedX) := by
  refine ⟨spellsToken_bracedX, ?_, by decide, ?_⟩
  · intro before path text after occurs token
    obtain ⟨inner, same, -, -, unopened, -⟩ := token.exists_inner
    rcases before with _ | ⟨brace, before⟩
    · subst same
      rcases inner with _ | ⟨first, inner⟩ <;> simp_all [bracedX]
    · obtain ⟨rfl, later⟩ := List.cons.inj occurs
      have split : bracedX ++ [] = before ++ text ++ after := later
      rcases tokens_apart spellsToken_bracedX token split with ⟨rfl, rfl, rfl⟩ | ⟨_, -, empty⟩
      · exact ⟨rfl, rfl, rfl⟩
      · simp [same] at empty
  · have opened : cutAt '{' '{' ('{' :: bracedX) = some ([], ['{', 'x', '}', '}']) := rfl
    have outer : pieces ('{' :: bracedX) =
        .literal ['{', '{'] :: pieces ['{', 'x', '}', '}'] :=
      (pieces_of_closed opened rfl).trans (if_neg (by decide))
    rw [render, String.toList_ofList, outer, pieces_of_unopened rfl]
    rfl

end Flowline.Template
