import Flowline.Proofs.Template.Recognition

/-!
# Templates put together from tokens

A template may be written as texts without opening braces with tokens between them.  Such a
template is rendered piece by piece: the text stays and each token gives way to its value.
What a value looks like plays no part in it, for the rendered text is never read again.
-/

namespace Flowline.Template

open Text

/-- A token and the text up to the next one. -/
structure Slot where
  path : List Char
  token : List Char
  spelled : SpellsToken path token
  behind : List Char
  plain : '{' ∉ behind

/-- A template put together from texts without opening braces and tokens between them. -/
structure Assembly where
  front : List Char
  plain : '{' ∉ front
  slots : List Slot

namespace Slot

def written (slot : Slot) : List Char := slot.token ++ slot.behind

def filled (context : Context) (slot : Slot) : List Char :=
  inserted context slot.path ++ slot.behind

end Slot

namespace Assembly

/-- The template as a text. -/
def written (assembly : Assembly) : List Char :=
  assembly.front ++ assembly.slots.flatMap Slot.written

/-- The text with the value of each path in the place of its token. -/
def filled (context : Context) (assembly : Assembly) : List Char :=
  assembly.front ++ assembly.slots.flatMap (Slot.filled context)

end Assembly

/-- A text of characters with its tokens written out. -/
def fill (context : Context) (characters : List Char) : List Char :=
  (pieces characters).flatMap (Piece.render context)

variable (context : Context)

theorem render_ofList (characters : List Char) :
    render context (String.ofList characters) = String.ofList (fill context characters) := by
  rw [render, String.toList_ofList, fill]

@[simp] theorem fill_nil : fill context [] = [] := by
  rw [fill, pieces_of_unopened rfl]
  rfl

/-- Text without opening braces is passed on. -/
theorem fill_plain_append {plain : List Char} (absent : '{' ∉ plain) (rest : List Char) :
    fill context (plain ++ rest) = plain ++ fill context rest := by
  have shifted : cutAt '{' '{' (plain ++ rest) = _ := cutAt_append_of_not_mem absent rest
  cases opened : cutAt '{' '{' rest with
  | none =>
      rw [opened] at shifted
      simp [fill, pieces_of_unopened opened, pieces_of_unopened shifted, Piece.render]
  | some cut =>
      rw [opened] at shifted
      cases closed : cutAt '}' '}' cut.2 with
      | none =>
          simp [fill, pieces_of_unclosed opened closed, pieces_of_unclosed shifted closed,
            Piece.render]
      | some cut =>
          simp only [fill, pieces_of_closed opened closed, pieces_of_closed shifted closed]
          split <;> simp [Piece.render]

/-- A token gives way to its value. -/
theorem fill_token_append {path token : List Char} (spelled : SpellsToken path token)
    (rest : List Char) :
    fill context (token ++ rest) = inserted context path ++ fill context rest := by
  obtain ⟨inner, rfl, rfl, accepted, -, unclosed⟩ := spelled.exists_inner
  have opened := cutAt_braces (inner ++ '}' :: '}' :: rest)
  have pieced := (pieces_of_closed opened (cutAt_inner unclosed rest)).trans (if_pos accepted)
  simp only [fill, List.cons_append, List.append_assoc, List.nil_append, pieced,
    List.flatMap_cons]
  rfl

theorem fill_slots_append (slots : List Slot) (rest : List Char) :
    fill context (slots.flatMap Slot.written ++ rest) =
      slots.flatMap (Slot.filled context) ++ fill context rest := by
  induction slots with
  | nil => rfl
  | cons slot slots ih =>
      rw [List.flatMap_cons, List.flatMap_cons, Slot.written, Slot.filled]
      simp only [List.append_assoc]
      rw [fill_token_append context slot.spelled, fill_plain_append context slot.plain, ih]

/-- What follows the template does not change how it is filled. -/
theorem Assembly.fill_append (assembly : Assembly) (rest : List Char) :
    fill context (assembly.written ++ rest) = assembly.filled context ++ fill context rest := by
  rw [Assembly.written, Assembly.filled, List.append_assoc,
    fill_plain_append context assembly.plain, fill_slots_append, List.append_assoc]

theorem Assembly.fill_written (assembly : Assembly) :
    fill context assembly.written = assembly.filled context := by
  have filled := assembly.fill_append context []
  rwa [List.append_nil, fill_nil, List.append_nil] at filled

/-- Texts without opening braces and tokens between them are rendered in a single pass: the
texts stay, every token gives way to the value at its path, and that value is not looked
into.  With anything behind it, such a template is rendered as if it stood alone. -/
theorem render_assembly (assembly : Assembly) (rest : String) :
    render context (String.ofList assembly.written) = String.ofList (assembly.filled context) ∧
      render context (String.ofList assembly.written ++ rest) =
        render context (String.ofList assembly.written) ++ render context rest := by
  have alone : render context (String.ofList assembly.written) =
      String.ofList (assembly.filled context) := by
    rw [render_ofList, assembly.fill_written]
  refine ⟨alone, ?_⟩
  calc render context (String.ofList assembly.written ++ rest)
      = render context (String.ofList (assembly.written ++ rest.toList)) := by
        rw [String.ofList_append, String.ofList_toList]
    _ = String.ofList (assembly.filled context ++ fill context rest.toList) := by
        rw [render_ofList, assembly.fill_append]
    _ = String.ofList (assembly.filled context) ++ render context rest := by
        rw [String.ofList_append, render, fill]
    _ = render context (String.ofList assembly.written) ++ render context rest := by rw [alone]

/-- Two adjacent tokens between other texts. -/
def adjacent : Assembly where
  front := ['}']
  plain := by decide
  slots := [⟨['x'], bracedX, spellsToken_bracedX, [], by decide⟩,
    ⟨['x'], bracedX, spellsToken_bracedX, ['!'], by decide⟩]

/-- A value that looks like a token is written out as it is. -/
theorem render_assembly_braces :
    render ⟨.null, [("x", .string (String.ofList ['{', '{', 'y', '}', '}'])),
        ("y", .string "secret")]⟩ (String.ofList ('}' :: bracedX ++ bracedX ++ ['!'])) =
      String.ofList ['}', '{', '{', 'y', '}', '}', '{', '{', 'y', '}', '}', '!'] := by
  have written : '}' :: bracedX ++ bracedX ++ ['!'] = adjacent.written := by decide
  rw [written, (render_assembly _ adjacent "").1]
  decide

end Flowline.Template
