import Flowline.Context
import Flowline.Proofs.Text.Split

/-!
# Looking into contexts

A path is looked up by its segments, and what its first segments lead to decides the rest: to
go on behind a path is to descend from the value that it has.  A variable that is written is
found under its key, whatever the input is, and every path that does not name it leads where it
led before.
-/

namespace Flowline.Context

/-- A path that goes on behind a point, if there is something to go on with. -/
def prolonged (path : String) : Option String → String
  | none => path
  | some tail => path ++ "." ++ tail

/-- The segments that a path is prolonged by. -/
def tailSegments : Option String → List String
  | none => []
  | some tail => Text.split '.' tail

variable {context : Context} {head key : String} {rest more segments : List String}

theorem split_prolonged (path : String) (tail : Option String) :
    Text.split '.' (prolonged path tail) = Text.split '.' path ++ tailSegments tail := by
  cases tail with
  | none => exact (List.append_nil _).symm
  | some tail => exact Text.split_append path tail

/-! ## Segments -/

theorem lookupSegments_input (first : String) (rest : List String) :
    context.lookupSegments ("input" :: first :: rest) = context.input.descend (first :: rest) := by
  simp only [lookupSegments]

theorem lookupSegments_variables (first : String) (rest : List String) :
    context.lookupSegments ("variables" :: first :: rest) =
      (context.result? first).bind (Json.descend · rest) := by
  simp only [lookupSegments]

/-- The bare name of the input stands for a variable, if there is one of that name. -/
theorem lookupSegments_bareInput :
    context.lookupSegments ["input"] = some ((context.result? "input").getD context.input) := by
  simp only [lookupSegments, lookupAnywhere]
  cases context.result? "input" with
  | none => rfl
  | some value => rfl

/-- Any other first segment names a variable or a member of the input. -/
theorem lookupSegments_anywhere (unscoped : head ≠ "input")
    (bare : head = "variables" → rest = []) :
    context.lookupSegments (head :: rest) = context.lookupAnywhere head rest := by
  rw [lookupSegments]
  · exact fun same _ => unscoped same
  · exact fun same => absurd same unscoped
  · rintro first tail same rfl
    cases bare same

/-! ## Going on -/

theorem lookupAnywhere_append (head : String) (rest more : List String) :
    context.lookupAnywhere head (rest ++ more) =
      (context.lookupAnywhere head rest).bind (Json.descend · more) := by
  simp only [lookupAnywhere]
  cases context.result? head with
  | some value => exact Json.descend_append value rest more
  | none =>
      cases context.input with
      | object members =>
          dsimp only
          cases Keyed.get? head members with
          | some value => exact Json.descend_append value rest more
          | none => rfl
      | null | bool value | number value | string text | array items => rfl

/-- To go on behind a path is to descend from the value that it has.  The bare names of the two
scopes are not paths into what they are the scopes of. -/
theorem lookupSegments_append (nonempty : segments ≠ []) (unscoped : segments ≠ ["variables"])
    (unshadowed : segments = ["input"] → context.result? "input" = none) (more : List String) :
    context.lookupSegments (segments ++ more) =
      (context.lookupSegments segments).bind (Json.descend · more) := by
  obtain ⟨head, rest, rfl⟩ := List.exists_cons_of_ne_nil nonempty
  by_cases input : head = "input"
  · subst input
    cases rest with
    | nil =>
        rw [lookupSegments_bareInput, unshadowed rfl]
        cases more with
        | nil => rw [List.append_nil, lookupSegments_bareInput, unshadowed rfl]; rfl
        | cons first tail => exact lookupSegments_input first tail
    | cons first tail =>
        rw [List.cons_append, List.cons_append, lookupSegments_input, lookupSegments_input]
        exact Json.descend_append context.input (first :: tail) more
  · by_cases named : head = "variables"
    · subst named
      obtain ⟨first, tail, rfl⟩ := List.exists_cons_of_ne_nil fun bare : rest = [] =>
        unscoped (by rw [bare])
      rw [List.cons_append, List.cons_append, lookupSegments_variables, lookupSegments_variables]
      cases context.result? first with
      | some value => exact Json.descend_append value tail more
      | none => rfl
    · rw [List.cons_append, lookupSegments_anywhere input fun same => absurd same named,
        lookupSegments_anywhere input fun same => absurd same named, lookupAnywhere_append]

/-! ## Writing a variable -/

theorem lookupAnywhere_setResult_self (key : String) (value : Json) (rest : List String) :
    (context.setResult key value).lookupAnywhere key rest = value.descend rest := by
  rw [lookupAnywhere, result?_setResult, if_pos rfl]

theorem lookupAnywhere_setResult_of_ne (different : head ≠ key) (value : Json)
    (rest : List String) :
    (context.setResult key value).lookupAnywhere head rest =
      context.lookupAnywhere head rest := by
  simp only [lookupAnywhere, result?_setResult, if_neg different, setResult_input]

/-- A path that names a variable neither by its key nor in the scope of the variables leads
where it led before the variable was written. -/
theorem lookupSegments_setResult (unnamed : ¬[key] <+: segments)
    (unscoped : ¬["variables", key] <+: segments) (value : Json) :
    (context.setResult key value).lookupSegments segments = context.lookupSegments segments := by
  cases segments with
  | nil => rfl
  | cons head rest =>
      have different : head ≠ key := by
        rintro rfl
        exact unnamed (List.prefix_append [head] rest)
      by_cases input : head = "input"
      · subst input
        cases rest with
        | nil =>
            rw [lookupSegments_bareInput, lookupSegments_bareInput, result?_setResult,
              if_neg different, setResult_input]
        | cons first tail => rw [lookupSegments_input, lookupSegments_input, setResult_input]
      · by_cases bare : head = "variables" → rest = []
        · rw [lookupSegments_anywhere input bare, lookupSegments_anywhere input bare,
            lookupAnywhere_setResult_of_ne different]
        · obtain ⟨rfl, some⟩ := Classical.not_imp.mp bare
          obtain ⟨first, tail, rfl⟩ := List.exists_cons_of_ne_nil some
          have other : first ≠ key := by
            rintro rfl
            exact unscoped (List.prefix_append ["variables", first] tail)
          rw [lookupSegments_variables, lookupSegments_variables, result?_setResult, if_neg other]

/-! ## Paths -/

/-- What looking up a path comes to.  Once a variable is written under a key without a point, the
key in the scope of the variables, and the bare key unless it is the name of a scope, leads to the
variable, and what stands behind it leads on from its value, whatever the input is.  A path that
begins neither with the key nor with the key in the scope of the variables leads where it led.
Behind the name of the input a path leads into the input, also if a variable has that name.  And a
path that is prolonged leads on from the value that the path leads to, and nowhere if it leads
nowhere, except for the bare name of the variables, and that of the input if it is the name of a
variable. -/
theorem lookup_laws (context : Context) (key : String) (value : Json)
    (plain : '.' ∉ key.toList) :
    (∀ tail, (context.setResult key value).lookup (prolonged ("variables." ++ key) tail) =
      value.descend (tailSegments tail)) ∧
    (key ≠ "input" → key ≠ "variables" → ∀ tail,
      (context.setResult key value).lookup (prolonged key tail) =
        value.descend (tailSegments tail)) ∧
    (∀ path, ¬[key] <+: Text.split '.' path → ¬["variables", key] <+: Text.split '.' path →
      (context.setResult key value).lookup path = context.lookup path) ∧
    (∀ tail, context.lookup ("input." ++ tail) =
      context.input.descend (Text.split '.' tail)) ∧
    ∀ path, path ≠ "variables" → (path = "input" → context.result? "input" = none) → ∀ tail,
      context.lookup (prolonged path tail) =
        (context.lookup path).bind (Json.descend · (tailSegments tail)) := by
  refine ⟨?_, ?_, ?_, ?_, ?_⟩
  · intro tail
    have pieces : Text.split '.' ("variables." ++ key) = ["variables", key] := by
      rw [show "variables." = "variables" ++ "." from rfl, Text.split_append,
        Text.split_unsplit plain]
      rfl
    rw [lookup, split_prolonged, pieces, List.cons_append, List.cons_append,
      lookupSegments_variables, result?_setResult, if_pos rfl]
    rfl
  · intro unscoped bare tail
    rw [lookup, split_prolonged, Text.split_unsplit plain, List.singleton_append,
      lookupSegments_anywhere unscoped fun same => absurd same bare,
      lookupAnywhere_setResult_self]
  · intro path unnamed unscoped
    exact lookupSegments_setResult unnamed unscoped value
  · intro tail
    have prefixed : Text.split '.' ("input." ++ tail) = "input" :: Text.split '.' tail := by
      rw [show "input." = "input" ++ "." from rfl, Text.split_append]
      rfl
    obtain ⟨first, rest, pieces⟩ := List.exists_cons_of_ne_nil (Text.split_ne_nil '.' tail)
    rw [lookup, prefixed, pieces, lookupSegments_input]
  · intro path unscoped unshadowed tail
    rw [lookup, split_prolonged, lookup]
    exact lookupSegments_append (Text.split_ne_nil '.' path)
      (fun single => unscoped (Text.eq_of_split single))
      (fun single => unshadowed (Text.eq_of_split single)) (tailSegments tail)

/-- A context whose input has members that are called like the scopes and like a variable, and
with a variable that is called like the input. -/
def overshadowed : Context where
  input := .object [("input", .bool true), ("order", .array [.null]), ("variables", .null)]
  bindings := [("input", .string "variable")]

/-- A list that is written under the name of a member of the input hides the member but in the
scope of the input, and leaves the other names alone. -/
theorem lookup_laws_overshadowed :
    '.' ∉ "order".toList ∧
    let after := overshadowed.setResult "order" (.array [.null, .bool false])
    after.lookup "variables.order.1" = some (.bool false) ∧
      after.lookup "order.+01" = some (.bool false) ∧
      after.lookup "input" = some (.string "variable") ∧
      after.lookup "input.order.0" = some .null ∧ overshadowed.result? "input" ≠ none ∧
      after.lookup "variables.order.7.x" = none := by
  have plain : '.' ∉ "order".toList := by decide
  obtain ⟨among, bare, others, -⟩ :=
    lookup_laws overshadowed "order" (.array [.null, .bool false]) plain
  obtain ⟨-, -, -, within, further⟩ :=
    lookup_laws (overshadowed.setResult "order" (.array [.null, .bool false])) "order" .null plain
  refine ⟨plain, (among (some "1")).trans (by decide),
    (bare (by decide) (by decide) (some "+01")).trans (by decide),
    (others "input" (by decide) (by decide)).trans (by decide),
    (within "order.0").trans (by decide), by decide, ?_⟩
  exact (further "variables.order.7" (by decide) (by decide) (some "x")).trans (by decide)

end Flowline.Context
