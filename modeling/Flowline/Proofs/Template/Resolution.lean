import Flowline.Proofs.Json.Induction
import Flowline.Proofs.Keyed
import Flowline.Proofs.Template.Assembly

/-!
# Resolving values

A template is resolved in one way and rendered in another, and the text of the resolved value
is the rendered text.  Only a lone token that leads nowhere is kept by the first and left out
by the second.  In an array or an object every text is resolved in its place, and nothing else
changes.
-/

namespace Flowline.Template

/-- A template is one token, and its path leads nowhere. -/
def LeadsNowhere (context : Context) (template : String) : Prop :=
  ∃ path, SpellsToken path template.toList ∧ context.lookup (String.ofList path) = none

/-- A token stands where it is recognised. -/
def HoldsToken (template : String) : Prop :=
  ∃ before path text after, template.toList = before ++ text ++ after ∧ SpellsToken path text ∧
    Even (openBraces before)

/-- A text is a value or a part of one; keys are no parts. -/
inductive TextIn (text : String) : Json → Prop where
  | self : TextIn text (.string text)
  | item {items : List Json} {item : Json} (listed : item ∈ items) (inside : TextIn text item) :
      TextIn text (.array items)
  | member {members : List (String × Json)} {member : String × Json} (listed : member ∈ members)
      (inside : TextIn text member.2) : TextIn text (.object members)

variable (context : Context)

/-- A path leads into what has replaced a text of a value. -/
def WithinText (value : Json) (path : List String) (part : Json) : Prop :=
  ∃ front segment back text, path = front ++ segment :: back ∧
    value.descend front = some (.string text) ∧
    (resolve context (.string text)).descend (segment :: back) = some part

/-! ## Texts -/

variable {template : String}

theorem render_of_token {path : List Char} (token : SpellsToken path template.toList) :
    render context template = String.ofList (inserted context path) := by
  have filled := fill_token_append context token []
  rw [List.append_nil, fill_nil, List.append_nil] at filled
  rw [← String.ofList_toList (s := template), render_ofList, filled]

/-- A token has braces. -/
theorem ne_empty_of_token {path : List Char} (token : SpellsToken path template.toList) :
    template ≠ "" := by
  rintro rfl
  obtain ⟨inner, same, -⟩ := token.exists_inner
  simp at same

theorem keeps_of_leadsNowhere (nowhere : LeadsNowhere context template) :
    resolve context (.string template) = .string template ∧ render context template = "" := by
  obtain ⟨path, token, missing⟩ := nowhere
  constructor
  · rw [resolve_of_token token, missing, Option.getD_none]
  · rw [render_of_token context token, inserted, missing, String.ofList_nil]

/-- Resolving and rendering come to the same text, unless there is no value to come to. -/
theorem display_resolve (leads : ¬ LeadsNowhere context template) :
    display (resolve context (.string template)) = render context template := by
  by_cases whole : ∃ path, SpellsToken path template.toList
  · obtain ⟨path, token⟩ := whole
    cases found : context.lookup (String.ofList path) with
    | none => exact (leads ⟨path, token, found⟩).elim
    | some value =>
        rw [resolve_of_token token, render_of_token context token, inserted, found,
          Option.getD_some, String.ofList_toList]
  · rw [resolve_of_text (not_exists.mp whole), display]

theorem display_resolve_iff (template : String) :
    display (resolve context (.string template)) = render context template ↔
      ¬ LeadsNowhere context template := by
  refine ⟨fun same nowhere => ?_, display_resolve context⟩
  obtain ⟨kept, left⟩ := keeps_of_leadsNowhere context nowhere
  obtain ⟨path, token, -⟩ := nowhere
  rw [kept, left, display] at same
  exact ne_empty_of_token token same

/-! ## Texts without tokens -/

/-- No part of a reading is a token if none is recognised. -/
theorem plain_of_recognises {parts : List Part} (reading : Reading template.toList parts)
    (recognises : Recognises template.toList parts) (none : ¬ HoldsToken template) {part : Part}
    (member : part ∈ parts) : part.filled context = part.text := by
  cases part with
  | plain characters => rfl
  | token path text =>
      obtain ⟨front, back, split⟩ := List.append_of_mem member
      have spelled := reading.spelled path text member
      have occurs : template.toList =
          front.flatMap Part.text ++ text ++ back.flatMap Part.text := by
        rw [← reading.written, split]
        simp [Part.text]
      have even := (recognises _ path text _ occurs spelled).mp ⟨front, back, split, rfl⟩
      exact (none ⟨_, path, text, _, occurs, spelled, even⟩).elim

theorem render_of_tokenless (none : ¬ HoldsToken template) :
    render context template = template := by
  obtain ⟨parts, reading, scanned, recognises⟩ := exists_reading template.toList
  have filled : parts.flatMap (Part.filled context) = parts.flatMap Part.text :=
    List.flatMap_congr fun part member => plain_of_recognises context reading recognises none member
  rw [render_of_reading scanned, filled, reading.written, String.ofList_toList]

theorem not_holdsToken_of_plain (plain : '{' ∉ template.toList) : ¬ HoldsToken template := by
  rintro ⟨before, path, text, after, occurs, token, -⟩
  obtain ⟨inner, rfl, -⟩ := token.exists_inner
  exact plain (by simp [occurs])

theorem resolve_of_tokenless (none : ¬ HoldsToken template) :
    resolve context (.string template) = .string template := by
  have several (path : List Char) : ¬ SpellsToken path template.toList := fun token =>
    none ⟨[], path, template.toList, [], by simp, token, Even.zero⟩
  rw [resolve_of_text several, render_of_tokenless context none]

/-! ## Containers -/

theorem resolveItems_eq_map (items : List Json) :
    resolveItems context items = items.map (resolve context) := by
  induction items with
  | nil => rfl
  | cons item rest ih => rw [resolveItems, ih, List.map_cons]

theorem resolveMembers_eq_map (members : List (String × Json)) :
    resolveMembers context members =
      members.map fun member => (member.1, resolve context member.2) := by
  induction members with
  | nil => rfl
  | cons member rest ih => rw [resolveMembers, ih, List.map_cons]

theorem resolve_array (items : List Json) :
    resolve context (.array items) = .array (items.map (resolve context)) := by
  rw [resolve, resolveItems_eq_map]

theorem resolve_object (members : List (String × Json)) :
    resolve context (.object members) =
      .object (members.map fun member => (member.1, resolve context member.2)) := by
  rw [resolve, resolveMembers_eq_map]

theorem resolve_eq_self (value : Json) (none : ∀ text, TextIn text value → ¬ HoldsToken text) :
    resolve context value = value := by
  induction value using Json.nested_induction with
  | null => rfl
  | bool value => rfl
  | number numeral => rfl
  | string text => exact resolve_of_tokenless context (none text .self)
  | array items ih =>
      have each : items.map (resolve context) = items.map id :=
        List.map_congr_left fun item listed =>
          ih item listed fun text inside => none text (.item listed inside)
      rw [resolve_array, each, List.map_id]
  | object members ih =>
      have each : members.map (fun member => (member.1, resolve context member.2)) =
          members.map id :=
        List.map_congr_left fun member listed =>
          Prod.ext rfl (ih member listed fun text inside => none text (.member listed inside))
      rw [resolve_object, each, List.map_id]

/-! ## Paths -/

/-- One segment down from a value that is no text. -/
theorem child?_resolve {value : Json} (container : ∀ text, value ≠ .string text)
    (segment : String) :
    (resolve context value).child? segment = (value.child? segment).map (resolve context) := by
  cases value with
  | null | bool value | number numeral => rfl
  | string text => exact (container text rfl).elim
  | array items =>
      rw [resolve_array, Json.child?, Json.child?]
      simp only [List.getElem?_map, Option.map_bind]
      rfl
  | object members =>
      rw [resolve_object, Json.child?, Json.child?]
      exact Keyed.get?_map (resolve context) segment members

theorem not_withinText_nil {value part : Json} : ¬ WithinText context value [] part := by
  rintro ⟨front, segment, back, text, split, -⟩
  simp at split

theorem withinText_cons {value part : Json} (container : ∀ text, value ≠ .string text)
    {segment : String} {rest : List String} :
    WithinText context value (segment :: rest) part ↔
      ∃ child, value.child? segment = some child ∧ WithinText context child rest part := by
  constructor
  · rintro ⟨_ | ⟨first, front⟩, segment, back, text, split, reaches, descends⟩
    · exact (container text (Option.some.inj reaches)).elim
    · obtain ⟨rfl, rfl⟩ := List.cons.inj split
      obtain ⟨child, found, reaches⟩ := Option.bind_eq_some_iff.mp reaches
      exact ⟨child, found, front, segment, back, text, rfl, reaches, descends⟩
  · rintro ⟨child, found, front, last, back, text, rfl, reaches, descends⟩
    have throughChild : value.descend (segment :: front) = some (.string text) := by
      rwa [Json.descend_cons, found]
    exact ⟨segment :: front, last, back, text, rfl, throughChild, descends⟩

/-- A path that leads somewhere in a value leads to what that is resolved to, and any other
path can only lead into what has replaced a text. -/
theorem descend_resolve (value : Json) (path : List String) (part : Json) :
    (resolve context value).descend path = some part ↔
      (∃ source, value.descend path = some source ∧ part = resolve context source) ∨
        WithinText context value path part := by
  induction path generalizing value with
  | nil =>
      simp only [Json.descend_nil, Option.some.injEq, not_withinText_nil, or_false,
        exists_eq_left']
      exact eq_comm
  | cons segment rest ih =>
      by_cases container : ∀ text, value ≠ .string text
      · rw [withinText_cons context container, Json.descend_cons, child?_resolve context container,
          Json.descend_cons]
        cases value.child? segment with
        | none => simp
        | some child => simpa using ih child
      · obtain ⟨text, rfl⟩ := not_forall_not.mp container
        constructor
        · intro descends
          exact .inr ⟨[], segment, rest, text, rfl, rfl, descends⟩
        · rintro (⟨source, reaches, -⟩ | ⟨front, last, back, other, split, reaches, descends⟩)
          · cases reaches
          · cases front with
            | nil =>
                cases reaches
                rwa [split]
            | cons first front =>
                cases split
                cases reaches

/-- The text of a resolved template is the rendered one, except for a lone token that leads
nowhere, which is kept by resolving and left out by rendering.  In arrays and objects each
value is resolved in its place: the items stay in their order and the members under their
keys, a path leads to what is at its end resolved, or else into what has replaced a text, and
a value in which no text holds a token stays as it is. -/
theorem resolve_agrees_render :
    (∀ template : String,
      (display (resolve context (.string template)) = render context template ↔
        ¬ LeadsNowhere context template) ∧
      (LeadsNowhere context template →
        resolve context (.string template) = .string template ∧ render context template = "")) ∧
    (∀ items, resolve context (.array items) = .array (items.map (resolve context))) ∧
    (∀ members, resolve context (.object members) =
      .object (members.map fun member => (member.1, resolve context member.2))) ∧
    ∀ value,
      (∀ path part, (resolve context value).descend path = some part ↔
        (∃ source, value.descend path = some source ∧ part = resolve context source) ∨
          WithinText context value path part) ∧
      ((∀ text, TextIn text value → ¬ HoldsToken text) → resolve context value = value) :=
  ⟨fun template => ⟨display_resolve_iff context template, keeps_of_leadsNowhere context⟩,
    resolve_array context, resolve_object context,
    fun value => ⟨descend_resolve context value, resolve_eq_self context value⟩⟩

/-- A token as a key and a text without one. -/
def labelled : Json := .object [(String.ofList bracedX, .array [.string "paid", .bool true])]

/-- A lone token that leads nowhere is kept, and a value with a token in a key only is left as
it is. -/
theorem resolve_agrees_render_missing :
    (LeadsNowhere ⟨.null, []⟩ (String.ofList bracedX) ∧
      resolve ⟨.null, []⟩ (.string (String.ofList bracedX)) = .string (String.ofList bracedX) ∧
      render ⟨.null, []⟩ (String.ofList bracedX) = "") ∧
    (∀ text, TextIn text labelled → ¬ HoldsToken text) ∧
      resolve ⟨.null, []⟩ labelled = labelled := by
  have agrees := resolve_agrees_render ⟨.null, []⟩
  have nowhere : LeadsNowhere ⟨.null, []⟩ (String.ofList bracedX) :=
    ⟨['x'], by rw [String.toList_ofList]; exact spellsToken_bracedX, by decide⟩
  have tokenless : ∀ text, TextIn text labelled → ¬ HoldsToken text := by
    rintro text (_ | _ | ⟨listed, inside⟩)
    obtain rfl := List.mem_singleton.mp listed
    cases inside with
    | item listed inside =>
        rcases List.mem_cons.mp listed with rfl | listed
        · cases inside
          exact not_holdsToken_of_plain (by decide)
        · obtain rfl := List.mem_singleton.mp listed
          cases inside
  exact ⟨⟨nowhere, (agrees.1 _).2 nowhere⟩, tokenless, (agrees.2.2.2 labelled).2 tokenless⟩

end Flowline.Template
