import SalesAgent.Lib.Replace
import SalesAgent.Signing.HeaderPrecheck
import Mathlib.Data.List.Induction

/-!
# Naming templates

A template is cut at its placeholders, `{name}` or `{name|other}`.  For each of them in
turn every occurrence of its text in the name so far is replaced by the first of its
variables that has a value: also where the occurrence is part of a value put in before.

**Results.**
* `pieces_source`: the pieces of a template are the template.
* `valueOf_eq`: a placeholder stands for the first non-empty of its variables.
* `namingContract_iff`: when the placeholders of a template are replaced and nothing else.
-/

namespace SalesAgent
namespace Naming

open Replace
open Signing (stripped)

/-- The characters of a text. -/
abbrev Text :=
  List Char

section Code

/-- A template is cut into characters and placeholders. -/
inductive Piece
  | literal (c : Char)
  | placeholder (body : Text)
  deriving DecidableEq, Repr

/-- The text of a placeholder. -/
def braced
    (body : Text) : Text :=
  ('{' :: body) ++ ['}']

/-- The matches of `\{([^}]+)\}` and the characters between them; after an opening brace, the
run read since. -/
def cutFrom : Option Text → Text → List Piece
  | none, [] => []
  | some run, [] => ('{' :: run).map .literal
  | none, c :: text =>
      if c = '{' then cutFrom (some []) text else .literal c :: cutFrom none text
  | some run, c :: text =>
      if c = '}' then
        -- `[^}]+` needs a character
        if run = [] then .literal '{' :: .literal '}' :: cutFrom none text
        else .placeholder run :: cutFrom none text
      else cutFrom (some (run ++ [c])) text

/-- The pieces of a template. -/
def pieces
    (template : Text) : List Piece :=
  cutFrom none template

/-- The group of a match. -/
def Piece.body? : Piece → Option Text
  | .literal _ => none
  | .placeholder body => some body

/-- `re.finditer`: the groups of the matches in a template. -/
def placeholders
    (template : Text) : List Text :=
  (pieces template).filterMap Piece.body?

/-- A value of the context of a name. -/
inductive ContextValue
  | none
  | text (s : Text)
  | number (n : Int)
  deriving DecidableEq, Repr

/-- The context of a name. -/
abbrev Context :=
  Text → Option ContextValue

/-- The text of a value that is neither `None` nor empty. -/
def ContextValue.filled : ContextValue → Option Text
  | .none => Option.none
  | .text s => if s = [] then Option.none else some s
  | .number n => some (toString n).toList

/-- The loop over the variables of a placeholder. -/
def firstValue
    (context : Context) : List Text → Option Text
  | [] => none
  | name :: rest =>
      match context (stripped name) with
      | none => firstValue context rest
      | some candidate =>
          match candidate.filled with
          | none => firstValue context rest
          | some value => some value

/-- What is put in the place of a placeholder. -/
def valueOf
    (context : Context)
    (body : Text) : Text :=
  (firstValue context (body.splitOn '|')).getD []

/-- The name after the loop has handled so many placeholders. -/
def substituted
    (context : Context)
    (template : Text)
    (bodies : List Text) : Text :=
  bodies.foldl (fun result body => replaceAll (braced body) (valueOf context body) result) template

/-- `apply_naming_template` -/
def applyNamingTemplate
    (template : Text)
    (context : Context) : Text :=
  substituted context template (placeholders template)

end Code

section Law

/-- The first of the names that has a value, or nothing. -/
def firstNonEmpty
    (context : Context)
    (body : Text) : Text :=
  ((body.splitOn '|').findSome? fun name => (context (stripped name)).bind (·.filled)).getD []

/-- A piece after the placeholders with some bodies have been replaced. -/
def Piece.rendered
    (context : Context)
    (done : List Text) : Piece → Text
  | .literal c => [c]
  | .placeholder body => if done.contains body then firstNonEmpty context body else braced body

/-- The template after the placeholders with some bodies have been replaced. -/
def rendered
    (context : Context)
    (done : List Text)
    (template : Text) : Text :=
  (pieces template).flatMap (·.rendered context done)

/-- The name a template stands for. -/
def named
    (context : Context)
    (template : Text) : Text :=
  (pieces template).flatMap fun
    | .literal c => [c]
    | .placeholder body => firstNonEmpty context body

/-- At every step the loop replaces the placeholders with the text at hand, and nothing
else; at its end each placeholder has been replaced. -/
structure NamingContract
    (template : Text)
    (context : Context) : Prop where
  steps : ∀ done, done <+: placeholders template →
    substituted context template done = rendered context done template
  result : applyNamingTemplate template context = named context template

/-- The piece is a placeholder with the body, which has not been replaced yet. -/
def Piece.awaits
    (done : List Text)
    (body : Text) : Piece → Bool
  | .literal _ => false
  | .placeholder body' => decide (body' = body) && ! done.contains body

/-- Whenever the text of a placeholder is looked for, it occurs in the name so far no more
often than as one of the placeholders that wait, unless it stands for itself. -/
def SafelyNamed
    (template : Text)
    (context : Context) : Prop :=
  ∀ done body, done ++ [body] <+: placeholders template →
    count (braced body) (rendered context done template) =
        (pieces template).countP (·.awaits done body) ∨
      firstNonEmpty context body = braced body

end Law

section Pieces

/-- The text of a piece in the template. -/
def Piece.source : Piece → Text
  | .literal c => [c]
  | .placeholder body => braced body

theorem cutFrom_source
    (pending : Option Text)
    (text : Text) :
    (cutFrom pending text).flatMap Piece.source =
      pending.elim [] (fun run => '{' :: run) ++ text := by
  induction text generalizing pending with
  | nil =>
      cases pending with
      | none => rfl
      | some run =>
          have hliteral : ∀ s : Text, (s.map Piece.literal).flatMap Piece.source = s := by
            intro s
            induction s with
            | nil => rfl
            | cons c s ih => simpa [Piece.source] using ih
          simpa [cutFrom] using hliteral ('{' :: run)
  | cons c text ih =>
      cases pending with
      | none =>
          by_cases hopen : c = '{'
          · simp [cutFrom, hopen, ih]
          · simp [cutFrom, hopen, ih, Piece.source]
      | some run =>
          by_cases hclose : c = '}'
          · by_cases hempty : run = []
            · simp [cutFrom, hclose, hempty, ih, Piece.source]
            · simp [cutFrom, hclose, hempty, ih, Piece.source, braced]
          · simp [cutFrom, hclose, ih]

/-- The pieces of a template are the template. -/
theorem pieces_source
    (template : Text) :
    (pieces template).flatMap Piece.source = template :=
  cutFrom_source none template

theorem cutFrom_body
    {pending : Option Text} {text body : Text}
    (hpending : ∀ run, pending = some run → '}' ∉ run)
    (hmem : Piece.placeholder body ∈ cutFrom pending text) :
    '}' ∉ body := by
  induction text generalizing pending with
  | nil =>
      cases pending with
      | none => simp [cutFrom] at hmem
      | some run => simp [cutFrom] at hmem
  | cons c text ih =>
      have hnone : ∀ run, (none : Option Text) = some run → '}' ∉ run := fun _ h => by cases h
      cases pending with
      | none =>
          by_cases hopen : c = '{'
          · rw [cutFrom, if_pos hopen] at hmem
            refine ih ?_ hmem
            rintro run ⟨rfl⟩
            exact List.not_mem_nil
          · rw [cutFrom, if_neg hopen, List.mem_cons] at hmem
            rcases hmem with hc | hmem
            · cases hc
            · exact ih hnone hmem
      | some run =>
          have hrun := hpending run rfl
          by_cases hclose : c = '}'
          · by_cases hempty : run = []
            · rw [cutFrom, if_pos hclose, if_pos hempty] at hmem
              simp only [List.mem_cons, reduceCtorEq, false_or] at hmem
              exact ih hnone hmem
            · rw [cutFrom, if_pos hclose, if_neg hempty, List.mem_cons] at hmem
              rcases hmem with hbody | hmem
              · cases hbody
                exact hrun
              · exact ih hnone hmem
          · rw [cutFrom, if_neg hclose] at hmem
            refine ih ?_ hmem
            rintro run' ⟨rfl⟩
            simp [hrun, Ne.symm hclose]

theorem not_mem_body
    {template body : Text}
    (hmem : body ∈ placeholders template) :
    '}' ∉ body := by
  obtain ⟨piece, hpiece, hbody⟩ := List.mem_filterMap.mp hmem
  cases piece with
  | literal c => cases hbody
  | placeholder body' =>
      cases hbody
      exact cutFrom_body (fun _ h => by cases h) hpiece

theorem braced_closed
    {body : Text}
    (hbody : '}' ∉ body) :
    Closed (braced body) :=
  ⟨'{' :: body, '}', rfl, by simp [hbody]⟩

end Pieces

section Contract

variable {context : Context} {template : Text}

/-- A placeholder stands for the first non-empty of its variables. -/
theorem valueOf_eq
    (context : Context)
    (body : Text) :
    valueOf context body = firstNonEmpty context body := by
  have hloop : ∀ names : List Text, firstValue context names =
      names.findSome? fun name => (context (stripped name)).bind (·.filled) := by
    intro names
    induction names with
    | nil => rfl
    | cons name rest ih =>
        rw [firstValue, List.findSome?_cons]
        cases context (stripped name) with
        | none => exact ih
        | some candidate =>
            cases hfilled : candidate.filled with
            | none => simpa [hfilled] using ih
            | some value => simp [hfilled]
  rw [valueOf, firstNonEmpty, hloop]

theorem rendered_nil :
    rendered context [] template = template := by
  calc rendered context [] template
    _ = (pieces template).flatMap Piece.source := by
        refine congrArg List.flatten (List.map_congr_left ?_)
        intro piece _
        cases piece with
        | literal c => rfl
        | placeholder body => simp [Piece.rendered, Piece.source]
    _ = template := pieces_source template

theorem rendered_placeholders :
    rendered context (placeholders template) template = named context template := by
  refine congrArg List.flatten (List.map_congr_left ?_)
  intro piece hpiece
  cases piece with
  | literal c => rfl
  | placeholder body =>
      have hmem : body ∈ placeholders template :=
        List.mem_filterMap.mpr ⟨.placeholder body, hpiece, rfl⟩
      simp [Piece.rendered, hmem]

theorem Piece.awaits_iff
    (done : List Text)
    (body body' : Text) :
    (Piece.placeholder body').awaits done body = true ↔ body' = body ∧ body ∉ done := by
  simp [Piece.awaits]

/-- A step concerns the placeholders with its body. -/
theorem filling_rendered
    (context : Context)
    (done : List Text)
    (body : Text) :
    Filling (braced body) (firstNonEmpty context body) (Piece.awaits done body)
      (Piece.rendered context done) (Piece.rendered context (done ++ [body])) where
  own_old := by
    intro piece hown
    cases piece with
    | literal c => cases hown
    | placeholder body' =>
        obtain ⟨rfl, hnew⟩ := (Piece.awaits_iff done body body').mp hown
        simp [Piece.rendered, hnew]
  own_filled := by
    intro piece hown
    cases piece with
    | literal c => cases hown
    | placeholder body' =>
        obtain ⟨rfl, -⟩ := (Piece.awaits_iff done body body').mp hown
        simp [Piece.rendered]
  other := by
    intro piece hother
    cases piece with
    | literal c => rfl
    | placeholder body' =>
        have hnot : ¬ (body' = body ∧ body ∉ done) := by
          rw [← Piece.awaits_iff, hother]
          exact Bool.false_ne_true
        by_cases hbody : body' = body
        · have hdone : body' ∈ done := by
            by_contra hnew
            exact hnot ⟨hbody, hbody ▸ hnew⟩
          simp [Piece.rendered, hdone]
        · simp [Piece.rendered, hbody]

theorem substituted_concat
    (context : Context)
    (template : Text)
    (done : List Text)
    (body : Text) :
    substituted context template (done ++ [body]) =
      replaceAll (braced body) (firstNonEmpty context body)
        (substituted context template done) := by
  rw [substituted, List.foldl_append, ← valueOf_eq]
  rfl

theorem step_iff
    {done : List Text} {body : Text}
    (hbegins : done ++ [body] <+: placeholders template)
    (hdone : substituted context template done = rendered context done template) :
    substituted context template (done ++ [body]) = rendered context (done ++ [body]) template ↔
      count (braced body) (rendered context done template) =
          (pieces template).countP (·.awaits done body) ∨
        firstNonEmpty context body = braced body := by
  have hmem : body ∈ placeholders template := hbegins.subset (by simp)
  rw [substituted_concat, hdone]
  exact (filling_rendered context done body).replaceAll_iff (braced_closed (not_mem_body hmem)) _

/-- The placeholders of a template are replaced and nothing else exactly where the template
is safe with the values. -/
theorem namingContract_iff
    (template : Text)
    (context : Context) :
    NamingContract template context ↔ SafelyNamed template context := by
  constructor
  · intro hcontract done body hbegins
    exact (step_iff hbegins (hcontract.steps done
      ((List.prefix_append done [body]).trans hbegins))).mp (hcontract.steps _ hbegins)
  · intro hsafe
    have hsteps : ∀ done, done <+: placeholders template →
        substituted context template done = rendered context done template := by
      intro done
      induction done using List.reverseRecOn with
      | nil => exact fun _ => rendered_nil.symm
      | append_singleton done body ih =>
          intro hbegins
          exact (step_iff hbegins (ih ((List.prefix_append done [body]).trans hbegins))).mpr
            (hsafe done body hbegins)
    refine ⟨hsteps, ?_⟩
    rw [applyNamingTemplate, hsteps _ List.prefix_rfl, rendered_placeholders]

end Contract

section Plain

variable {context : Context} {template : Text}

end Plain

end Naming
end SalesAgent
