import StagedFlow.Json.Text
import StagedFlow.Render.Config
import StagedFlow.Text.Blank

/-!
# Templates

A template is text with placeholders: two opening braces, the name of a field of the output, two
closing braces. It is filled in one pass from the left; what is filled in is not looked at again.
-/

namespace StagedFlow

inductive RenderFault where
  | missingField (tool field : String)
  | failed (reason : String)
deriving DecidableEq

def RenderFault.message : RenderFault → String
  | missingField tool field =>
    "template for '" ++ tool ++ "' references missing field '" ++ field ++ "'"
  | failed reason => "renderer failed: " ++ reason

/-- A result to be rendered. -/
structure RenderRequest where
  tool : String
  input : Json
  output : Json
  config : RenderConfig
  hint : ClientHint

namespace Template

/-- Splits a text at the first place where two given characters stand together. -/
def splitAt? (mark : Char) : List Char → Option (List Char × List Char)
  | [] => none
  | [_] => none
  | a :: b :: rest =>
    if a = mark ∧ b = mark then some ([], rest)
    else (splitAt? mark (b :: rest)).map fun (before, after) => (a :: before, after)

theorem length_of_splitAt? {mark : Char} {text before after : List Char}
    (h : splitAt? mark text = some (before, after)) : after.length < text.length := by
  fun_induction splitAt? mark text generalizing before after with
  | case1 => simp at h
  | case2 => simp at h
  | case3 a b rest _ =>
    simp only [Option.some.injEq, Prod.mk.injEq] at h
    simp only [← h.2, List.length_cons]
    omega
  | case4 a b rest _ ih =>
    obtain ⟨⟨x, y⟩, hsplit, hpair⟩ := Option.map_eq_some_iff.1 h
    simp only [Prod.mk.injEq] at hpair
    have := ih hsplit
    simp only [← hpair.2, List.length_cons] at this ⊢
    omega

/-- The text that a value fills in: a string itself, any other value as compact JSON. -/
def filler : Json → String
  | .str s => s
  | v => v.compact

/-- Fills a template from the fields of an output. -/
def fill (tool : String) (output : Json) (text : List Char) : Except RenderFault (List Char) :=
  match _hopen : splitAt? '\x7b' text with
  | none => .ok text
  | some (before, inside) =>
    match _hclose : splitAt? '\x7d' inside with
    | none =>
      .error (.failed ("unterminated placeholder in template for '" ++ tool ++ "'"))
    | some (name, after) =>
      let field := String.ofList (Text.trimList name)
      match output.field? field with
      | none => .error (.missingField tool field)
      | some v => (fill tool output after).map fun rest => before ++ (filler v).toList ++ rest
termination_by text.length
decreasing_by
  have h1 := length_of_splitAt? _hopen
  have h2 := length_of_splitAt? _hclose
  omega

/-- The metadata of a rendering: the filled template, its type and the platform. -/
def render (request : RenderRequest) : Except RenderFault (List (String × Json)) :=
  (fill request.tool request.output request.config.template.toList).map fun text =>
    [("ui/html", .str (String.ofList text)),
     ("ui/mimeType", .str request.config.mimeType),
     ("ui/platform", .str request.hint.name)]

end Template

end StagedFlow
