/-
**Templates.**

A template is accepted if the expression of each of its placeholders is accepted on its own, and so
is the expression that is assembled from all segments, as it stands and tied to both ends of the
text.  An accepted template tells whether it occurs anywhere in a text; if all of a text conforms, it
gives the values of the placeholders.

Tying an expression to both ends puts a bracket after it, which a comment at the end of the
expression would swallow.  A line feed ends the comment; it is tried if the bracket alone fails.

Main definitions:

* `Template` — a template that was accepted;
* `Template.Error`, `Template.Error.message` — why a template is refused, and the wording;
* `Template.compile` — accept or refuse a template;
* `Template.occursIn` — whether a template occurs in a text;
* `Template.parameters?`, `Template.Parameters` — the values that a text gives to the placeholders.
-/

import ParamTemplate.Template.Segment
import ParamTemplate.Text.Table

set_option autoImplicit false

namespace ParamTemplate

/-- A template that was accepted. -/
structure Template where
  text : List Char
  segments : List Template.Segment
  /-- The assembled expression, which is looked for anywhere in a text. -/
  search : Regex
  /-- The assembled expression, tied to both ends of the text. -/
  whole : Regex

namespace Template

/-! ### Acceptance -/

/-- Why a template is refused. -/
inductive Error where
  /-- The expression of a placeholder is refused. -/
  | placeholder (name pattern : List Char) (cause : Regex.Error)
  /-- The assembled expression is refused. -/
  | build (source : List Char) (cause : Regex.Error)

/-- Why the expression is refused. -/
def Error.cause : Error → Regex.Error
  | placeholder _ _ cause | build _ cause => cause

/-- The wording of an error. -/
def Error.message : Error → List Char
  | placeholder name pattern cause =>
      "placeholder '".toList ++ name ++ "' has an invalid pattern '".toList ++ pattern ++
        "': ".toList ++ cause.message
  | build source cause =>
      "failed to build template regex '".toList ++ source ++ "': ".toList ++ cause.message

/-- An expression, tied to both ends of the text. -/
def anchored (source : List Char) : List Char := "\\A(?:".toList ++ source ++ ")\\z".toList

/-- Accept or refuse an expression that is tied to both ends of the text.  If both forms are refused,
the complaint is about the one without a line feed. -/
def compileWhole (source : List Char) : Except Regex.Error Regex :=
  match Regex.compile (anchored source) with
  | .ok regex => .ok regex
  | .error cause =>
      match Regex.compile (anchored (source ++ ['\n'])) with
      | .ok regex => .ok regex
      | .error _ => .error cause

/-- What is wrong with the expression of a placeholder. -/
def Segment.error? (segment : Segment) : Option Error :=
  match segment.name?, segment.groupCount? with
  | some name, none =>
      match Regex.compile segment.body with
      | .ok _ => none
      | .error cause => some (.placeholder name segment.body cause)
  | _, _ => none

/-- Accept or refuse the expression that is assembled from segments. -/
def build (text : List Char) (segments : List Segment) : Except Error Template :=
  let source := assemble segments
  match Regex.compile source with
  | .error cause => .error (.build source cause)
  | .ok search =>
      match compileWhole source with
      | .error cause => .error (.build source cause)
      | .ok whole => .ok { text, segments, search, whole }

/-- **Accept or refuse a template.**  The first placeholder with a wrong expression is complained
about before anything else. -/
def compile (text : List Char) : Except Error Template :=
  let segments := Segment.ofPieces (Piece.cut text)
  match segments.findSome? Segment.error? with
  | some error => .error error
  | none => build text segments

/-- The number of placeholders. -/
def paramCount (template : Template) : Nat := template.segments.countP Segment.isPlaceholder

/-- The assembled expression. -/
def source (template : Template) : List Char := assemble template.segments

/-! ### Texts -/

/-- Whether a template occurs anywhere in a text. -/
def occursIn (template : Template) (text : List Char) : Bool := template.search.isMatch text

/-- The values that a text gives to the placeholders of a template. -/
structure Parameters where
  segments : List Segment
  captures : Regex.Captures

namespace Parameters

/-- The value of a placeholder, if its group took part in the match. -/
def value? (parameters : Parameters) (segment : Segment) : Option (List Char) :=
  segment.index?.bind parameters.captures.group?

/-- The name and the value of a placeholder. -/
def pair? (parameters : Parameters) (segment : Segment) : Option (List Char × List Char) :=
  match segment.name?, parameters.value? segment with
  | some name, some value => some (name, value)
  | _, _ => none

/-- **Names and values,** in the order of the template. -/
def pairs (parameters : Parameters) : Text.Pairs := parameters.segments.filterMap parameters.pair?

/-- **The value of the first placeholder with a name.** -/
def get? (parameters : Parameters) (name : List Char) : Option (List Char) :=
  (parameters.segments.find? fun segment => segment.name? = some name).bind parameters.value?

/-- The number of placeholders that took part in the match. -/
def size (parameters : Parameters) : Nat := parameters.pairs.length

/-- Whether no placeholder took part in the match. -/
def isEmpty (parameters : Parameters) : Bool := parameters.pairs.isEmpty

/-- Names and values as a table, in which a later placeholder overwrites an earlier one. -/
def toTable (parameters : Parameters) : Text.Pairs := Text.tableOf parameters.pairs

end Parameters

/-- **The values that a text gives to the placeholders,** if all of it conforms. -/
def parameters? (template : Template) (text : List Char) : Option Parameters :=
  (template.whole.captures? text).map fun captures => { segments := template.segments, captures }

/-- The value of the first placeholder with a name, if all of a text conforms. -/
def param? (template : Template) (name text : List Char) : Option (List Char) :=
  (template.parameters? text).bind (·.get? name)

/-- The table of names and values; it is empty if not all of a text conforms. -/
def params (template : Template) (text : List Char) : Text.Pairs :=
  ((template.parameters? text).map Parameters.toTable).getD []

end Template

end ParamTemplate
