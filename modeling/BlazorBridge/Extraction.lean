import BlazorBridge.Declaration.Candidate
import BlazorBridge.Documentation.Margin
import BlazorBridge.Naming
import BlazorBridge.Parameter
import BlazorBridge.Path

/-!
# Extraction

A candidate is accepted when the documentation block above it states a type and no two of its
parameters share a name. The accepted functions of a file make a module; what is rejected is
reported with its reason and does not touch the rest.
-/

namespace BlazorBridge

/-- A documented function, ready to be wrapped. -/
structure JsFunction where
  name : Text
  parameters : List Parameter := []
  result : Text := WrapperType.void
  isAsync : Bool := false
  documentation : List Text := []
  deriving DecidableEq, Repr

/-- The accepted functions of one file. -/
structure JsModule where
  name : Text
  source : Text
  functions : List JsFunction := []
  deriving DecidableEq, Repr

/-- Why a candidate is rejected. -/
inductive RejectionCause where
  | undocumented
  | repeatedParameters (names : List Text)
  deriving DecidableEq, Repr

/-- The wording of a cause. -/
def RejectionCause.message : RejectionCause → Text
  | .undocumented => "missing required JSDoc comments (@param or @returns type tag)".toList
  | .repeatedParameters names =>
    "duplicate parameter names: ".toList ++ Text.join ", ".toList names

/-- A rejected candidate. -/
structure Rejection where
  name : Text
  cause : RejectionCause
  start : Int
  deriving DecidableEq, Repr

namespace Extraction

/-- The names that occur more than once, each once, in the order of their code points. -/
def repeated (names : List Text) : List Text :=
  ((names.filter fun n => decide (1 < names.count n)).eraseDups).mergeSort Text.le

/-- The result type of a candidate: its annotation counts, and without one the documentation. -/
def resultType (tags : TypeTags) (c : Candidate) : Text :=
  WrapperType.ofAnnotation (if c.result.isEmpty then tags.result.getD [] else c.result)

/-- Accepts or rejects a candidate with the given lines above it, the nearest first. -/
def buildBelow (above : List Text) (c : Candidate) : Except Rejection JsFunction :=
  let tags := Documentation.typeTags above
  if tags.stated then
    let parameters := Parameter.ofList tags c.parameters
    match repeated (parameters.map Parameter.name) with
    | [] =>
      .ok { name := c.name, parameters, result := resultType tags c, isAsync := c.isAsync,
            documentation := Documentation.commentLines above }
    | names => .error ⟨c.name, .repeatedParameters names, c.start⟩
  else .error ⟨c.name, .undocumented, c.start⟩

/-- Accepts or rejects a candidate of a text. -/
def build (t : Text) (c : Candidate) : Except Rejection JsFunction :=
  buildBelow (Documentation.linesAbove (Text.upTo c.start t)) c

/-- The candidates of a text in order, each with its outcome. The lines above them are found in one
pass through the text. -/
def outcomes (t : Text) : List (Candidate × Except Rejection JsFunction) :=
  let margins := (Documentation.Margin.start.along t).toArray
  (Candidate.ofText t).map fun c => (c, buildBelow (Documentation.linesAt t margins c.start) c)

/-- Each candidate is built on its own. -/
theorem outcomes_eq (t : Text) :
    outcomes t = (Candidate.ofText t).map fun c => (c, build t c) := by
  simp only [outcomes, Documentation.linesAt_eq, build]

/-- The functions that are accepted, in order. -/
def accepted (outcomes : List (Candidate × Except Rejection JsFunction)) : List JsFunction :=
  outcomes.filterMap fun (_, outcome) =>
    match outcome with
    | .ok f => some f
    | .error _ => none

/-- The candidates that are rejected, in order. -/
def rejected (outcomes : List (Candidate × Except Rejection JsFunction)) : List Rejection :=
  outcomes.filterMap fun (_, outcome) =>
    match outcome with
    | .ok _ => none
    | .error r => some r

/-- The name of the module in a file. -/
def moduleName (source : Text) : Text := Naming.pascalCase (Path.ofText source).stem

/-- The module that the accepted functions of a file make. -/
def moduleOf (source : Text) (outcomes : List (Candidate × Except Rejection JsFunction)) :
    JsModule where
  name := moduleName source
  source := source
  functions := accepted outcomes

end Extraction

end BlazorBridge
