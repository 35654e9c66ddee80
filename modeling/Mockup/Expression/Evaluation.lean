import Mockup.Computed.Defaults
import Mockup.Expression.Basic
import Mockup.Expression.Template
import Mockup.Path.Basic

namespace Mockup

/-!
# Evaluating expressions

An expression is evaluated in an environment: a state tree to read from, and
functions to call.  The result may be undefined: an unresolved path, a missing
branch, or a call that fails.
-/

/-- What an expression is evaluated in. -/
structure Environment where
  state : Value
  /-- Functions given with one evaluation; they come before the others. -/
  callSite : Registry := []
  functions : Registry := Registry.defaults

namespace Environment

/-- The function with a name. -/
def function?
    (environment : Environment)
    (name : String) :
    Option ComputedFunction :=
  Entries.get? environment.callSite name
    <|> Entries.get? environment.functions name

/-- The state at a slash path; the empty path is undefined. -/
def resolve?
    (environment : Environment)
    (path : String) :
    Option Value :=
  if path = "" then
    none
  else
    Path.resolveSlash? environment.state path

/-- The text that stands for a piece of a template. -/
def pieceText
    (environment : Environment) :
    TemplatePiece → String
  | .literal text =>
      String.ofList text
  | .token path =>
      match environment.resolve? (String.ofList (Text.trim path)) with
      | some value =>
          value.display
      | none =>
          ""

/-- A template with its tokens replaced by the state they name. -/
def render
    (environment : Environment)
    (template : String) :
    String :=
  String.join
    ((TemplatePiece.ofText template).map environment.pieceText)

/-- The result of a call, undefined when it fails. -/
def call?
    (environment : Environment)
    (name : String)
    (arguments : List Value) :
    Option Value :=
  match environment.function? name with
  | some function =>
      match function arguments with
      | .ok value =>
          some value
      | .error _ =>
          none
  | none =>
      none

end Environment

namespace Expression

mutual

/-- The value of an expression, undefined when it has none. -/
def eval
    (environment : Environment) :
    Expression → Option Value
  | .state path =>
      match path with
      | .string text =>
          environment.resolve? text
      | _ =>
          none
  | .cond condition comparison whenTrue whenFalse =>
      if passes (eval environment condition) comparison then
        evalBranch environment whenTrue
      else
        evalBranch environment whenFalse
  | .template source =>
      match source with
      | .string text =>
          some (.string (environment.render text))
      | _ =>
          some (.string "")
  | .computed name arguments =>
      environment.call? name.display
        (evalItems environment arguments)
  | .bindState path =>
      match path with
      | .string text =>
          some (.string text)
      | _ =>
          some (.string "")
  | .object fields =>
      some (.map (evalFields environment fields))
  | .list items =>
      some (.list (evalItems environment items))
  | .literal value =>
      some value

/-- The value of a branch; a missing branch is undefined. -/
def evalBranch
    (environment : Environment) :
    Option Expression → Option Value
  | none =>
      none
  | some branch =>
      eval environment branch

/-- The values of items; an undefined item is null. -/
def evalItems
    (environment : Environment) :
    List Expression → List Value
  | [] =>
      []
  | item :: items =>
      (eval environment item).getD .null ::
        evalItems environment items

/-- The values under keys; an undefined key is left out. -/
def evalFields
    (environment : Environment) :
    List (String × Expression) → List (String × Value)
  | [] =>
      []
  | (key, expression) :: fields =>
      match eval environment expression with
      | some value =>
          (key, value) :: evalFields environment fields
      | none =>
          evalFields environment fields

end

end Expression

namespace Environment

/-- The value of a document value read as an expression. -/
def evaluate
    (environment : Environment)
    (expression : Value) :
    Option Value :=
  (Expression.ofValue expression).eval environment

end Environment

end Mockup
