import Stencil.Builtin
import Stencil.Template
import Stencil.Variables

/-!
# Resolving templates

A resolver replaces the expressions of a template by their values. Builtins are
always computed; any other name is replaced by the value of a variable if the
expression has no modifiers and the variable is defined. Whatever cannot be
replaced stays as it is. Values may hold expressions of their own, which the
next pass replaces, until a pass changes nothing or the passes are used up.
-/

namespace Stencil

/-- The sources and the settings that templates are resolved with. -/
structure Resolver where
  sources : Sources
  settings : Settings := {}

namespace Resolver

/-- The value of an expression that names a builtin. -/
def builtin? (resolver : Resolver) (expression : Expression) : Eval (Option Text) :=
  Builtin.evaluate? resolver.sources resolver.settings.defaultRange expression

/-- What an expression that names no builtin is replaced by. -/
def lookup (vars : Variables) (expression : Expression) : Text :=
  if expression.hasModifiers then expression.text
  else (vars.get? expression.name).getD expression.text

/-- What an expression is replaced by. -/
def replace (resolver : Resolver) (vars : Variables) (expression : Expression) :
    Eval Text := do
  match ← resolver.builtin? expression with
  | some value => return value
  | none => return lookup vars expression

/-- What a piece of a template is replaced by. -/
def replacePiece (resolver : Resolver) (vars : Variables) : Piece → Eval Text
  | .char c => return [c]
  | .expression expression => resolver.replace vars expression

/-- One pass over a template, from left to right. -/
def pass (resolver : Resolver) (vars : Variables) (template : Text) : Eval Text :=
  List.flatten <$> (Template.pieces template).mapM (resolver.replacePiece vars)

/-- Passes over a template until one changes nothing, but no more than the given
number. -/
def passes (resolver : Resolver) (vars : Variables) : Nat → Text → Eval Text
  | 0, template => return template
  | limit + 1, template => do
    let next ← resolver.pass vars template
    if next = template then return template
    else passes resolver vars limit next

/-- The text that a template stands for. Without expressions that is the template itself, and no
pass is made. -/
def resolve (resolver : Resolver) (vars : Variables) (template : Text) : Eval Text :=
  if Template.hasExpressions template then
    resolver.passes vars resolver.settings.passes template
  else return template

end Resolver

namespace Template

/-- The names of a template that are not reserved for builtins, left to right and
with repetitions. -/
def userNames (template : Text) : List Text :=
  (names template).filter fun name => !Builtin.isReserved name

/-- The names of a template that are neither reserved nor defined. -/
def missingNames (vars : Variables) (template : Text) : List Text :=
  (userNames template).filter fun name => !vars.defines name

end Template
end Stencil
