import StepForge.Value.Basic

/-!
# `StepForge.Template.Expr` — the parts of a template

## Contents
- `Expr` — what can stand between the marks of an output or behind the word of a statement.
- `Node` — literal text, outputs and statements.
-/

namespace StepForge.Template

/-- How two values are compared. -/
inductive Comparison where
  | equal
  | different
  | less
  | atMost
  | greater
  | atLeast
  | member
  | notMember
  deriving DecidableEq

/-- An operation on two values. -/
inductive Operation where
  | plus
  | minus
  | times
  | quotient
  | remainder
  | concat
  deriving DecidableEq

/-- An expression of a template. -/
inductive Expr where
  | literal (v : Value)
  | name (n : Text)
  | list (items : List Expr)
  | map (entries : List (Expr × Expr))
  | attribute (e : Expr) (n : Text)
  | item (e key : Expr)
  | slice (e start stop step : Expr)
  | filter (e : Expr) (name : Text) (args : List Expr)
  | test (e : Expr) (name : Text) (args : List Expr)
  | negation (e : Expr)
  | both (a b : Expr)
  | either (a b : Expr)
  | compare (a : Expr) (how : Comparison) (b : Expr)
  | operate (how : Operation) (a b : Expr)
  | minus (e : Expr)
  | choose (condition yes no : Expr)
  | absent
  deriving Inhabited

/-- A part of a template. -/
inductive Node where
  | text (t : Text)
  | output (e : Expr)
  | branch (condition : Expr) (yes no : List Node)
  | loop (names : List Text) (source : Expr) (body otherwise : List Node)
  | assign (name : Text) (e : Expr)
  deriving Inhabited

end StepForge.Template
