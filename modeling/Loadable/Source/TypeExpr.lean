/-
# Type expressions

Types as source text spells them.  Only what is asked of a type is kept of its structure; beside
that its tokens are kept, as the type is written back.
-/

import Loadable.Source.Token

namespace Loadable
namespace Source

mutual

/-- A type expression. -/
inductive TypeExpr where
  /-- A path; `qualified` if it goes through a type in angle brackets, `rooted` if it starts with
  colons. -/
  | path (qualified rooted : Bool) (segments : List Segment) (tokens : List Token)
  | reference (tokens : List Token)
  /-- A type in parentheses. -/
  | paren (elem : TypeExpr) (tokens : List Token)
  /-- Any other type. -/
  | other (tokens : List Token)

/-- A part of a path. -/
inductive Segment where
  | mk (name : String) (arguments : Arguments)

/-- What stands behind a part of a path. -/
inductive Arguments where
  | none
  /-- In angle brackets. -/
  | angled (args : List GenericArg)
  /-- In parentheses. -/
  | parenthesized

/-- An argument in angle brackets. -/
inductive GenericArg where
  | lifetime
  | type (t : TypeExpr)
  | other

end

deriving instance Repr for TypeExpr, Segment, Arguments, GenericArg

namespace Segment

def name : Segment → String
  | mk n _ => n

def arguments : Segment → Arguments
  | mk _ a => a

end Segment

/-- Whether there are no arguments, not even empty brackets. -/
def Arguments.isNone : Arguments → Bool
  | none => true
  | _ => false

/-- A path: whether it starts with colons, and its parts. -/
structure Path where
  rooted : Bool
  segments : List Segment
  deriving Repr

namespace Path

/-- Whether no part has arguments. -/
def isPlain (p : Path) : Bool := p.segments.all (·.arguments.isNone)

/-- Whether the path is nothing but a word. -/
def isWord (p : Path) (s : String) : Bool :=
  match p.segments with
  | [.mk name .none] => !p.rooted && name = s
  | _ => false

end Path

namespace TypeExpr

/-- The type as it is written back. -/
def tokens : TypeExpr → List Token
  | path _ _ _ ts => ts
  | reference ts => ts
  | paren _ ts => ts
  | other ts => ts

/-- The path that the type is, unless it goes through a type in angle brackets. -/
def toPath? : TypeExpr → Option Path
  | path false rooted segments _ => some ⟨rooted, segments⟩
  | _ => none

end TypeExpr

end Source
end Loadable
