/-!
# Depths of expressions

The depth of a part of an expression is the number of parts around its
innermost one. An expression may not be too deep.
-/

namespace Switchboard.LogFilter.Expression

/-- The depth of a part of an expression. -/
abbrev Depth := Nat

namespace Depth

/-- The greatest depth that an expression may have. -/
def limit : Depth :=
  250

/-- The depth of a part that has nothing in it. -/
def leaf : Depth :=
  0

/-- The depth of a part around others. -/
def around (parts : List Depth) : Depth :=
  parts.foldl max leaf + 1

/-- The depth of some parts one after the other. A part that stands alone has
nothing around it. -/
def row : List Depth → Depth
  | [] => leaf
  | [part] => part
  | parts => around parts

end Depth

end Switchboard.LogFilter.Expression
