/-!
# Operators

The operators between two values, and the special methods by which the class of an operand says
what an operator does to its instances.
-/

namespace Deferred

/-- An operator between two values. -/
inductive BinaryOperator where
  | add
  | subtract
  | multiply
  | divide
  | floorDivide
  | remainder
  /-- The whole quotient together with the remainder. -/
  | divideWithRemainder
  | power
  | shiftLeft
  | shiftRight
  | both
  | either
  | differing
  | less
  | atMost
  | equal
  | unequal
  | greater
  | atLeast
  deriving DecidableEq, Repr, Inhabited

namespace BinaryOperator

/-- The special methods for the operators: by the first operand and, with the operands exchanged, by
the second. -/
def methods : List (BinaryOperator × String × String) := [
  (add, "__add__", "__radd__"), (subtract, "__sub__", "__rsub__"),
  (multiply, "__mul__", "__rmul__"), (divide, "__truediv__", "__rtruediv__"),
  (floorDivide, "__floordiv__", "__rfloordiv__"), (remainder, "__mod__", "__rmod__"),
  (divideWithRemainder, "__divmod__", "__rdivmod__"), (power, "__pow__", "__rpow__"),
  (shiftLeft, "__lshift__", "__rlshift__"), (shiftRight, "__rshift__", "__rrshift__"),
  (both, "__and__", "__rand__"), (either, "__or__", "__ror__"), (differing, "__xor__", "__rxor__"),
  (less, "__lt__", "__gt__"), (atMost, "__le__", "__ge__"), (equal, "__eq__", "__eq__"),
  (unequal, "__ne__", "__ne__"), (greater, "__gt__", "__lt__"), (atLeast, "__ge__", "__le__")]

/-- The special method for an operator, and the one with the operands exchanged. -/
def methodNames (operator : BinaryOperator) : String × String :=
  (methods.lookup operator).getD ("", "")

/-- Does an operator compare? -/
def compares (operator : BinaryOperator) : Bool :=
  [less, atMost, equal, unequal, greater, atLeast].contains operator

/-- The operator that a special method stands for. -/
def ofMethod? (name : String) : Option BinaryOperator :=
  (methods.find? fun (_, first, _) => first = name).map Prod.fst

/-- The operator that a special method stands for with the operands exchanged. -/
def ofExchanged? (name : String) : Option BinaryOperator :=
  (methods.find? fun (operator, _, second) => !operator.compares && second = name).map Prod.fst

/-- Does a comparison hold of two values that stand in an order to each other? -/
def holds (operator : BinaryOperator) (order : Ordering) : Bool :=
  match operator with
  | less => order == .lt
  | atMost => order != .gt
  | greater => order == .gt
  | atLeast => order != .lt
  | unequal => order != .eq
  | _ => order == .eq

end BinaryOperator

end Deferred
