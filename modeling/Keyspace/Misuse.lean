import Keyspace.Text.Decimal

/-! # Misuse

    A misuse is an operation asked of values that it is not for: an order
    between things without one, an argument too many, a field that cannot be
    set. Each cause carries what its message names; values are named by their
    types.
-/

namespace Keyspace

/-! ## Section 1: Causes -/

/-- The ordering questions. -/
inductive OrderOp where
  | less
  | lessEq
  | greater
  | greaterEq
deriving DecidableEq

/-- The sign of an ordering question. -/
def OrderOp.sign : OrderOp → String
  | less => "<"
  | lessEq => "<="
  | greater => ">"
  | greaterEq => ">="

/-- What is done to a field. -/
inductive FieldAction where
  | set
  | delete
deriving DecidableEq

/-- The least or the greatest of a list. -/
inductive Extreme where
  | least
  | greatest
deriving DecidableEq

/-- What follows the contents of a value. -/
inductive Pursuit where
  | telling
  | comparing
deriving DecidableEq

/-- Why an operation does not apply. -/
inductive Misuse where
  /-- A value of the type has no such attribute. -/
  | noAttribute (typeName name : String)
  /-- A field of a path is set or deleted. -/
  | immutablePath (action : FieldAction) (field : String)
  /-- A field of a record is set or deleted, whose name is quoted. -/
  | frozenField (action : FieldAction) (quotedField : String)
  /-- A value among texts to be joined is no text. -/
  | notJoinable (position : Nat) (typeName : String)
  /-- An argument is missing. -/
  | missingArgument (callee argument : String)
  /-- A named argument is unknown. -/
  | unexpectedArgument (callee argument : String)
  /-- An argument is given by position and by name. -/
  | repeatedArgument (callee argument : String)
  /-- There are more arguments by position than one; named ones are counted
      if they can only be named. -/
  | tooManyArguments (callee : String) (given namedOnly : Nat)
  /-- Values of these types have no order. -/
  | unordered (op : OrderOp) (left right : String)
  /-- No text can be appended to a value of this type. -/
  | notExtendable (typeName : String)
  /-- A text is appended to a list. -/
  | listExtendedByText
  /-- Values of these types cannot be divided. -/
  | indivisible (left right : String)
  /-- An integer is divided by zero. -/
  | divisionByZero
  /-- A number is divided by the floating-point number zero. -/
  | divisionByFloatZero
  /-- The quotient of two integers is too large for a floating-point number. -/
  | quotientTooLarge
  /-- An integer is too large for a floating-point number. -/
  | integerTooLarge
  /-- An integer has too many digits to be written. -/
  | tooManyDigits
  /-- A text that denotes no number, in quotes. -/
  | notANumeral (quoted : String)
  /-- An index within the bounds is no integer. -/
  | notAnIndex
  /-- A bound within the bounds is no integer. -/
  | notABound
  /-- A value of this type has no hash. -/
  | unhashable (typeName : String)
  /-- An empty list has no least or greatest item. -/
  | emptyList (extreme : Extreme)
  /-- The options of a configuration are no dictionary. -/
  | optionsNotDict
  /-- A value that contains itself is followed without end. -/
  | endless (pursuit : Pursuit)
deriving DecidableEq

/-! ## Section 2: Categories and messages -/

/-- The categories of misuse. -/
inductive MisuseCategory where
  | typeMismatch
  | missingAttribute
  | frozen
  | noValue
  | zeroDivision
  | overflow
  | recursion
deriving DecidableEq

/-- The name of a category. -/
def MisuseCategory.name : MisuseCategory → String
  | typeMismatch => "TypeError"
  | missingAttribute => "AttributeError"
  | frozen => "FrozenInstanceError"
  | noValue => "ValueError"
  | zeroDivision => "ZeroDivisionError"
  | overflow => "OverflowError"
  | recursion => "RecursionError"

namespace Misuse

/-- The category of a misuse. -/
def category : Misuse → MisuseCategory
  | noAttribute _ _ | immutablePath _ _ => .missingAttribute
  | frozenField _ _ => .frozen
  | emptyList _ | notANumeral _ | tooManyDigits => .noValue
  | divisionByZero | divisionByFloatZero => .zeroDivision
  | quotientTooLarge | integerTooLarge => .overflow
  | endless _ => .recursion
  | _ => .typeMismatch

/-- A type or a name in single quotes. -/
def inQuotes (s : String) : String := "'" ++ s ++ "'"

/-- A function as it is called. -/
def called (callee : String) : String := callee ++ "()"

/-- The message of a misuse. -/
def message : Misuse → String
  | noAttribute t a => inQuotes t ++ " object has no attribute " ++ inQuotes a
  | immutablePath action f =>
    "S3Path is immutable: cannot " ++
      (match action with
        | .set => "set "
        | .delete => "delete ") ++ inQuotes f
  | frozenField action f =>
    (match action with
      | .set => "cannot assign to field "
      | .delete => "cannot delete field ") ++ f
  | notJoinable position t =>
    "sequence item " ++ toString position ++ ": expected str instance, " ++ t ++ " found"
  | missingArgument c a =>
    called c ++ " missing 1 required positional argument: " ++ inQuotes a
  | unexpectedArgument c a =>
    called c ++ " got an unexpected keyword argument " ++ inQuotes a
  | repeatedArgument c a => called c ++ " got multiple values for argument " ++ inQuotes a
  | tooManyArguments c given namedOnly =>
    called c ++ " takes from 1 to 2 positional arguments but " ++ toString given ++
      (match namedOnly with
        | 0 => ""
        | 1 => " positional arguments (and 1 keyword-only argument)"
        | n => " positional arguments (and " ++ toString n ++ " keyword-only arguments)") ++
      " were given"
  | unordered op l r =>
    inQuotes op.sign ++ " not supported between instances of " ++ inQuotes l ++ " and " ++
      inQuotes r
  | notExtendable t => "unsupported operand type(s) for +: " ++ inQuotes t ++ " and 'str'"
  | listExtendedByText => "can only concatenate list (not \"str\") to list"
  | indivisible l r =>
    "unsupported operand type(s) for /: " ++ inQuotes l ++ " and " ++ inQuotes r
  | divisionByZero => "division by zero"
  | divisionByFloatZero => "float division by zero"
  | quotientTooLarge => "integer division result too large for a float"
  | integerTooLarge => "int too large to convert to float"
  | tooManyDigits =>
    "Exceeds the limit (" ++ toString Text.digitLimit ++
      " digits) for integer string conversion; use sys.set_int_max_str_digits() to increase " ++
        "the limit"
  | notANumeral q => "could not convert string to float: " ++ q
  | notAnIndex => "tuple indices must be integers or slices, not float"
  | notABound => "slice indices must be integers or None or have an __index__ method"
  | unhashable t => "unhashable type: " ++ inQuotes t
  | emptyList extreme =>
    (match extreme with
      | .least => "min"
      | .greatest => "max") ++ "() arg is an empty sequence"
  | optionsNotDict => "Expected 'options' to be a dict"
  | endless pursuit =>
    "maximum recursion depth exceeded" ++
      (match pursuit with
        | .telling => ""
        | .comparing => " in comparison")

end Misuse

end Keyspace
