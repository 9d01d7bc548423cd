import DocumentMapper.Mapping.Error
import DocumentMapper.Query.Expr.Basic

/-!
# Errors of queries

A query can be wrong in itself, call for something that no condition, script or window
expresses, or fail while a constant or a row is evaluated. Each of the three has its
causes, and each cause its wording.

## Main definitions

* `InvalidQuery`, `Unsupported`, `EvaluationError`: The causes.
* `QueryError`: Any of them, or a failure of mapping.
* `QueryError.message`: The wording.
-/

namespace DocumentMapper

/-- Why a query makes no sense. -/
inductive InvalidQuery where
  | parameterOutside
  | noProjectedMember (name : String)
  | conditionWithoutField
  | conflict (path : List String)
  | noLevel (kind : String)
  | noSource
  | computedOrder
  | twoFields
  | withoutField
  | fieldWithoutConstant
  | matchWithReceiver
  | fieldRequired (method : Method)
  /-- The text of a call in a script is no constant. -/
  | scriptTextRequired
  /-- The text of a call in a condition is no constant. -/
  | conditionTextRequired
  | countRequired (clause : String)
  | noQuery (kind : String)
deriving DecidableEq, Repr

/-- What has no form in the language that is asked for. -/
inductive Unsupported where
  | evaluation (kind : String)
  | operation (op : BinaryOp)
  | unary (op : UnaryOp)
  | method (method : Method)
  | member (name : String)
  | expression (kind : String)
  | countedPredicate
  | constant (type : ElementType)
  | aggregate (kind : AggregateKind)
  | innerGrouping
  | skipPastTake
  | skipOverflow
  | emptyTake
  | sizeOperation (op : BinaryOp)
deriving DecidableEq, Repr

/-- Why an evaluation fails. -/
inductive EvaluationError where
  | unboundParameter (name : String)
  | noRow (path : String)
  | noMember (type : ElementType) (name : String)
  | notBoolean (type : ElementType)
  | overflow (op : BinaryOp)
  | negateOverflow
  | invalidShift (amount : Int)
  | divisionByZero
  | incomparable (left right : ElementType)
  | undefinedBinary (op : BinaryOp) (left right : ElementType)
  | undefinedUnary (op : UnaryOp) (type : ElementType)
  | textExpected (method : Method)
  | malformedPattern
  /-- A regular expression takes more than some number of bytes. -/
  | oversizedPattern (limit : Nat)
deriving DecidableEq, Repr

/-- Why a query cannot be answered. -/
inductive QueryError where
  | invalid (cause : InvalidQuery)
  | unsupported (cause : Unsupported)
  | evaluation (cause : EvaluationError)
  | mapping (cause : MappingError)
deriving DecidableEq, Repr

/-- The wording of what makes no sense. -/
def InvalidQuery.message : InvalidQuery → String
  | parameterOutside => "a row parameter is used outside of a select"
  | noProjectedMember name => s!"the projection has no member {name}"
  | conditionWithoutField => "a condition needs a field"
  | conflict path => "conflicting conditions on " ++ String.intercalate "." path
  | noLevel kind => s!"cannot format a {kind} expression as a query"
  | noSource => "Select source is not valid type"
  | computedOrder => "Could not find the field name from the order expression."
  | twoFields => "a comparison cannot relate two fields"
  | withoutField => "a comparison needs a field on one side"
  | fieldWithoutConstant => "a field can only be compared with a constant"
  | matchWithReceiver => "Only the static Regex.IsMatch is supported."
  | fieldRequired method =>
    s!"The mongo field must be the operator for a string operation of type {method.name}."
  | scriptTextRequired => "Expression must be a constant."
  | conditionTextRequired => "a string predicate needs a constant string argument"
  | countRequired clause => s!"{clause} needs a non-negative integer constant"
  | noQuery kind => s!"expected a query, found a {kind} expression"

/-- The wording of what has no form. -/
def Unsupported.message : Unsupported → String
  | evaluation kind => s!"{kind} expressions cannot be evaluated"
  | operation op => s!"The operation {op.name} is not supported."
  | unary op => s!"The unary operator {op.name} is not supported."
  | method m => s!"The method {m.name} is not supported."
  | member name => s!"The member {name} is not supported."
  | expression kind => s!"The expression {kind} is not supported."
  | countedPredicate => "The method Count with a predicate is not supported for field."
  | constant type => s!"The constant of type {type.name} is not supported."
  | aggregate kind => s!"The aggregate {kind.name} is not supported."
  | innerGrouping => "Grouping is only supported on the outermost query."
  | skipPastTake => "A skip that passes the end of an earlier take is not supported."
  | skipOverflow => "The combined skip overflows the skip count."
  | emptyTake => "A take of zero documents is not supported."
  | sizeOperation op => s!"The operation {op.name} is not supported for a size."

/-- The wording of a failed evaluation. -/
def EvaluationError.message : EvaluationError → String
  | unboundParameter name => s!"parameter {name} is not bound to a row"
  | noRow path => s!"field {path} read without a row"
  | noMember type name => s!"{type.name} value has no member {name}"
  | notBoolean type => s!"expected a boolean, found {type.name}"
  | overflow op => s!"{op.name} overflowed"
  | negateOverflow => "Negate overflowed"
  | invalidShift amount => s!"invalid shift amount {integerText amount}"
  | divisionByZero => "division by zero"
  | incomparable left right => s!"cannot compare {left.name} with {right.name}"
  | undefinedBinary op left right =>
    s!"{op.name} is not defined for {left.name} and {right.name}"
  | undefinedUnary op type => s!"{op.name} is not defined for {type.name}"
  | textExpected method => s!"{method.name} expects a string argument"
  | malformedPattern => "regex parse error"
  | oversizedPattern limit => s!"Compiled regex exceeds size limit of {limit} bytes."

/-- The wording of a failure. -/
def QueryError.message : QueryError → String
  | invalid cause => s!"invalid query: {cause.message}"
  | unsupported cause => cause.message
  | evaluation cause => s!"evaluation failed: {cause.message}"
  | mapping cause => cause.message

end DocumentMapper
