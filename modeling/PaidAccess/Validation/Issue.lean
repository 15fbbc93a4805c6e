/-!
What is wrong with an untyped value that should be read as a typed one, and where in it.
-/

namespace PaidAccess

inductive PathStep where
  | field (name : String)
  | index (position : Nat)
  deriving DecidableEq

inductive IssueKind where
  | missing
  | stringType
  | stringUnicode
  | stringPatternMismatch
  | intType
  | intParsing
  | intParsingSize
  | intFromFloat
  | finiteNumber
  | boolType
  | boolParsing
  | floatType
  | floatParsing
  | datetimeType
  | datetimeParsing
  | datetimeFromDateParsing
  | greaterThanEqual
  | lessThanEqual
  | enumValue
  | literalValue
  | dictType
  | listType
  | modelType
  | modelAttributesType
  | jsonInvalid
  deriving DecidableEq

def IssueKind.name : IssueKind → String
  | .missing => "missing"
  | .stringType => "string_type"
  | .stringUnicode => "string_unicode"
  | .stringPatternMismatch => "string_pattern_mismatch"
  | .intType => "int_type"
  | .intParsing => "int_parsing"
  | .intParsingSize => "int_parsing_size"
  | .intFromFloat => "int_from_float"
  | .finiteNumber => "finite_number"
  | .boolType => "bool_type"
  | .boolParsing => "bool_parsing"
  | .floatType => "float_type"
  | .floatParsing => "float_parsing"
  | .datetimeType => "datetime_type"
  | .datetimeParsing => "datetime_parsing"
  | .datetimeFromDateParsing => "datetime_from_date_parsing"
  | .greaterThanEqual => "greater_than_equal"
  | .lessThanEqual => "less_than_equal"
  | .enumValue => "enum"
  | .literalValue => "literal_error"
  | .dictType => "dict_type"
  | .listType => "list_type"
  | .modelType => "model_type"
  | .modelAttributesType => "model_attributes_type"
  | .jsonInvalid => "json_invalid"

structure Issue where
  path : List PathStep
  kind : IssueKind
  deriving DecidableEq

def Issue.within (step : PathStep) (issue : Issue) : Issue :=
  { issue with path := step :: issue.path }

end PaidAccess
