import SnippetStudio.Json.Plain

/-!
# What is wrong with a field

A form is filled in from JSON values.  Where a value does not fit its field, an `Issue` says where and
why; a form that is refused carries all issues of its fields, in the order of the fields.
-/

namespace SnippetStudio.Form

inductive Cause where
  | missing
  | notRecord
  /-- neither a record nor a form of this name -/
  | notForm (name : String)
  /-- nothing that has fields -/
  | notObject
  | notText
  | notInteger
  | notIntegerText
  | integerTooLong
  | fractional
  | notFinite
  | notNumber
  | notNumberText
  | notBoolean
  | notBooleanText
  | notChoice (choices : List String)
  /-- a rule of the form itself -/
  | refused (reason : String)
deriving Repr, DecidableEq

namespace Cause

def label : Cause → String
  | missing => "missing"
  | notRecord => "dict_type"
  | notForm _ => "model_type"
  | notObject => "model_attributes_type"
  | notText => "string_type"
  | notInteger => "int_type"
  | notIntegerText => "int_parsing"
  | integerTooLong => "int_parsing_size"
  | fractional => "int_from_float"
  | notFinite => "finite_number"
  | notNumber => "float_type"
  | notNumberText => "float_parsing"
  | notBoolean => "bool_type"
  | notBooleanText => "bool_parsing"
  | notChoice _ => "literal_error"
  | refused _ => "value_error"

/-- choices in a row: `'a', 'b' or 'c'` -/
def choiceText : List String → String
  | [] => ""
  | [c] => "'" ++ c ++ "'"
  | [c, d] => "'" ++ c ++ "' or '" ++ d ++ "'"
  | c :: cs => "'" ++ c ++ "', " ++ choiceText cs

def message : Cause → String
  | missing => "Field required"
  | notRecord => "Input should be a valid dictionary"
  | notForm name => "Input should be a valid dictionary or instance of " ++ name
  | notObject => "Input should be a valid dictionary or object to extract fields from"
  | notText => "Input should be a valid string"
  | notInteger => "Input should be a valid integer"
  | notIntegerText => "Input should be a valid integer, unable to parse string as an integer"
  | integerTooLong => "Unable to parse input string as an integer, exceeded maximum size"
  | fractional => "Input should be a valid integer, got a number with a fractional part"
  | notFinite => "Input should be a finite number"
  | notNumber => "Input should be a valid number"
  | notNumberText => "Input should be a valid number, unable to parse string as a number"
  | notBoolean => "Input should be a valid boolean"
  | notBooleanText => "Input should be a valid boolean, unable to interpret input"
  | notChoice choices => "Input should be " ++ choiceText choices
  | refused reason => "Value error, " ++ reason

/-- the message without the words that introduce a rule of the form -/
def reason : Cause → String
  | refused r => r
  | c => c.message

end Cause

structure Issue where
  /-- the names that lead to the field -/
  path : List String
  cause : Cause
deriving Repr, DecidableEq

end SnippetStudio.Form
