import ConnectionCatalog.Connection.Kind
import ConnectionCatalog.Text.Quoted

/-! # Field.Fault — what is wrong with the fields of a record

A check of a record reports every field that is at fault, not only the first.
An `Issue` is a fault together with the path to the field, and `Invalid` says
which kind of record was refused and why.
-/

namespace ConnectionCatalog

/-- What is wrong with the value of one field. -/
inductive FieldFault
  | missing
  | frozen
  | notText
  | undecodable
  | notMember
  | notChoice (choices : List String)
  | notMap
  | notWhole
  | fractional
  | unreadableWhole
  | oversizedWhole
  | notFinite
  | notBool
  | unreadableBool
  | unknownLevel (text : String)
deriving DecidableEq, Repr

/-- A list of choices in quotes, the last two joined by "or". -/
def orList : List String → String
  | [] => ""
  | [a] => Text.quote a
  | [a, b] => Text.quote a ++ " or " ++ Text.quote b
  | a :: rest => Text.quote a ++ ", " ++ orList rest

namespace FieldFault

/-- The short code of a fault. -/
def code : FieldFault → String
  | missing => "missing"
  | frozen => "frozen_instance"
  | notText => "string_type"
  | undecodable => "string_unicode"
  | notMember => "enum"
  | notChoice _ => "literal_error"
  | notMap => "dict_type"
  | notWhole => "int_type"
  | fractional => "int_from_float"
  | unreadableWhole => "int_parsing"
  | oversizedWhole => "int_parsing_size"
  | notFinite => "finite_number"
  | notBool => "bool_type"
  | unreadableBool => "bool_parsing"
  | unknownLevel _ => "value_error"

def message : FieldFault → String
  | missing => "Field required"
  | frozen => "Instance is frozen"
  | notText => "Input should be a valid string"
  | undecodable =>
    "Input should be a valid string, unable to parse raw data as a unicode string"
  | notMember => "Input should be " ++ orList (ConnectionType.all.map ConnectionType.name)
  | notChoice choices => "Input should be " ++ orList choices
  | notMap => "Input should be a valid dictionary"
  | notWhole => "Input should be a valid integer"
  | fractional => "Input should be a valid integer, got a number with a fractional part"
  | unreadableWhole => "Input should be a valid integer, unable to parse string as an integer"
  | oversizedWhole => "Unable to parse input string as an integer, exceeded maximum size"
  | notFinite => "Input should be a finite number"
  | notBool => "Input should be a valid boolean"
  | unreadableBool => "Input should be a valid boolean, unable to interpret input"
  | unknownLevel text => "Value error, Unknown log level '" ++ text ++ "'"

end FieldFault

/-- A fault and the path to the field that has it. -/
structure Issue where
  path : List String
  fault : FieldFault
deriving DecidableEq, Repr

/-- A kind of record, with all that is wrong with what was offered for it. -/
structure Invalid where
  record : String
  issues : List Issue
deriving DecidableEq, Repr

/-- The number of issues, in words. -/
def Invalid.message (e : Invalid) : String :=
  toString e.issues.length ++ " validation error" ++ (if e.issues.length = 1 then "" else "s") ++
    " for " ++ e.record

end ConnectionCatalog
