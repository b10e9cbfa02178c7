import ApiStubs.Json.Display
import ApiStubs.Text.Utf8

/-! What is wrong with a value that should describe something, where in it, and how it is said. -/

namespace ApiStubs

inductive Step
  | key (name : Text)
  | index (i : Nat)

def Step.text : Step → Text
  | .key name => name
  | .index i => toString i

inductive Issue
  | missing
  | notString
  | tornString
  | emptyString
  | notList
  | notTuple
  | notModel (model : Text)
  | notBoolean
  | unreadableBoolean
  | notInteger
  | unreadableInteger
  | fractional
  | notFinite
  | hugeInteger
  | belowOne
  | notPath
  | tooDeep
  | broken (rule : Text)

def Issue.code : Issue → Text
  | .missing => "missing"
  | .notString => "string_type"
  | .tornString => "string_unicode"
  | .emptyString => "string_too_short"
  | .notList => "list_type"
  | .notTuple => "tuple_type"
  | .notModel _ => "model_type"
  | .notBoolean => "bool_type"
  | .unreadableBoolean => "bool_parsing"
  | .notInteger => "int_type"
  | .unreadableInteger => "int_parsing"
  | .fractional => "int_from_float"
  | .notFinite => "finite_number"
  | .hugeInteger => "int_parsing_size"
  | .belowOne => "greater_than_equal"
  | .notPath => "path_type"
  | .tooDeep => "recursion_depth_exceeded"
  | .broken _ => "value_error"

def Issue.message : Issue → Text
  | .missing => "Field required"
  | .notString => "Input should be a valid string"
  | .tornString =>
      "Input should be a valid string, unable to parse raw data as a unicode string"
  | .emptyString => "String should have at least 1 character"
  | .notList => "Input should be a valid list"
  | .notTuple => "Input should be a valid tuple"
  | .notModel model => "Input should be a valid dictionary or instance of " ++ model
  | .notBoolean => "Input should be a valid boolean"
  | .unreadableBoolean => "Input should be a valid boolean, unable to interpret input"
  | .notInteger => "Input should be a valid integer"
  | .unreadableInteger =>
      "Input should be a valid integer, unable to parse string as an integer"
  | .fractional => "Input should be a valid integer, got a number with a fractional part"
  | .notFinite => "Input should be a finite number"
  | .hugeInteger => "Unable to parse input string as an integer, exceeded maximum size"
  | .belowOne => "Input should be greater than or equal to 1"
  | .tooDeep => "Recursion error - maximum validation depth exceeded"
  | .notPath => "Input is not a valid path for <class 'pathlib.Path'>"
  | .broken rule => "Value error, " ++ Text.mended rule

structure Complaint where
  path : List Step
  issue : Issue
  input : Json

def Complaint.under (step : Step) (c : Complaint) : Complaint := { c with path := step :: c.path }

def Complaint.tag (c : Complaint) : Text := "[type=" ++ c.issue.code ++ "]"

def takeOctets (limit : Nat) : Text → Text
  | [] => []
  | c :: rest => if Utf8.size c ≤ limit then c :: takeOctets (limit - Utf8.size c) rest else []

def abridged (value : Json) : Text :=
  let text := value.inner
  if (text.map Utf8.size).foldl (· + ·) 0 ≤ 50 then text
  else takeOctets 25 text ++ "..." ++ (takeOctets 24 text.reverse).reverse

def Complaint.fullTag (c : Complaint) : Text :=
  "[type=" ++ c.issue.code ++ ", input_value=" ++ (abridged c.input)
    ++ ", input_type=" ++ c.input.kindName ++ "]"

def Complaint.lines (tag : Complaint → Text) (c : Complaint) : List Text :=
  (if c.path.isEmpty then [] else [Text.join "." (c.path.map Step.text)]) ++
    ["  " ++ c.issue.message ++ " " ++ tag c]

inductive Fault
  | emptyType
  | noBaseName (text : Text)
  | invalid (model : Text) (complaints : List Complaint)
  | notIterable (kind : Text)

def countText (count : Nat) (model : Text) : Text :=
  toString count ++ " validation error" ++ (if count = 1 then "" else "s") ++ " for " ++ model

def Fault.messageWith (tag : Complaint → Text) : Fault → Text
  | .emptyType => "Cannot parse empty type text"
  | .noBaseName text => "Missing base type name in type text " ++ Text.quoted text
  | .invalid model complaints =>
      Text.join "\n"
        (countText complaints.length model :: complaints.flatMap (Complaint.lines tag))
  | .notIterable kind => "'" ++ kind ++ "' object is not iterable"

def Fault.message (f : Fault) : Text := f.messageWith Complaint.tag

end ApiStubs
