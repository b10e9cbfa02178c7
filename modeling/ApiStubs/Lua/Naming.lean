import ApiStubs.Text.Blank
import ApiStubs.Text.Lower

/-! Names that annotation stubs may use: built-in types in lower case, and an underscore in front of
a reserved word. -/

namespace ApiStubs.Lua

def reservedWords : List Text :=
  ["and", "break", "do", "else", "elseif", "end", "false", "for", "function", "goto", "if", "in",
   "local", "nil", "not", "or", "repeat", "return", "then", "true", "until", "while"]

def builtInTypes : List Text :=
  ["any", "boolean", "function", "nil", "number", "self", "string", "table", "thread", "userdata",
   "void"]

def isReserved (s : Text) : Bool := reservedWords.contains s

def isBuiltIn (s : Text) : Bool := builtInTypes.contains (Text.lower s)

def typeName (s : Text) : Text :=
  let t := Text.trim s
  if isBuiltIn t then Text.lower t else t

def identifier (s : Text) : Text :=
  let t := Text.trim s
  if isReserved t then "_" ++ t else t

def anyName (s : Text) : Text := identifier (typeName s)

end ApiStubs.Lua
