import ApiStubs.Text.Basic

/-! Ascending lists of texts, in code point order, with and without repetitions. -/

namespace ApiStubs.Sorted

def insert (text : Text) : List Text → List Text
  | [] => [text]
  | first :: rest => if text ≤ first then text :: first :: rest else first :: insert text rest

def sort : List Text → List Text
  | [] => []
  | text :: rest => insert text (sort rest)

def insertOnce (text : Text) : List Text → List Text
  | [] => [text]
  | first :: rest =>
      if text < first then text :: first :: rest
      else if text = first then first :: rest
      else first :: insertOnce text rest

def sortOnce : List Text → List Text
  | [] => []
  | text :: rest => insertOnce text (sortOnce rest)

end ApiStubs.Sorted
