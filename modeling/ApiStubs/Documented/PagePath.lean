import ApiStubs.Text.Blank
import ApiStubs.Text.Digit

/-! The page of a class: packages are directories, and nested classes are joined by dots. -/

namespace ApiStubs

/-- A segment of a class name that starts with a digit belongs to an anonymous or local class. -/
def isAnonymous (segment : Text) : Bool := (segment.head?.map Text.isDecimalDigit).getD true

def pageName (segments : List Text) : Text :=
  Text.join "." segments ++ ".html"

def pagePath? (className : Text) : Option Text :=
  let text := Text.trim className
  let (package, simple) := (Text.cutAtLast? '.' text).getD ([], text)
  let nested := Text.splitWhen (fun c : CodePoint => c == '$') simple
  if nested.any isAnonymous then none
  else
    let folder := package.map fun c : CodePoint => if c = '.' then .char '/' else c
    some (if package.isEmpty then pageName nested else folder ++ "/" ++ pageName nested)

end ApiStubs
