import ApiStubs.ClassStub

/-! The result of a run: every exposed class is merged, excluded or skipped. -/

namespace ApiStubs

structure SkippedClass where
  name : Text
  reason : Text
  deriving DecidableEq

structure Compilation where
  classes : List ClassStub
  excluded : List Text
  skipped : List SkippedClass
  unusedExclusions : List Text
  total : Int
  deriving DecidableEq

namespace SkippedClass

def toJson (s : SkippedClass) : Json := .obj [("name", .str s.name), ("reason", .str s.reason)]

def parts (s : SkippedClass) : List RecordPart := [.text s.name, .text s.reason]

def check : Json → Checked SkippedClass := Json.checkModel "SkippedClass" fun members =>
  SkippedClass.mk <$> checkMember members "name" Json.checkString
    <*> checkMember members "reason" Json.checkString

end SkippedClass

namespace Compilation

def toJson (r : Compilation) : Json :=
  .obj [("classes", .arr (r.classes.map ClassStub.toJson)), ("excluded", .strings r.excluded),
    ("skipped", .arr (r.skipped.map SkippedClass.toJson)),
    ("unused_exclusions", .strings r.unusedExclusions), ("total", .int r.total)]

def parts (r : Compilation) : List RecordPart :=
  r.classes.flatMap ClassStub.parts ++ RecordPart.texts r.excluded
    ++ r.skipped.flatMap SkippedClass.parts ++ RecordPart.texts r.unusedExclusions

def record (r : Compilation) : Except RecordFault Json := recordOf r.parts r.toJson

def textRecord (r : Compilation) : Except RecordFault Json := textRecordOf r.parts r.toJson

def check : Json → Checked Compilation := Json.checkModel "CompilationResult" fun members =>
  Compilation.mk <$> checkMemberOr [] members "classes" (Json.checkList ClassStub.check)
    <*> checkMemberOr [] members "excluded" Json.checkStrings
    <*> checkMemberOr [] members "skipped" (Json.checkList SkippedClass.check)
    <*> checkMemberOr [] members "unused_exclusions" Json.checkStrings
    <*> checkMemberOr 0 members "total" Json.checkInteger

def classNames (r : Compilation) : List Text := r.classes.map ClassStub.name

def class? (r : Compilation) (name : Text) : Option ClassStub :=
  r.classes.find? (·.name == name)

end Compilation
end ApiStubs
