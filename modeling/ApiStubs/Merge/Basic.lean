import ApiStubs.Documented.Store
import ApiStubs.Traced

/-! Merging the members that a running program shows with those that a page documents. The state is
the page, of which more sections may be read on the way. -/

namespace ApiStubs

inductive MergeFault
  | detail (fault : DetailFault)
  | made (fault : Fault)

def MergeFault.message : MergeFault → Text
  | .detail fault => fault.message
  | .made fault => fault.message

abbrev Merging (α : Type) : Type := Traced Lookup MergeFault α

namespace Merging

def made {α : Type} : Except Fault α → Merging α := Traced.ofExcept .made

def ask {α : Type} (question : Page → Except DetailFault α × Page) :
    Merging (Option (Text × α)) :=
  Traced.onState .detail fun
    | .missing reason => (.ok none, .missing reason)
    | .found page =>
        let (answer, read) := question page
        (answer.map fun a => some (page.name, a), .found read)

end Merging
end ApiStubs
