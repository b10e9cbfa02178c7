import ApiStubs.Console.Columns

/-! Text with the spans that styles cover. Where a span starts or stops the text is shown in
separate pieces, of which each is measured by itself. -/

namespace ApiStubs

structure Span where
  start : Nat
  stop : Nat
  definition : Option Text

namespace Span

def shift (offset : Nat) (s : Span) : Span :=
  { s with start := offset + s.start, stop := offset + s.stop }

def between? (start stop : Nat) (s : Span) : Option Span :=
  let part : Span := ⟨s.start - start, min s.stop stop - start, s.definition⟩
  if part.start < part.stop then some part else none

def upTo? (stop : Nat) (s : Span) : Option Span :=
  if s.start < stop then some { s with stop := min s.stop stop } else none

end Span

structure Styled where
  text : Text
  spans : List Span

namespace Styled

def ofText (text : Text) : Styled := ⟨text, []⟩

def append (a b : Styled) : Styled :=
  ⟨a.text ++ b.text, a.spans ++ b.spans.map (Span.shift a.text.length)⟩

def concat (parts : List Styled) : Styled := parts.foldl append (ofText [])

def between (s : Styled) (start stop : Nat) : Styled :=
  ⟨(s.text.take stop).drop start, s.spans.filterMap (Span.between? start stop)⟩

def cutFrom (s : Styled) (start : Nat) : List Nat → List Styled
  | [] => [s.between start s.text.length]
  | stop :: rest => s.between start stop :: s.cutFrom stop rest

/-- The parts between ascending places. Without any place nothing is cut, and only then an empty
span stays. -/
def cutAt (s : Styled) (places : List Nat) : List Styled :=
  if places.isEmpty then [s] else s.cutFrom 0 places

def take (s : Styled) (count : Nat) : Styled :=
  ⟨s.text.take count, s.spans.filterMap (Span.upTo? count)⟩

def ends (start : Nat) : List Text → List Nat
  | part :: next :: rest => (start + part.length) :: ends (start + part.length) (next :: rest)
  | _ => []

/-- The text in pieces that begin where the text begins or where a span starts or stops. -/
def piecesFrom (isCut : Nat → Bool) (index : Nat) : Text → List Text
  | [] => []
  | c :: rest =>
      match piecesFrom isCut (index + 1) rest with
      | [] => [[c]]
      | piece :: more => if isCut (index + 1) then [c] :: piece :: more else (c :: piece) :: more

def pieces (s : Styled) : List Text :=
  let places := s.spans.flatMap fun span => [span.start, span.stop]
  piecesFrom (fun index => places.contains index) 0 s.text

/-- As much of a piece as a number of columns holds. A cluster that stands half outside becomes a
blank. -/
def fitClusters (columns : Nat) : List Columns.Cluster → Text
  | [] => []
  | cluster :: rest =>
      if cluster.columns ≤ columns then cluster.text ++ fitClusters (columns - cluster.columns) rest
      else List.replicate columns (.char ' ')

def fit (columns : Nat) (piece : Text) : Text := fitClusters columns (Columns.clusters piece)

def fitPieces (columns : Nat) : List Text → Text
  | [] => []
  | piece :: rest =>
      let size := Columns.count piece
      if size < columns then piece ++ fitPieces (columns - size) rest else fit columns piece

def shown (columns : Nat) (line : Styled) : Text :=
  let pieces := line.pieces
  if (pieces.map Columns.count).foldl (· + ·) 0 ≤ columns then line.text else fitPieces columns pieces

end Styled
end ApiStubs
