import ApiStubs.Text.Quoted

/-! UTF-8. Decoding goes one octet at a time and names the run of octets that an ill-formed text
fails on; encoding fails on surrogates. -/

namespace ApiStubs.Utf8

inductive Reason
  | start
  | continuation
  | cut

def Reason.message : Reason → Text
  | .start => "invalid start byte"
  | .continuation => "invalid continuation byte"
  | .cut => "unexpected end of data"

/-- The octets from `start` on, `run` of them, form no character; the first is `octet`. -/
structure Fault where
  octet : UInt8
  start : Nat
  run : Nat
  reason : Reason

/-- A character under way: `seen` octets are read, and the next one lies between the bounds. -/
structure Pending where
  octet : UInt8
  start : Nat
  seen : Nat
  missing : Nat
  low : Nat
  high : Nat
  value : Nat

def Pending.fault (p : Pending) (reason : Reason) : Fault := ⟨p.octet, p.start, p.seen, reason⟩

/-- The second octet excludes overlong forms, surrogates and what lies beyond the last plane. -/
def lead? (position : Nat) (octet : UInt8) : Option Pending :=
  let n := octet.toNat
  let pending missing low high value : Option Pending :=
    some ⟨octet, position, 1, missing, low, high, value⟩
  if n < 0xC2 then none
  else if n < 0xE0 then pending 1 0x80 0xBF (n - 0xC0)
  else if n < 0xF0 then
    pending 2 (if n = 0xE0 then 0xA0 else 0x80) (if n = 0xED then 0x9F else 0xBF) (n - 0xE0)
  else if n < 0xF5 then
    pending 3 (if n = 0xF0 then 0x90 else 0x80) (if n = 0xF4 then 0x8F else 0xBF) (n - 0xF0)
  else none

def decodeFrom (position : Nat) : Option Pending → List UInt8 → Except Fault Text
  | none, [] => .ok []
  | some p, [] => .error (p.fault .cut)
  | none, octet :: rest =>
      if octet.toNat < 0x80 then
        (Char.ofNat octet.toNat :: ·) <$> decodeFrom (position + 1) none rest
      else match lead? position octet with
        | none => .error ⟨octet, position, 1, .start⟩
        | some p => decodeFrom (position + 1) (some p) rest
  | some p, octet :: rest =>
      let n := octet.toNat
      if p.low ≤ n ∧ n ≤ p.high then
        let value := p.value * 64 + n % 64
        if p.missing ≤ 1 then (Char.ofNat value :: ·) <$> decodeFrom (position + 1) none rest
        else decodeFrom (position + 1)
          (some { p with
            seen := p.seen + 1, missing := p.missing - 1, low := 0x80, high := 0xBF,
            value := value }) rest
      else .error (p.fault .continuation)

def decode (octets : List UInt8) : Except Fault Text := decodeFrom 0 none octets

def Fault.message (f : Fault) : Text :=
  let n := f.octet.toNat
  let place : Text :=
    if f.run = 1 then "byte 0x" ++ Text.hexDigits 2 n ++ " in position " ++ toString f.start
    else "bytes in position " ++ toString f.start ++ "-" ++ toString (f.start + f.run - 1)
  "'utf-8' codec can't decode " ++ place ++ ": " ++ f.reason.message

structure Torn where
  first : CodePoint
  start : Nat
  run : Nat
  deriving DecidableEq

def Torn.message (t : Torn) : Text :=
  let place : Text :=
    if t.run = 1 then
      "character '" ++ Text.numericEscape t.first.toNat ++ "' in position " ++ toString t.start
    else "characters in position " ++ toString t.start ++ "-" ++ toString (t.start + t.run - 1)
  "'utf-8' codec can't encode " ++ place ++ ": surrogates not allowed"

def encodeWith (octets? : CodePoint → Option (List UInt8)) (text : Text) :
    Except Torn (List UInt8) :=
  match text.dropWhile fun c => (octets? c).isSome with
  | [] => .ok (text.flatMap fun c => (octets? c).getD [])
  | first :: rest => .error ⟨first, text.length - rest.length - 1,
      (rest.takeWhile CodePoint.isSurrogate).length + 1⟩

def octetsOfChar? : CodePoint → Option (List UInt8)
  | .char c => some (String.utf8EncodeChar c)
  | .surrogate _ => none

def encode (text : Text) : Except Torn (List UInt8) := encodeWith octetsOfChar? text

/-- In the name of a file the last 128 surrogates stand for single octets, from 0x80 on. -/
def octetsInName? : CodePoint → Option (List UInt8)
  | .char c => some (String.utf8EncodeChar c)
  | .surrogate offset =>
      if 0x480 ≤ offset.val ∧ offset.val < 0x500 then some [UInt8.ofNat (offset - 0x400)] else none

def encodeName (name : Text) : Except Torn (List UInt8) := encodeWith octetsInName? name

def size : CodePoint → Nat
  | .char c => c.utf8Size
  | .surrogate _ => 3

end ApiStubs.Utf8
