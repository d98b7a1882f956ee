import StepForge.Text.Basic

/-!
# `StepForge.Text.Utf8` — texts as bytes

A text is written in UTF-8, which has no form for a surrogate. Bytes are read in UTF-8 without
overlong forms and surrogates; the longest beginning of a form that goes wrong is one fault.

## Contents
- `encodePoint?`, `encode` — the bytes of a code point and of a text, with `EncodeFault`.
- `Form`, `forms` — bytes cut into code points and faults.
- `decode`, `decodeShown` — the text of bytes, with `DecodeFault` or with faulty bytes shown.
- `universalLines` — line ends of all systems as line feeds.
-/

namespace StepForge.Utf8

/-! ## Writing -/

/-- A surrogate is half of a pair of 16-bit units and has no form of its own. -/
def isSurrogate (c : CodePoint) : Bool := 0xD800 ≤ c && c ≤ 0xDFFF

/-- A byte behind the first one of a form: six bits of the code point. -/
def tailByte (bits : Nat) : UInt8 := UInt8.ofNat (0x80 + bits % 0x40)

/-- The form of a code point: one to four bytes. -/
def encodePoint? (c : CodePoint) : Option (List UInt8) :=
  if c < 0x80 then some [UInt8.ofNat c]
  else if c < 0x800 then some [UInt8.ofNat (0xC0 + c / 0x40), tailByte c]
  else if isSurrogate c then none
  else if c < 0x10000 then some [UInt8.ofNat (0xE0 + c / 0x1000), tailByte (c / 0x40), tailByte c]
  else if c < 0x110000 then
    some [UInt8.ofNat (0xF0 + c / 0x40000), tailByte (c / 0x1000), tailByte (c / 0x40), tailByte c]
  else none

/-- A run of code points without a form: the first of them, its position and the length of the run. -/
structure EncodeFault where
  first : CodePoint
  position : Nat
  length : Nat
  deriving DecidableEq

/-- The bytes of a text whose first code point stands at `position`. -/
def encodeFrom (position : Nat) : Text → Except EncodeFault (List UInt8)
  | [] => .ok []
  | c :: t =>
      match encodePoint? c with
      | some bytes => (encodeFrom (position + 1) t).map (bytes ++ ·)
      | none => .error ⟨c, position, 1 + (t.takeWhile isSurrogate).length⟩

/-- The bytes of a text. -/
def encode (t : Text) : Except EncodeFault (List UInt8) := encodeFrom 0 t

/-- The text of the fault. -/
def EncodeFault.message (f : EncodeFault) : Text :=
  if f.length = 1 then
    ("'utf-8' codec can't encode character '\\u" : Text) ++ Text.hex 4 f.first ++ "' in position "
      ++ Text.ofNat f.position ++ ": surrogates not allowed"
  else
    ("'utf-8' codec can't encode characters in position " : Text) ++ Text.ofNat f.position ++ "-"
      ++ Text.ofNat (f.position + f.length - 1) ++ ": surrogates not allowed"

/-! ## Reading -/

/-- What is wrong with bytes. -/
inductive DecodeReason where
  | start
  | continuation
  | ending
  deriving DecidableEq

/-- A code point with the number of its bytes, or faulty bytes. -/
inductive Form where
  | point (c : CodePoint) (width : Nat)
  | faulty (bytes : List UInt8) (reason : DecodeReason)

/-- Whether a byte can stand behind the first byte of a form. -/
def isTail (b : UInt8) : Bool := 0x80 ≤ b && b ≤ 0xBF

/-- Whether `b` can be the second byte of a form that begins with `a`: the first forms of each length
leave out what a shorter form has, `ED` leaves out the surrogates, and `F4` ends with the last code point. -/
def isSecond (a b : UInt8) : Bool :=
  if a = 0xE0 then 0xA0 ≤ b && b ≤ 0xBF
  else if a = 0xED then 0x80 ≤ b && b ≤ 0x9F
  else if a = 0xF0 then 0x90 ≤ b && b ≤ 0xBF
  else if a = 0xF4 then 0x80 ≤ b && b ≤ 0x8F
  else isTail b

/-- The bits of a byte behind the first one. -/
def tailBits (b : UInt8) : Nat := b.toNat - 0x80

/-- The form that a byte begins, given the bytes behind it. -/
def firstForm (a : UInt8) (rest : List UInt8) : Form :=
  if a < 0x80 then .point a.toNat 1
  else if a < 0xC2 || 0xF4 < a then .faulty [a] .start
  else match rest with
    | [] => .faulty [a] .ending
    | b :: rest =>
        if !isSecond a b then .faulty [a] .continuation
        else if a < 0xE0 then .point ((a.toNat - 0xC0) * 0x40 + tailBits b) 2
        else match rest with
          | [] => .faulty [a, b] .ending
          | c :: rest =>
              if !isTail c then .faulty [a, b] .continuation
              else if a < 0xF0 then
                .point ((a.toNat - 0xE0) * 0x1000 + tailBits b * 0x40 + tailBits c) 3
              else match rest with
                | [] => .faulty [a, b, c] .ending
                | d :: _ =>
                    if !isTail d then .faulty [a, b, c] .continuation
                    else .point ((a.toNat - 0xF0) * 0x40000 + tailBits b * 0x1000 + tailBits c * 0x40
                      + tailBits d) 4

/-- The number of bytes of a form. -/
def Form.width : Form → Nat
  | point _ width => width
  | faulty bytes _ => bytes.length

/-- Bytes cut into forms; the count says how many bytes belong to a form already found. -/
def formsFrom : Nat → List UInt8 → List Form
  | _, [] => []
  | k + 1, _ :: bytes => formsFrom k bytes
  | 0, a :: bytes =>
      let form := firstForm a bytes
      form :: formsFrom (form.width - 1) bytes

/-- Bytes cut into forms. -/
def forms (bytes : List UInt8) : List Form := formsFrom 0 bytes

/-- Faulty bytes with their position. -/
structure DecodeFault where
  bytes : List UInt8
  position : Nat
  reason : DecodeReason
  deriving DecidableEq

/-- The text of forms whose first byte stands at `position`. -/
def textOfForms (position : Nat) : List Form → Except DecodeFault Text
  | [] => .ok []
  | .point c width :: rest => (textOfForms (position + width) rest).map (c :: ·)
  | .faulty bytes reason :: _ => .error ⟨bytes, position, reason⟩

/-- The text of bytes. -/
def decode (bytes : List UInt8) : Except DecodeFault Text := textOfForms 0 (forms bytes)

/-- The text of bytes, each faulty byte shown in hexadecimal. -/
def decodeShown (bytes : List UInt8) : Text :=
  (forms bytes).flatMap fun
    | .point c _ => [c]
    | .faulty bytes _ => bytes.flatMap fun b => ("\\x" : Text) ++ Text.hex 2 b.toNat

/-- The text of a reason. -/
def DecodeReason.message : DecodeReason → Text
  | .start => "invalid start byte"
  | .continuation => "invalid continuation byte"
  | .ending => "unexpected end of data"

/-- The text of the fault: the byte if it is one, otherwise the span of positions. -/
def DecodeFault.message (f : DecodeFault) : Text :=
  let place : Text := match f.bytes with
    | [b] => ("byte 0x" : Text) ++ Text.hex 2 b.toNat ++ " in position " ++ Text.ofNat f.position
    | bytes =>
        ("bytes in position " : Text) ++ Text.ofNat f.position ++ "-"
          ++ Text.ofNat (f.position + bytes.length - 1)
  ("'utf-8' codec can't decode " : Text) ++ place ++ ": " ++ f.reason.message

/-! ## Line ends -/

/-- A carriage return with or without a line feed behind it is one line feed. -/
def universalLines : Text → Text
  | [] => []
  | 13 :: 10 :: t => 10 :: universalLines t
  | 13 :: t => 10 :: universalLines t
  | c :: t => c :: universalLines t

end StepForge.Utf8
