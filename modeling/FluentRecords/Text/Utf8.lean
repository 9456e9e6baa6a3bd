import FluentRecords.Text.Quoted

/-!
UTF-8. Encoding fails exactly at a run of surrogates, decoding at the longest prefix of a sequence that
no character begins with; either fault names its place and says what is wrong there.
-/

namespace FluentRecords

namespace Text

/-- A text that has no UTF-8 form: the first run of surrogates in it. -/
structure EncodeFault where
  first : CodePoint
  start : Nat
  stop : Nat
deriving DecidableEq

/-- The UTF-8 form of a code point that has one. -/
def encodeOne (c : CodePoint) : List UInt8 :=
  if c < 0x80 then [c.toUInt8]
  else if c < 0x800 then [(0xC0 + c / 64).toUInt8, (0x80 + c % 64).toUInt8]
  else if c < 0x10000 then
    [(0xE0 + c / 4096).toUInt8, (0x80 + c / 64 % 64).toUInt8, (0x80 + c % 64).toUInt8]
  else
    [(0xF0 + c / 262144).toUInt8, (0x80 + c / 4096 % 64).toUInt8, (0x80 + c / 64 % 64).toUInt8,
      (0x80 + c % 64).toUInt8]

/-- The number of bytes of a code point's UTF-8 form. -/
def encodedSize (c : CodePoint) : Nat :=
  if c < 0x80 then 1 else if c < 0x800 then 2 else if c < 0x10000 then 3 else 4

/-- The number of bytes of a text's UTF-8 form. -/
def encodedLength : Text → Nat
  | [] => 0
  | c :: rest => encodedSize c + encodedLength rest

/-- Whether a code point has no UTF-8 form: a surrogate, or a number that is none. -/
def isUnencodable (c : CodePoint) : Bool :=
  isSurrogate c || 0x10FFFF < c

/-- The first run of code points without a UTF-8 form, counting from `start`. -/
def encodeFault? (start : Nat) : Text → Option EncodeFault
  | [] => none
  | c :: rest =>
    if isUnencodable c then some ⟨c, start, start + 1 + (rest.takeWhile isUnencodable).length⟩
    else encodeFault? (start + 1) rest

/-- The UTF-8 form of a text, if it has one. -/
def encode (t : Text) : Except EncodeFault (List UInt8) :=
  match encodeFault? 0 t with
  | some f => .error f
  | none => .ok (t.flatMap encodeOne)

/-- How an encoding fault is reported. -/
def EncodeFault.message (f : EncodeFault) : Text :=
  if f.stop = f.start + 1 then
    "'utf-8' codec can't encode character '" ++ numericEscape f.first ++ "' in position "
      ++ ofNat f.start ++ ": surrogates not allowed"
  else
    "'utf-8' codec can't encode characters in position " ++ ofNat f.start ++ "-" ++ ofNat (f.stop - 1)
      ++ ": surrogates not allowed"

/-- What is wrong with a byte sequence. -/
inductive DecodeCause
  | startByte
  | continuation
  | truncated
deriving DecidableEq

/-- Bytes that are not UTF-8: the first offending byte and the range that is rejected. -/
structure DecodeFault where
  byte : UInt8
  start : Nat
  stop : Nat
  cause : DecodeCause
deriving DecidableEq

/-- The wording of a cause. -/
def DecodeCause.message : DecodeCause → Text
  | .startByte => "invalid start byte"
  | .continuation => "invalid continuation byte"
  | .truncated => "unexpected end of data"

/-- How a decoding fault is reported. -/
def DecodeFault.message (f : DecodeFault) : Text :=
  if f.stop = f.start + 1 then
    "'utf-8' codec can't decode byte 0x" ++ hex 2 f.byte.toNat ++ " in position " ++ ofNat f.start
      ++ ": " ++ f.cause.message
  else
    "'utf-8' codec can't decode bytes in position " ++ ofNat f.start ++ "-" ++ ofNat (f.stop - 1)
      ++ ": " ++ f.cause.message

/-- A continuation byte carries six bits. -/
def isContinuationByte (b : Nat) : Bool :=
  0x80 ≤ b && b < 0xC0

/-- Whether `b` may follow the lead byte: the shortest form is required, surrogates and values above
the last code point are excluded. -/
def isSecondByte (lead b : Nat) : Bool :=
  isContinuationByte b
    && !(lead == 0xE0 && b < 0xA0) && !(lead == 0xED && 0xA0 ≤ b)
    && !(lead == 0xF0 && b < 0x90) && !(lead == 0xF4 && 0x90 ≤ b)

/-- Decodes the character that begins with `lead`; the answer has its value and length, or the length
of the rejected prefix with the cause. -/
def decodeLead (lead : Nat) (rest : List UInt8) : Except (Nat × DecodeCause) (CodePoint × Nat) :=
  let rest := (rest.take 3).map UInt8.toNat
  if lead < 0x80 then .ok (lead, 1)
  else if lead < 0xC2 || 0xF4 < lead then .error (1, .startByte)
  else match rest with
    | [] => .error (1, .truncated)
    | b :: rest =>
      if !isSecondByte lead b then .error (1, .continuation)
      else if lead < 0xE0 then .ok ((lead - 0xC0) * 64 + (b - 0x80), 2)
      else match rest with
        | [] => .error (2, .truncated)
        | c :: rest =>
          if !isContinuationByte c then .error (2, .continuation)
          else if lead < 0xF0 then .ok ((lead - 0xE0) * 4096 + (b - 0x80) * 64 + (c - 0x80), 3)
          else match rest with
            | [] => .error (3, .truncated)
            | d :: _ =>
              if !isContinuationByte d then .error (3, .continuation)
              else .ok ((lead - 0xF0) * 262144 + (b - 0x80) * 4096 + (c - 0x80) * 64 + (d - 0x80), 4)

/-- Decoding from a position on; `skip` bytes belong to the character before. -/
def decodeFrom (position skip : Nat) : List UInt8 → Except DecodeFault Text
  | [] => .ok []
  | b :: rest =>
    match skip with
    | k + 1 => decodeFrom (position + 1) k rest
    | 0 =>
      match decodeLead b.toNat rest with
      | .ok (c, size) => (decodeFrom (position + 1) (size - 1) rest).map (c :: ·)
      | .error (size, cause) => .error ⟨b, position, position + size, cause⟩

/-- The text with the given UTF-8 form. -/
def decode (bs : List UInt8) : Except DecodeFault Text :=
  decodeFrom 0 0 bs

end Text

end FluentRecords
