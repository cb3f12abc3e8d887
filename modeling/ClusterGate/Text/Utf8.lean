/-!
# UTF-8

Characters as byte sequences and back. Decoding reads one character at a
time (`decodeChar`): either a character, or the number of leading bytes
that cannot be completed to one, or the end of the input inside a
sequence that could still have become one.

Two decoders are built on it. `decode` refuses at the first byte that is
not part of a character and says where, and `decodeLossy` puts one
replacement character in place of each such sequence.
-/

namespace ClusterGate.Utf8

/-! ## Encoding -/

/-- The bytes of one character. -/
def encodeChar (c : Char) : List UInt8 :=
  let n := c.toNat
  if n < 0x80 then [UInt8.ofNat n]
  else if n < 0x800 then
    [UInt8.ofNat (0xC0 + n / 0x40), UInt8.ofNat (0x80 + n % 0x40)]
  else if n < 0x10000 then
    [UInt8.ofNat (0xE0 + n / 0x1000), UInt8.ofNat (0x80 + n / 0x40 % 0x40),
      UInt8.ofNat (0x80 + n % 0x40)]
  else
    [UInt8.ofNat (0xF0 + n / 0x40000), UInt8.ofNat (0x80 + n / 0x1000 % 0x40),
      UInt8.ofNat (0x80 + n / 0x40 % 0x40), UInt8.ofNat (0x80 + n % 0x40)]

/-- The bytes of a text. -/
def encode (text : List Char) : List UInt8 := text.flatMap encodeChar

/-! ## Decoding one character -/

/-- What a non-empty byte sequence starts with. -/
inductive Start where
  /-- A character, and the bytes after it. -/
  | char (c : Char) (rest : List UInt8)
  /-- This many bytes that begin no character. -/
  | invalid (length : Nat)
  /-- The input ends before the character does. -/
  | incomplete
  deriving Repr

/-- Whether a byte continues a sequence. -/
def isTail (b : UInt8) : Bool := 0x80 ≤ b.toNat && b.toNat ≤ 0xBF

/-- The range of the second byte after a first byte of a sequence of three
or four; it excludes overlong forms, surrogates and numbers that are no
code points. -/
def secondRange (first : UInt8) : Nat × Nat :=
  if first = 0xE0 then (0xA0, 0xBF)
  else if first = 0xED then (0x80, 0x9F)
  else if first = 0xF0 then (0x90, 0xBF)
  else if first = 0xF4 then (0x80, 0x8F)
  else (0x80, 0xBF)

def isSecond (first second : UInt8) : Bool :=
  let r := secondRange first
  r.1 ≤ second.toNat && second.toNat ≤ r.2

/-- Six payload bits of a continuation byte. -/
def payload (b : UInt8) : Nat := b.toNat % 0x40

/-- Reads the character that a byte starts, given the bytes after it. -/
def decodeChar (first : UInt8) (rest : List UInt8) : Start :=
  let a := first.toNat
  if a < 0x80 then .char (Char.ofNat a) rest
  else if 0xC2 ≤ a ∧ a ≤ 0xDF then
    match rest with
    | [] => .incomplete
    | b :: rest =>
      if isTail b then .char (Char.ofNat (a % 0x20 * 0x40 + payload b)) rest
      else .invalid 1
  else if 0xE0 ≤ a ∧ a ≤ 0xEF then
    match rest with
    | [] => .incomplete
    | b :: rest =>
      if isSecond first b then
        match rest with
        | [] => .incomplete
        | c :: rest =>
          if isTail c then
            .char (Char.ofNat
              ((a % 0x10 * 0x40 + payload b) * 0x40 + payload c)) rest
          else .invalid 2
      else .invalid 1
  else if 0xF0 ≤ a ∧ a ≤ 0xF4 then
    match rest with
    | [] => .incomplete
    | b :: rest =>
      if isSecond first b then
        match rest with
        | [] => .incomplete
        | c :: rest =>
          if isTail c then
            match rest with
            | [] => .incomplete
            | d :: rest =>
              if isTail d then
                .char (Char.ofNat
                  (((a % 0x08 * 0x40 + payload b) * 0x40 + payload c) * 0x40 +
                    payload d)) rest
              else .invalid 3
          else .invalid 2
      else .invalid 1
  else .invalid 1

/-! ## Decoding a text -/

/-- Where a byte sequence stops being UTF-8: after `validUpTo` bytes come
`length` bytes that begin no character, or the input ends inside one. -/
structure DecodeError where
  validUpTo : Nat
  length : Option Nat
  deriving DecidableEq, Repr

def DecodeError.message (e : DecodeError) : String :=
  match e.length with
  | some n =>
    "invalid utf-8 sequence of " ++ toString n ++ " bytes from index " ++
      toString e.validUpTo
  | none => "incomplete utf-8 byte sequence from index " ++ toString e.validUpTo

/-- Decodes with at most `fuel` characters, `done` bytes into the input. -/
def decodeFrom : Nat → Nat → List UInt8 → Except DecodeError (List Char)
  | _, _, [] => .ok []
  | 0, _, _ :: _ => .ok []
  | fuel + 1, done, first :: rest =>
    match decodeChar first rest with
    | .char c after =>
      (decodeFrom fuel (done + (encodeChar c).length) after).map (c :: ·)
    | .invalid n => .error ⟨done, some n⟩
    | .incomplete => .error ⟨done, none⟩

/-- Decodes a byte sequence that is UTF-8 throughout. -/
def decode (bytes : List UInt8) : Except DecodeError (List Char) :=
  decodeFrom bytes.length 0 bytes

/-- Decodes with at most `fuel` characters, replacing what is no UTF-8. -/
def decodeLossyFrom : Nat → List UInt8 → List Char
  | _, [] => []
  | 0, _ :: _ => []
  | fuel + 1, first :: rest =>
    match decodeChar first rest with
    | .char c after => c :: decodeLossyFrom fuel after
    | .invalid n => '\uFFFD' :: decodeLossyFrom fuel ((first :: rest).drop n)
    | .incomplete => ['\uFFFD']

/-- Decodes a byte sequence, with a replacement character for each part
that is no UTF-8. -/
def decodeLossy (bytes : List UInt8) : List Char :=
  decodeLossyFrom bytes.length bytes

end ClusterGate.Utf8
