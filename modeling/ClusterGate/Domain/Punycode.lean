import ClusterGate.Text.Split

/-!
# Punycode

An ASCII form for a text that is not ASCII: first its ASCII characters,
then, after a hyphen, the positions and code points of all others as a
sequence of variable-length numbers. Each number is the distance to the
next insertion in the order of code point and then position, and the
thresholds that end a number adapt to the size of the last one.
-/

namespace ClusterGate.Punycode

/-! ## Parameters -/

def base : Nat := 36
def leastThreshold : Nat := 1
def greatestThreshold : Nat := 26
def initialBias : Nat := 72
def initialCode : Nat := 0x80

/-- The largest number a delta may reach. -/
def greatestDelta : Nat := Nat.pow 2 32 - 1

/-- The digit threshold at place `k`. -/
def threshold (k bias : Nat) : Nat :=
  if k ≤ bias + leastThreshold then leastThreshold
  else if k ≥ bias + greatestThreshold then greatestThreshold
  else k - bias

/-- Counts the steps of the bias down to a small delta. -/
def settle (k delta : Nat) : Nat :=
  if delta > (base - leastThreshold) * greatestThreshold / 2 then
    settle (k + base) (delta / (base - leastThreshold))
  else k + base * delta / (delta + 38)
  termination_by delta
  decreasing_by
    simp only [base, leastThreshold, greatestThreshold] at *
    omega

/-- The bias after a delta, given how many characters there are now. -/
def adapt (delta count : Nat) (first : Bool) : Nat :=
  let d := if first then delta / 700 else delta / 2
  settle 0 (d + d / count)

def digitChar (d : Nat) : Char :=
  if d < 26 then Char.ofNat (0x61 + d) else Char.ofNat (0x30 + (d - 26))

def digitValue? (c : Char) : Option Nat :=
  if 'a' ≤ c ∧ c ≤ 'z' then some (c.toNat - 0x61)
  else if '0' ≤ c ∧ c ≤ '9' then some (c.toNat - 0x30 + 26)
  else none

/-! ## Encoding -/

/-- The digits of one delta from place `k` on. -/
def writeDelta (bias k q : Nat) : List Char :=
  let t := threshold k bias
  if q < t ∨ t = 0 then [digitChar q]
  else digitChar (t + (q - t) % (base - t)) ::
    writeDelta bias (k + base) ((q - t) / (base - t))
  termination_by q
  decreasing_by
    exact Nat.lt_of_le_of_lt (Nat.div_le_self _ _) (by omega)

/-- Where an encoder stands: the characters below `code` are out. -/
structure EncoderState where
  delta : Nat
  bias : Nat
  handled : Nat
  out : List Char

/-- Passes over the text once, writing each occurrence of `code`. -/
def encodeCode (code basic : Nat) (text : List Nat) (s : EncoderState) :
    EncoderState :=
  text.foldl (fun s c =>
    if c < code then { s with delta := s.delta + 1 }
    else if c = code then
      { delta := 0
        bias := adapt s.delta (s.handled + 1) (s.handled == basic)
        handled := s.handled + 1
        out := s.out ++ writeDelta s.bias base s.delta }
    else s) s

/-- Writes the remaining code points in increasing order. -/
def encodeRest : Nat → Nat → Nat → List Nat → EncoderState → EncoderState
  | 0, _, _, _, s => s
  | fuel + 1, code, basic, text, s =>
    match (text.filter (code ≤ ·)).min? with
    | none => s
    | some m =>
      let s :=
        encodeCode m basic text
          { s with delta := s.delta + (m - code) * (s.handled + 1) }
      encodeRest fuel (m + 1) basic text { s with delta := s.delta + 1 }

/-- The ASCII form of a text. -/
def encode (text : List Char) : List Char :=
  let basic := text.filter (·.toNat < initialCode)
  let start := if basic.isEmpty then [] else basic ++ ['-']
  (encodeRest text.length initialCode basic.length (text.map Char.toNat)
    ⟨0, initialBias, basic.length, start⟩).out

/-! ## Decoding -/

/-- Reads one delta from place `k` with weight `w`, adding to `i`. -/
def readDelta? (bias : Nat) :
    Nat → Nat → Nat → List Char → Option (Nat × List Char)
  | _, _, _, [] => none
  | k, w, i, c :: rest =>
    match digitValue? c with
    | none => none
    | some d =>
      let i := i + d * w
      let t := threshold k bias
      if i > greatestDelta then none
      else if d < t then some (i, rest)
      else if w * (base - t) > greatestDelta then none
      else readDelta? bias (k + base) (w * (base - t)) i rest

/-- The character of a code point, surrogates excluded. -/
def charOf? (n : Nat) : Option Char :=
  if h : n.isValidChar then some (Char.ofNatAux n h) else none

/-- Inserts the characters that the remaining digits describe. -/
def decodeRest? :
    Nat → Nat → Nat → Nat → List Char → List Char → Option (List Char)
  | _, _, _, _, out, [] => some out
  | 0, _, _, _, _, _ :: _ => none
  | fuel + 1, code, bias, i, out, digits => do
    let (j, rest) ← readDelta? bias base 1 i digits
    let count := out.length + 1
    let code := code + j / count
    let c ← charOf? code
    let at_ := j % count
    decodeRest? fuel code (adapt (j - i) count (i == 0)) (at_ + 1)
      (out.take at_ ++ c :: out.drop at_) rest

/-- The text an ASCII form stands for. -/
def decode? (form : List Char) : Option (List Char) :=
  let digits := (form.reverse.takeWhile (· != '-')).reverse
  let basic := (form.take (form.length - digits.length)).dropLast
  if form.any (initialCode ≤ ·.toNat) then none
  else if basic.isEmpty then
    decodeRest? form.length initialCode initialBias 0 [] form
  else decodeRest? form.length initialCode initialBias 0 basic digits

end ClusterGate.Punycode
