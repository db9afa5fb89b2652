/-!
# Punycode

Labels beyond ASCII are written in ASCII: first their ASCII characters, then, after a hyphen, the
places of the others as numbers of variable length in base 36. The thresholds of the digits adapt to
the distances met so far.
-/

namespace Precis.Host.Punycode

/-- The base of the numbers. -/
def base : Nat := 36

/-- The bias before the first number. -/
def initialBias : Nat := 72

/-- The first character beyond ASCII. -/
def initialCode : Nat := 128

/-- Brings a distance into the range of the last digit, and counts the steps. -/
def reduce (delta k : Nat) : Nat × Nat :=
  if 455 < delta then reduce (delta / 35) (k + base) else (delta, k)
termination_by delta
decreasing_by omega

/-- The bias after a distance between `points` characters. -/
def adapt (delta points : Nat) (first : Bool) : Nat :=
  let delta := if first then delta / 700 else delta / 2
  let (delta, k) := reduce (delta + delta / points) 0
  k + base * delta / (delta + 38)

/-- The threshold of the digit at `k`. -/
def threshold (k bias : Nat) : Nat := min (max (k - bias) 1) 26

/-- The character of a digit. -/
def digit (d : Nat) : Char := if d < 26 then Char.ofNat (97 + d) else Char.ofNat (22 + d)

/-- The digit of a character. -/
def digit? (c : Char) : Option Nat :=
  if 'a' ≤ c && c ≤ 'z' then some (c.toNat - 97)
  else if 'A' ≤ c && c ≤ 'Z' then some (c.toNat - 65)
  else if '0' ≤ c && c ≤ '9' then some (c.toNat - 22)
  else none

/-! ## Encoding -/

/-- A number of variable length. -/
def number (bias k q : Nat) : List Char :=
  let t := threshold k bias
  if q < t then [digit q]
  else digit (t + (q - t) % (base - t)) :: number bias (k + base) ((q - t) / (base - t))
termination_by q
decreasing_by
  have h1 : 1 ≤ threshold k bias := by unfold threshold; omega
  have h2 : threshold k bias ≤ 26 := by unfold threshold; omega
  have h3 : 10 ≤ base - threshold k bias := by unfold base; omega
  have h4 : (q - threshold k bias) / (base - threshold k bias) ≤ (q - threshold k bias) / 10 :=
    Nat.div_le_div_left h3 (by omega)
  omega

/-- How far an encoding has come. -/
structure Progress where
  delta : Nat := 0
  bias : Nat := initialBias
  /-- The number of characters written. -/
  handled : Nat
  first : Bool := true
  /-- The digits written, from the last one back. -/
  out : List Char := []

/-- Passes over one character of the text while the characters `code` are written. -/
def pass (code : Nat) (p : Progress) (c : Char) : Progress :=
  if c.toNat < code then { p with delta := p.delta + 1 }
  else if c.toNat = code then
    { delta := 0
      bias := adapt p.delta (p.handled + 1) p.first
      handled := p.handled + 1
      first := false
      out := (number p.bias base p.delta).reverse ++ p.out }
  else p

/-- Writes the characters `codes`, ascending, of a text; the next code would be `next`. -/
def writeCodes (s : List Char) (next : Nat) (p : Progress) : List Nat → Progress
  | [] => p
  | code :: codes =>
    let p := { p with delta := p.delta + (code - next) * (p.handled + 1) }
    let p := s.foldl (pass code) p
    writeCodes s (code + 1) { p with delta := p.delta + 1 } codes

/-- Puts a code into an ascending list that holds each code once. -/
def insertCode (n : Nat) : List Nat → List Nat
  | [] => [n]
  | m :: rest =>
    if n < m then n :: m :: rest else if n = m then m :: rest else m :: insertCode n rest

/-- The encoding of a text. -/
def encode (s : List Char) : List Char :=
  let basic := s.filter (·.toNat < initialCode)
  let codes := (s.filter (initialCode ≤ ·.toNat)).foldr (fun c codes => insertCode c.toNat codes) []
  let p := writeCodes s initialCode { handled := basic.length } codes
  basic ++ (if basic.isEmpty then [] else ['-']) ++ p.out.reverse

/-! ## Decoding -/

/-- How far a decoding has come. -/
structure Reading where
  place : Nat := 0
  /-- The place before the present number. -/
  before : Nat := 0
  weight : Nat := 1
  k : Nat := base
  code : Nat := initialCode
  bias : Nat := initialBias
  text : List Char

/-- The last digit of a number was read: a character is put into its place. -/
def Reading.placed (r : Reading) : Option Reading :=
  let points := r.text.length + 1
  let code := r.code + r.place / points
  let place := r.place % points
  if code < 0x110000 && !(0xD800 ≤ code && code < 0xE000) then
    some
      { place := place + 1
        before := place + 1
        code
        bias := adapt (r.place - r.before) points (r.before = 0)
        text := r.text.take place ++ Char.ofNat code :: r.text.drop place }
  else none

/-- Reads one digit. -/
def Reading.next (r : Reading) (c : Char) : Option Reading := do
  let d ← digit? c
  let t := threshold r.k r.bias
  let r := { r with place := r.place + d * r.weight }
  if d < t then r.placed else some { r with weight := r.weight * (base - t), k := r.k + base }

/-- Reads digits to their end, which is the end of a number. -/
def readDigits (r : Reading) : List Char → Option (List Char)
  | [] => if r.k = base then some r.text else none
  | c :: rest => (r.next c).bind fun r => readDigits r rest

/-- What stands before the last hyphen, and what after it. -/
def splitLast (s : List Char) : List Char × List Char :=
  let tail := s.reverse.takeWhile (· != '-')
  let head := s.reverse.drop (tail.length + 1)
  (head.reverse, tail.reverse)

/-- The text of an encoding. -/
def decode (s : List Char) : Option (List Char) :=
  let (basic, digits) := splitLast s
  if basic.isEmpty && s.contains '-' then none
  else readDigits { text := basic } digits

end Precis.Host.Punycode
