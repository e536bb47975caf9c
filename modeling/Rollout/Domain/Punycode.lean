/-!
# Punycode

A label of a host name with characters outside of ASCII is written with its ASCII characters first
and then the places of all others, as differences in a base of 36 digits with moving thresholds.
-/

namespace Rollout.Punycode

/-- The character of a digit: letters first, then numerals. -/
def digit (d : Nat) : Char :=
  if d < 26 then Char.ofNat ('a'.toNat + d) else Char.ofNat ('0'.toNat + d - 26)

/-- The digit of a character. -/
def digit? (c : Char) : Option Nat :=
  if c.isLower then some (c.toNat - 'a'.toNat)
  else if c.isUpper then some (c.toNat - 'A'.toNat)
  else if c.isDigit then some (c.toNat - '0'.toNat + 26)
  else none

/-- The threshold of the digit at position `k`, counted in steps of 36. -/
def threshold (k bias : Nat) : Nat :=
  min 26 (max 1 (k - bias))

/-- The bias after a difference among `count` characters. -/
def adapt (difference count : Nat) (isFirst : Bool) : Nat :=
  let d := if isFirst then difference / 700 else difference / 2
  shrink 64 (d + d / count) 0
where
  /-- Divide until the difference is small, counting the positions passed. -/
  shrink : (fuel : Nat) → Nat → Nat → Nat
    | 0, _, k => k
    | fuel + 1, d, k => if 455 < d then shrink fuel (d / 35) (k + 36) else k + 36 * d / (d + 38)

/-- The digits of a difference, at most `fuel` of them. -/
def difference (bias : Nat) : (fuel : Nat) → (q k : Nat) → List Char
  | 0, _, _ => []
  | fuel + 1, q, k =>
    let t := threshold k bias
    if q < t then [digit q]
    else digit (t + (q - t) % (36 - t)) :: difference bias fuel ((q - t) / (36 - t)) (k + 36)

/-- The state of writing a label. -/
structure Writer where
  /-- The characters written so far, as they were and as differences. -/
  output : List Char
  delta : Nat
  bias : Nat
  /-- How many characters have found their place. -/
  handled : Nat
  isFirst : Bool

/-- Pass over one character of the label on behalf of the code point `n`. -/
def Writer.pass (n : Nat) (w : Writer) (c : Char) : Writer :=
  if c.toNat < n then { w with delta := w.delta + 1 }
  else if c.toNat = n then
    { output := w.output ++ difference w.bias (w.delta + 1) w.delta 36
      delta := 0
      bias := adapt w.delta (w.handled + 1) w.isFirst
      handled := w.handled + 1
      isFirst := false }
  else w

/-- Place all occurrences of a code point that follows the code point `previous`. -/
def Writer.place (label : List Char) (state : Writer × Nat) (n : Nat) : Writer × Nat :=
  let (w, previous) := state
  let w := { w with delta := w.delta + (n - previous) * (w.handled + 1) }
  let w := label.foldl (Writer.pass n) w
  ({ w with delta := w.delta + 1 }, n + 1)

/-- Put a code point into an ascending list without repetition. -/
def insertCode (n : Nat) : List Nat → List Nat
  | [] => [n]
  | m :: ms => if n < m then n :: m :: ms else if n = m then m :: ms else m :: insertCode n ms

/-- The ASCII form of a label, without its mark. -/
def encode (label : List Char) : List Char :=
  let basic := label.filter fun c => c.toNat < 0x80
  let codes := (label.filter fun c => 0x80 ≤ c.toNat).foldl (fun ns c => insertCode c.toNat ns) []
  let start : Writer :=
    { output := if basic = [] then [] else basic ++ ['-']
      delta := 0, bias := 72, handled := basic.length, isFirst := true }
  (codes.foldl (Writer.place label) (start, 0x80)).1.output

/-- Read the digits of a difference: its value and the rest. -/
def readDifference? (bias : Nat) : List Char → (i weight k : Nat) → Option (Nat × List Char)
  | [], _, _, _ => none
  | c :: rest, i, weight, k => do
    let d ← digit? c
    let t := threshold k bias
    let i := i + d * weight
    if d < t then return (i, rest) else readDifference? bias rest i (weight * (36 - t)) (k + 36)

/-- Insert the characters of the differences into a label, at most `fuel` of them. -/
def insertAll? : (fuel : Nat) → (label : List Char) → (n i bias : Nat) → List Char →
    Option (List Char)
  | _, label, _, _, _, [] => some label
  | 0, _, _, _, _, _ => none
  | fuel + 1, label, n, i, bias, text => do
    let (next, rest) ← readDifference? bias text i 1 36
    let count := label.length + 1
    let n := n + next / count
    let place := next % count
    if n < 0x110000 ∧ ¬(0xd800 ≤ n ∧ n < 0xe000) then
      insertAll? fuel (label.take place ++ Char.ofNat n :: label.drop place) n (place + 1)
        (adapt (next - i) count (i = 0 && label.all fun c => c.toNat < 0x80)) rest
    else none

/-- The label of an ASCII form without its mark. The last hyphen ends the ASCII characters of the
label, unless there are none before it. -/
def decode? (text : List Char) : Option (List Char) :=
  let behind := (text.reverse.takeWhile (· ≠ '-')).reverse
  let basic := (text.take (text.length - behind.length)).dropLast
  if basic = [] ∧ behind ≠ text then none
  else insertAll? (text.length + 1) basic 0x80 0 72 behind

end Rollout.Punycode
