/-
Text written in ASCII letters, digits and hyphens.

The ASCII characters come first as they are, with a hyphen behind them if there are any.
The others follow in the order of their numbers, each as the distance from the one before
it, counted in characters and places where it could stand.  A distance is written in digits
of base 36 with a threshold for every digit that says where a number ends; the thresholds
adapt to the distances so far.
-/

namespace ModuleLoader.Url.Punycode

/-- A digit as it is written. -/
def digitChar (d : Nat) : Char :=
  if d < 26 then Char.ofNat ('a'.toNat + d) else Char.ofNat ('0'.toNat + (d - 26))

/-- The value of a digit. -/
def digit? (c : Char) : Option Nat :=
  if 'a' ≤ c ∧ c ≤ 'z' then some (c.toNat - 'a'.toNat)
  else if 'A' ≤ c ∧ c ≤ 'Z' then some (c.toNat - 'A'.toNat)
  else if '0' ≤ c ∧ c ≤ '9' then some (c.toNat - '0'.toNat + 26)
  else none

/-- The threshold of the digit with the weight index `k`. -/
def threshold (bias k : Nat) : Nat := min 26 (max 1 (k - bias))

/-- Scales a distance down until it is small, and counts the steps. -/
def scale (delta steps : Nat) : Nat × Nat :=
  if 455 < delta then scale (delta / 35) (steps + 1) else (delta, steps)
termination_by delta
decreasing_by omega

/-- The bias after a distance that was written when `count` characters were. -/
def adapt (delta count : Nat) (first : Bool) : Nat :=
  let halved := if first then delta / 700 else delta / 2
  let (delta, steps) := scale (halved + halved / count) 0
  36 * steps + 36 * delta / (delta + 38)

/-- The digits of a distance. -/
def digits (bias k delta : Nat) : List Char :=
  let t := threshold bias k
  if delta < t then [digitChar delta]
  else digitChar (t + (delta - t) % (36 - t)) :: digits bias (k + 36) ((delta - t) / (36 - t))
termination_by delta
decreasing_by
  have : 1 ≤ threshold bias k := by unfold threshold; omega
  have := Nat.div_le_self (delta - threshold bias k) (36 - threshold bias k)
  omega

/-- Writing in progress. -/
structure Writer where
  written : List Char
  delta : Nat := 0
  bias : Nat := 72
  count : Nat

/-- Goes past one character of the text while the characters with the number `n` are
written; `basic` is how many are ASCII. -/
def Writer.pass (basic n : Nat) (w : Writer) (c : Nat) : Writer :=
  if c < n then { w with delta := w.delta + 1 }
  else if c = n then
    { written := w.written ++ digits w.bias 36 w.delta
      delta := 0
      bias := adapt w.delta (w.count + 1) (w.count = basic)
      count := w.count + 1 }
  else w

/-- Writes the characters with the numbers `pending`, which ascend; `n` is the first number
that has not been dealt with. -/
def writeAll (text : List Nat) (basic : Nat) : List Nat → Nat → Writer → Writer
  | [], _, w => w
  | m :: pending, n, w =>
    let w := { w with delta := w.delta + (m - n) * (w.count + 1) }
    let w := text.foldl (Writer.pass basic m) w
    writeAll text basic pending (m + 1) { w with delta := w.delta + 1 }

/-- A text in ASCII. -/
def encode (text : List Nat) : List Char :=
  let basic := text.filter (· < 0x80)
  let others := ((text.filter (0x80 ≤ ·)).mergeSort (· ≤ ·)).eraseDups
  let start := basic.map Char.ofNat ++ (if basic.isEmpty then [] else ['-'])
  (writeAll text basic.length others 0x80 { written := start, count := basic.length }).written

/-- Reads a distance: the sum, and the digits left. -/
def distance? (bias : Nat) : Nat → Nat → Nat → List Char → Option (Nat × List Char)
  | _, _, _, [] => none
  | k, weight, sum, c :: rest =>
    match digit? c with
    | none => none
    | some d =>
      let sum := sum + d * weight
      let t := threshold bias k
      if d < t then some (sum, rest) else distance? bias (k + 36) (weight * (36 - t)) sum rest

theorem length_of_distance? {bias k weight sum : Nat} {cs : List Char} {r : Nat × List Char}
    (h : distance? bias k weight sum cs = some r) : r.2.length < cs.length := by
  induction cs generalizing k weight sum with
  | nil => simp [distance?] at h
  | cons c rest ih =>
    unfold distance? at h
    split at h
    · simp at h
    · dsimp only at h
      split at h
      · cases h
        simp
      · have := ih h
        simp only [List.length_cons]
        omega

/-- Reads the characters that are not ASCII into their places. -/
def readAll (n place bias : Nat) (first : Bool) (text : List Nat) (cs : List Char) :
    Option (List Nat) :=
  match cs with
  | [] => some text
  | c :: cs =>
    match _h : distance? bias 36 1 place (c :: cs) with
    | none => none
    | some (sum, rest) =>
      let count := text.length + 1
      let n := n + sum / count
      let index := sum % count
      if 0x10FFFF < n then none
      else readAll n (index + 1) (adapt (sum - place) count first) false (text.insertIdx index n) rest
termination_by cs.length
decreasing_by
  have := length_of_distance? _h
  simpa using this

/-- The text that was written in ASCII. -/
def decode? (written : List Char) : Option (List Nat) :=
  let after := (written.reverse.takeWhile (· ≠ '-')).reverse
  let before := written.take (written.length - after.length - 1)
  if before.all fun c => c.toNat < 0x80 then
    readAll 0x80 0 72 true (before.map Char.toNat) after
  else none

end ModuleLoader.Url.Punycode
