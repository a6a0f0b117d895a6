import TrafficFeed.Text.Numeral

/-!
# Names in ASCII

A name is written in ASCII as its ASCII characters, followed by what is needed to put the others
in: for each of them, in the order of their code points, how many places are passed over since
the last one was put in. The places of a name of `n` characters are counted over and over, once
for each code point. The counts are written in base 36 with digits whose weights adapt to the
counts before them.
-/

namespace TrafficFeed.Idn.Punycode

/-! ### Digits -/

/-- The digit of a value below 36: `a` to `z`, then `0` to `9`. -/
def digit (n : Nat) : Char := if n < 26 then Char.ofNat (97 + n) else Char.ofNat (22 + n)

/-- The value of a digit; capital letters count as small ones. -/
def digit? (c : Char) : Option Nat :=
  if 'a' ≤ c ∧ c ≤ 'z' then some (c.toNat - 97)
  else if 'A' ≤ c ∧ c ≤ 'Z' then some (c.toNat - 65)
  else if '0' ≤ c ∧ c ≤ '9' then some (c.toNat - 22)
  else none

/-! ### Counts -/

/-- From which value on the digit at place `k` is not the last one. -/
def threshold (bias k : Nat) : Nat := min 26 (max 1 (36 * (k + 1) - bias))

theorem threshold_pos (bias k : Nat) : 1 ≤ threshold bias k := by
  unfold threshold; omega

theorem threshold_le (bias k : Nat) : threshold bias k ≤ 26 := by
  unfold threshold; omega

/-- Divides a count until it is small, and adds up the weight of the divisions. -/
def settle (delta weight : Nat) : Nat :=
  if 455 < delta then settle (delta / 35) (weight + 36)
  else weight + 36 * delta / (delta + 38)
termination_by delta
decreasing_by omega

/-- The bias after a count, when the name has `size` characters. -/
def adapt (delta size : Nat) (isFirst : Bool) : Nat :=
  let delta := if isFirst then delta / 700 else delta / 2
  settle (delta + delta / size) 0

/-- A count in digits, from place `k` on. -/
def writeCount (bias k q : Nat) : List Char :=
  let t := threshold bias k
  if q < t then [digit q]
  else digit (t + (q - t) % (36 - t)) :: writeCount bias (k + 1) ((q - t) / (36 - t))
termination_by q
decreasing_by
  have := threshold_pos bias k
  have := threshold_le bias k
  calc (q - threshold bias k) / (36 - threshold bias k)
      ≤ q - threshold bias k := Nat.div_le_self _ _
    _ < q := by omega

/-- Reads a count, of which `sum` has been read and whose next digit has the given weight. -/
def readCount (bias : Nat) : (k sum weight : Nat) → List Char → Option (Nat × List Char)
  | _, _, _, [] => none
  | k, sum, weight, c :: cs => do
    let d ← digit? c
    let t := threshold bias k
    if d < t then some (sum + d * weight, cs)
    else readCount bias (k + 1) (sum + d * weight) (weight * (36 - t)) cs

/-- Counts in digits, one after the other; `size` is the number of characters already there. -/
def writeCounts (bias size : Nat) (isFirst : Bool) : List Nat → List Char
  | [] => []
  | q :: qs =>
    writeCount bias 0 q ++ writeCounts (adapt q (size + 1) isFirst) (size + 1) false qs

theorem readCount_length {bias k sum weight : Nat} {cs : List Char} {r : Nat × List Char}
    (h : readCount bias k sum weight cs = some r) : r.2.length < cs.length := by
  induction cs generalizing k sum weight with
  | nil => simp [readCount] at h
  | cons c cs ih =>
    simp only [readCount, bind, Option.bind] at h
    split at h
    · simp at h
    · dsimp only at h
      split at h
      · obtain rfl := Option.some.inj h; simp
      · exact Nat.lt_succ_of_lt (ih h)

/-- Reads counts to the end of the text. -/
def readCounts (bias size : Nat) (isFirst : Bool) (cs : List Char) : Option (List Nat) :=
  if cs = [] then some []
  else
    match h : readCount bias 0 0 1 cs with
    | none => none
    | some (q, rest) =>
      have := readCount_length h
      (readCounts (adapt q (size + 1) isFirst) (size + 1) false rest).map (q :: ·)
termination_by cs.length

/-! ### Putting characters in -/

/-- Puts characters into a name of code points: `n` is the code point under way, and `i` the
place from which places are counted. -/
def insertAll (name : List Nat) (n i : Nat) : List Nat → List Nat
  | [] => name
  | q :: qs =>
    let places := name.length + 1
    let n := n + (i + q) / places
    let i := (i + q) % places
    insertAll (name.take i ++ n :: name.drop i) n (i + 1) qs

/-- The counts for the code point `m` in a name, from a count of `passed` on, when `present`
says how far the places are filled: smaller code points are passed over. Gives the counts and
what is passed over at the end. -/
def countsOf (m : Nat) : (passed : Nat) → List Nat → List Nat × Nat
  | passed, [] => ([], passed)
  | passed, c :: cs =>
    if c < m then countsOf m (passed + 1) cs
    else if c = m then
      let (qs, last) := countsOf m 0 cs
      (passed :: qs, last)
    else countsOf m passed cs

/-- The counts for the code points `ms`, in rising order, of the name `cs`; `n` is the code point
after the last one done, and `present` the number of characters already put in. -/
def countsFrom (cs : List Nat) : (n passed present : Nat) → (ms : List Nat) → List Nat
  | _, _, _, [] => []
  | n, passed, present, m :: ms =>
    let (qs, last) := countsOf m (passed + (m - n) * (present + 1)) cs
    qs ++ countsFrom cs (m + 1) (last + 1) (present + qs.length) ms

/-- Puts a number into a rising list that does not hold it yet. -/
def insertNew (m : Nat) : List Nat → List Nat
  | [] => [m]
  | k :: ks => if m < k then m :: k :: ks else if m = k then k :: ks else k :: insertNew m ks

/-- The members of a list in rising order, each once. -/
def rising (ns : List Nat) : List Nat := ns.foldr insertNew []

def isBasic (n : Nat) : Bool := n < 0x80

/-- The counts that put the characters beyond ASCII into a name. -/
def counts (cs : List Nat) : List Nat :=
  countsFrom cs 0x80 0 (cs.filter isBasic).length (rising (cs.filter fun n => !isBasic n))

/-! ### Names -/

def firstBias : Nat := 72

/-- A name in ASCII. -/
def encode (name : List Char) : List Char :=
  let codes := name.map Char.toNat
  let basic := name.filter fun c => isBasic c.toNat
  let separator := if basic.isEmpty then [] else ['-']
  basic ++ separator ++ writeCounts firstBias basic.length true (counts codes)

/-- The parts of a list before and after the last `sep`; `none` if it holds none. -/
def splitLast? (sep : Char) : List Char → Option (List Char × List Char)
  | [] => none
  | c :: cs =>
    match splitLast? sep cs with
    | some (a, b) => some (c :: a, b)
    | none => if c = sep then some ([], cs) else none

def char? (n : Nat) : Option Char := if n.isValidChar then some (Char.ofNat n) else none

/-- Reads a name in ASCII back; `none` if it is not the form of any name. -/
def decode (text : List Char) : Option (List Char) := do
  let (basic, digits) := match splitLast? '-' text with
    | some ([], _) => ([], text)
    | some (basic, digits) => (basic, digits)
    | none => ([], text)
  let qs ← readCounts firstBias basic.length true digits
  (insertAll (basic.map Char.toNat) 0x80 0 qs).mapM char?

end TrafficFeed.Idn.Punycode
