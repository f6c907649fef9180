/-!
# Similar texts

How much two texts have in common is measured by blocks: the longest run of characters that stands
in both is found, the leftmost one where there are several, and then the same is done with what
stands before it in both texts and with what stands behind it. The similarity is the share of the
characters of both texts that belong to blocks. It serves to suggest a name where a wrong one was
given.
-/

namespace AccessLog.Console

/-- The number of characters that two texts agree in at their start. -/
def commonStart : List Char → List Char → Nat
  | c :: cs, d :: ds => if c = d then commonStart cs ds + 1 else 0
  | _, _ => 0

/-- A run of characters that stands in two texts. -/
structure Block where
  /-- Where it starts in the first text. -/
  first : Nat
  /-- Where it starts in the second text. -/
  second : Nat
  /-- Its length. -/
  length : Nat
deriving DecidableEq, Repr

/-- The longest run that stands in both texts: the leftmost in the first text, and then the leftmost
in the second. -/
def longestBlock (a b : List Char) : Block :=
  (List.range a.length).foldl (fun best i =>
    (List.range b.length).foldl (fun best j =>
      let n := commonStart (a.drop i) (b.drop j)
      if best.length < n then ⟨i, j, n⟩ else best) best) ⟨0, 0, 0⟩

/-- The number of characters of either text that belong to blocks, for a first text that has no more
characters than the first argument says. -/
def blocksWithin : Nat → List Char → List Char → Nat
  | 0, _, _ => 0
  | n + 1, a, b =>
    let m := longestBlock a b
    if m.length = 0 then 0
    else
      blocksWithin n (a.take m.first) (b.take m.second) + m.length +
        blocksWithin n (a.drop (m.first + m.length)) (b.drop (m.second + m.length))

/-- The number of characters of either text that belong to blocks. -/
def sharedLength (a b : String) : Nat := blocksWithin a.length a.toList b.toList

/-- A name and how similar it is to a given one: twice the shared length over the whole length. -/
structure Candidate where
  /-- The name. -/
  name : String
  /-- The shared length. -/
  shared : Nat
  /-- The length of both names together. -/
  whole : Nat
deriving DecidableEq, Repr

/-- Whether at least three fifths of the characters are shared. -/
def Candidate.isClose (c : Candidate) : Bool := 3 * c.whole ≤ 10 * c.shared

/-- The more similar of two candidates comes first, and of equally similar ones the later name. -/
def Candidate.notAfter (c d : Candidate) : Bool :=
  let left := c.shared * d.whole
  let right := d.shared * c.whole
  right < left || (right == left && decide (d.name ≤ c.name))

/-- Whether two names of the given lengths can be close: as many characters as the shorter one has
would be enough. -/
def canBeClose (m n : Nat) : Bool := 3 * (m + n) ≤ 10 * min m n

/-- The names that are close to the given one, at most three, in the order of names. -/
def closeNames (name : String) (names : List String) : List String :=
  let near := names.filter fun n => canBeClose n.length name.length
  let candidates := near.map fun n => ⟨n, sharedLength n name, n.length + name.length⟩
  let best := ((candidates.filter Candidate.isClose).mergeSort Candidate.notAfter).take 3
  (best.map Candidate.name).mergeSort fun m n => decide (m ≤ n)

end AccessLog.Console
