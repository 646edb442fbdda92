namespace TestCluster.Text

/-- How alike two words are, as a fraction between zero and one. -/
structure Likeness where
  part : Nat
  whole : Nat
  deriving DecidableEq, Repr

namespace Likeness

/-- Takes out the first letter that is the same and stands near enough. -/
def pair? (c : Char) (near : Nat → Bool) : List (Char × Nat) → Option (Nat × List (Char × Nat))
  | [] => none
  | (d, j) :: rest =>
    if c = d && near j then some (j, rest)
    else (pair? c near rest).map fun (k, left) => (k, (d, j) :: left)

/-- The letters of the first word that have a partner, each with the place of its partner. -/
def pairs (reach : Nat) : List (Char × Nat) → List (Char × Nat) → List (Char × Nat)
  | [], _ => []
  | (c, i) :: rest, others =>
    match pair? c (fun j => j ≤ i + reach && i ≤ j + reach) others with
    | some (j, others) => (c, j) :: pairs reach rest others
    | none => pairs reach rest others

def insertPlace (p : Char × Nat) : List (Char × Nat) → List (Char × Nat)
  | [] => [p]
  | q :: rest => if p.2 ≤ q.2 then p :: q :: rest else q :: insertPlace p rest

/-- How many letters stand differently when the partners are put in their own order. -/
def moved (found : List (Char × Nat)) : Nat :=
  (found.zip (found.foldr insertPlace [])).countP fun (p, q) => p.1 ≠ q.1

/-- The mean of the share of letters with a partner in either word, and the share of those that
keep their order. -/
def ofWords (a b : List Char) : Likeness :=
  let reach := max a.length b.length / 2 - 1
  let found := pairs reach a.zipIdx b.zipIdx
  let m := found.length
  if m = 0 then ⟨if a = b then 1 else 0, 1⟩
  else
    ⟨m * m * b.length + m * m * a.length + (m - moved found / 2) * a.length * b.length,
      3 * m * a.length * b.length⟩

def exceeds (l other : Likeness) : Bool :=
  other.part * l.whole < l.part * other.whole

/-- The last of the words that are most like a word, if any is like enough. -/
def best? {α : Type} (least : Likeness) (word : List Char) (name : α → String) (words : List α) :
    Option α :=
  (words.foldl (fun best a =>
    let l := ofWords word (name a).toList
    if l.exceeds least && !best.any (·.2.exceeds l) then some (a, l) else best)
    (none : Option (α × Likeness))).map (·.1)

end Likeness

end TestCluster.Text
