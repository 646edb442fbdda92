namespace TestCluster.Text

/-- Whether a character is inside, where stretches inside and outside take turns from a stretch
outside on. -/
def isInside (turns : List Nat) (c : Char) : Bool :=
  (turns.takeWhile (· ≤ c.toNat)).length % 2 = 1

/-- What the stretch of a character has, where stretches are told by their first characters. -/
def atStretch {α : Type} (stretches : List (Nat × α)) (c : Char) : Option α :=
  ((stretches.takeWhile (·.1 ≤ c.toNat)).getLast?).map (·.2)

end TestCluster.Text
