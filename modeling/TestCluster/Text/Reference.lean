namespace TestCluster

/-- The texts of the variables that are set. -/
abbrev Environment := String → Option String

namespace Text.Reference

inductive Piece
  | char (c : Char)
  | name (letters : List Char)
  deriving DecidableEq, Repr

def isNameStart (c : Char) : Bool :=
  c.isAlpha || c = '_'

def isNameChar (c : Char) : Bool :=
  c.isAlphanum || c = '_'

def isName : List Char → Bool
  | c :: rest => isNameStart c && rest.all isNameChar
  | [] => false

/-- The name between braces that stands after a dollar sign, and what follows it. -/
def braced? : List Char → Option (List Char × List Char)
  | '{' :: rest =>
    match rest.dropWhile isNameChar with
    | '}' :: after =>
      if isName (rest.takeWhile isNameChar) then some (rest.takeWhile isNameChar, after) else none
    | _ => none
  | _ => none

theorem length_braced? {text name after : List Char} (h : braced? text = some (name, after)) :
    after.length < text.length := by
  unfold braced? at h
  split at h
  · rename_i rest
    split at h
    · rename_i tail heq
      split at h
      · have : ('}' :: tail).length ≤ rest.length := by
          rw [← heq]; exact (List.dropWhile_sublist _).length_le
        obtain ⟨-, rfl⟩ : _ ∧ tail = after := by simpa using h
        simp at this ⊢
        omega
      · simp at h
    · simp at h
  · simp at h

/-- Names are found from left to right; a dollar sign that no name follows is a character. -/
def split : List Char → List Piece
  | [] => []
  | c :: rest =>
    if c = '$' then
      match _ : braced? rest with
      | some (name, after) => .name name :: split after
      | none => .char c :: split rest
    else .char c :: split rest
termination_by text => text.length
decreasing_by
  · exact Nat.lt_succ_of_lt (length_braced? ‹braced? rest = _›)
  · exact Nat.lt_succ_self _
  · exact Nat.lt_succ_self _

def Piece.value (env : Environment) : Piece → List Char
  | char c => [c]
  | name letters => ((env (String.ofList letters)).getD "").toList

def expand (env : Environment) (text : List Char) : List Char :=
  (split text).flatMap (·.value env)

end Text.Reference

end TestCluster
