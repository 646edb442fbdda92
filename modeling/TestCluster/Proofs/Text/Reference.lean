import TestCluster.Connection

namespace TestCluster.Text.Reference

theorem split_of_braced {rest letters after : List Char} (h : braced? rest = some (letters, after)) :
    split ('$' :: rest) = .name letters :: split after := by
  rw [split, if_pos rfl]
  split
  · rename_i heq
    cases h.symm.trans heq
    rfl
  · rename_i heq
    cases h.symm.trans heq

theorem split_of_not_braced {rest : List Char} (h : braced? rest = none) :
    split ('$' :: rest) = .char '$' :: split rest := by
  rw [split, if_pos rfl]
  split
  · rename_i heq
    cases h.symm.trans heq
  · rfl

theorem split_of_ne {c : Char} (h : c ≠ '$') (rest : List Char) :
    split (c :: rest) = .char c :: split rest := by
  rw [split, if_neg h]

theorem split_of_forall_ne {text : List Char} (h : ∀ c ∈ text, c ≠ '$') :
    split text = text.map .char := by
  induction text with
  | nil => rw [split, List.map_nil]
  | cons c rest ih =>
    obtain ⟨hc, hrest⟩ := List.forall_mem_cons.mp h
    rw [split_of_ne hc, ih hrest, List.map_cons]

def mentioned (text : String) : List String :=
  (split text.toList).filterMap fun
    | .name letters => some (String.ofList letters)
    | .char _ => none

theorem expandText_congr {env env' : Environment} {text : String}
    (h : ∀ name ∈ mentioned text, env name = env' name) :
    expandText env text = expandText env' text := by
  have hpieces : ∀ piece ∈ split text.toList, piece.value env = piece.value env' := by
    intro piece hpiece
    cases piece with
    | char c => rfl
    | name letters =>
      have hname := h (String.ofList letters) (List.mem_filterMap.mpr ⟨_, hpiece, rfl⟩)
      simp only [Piece.value, hname]
  have hvalues := List.map_congr_left hpieces
  simp only [expandText, expand, List.flatMap_def, hvalues]

def reference (name : String) : String :=
  "$\x7b" ++ name ++ "\x7d"

def Plain (text : String) : Prop :=
  ∀ before name after, isName name.toList → text ≠ before ++ reference name ++ after

/-- A text taken apart: some characters, a reference, some characters, and so on. -/
inductive Parts
  | last (literal : String)
  | refer (literal name : String) (later : Parts)

namespace Parts

def text : Parts → String
  | last literal => literal
  | refer literal name later => literal ++ reference name ++ later.text

def Proper : Parts → Prop
  | last literal => Plain literal
  | refer literal name later => Plain literal ∧ isName name.toList ∧ later.Proper

def value (env : Environment) : Parts → String
  | last literal => literal
  | refer literal name later => literal ++ (env name).getD "" ++ later.value env

def names : Parts → List String
  | last _ => []
  | refer _ name later => name :: later.names

def pieces : Parts → List Piece
  | last literal => literal.toList.map .char
  | refer literal name later => literal.toList.map .char ++ .name name.toList :: later.pieces

def join : Parts → String → Parts → Parts
  | last literal, name, q => refer literal name q
  | refer literal other later, name, q => refer literal other (later.join name q)

end Parts

theorem toList_reference (name : String) :
    (reference name).toList = '$' :: '{' :: name.toList ++ ['}'] := by
  simp [reference]

theorem length_reference (name : String) : (reference name).length = name.length + 3 := by
  rw [← String.length_toList, toList_reference]
  simp [String.length_toList]

theorem isNameChar_of_isNameStart {c : Char} (h : isNameStart c) : isNameChar c := by
  simp only [isNameStart, isNameChar, Char.isAlphanum, Bool.or_eq_true] at h ⊢
  exact h.imp_left .inl

theorem isNameChar_of_isName {letters : List Char} (h : isName letters) :
    ∀ c ∈ letters, isNameChar c := by
  cases letters with
  | nil => contradiction
  | cons c rest =>
    rw [isName, Bool.and_eq_true, List.all_eq_true] at h
    exact List.forall_mem_cons.mpr ⟨isNameChar_of_isNameStart h.1, h.2⟩

theorem braced?_eq_some_iff {text letters after : List Char} :
    braced? text = some (letters, after) ↔
      isName letters ∧ text = '{' :: letters ++ '}' :: after := by
  constructor
  · intro h
    unfold braced? at h
    split at h
    · rename_i rest
      split at h
      · rename_i tail heq
        split at h
        · rename_i hname
          cases h
          refine ⟨hname, ?_⟩
          rw [List.cons_append, ← heq, List.takeWhile_append_dropWhile]
        · contradiction
      · contradiction
    · contradiction
  · rintro ⟨hname, rfl⟩
    have hall := isNameChar_of_isName hname
    have hclose : isNameChar '}' = false := by decide
    have htake : (letters ++ '}' :: after).takeWhile isNameChar = letters := by
      rw [List.takeWhile_append_of_pos hall, List.takeWhile_cons_of_neg (by simp [hclose]),
        List.append_nil]
    have hdrop : (letters ++ '}' :: after).dropWhile isNameChar = '}' :: after := by
      rw [List.dropWhile_append_of_pos hall, List.dropWhile_cons_of_neg (by simp [hclose])]
    simp [braced?, htake, hdrop, hname]

theorem braced?_append {text letters after : List Char} (h : braced? text = some (letters, after))
    (more : List Char) : braced? (text ++ more) = some (letters, after ++ more) := by
  obtain ⟨hname, rfl⟩ := braced?_eq_some_iff.mp h
  exact braced?_eq_some_iff.mpr ⟨hname, by simp⟩

/-- A dollar sign ends every name, so that what follows it cannot complete one. -/
theorem braced?_append_dollar {text : List Char} (h : braced? text = none) (more : List Char) :
    braced? (text ++ '$' :: more) = none := by
  rw [Option.eq_none_iff_forall_ne_some]
  rintro ⟨letters, after⟩ hsome
  obtain ⟨hname, heq⟩ := braced?_eq_some_iff.mp hsome
  obtain ⟨middle, htext, hrest⟩ | ⟨middle, htext, hrest⟩ := List.append_eq_append_iff.mp heq
  · cases middle with
    | nil => cases hrest
    | cons c middle =>
      obtain ⟨rfl, -⟩ := List.cons.inj hrest
      have hmem : '$' ∈ '{' :: letters := by simp [htext]
      have hletter : '$' ∈ letters := by simpa using hmem
      exact absurd (isNameChar_of_isName hname _ hletter) (by decide)
  · cases middle with
    | nil => cases hrest
    | cons c middle =>
      obtain ⟨rfl, rfl⟩ := List.cons.inj hrest
      rw [braced?_eq_some_iff.mpr ⟨hname, htext⟩] at h
      contradiction

theorem split_append_reference {letters : List Char} (h : isName letters)
    (before after : List Char) :
    split (before ++ '$' :: ('{' :: letters ++ '}' :: after)) =
      split before ++ .name letters :: split after := by
  fun_induction split before with
  | case1 => exact split_of_braced (braced?_eq_some_iff.mpr ⟨h, rfl⟩)
  | case2 rest name later hbraced ih =>
    rw [List.cons_append, split_of_braced (braced?_append hbraced _), ih, List.cons_append]
  | case3 rest hbraced ih =>
    rw [List.cons_append, split_of_not_braced (braced?_append_dollar hbraced _), ih,
      List.cons_append]
  | case4 c rest hc ih => rw [List.cons_append, split_of_ne hc, ih, List.cons_append]

theorem toList_append_reference (before name after : String) :
    (before ++ reference name ++ after).toList =
      before.toList ++ '$' :: ('{' :: name.toList ++ '}' :: after.toList) := by
  simp [reference]

theorem expandText_append_reference (env : Environment) {name : String} (h : isName name.toList)
    (before after : String) :
    expandText env (before ++ reference name ++ after) =
      expandText env before ++ (env name).getD "" ++ expandText env after := by
  have hvalue : (Piece.name name.toList).value env = ((env name).getD "").toList := by
    rw [Piece.value, String.ofList_toList]
  unfold expandText expand
  rw [toList_append_reference, split_append_reference h, List.flatMap_append, List.flatMap_cons,
    hvalue, String.ofList_append, String.ofList_append, String.ofList_toList, String.append_assoc]

theorem split_of_plain {text : List Char} (h : ∀ before letters after, isName letters →
    text ≠ before ++ '$' :: ('{' :: letters ++ '}' :: after)) : split text = text.map .char := by
  fun_induction split text with
  | case1 => rfl
  | case2 rest letters after hbraced ih =>
    obtain ⟨hname, rfl⟩ := braced?_eq_some_iff.mp hbraced
    exact absurd rfl (h [] letters after hname)
  | case3 rest hbraced ih =>
    rw [List.map_cons, ih]
    intro before letters after hname heq
    exact h ('$' :: before) letters after hname (congrArg ('$' :: ·) heq)
  | case4 c rest hc ih =>
    rw [List.map_cons, ih]
    intro before letters after hname heq
    exact h (c :: before) letters after hname (congrArg (c :: ·) heq)

theorem Plain.split_toList {text : String} (h : Plain text) :
    split text.toList = text.toList.map .char := by
  apply split_of_plain
  intro before letters after hname heq
  refine h (.ofList before) (.ofList letters) (.ofList after) (by simpa using hname) ?_
  rw [← String.toList_inj, toList_append_reference]
  simpa using heq

theorem expandText_of_plain (env : Environment) {text : String} (h : Plain text) :
    expandText env text = text := by
  unfold expandText expand
  rw [h.split_toList, List.flatMap_map]
  simp [Piece.value]

namespace Parts

theorem split_text {p : Parts} (h : p.Proper) : split p.text.toList = p.pieces := by
  induction p with
  | last literal => exact Plain.split_toList h
  | refer literal name later ih =>
    obtain ⟨hliteral, hname, hlater⟩ := h
    rw [text, toList_append_reference, split_append_reference hname, hliteral.split_toList,
      ih hlater, pieces]

theorem chars_append_name_inj {literal literal' : List Char} {name name' : List Char}
    {later later' : List Piece}
    (h : literal.map Piece.char ++ .name name :: later =
      literal'.map Piece.char ++ .name name' :: later') :
    literal = literal' ∧ name = name' ∧ later = later' := by
  induction literal generalizing literal' with
  | nil =>
    cases literal' with
    | nil => simpa using h
    | cons d rest' => cases h
  | cons c rest ih =>
    cases literal' with
    | nil => cases h
    | cons d rest' =>
      simp only [List.map_cons, List.cons_append, List.cons.injEq, Piece.char.injEq] at h
      obtain ⟨rfl, htail⟩ := h
      obtain ⟨rfl, hname, hlater⟩ := ih htail
      exact ⟨rfl, hname, hlater⟩

theorem chars_ne_append_name {literal literal' name : List Char} {later : List Piece} :
    literal.map Piece.char ≠ literal'.map Piece.char ++ .name name :: later := by
  intro h
  have hmem : Piece.name name ∈ literal.map Piece.char := by simp [h]
  simp at hmem

theorem pieces_injective {p q : Parts} (h : p.pieces = q.pieces) : p = q := by
  induction p generalizing q with
  | last literal =>
    cases q with
    | last literal' =>
      have hliteral := List.map_inj_right (fun _ _ => Piece.char.inj) |>.mp h
      rw [String.toList_inj.mp hliteral]
    | refer literal' name' later' => exact absurd h chars_ne_append_name
  | refer literal name later ih =>
    cases q with
    | last literal' => exact absurd h.symm chars_ne_append_name
    | refer literal' name' later' =>
      obtain ⟨hliteral, hname, hlater⟩ := chars_append_name_inj h
      rw [String.toList_inj.mp hliteral, String.toList_inj.mp hname, ih hlater]

theorem expandText_text (env : Environment) {p : Parts} (h : p.Proper) :
    expandText env p.text = p.value env := by
  induction p with
  | last literal => exact expandText_of_plain env h
  | refer literal name later ih =>
    obtain ⟨hliteral, hname, hlater⟩ := h
    rw [text, expandText_append_reference env hname, expandText_of_plain env hliteral, ih hlater,
      value]

theorem value_congr {env env' : Environment} {p : Parts}
    (h : ∀ name ∈ p.names, (env name).getD "" = (env' name).getD "") :
    p.value env = p.value env' := by
  induction p with
  | last literal => rfl
  | refer literal name later ih =>
    obtain ⟨hname, hlater⟩ := List.forall_mem_cons.mp h
    rw [value, value, hname, ih hlater]

theorem text_join (p : Parts) (name : String) (q : Parts) :
    (p.join name q).text = p.text ++ reference name ++ q.text := by
  induction p with
  | last literal => rfl
  | refer literal other later ih => simp [join, text, ih, String.append_assoc]

theorem Proper.join {p q : Parts} {name : String} (hp : p.Proper) (hname : isName name.toList)
    (hq : q.Proper) : (p.join name q).Proper := by
  induction p with
  | last literal => exact ⟨hp, hname, hq⟩
  | refer literal other later ih => exact ⟨hp.1, hp.2.1, ih hp.2.2⟩

theorem exists_parts (text : String) : ∃ p : Parts, p.Proper ∧ p.text = text := by
  by_cases hplain : Plain text
  · exact ⟨.last text, hplain, rfl⟩
  · simp only [Plain, Classical.not_forall, Classical.not_not] at hplain
    obtain ⟨before, name, after, hname, heq⟩ := hplain
    obtain ⟨p, hp, hbefore⟩ := exists_parts before
    obtain ⟨q, hq, hafter⟩ := exists_parts after
    refine ⟨p.join name q, hp.join hname hq, ?_⟩
    rw [text_join, hbefore, hafter, heq]
termination_by text.length
decreasing_by all_goals
  simp only [heq, String.length_append, length_reference]
  omega

end Parts

/-- References are replaced from left to right in one pass: what stands on either side of one is
expanded on its own, a text without any stays, and what a variable stands for is put in as it is. A
text is made of literals and references in one way only. -/
theorem expandText_parts :
    (∀ env before name after, isName name.toList →
      expandText env (before ++ reference name ++ after) =
        expandText env before ++ (env name).getD "" ++ expandText env after) ∧
    (∀ env text, Plain text → expandText env text = text) ∧
    ∀ text, ∃ p : Parts, (p.Proper ∧ p.text = text) ∧
      (∀ q : Parts, q.Proper → q.text = text → q = p) ∧
      (∀ env, expandText env text = p.value env) ∧
      ∀ env env', (∀ name ∈ p.names, (env name).getD "" = (env' name).getD "") →
        expandText env text = expandText env' text := by
  refine ⟨fun env before name after h => expandText_append_reference env h before after,
    fun env text h => expandText_of_plain env h, ?_⟩
  intro text
  obtain ⟨p, hproper, rfl⟩ := Parts.exists_parts text
  refine ⟨p, ⟨hproper, rfl⟩, ?_, fun env => Parts.expandText_text env hproper, ?_⟩
  · intro q hq htext
    apply Parts.pieces_injective
    rw [← Parts.split_text hq, htext, Parts.split_text hproper]
  · intro env env' hnames
    rw [Parts.expandText_text env hproper, Parts.expandText_text env' hproper,
      Parts.value_congr hnames]

/-- What starts like a reference and does not end like one stays, and a value is not read again. -/
example : expandText (fun name => if name = "B" then some "$\x7bA\x7d" else none)
    "$\x7bA$\x7bB\x7d" = "$\x7bA$\x7bA\x7d" := by
  cbv

end TestCluster.Text.Reference
