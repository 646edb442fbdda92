import TestCluster.Json.Value
import TestCluster.Proofs.Json.Layout
import TestCluster.Proofs.Text.Utf8

namespace TestCluster.Json.Value

mutual

def tokens : Value → List Token
  | null => [.null]
  | flag b => [.flag b]
  | number whole => [.number whole]
  | text content => [.text content]
  | list [] => [.openList, .closeList]
  | list (v :: vs) => .openList :: (v.tokens ++ moreItems vs ++ [.closeList])
  | record [] => [.openRecord, .closeRecord]
  | record ((name, v) :: ms) =>
    .openRecord :: .text name :: .colon :: (v.tokens ++ moreMembers ms ++ [.closeRecord])

def moreItems : List Value → List Token
  | [] => []
  | v :: vs => .comma :: (v.tokens ++ moreItems vs)

def moreMembers : List (Content × Value) → List Token
  | [] => []
  | (name, v) :: ms => .comma :: .text name :: .colon :: (v.tokens ++ moreMembers ms)

end

/-- The words lead from one state to the other. -/
def Runs (s : State) (ts : List Token) (s' : State) : Prop :=
  ts.foldlM step? s = some s'

section

variable {s s' s'' : State}

theorem Runs.nil (s : State) : Runs s [] s :=
  rfl

theorem Runs.cons {t : Token} {ts : List Token} (h : step? s t = some s') (hrest : Runs s' ts s'') :
    Runs s (t :: ts) s'' := by
  unfold Runs
  rw [List.foldlM_cons, h]
  exact hrest

theorem Runs.append {ts us : List Token} (hts : Runs s ts s') (hus : Runs s' us s'') :
    Runs s (ts ++ us) s'' := by
  unfold Runs
  rw [List.foldlM_append, hts]
  exact hus

end

theorem tokens_eq_cons (v : Value) : ∃ t ts, v.tokens = t :: ts ∧ t ≠ .closeList := by
  cases v with
  | list items => cases items <;> exact ⟨_, _, by rw [tokens], Token.noConfusion⟩
  | record members => cases members <;> exact ⟨_, _, by rw [tokens], Token.noConfusion⟩
  | _ => exact ⟨_, _, by rw [tokens], Token.noConfusion⟩

theorem Runs.firstItem {v : Value} {frames : List Frame} {s : State}
    (h : Runs ⟨.list [] :: frames, .value⟩ v.tokens s) :
    Runs ⟨.list [] :: frames, .firstItem⟩ v.tokens s := by
  obtain ⟨t, ts, htokens, ht⟩ := v.tokens_eq_cons
  have hstep : step? ⟨.list [] :: frames, .firstItem⟩ t =
      step? ⟨.list [] :: frames, .value⟩ t := by
    cases t <;> first | rfl | exact absurd rfl ht
  unfold Runs at h ⊢
  rw [htokens, List.foldlM_cons] at h ⊢
  rw [hstep]
  exact h

mutual

/-- With the last of its words a value is put into its container. -/
theorem runs_tokens (v : Value) (frames : List Frame) :
    Runs ⟨frames, .value⟩ v.tokens (place v frames) := by
  match v with
  | null | flag _ | number _ | text _ | list [] | record [] =>
    rw [tokens]
    rfl
  | list (v :: vs) =>
    have hitems := (runs_tokens v (.list [] :: frames)).firstItem.append
      (runs_moreItems vs [v] frames)
    -- The frame holds its items latest first, until the list is closed.
    have hplace : place (.list (vs.reverse ++ [v]).reverse) frames =
        place (.list (v :: vs)) frames := by
      simp
    rw [tokens, ← hplace]
    exact .cons rfl (hitems.append (.cons rfl (.nil _)))
  | record ((name, v) :: ms) =>
    obtain ⟨last, hms⟩ := runs_moreMembers ms [(name, v)] name frames
    have hmembers := (runs_tokens v (.record [] name :: frames)).append hms
    have hplace : place (.record (ms.reverse ++ [(name, v)]).reverse) frames =
        place (.record ((name, v) :: ms)) frames := by
      simp
    rw [tokens, ← hplace]
    exact .cons rfl (.cons rfl (.cons rfl (hmembers.append (.cons rfl (.nil _)))))

theorem runs_moreItems (vs items : List Value) (frames : List Frame) :
    Runs ⟨.list items :: frames, .separator⟩ (moreItems vs)
      ⟨.list (vs.reverse ++ items) :: frames, .separator⟩ := by
  match vs with
  | [] => exact .nil _
  | v :: vs =>
    rw [moreItems, List.reverse_cons, List.append_assoc]
    exact .cons rfl ((runs_tokens v _).append (runs_moreItems vs (v :: items) frames))

theorem runs_moreMembers (ms members : List (Content × Value)) (name : Content)
    (frames : List Frame) :
    ∃ last, Runs ⟨.record members name :: frames, .separator⟩ (moreMembers ms)
      ⟨.record (ms.reverse ++ members) last :: frames, .separator⟩ := by
  match ms with
  | [] => exact ⟨name, .nil _⟩
  | (next, v) :: ms =>
    obtain ⟨last, hms⟩ := runs_moreMembers ms ((next, v) :: members) next frames
    rw [moreMembers, List.reverse_cons, List.append_assoc]
    exact ⟨last, .cons rfl (.cons rfl (.cons rfl ((runs_tokens v _).append hms)))⟩

end

theorem ofTokens?_tokens (v : Value) : ofTokens? v.tokens = some v := by
  have h : v.tokens.foldlM step? ⟨[], .value⟩ = some ⟨[], .nothing v⟩ := v.runs_tokens []
  unfold ofTokens?
  rw [h]

def Follows (ts : List Token) : Prop :=
  (∀ t ∈ ts.head?, t.isWord = false) ∧ ts.IsChain Token.Apart

theorem isChain_cons {t : Token} {ts : List Token} (h : Follows ts) :
    (t :: ts).IsChain Token.Apart :=
  List.isChain_cons.mpr ⟨fun u hu => .inr (h.1 u hu), h.2⟩

theorem Follows.cons {t : Token} {ts : List Token} (ht : t.isWord = false)
    (h : ts.IsChain Token.Apart) : Follows (t :: ts) := by
  refine ⟨?_, List.isChain_cons.mpr ⟨fun _ _ => .inl ht, h⟩⟩
  rintro _ ⟨⟩
  exact ht

mutual

theorem isChain_tokens (v : Value) {rest : List Token} (h : Follows rest) :
    (v.tokens ++ rest).IsChain Token.Apart := by
  match v with
  | null | flag _ | number _ | text _ =>
    rw [tokens]
    exact isChain_cons h
  | list [] | record [] =>
    rw [tokens]
    exact isChain_cons (.cons rfl h.2)
  | list (v :: vs) =>
    rw [tokens, List.cons_append, List.append_assoc, List.append_assoc]
    have hclose : Follows ([.closeList] ++ rest) := .cons rfl h.2
    exact (Follows.cons rfl (isChain_tokens v (follows_moreItems vs hclose))).2
  | record ((name, v) :: ms) =>
    rw [tokens, List.cons_append, List.cons_append, List.cons_append, List.append_assoc,
      List.append_assoc]
    have hclose : Follows ([.closeRecord] ++ rest) := .cons rfl h.2
    have hcolon := Follows.cons (t := .colon) rfl
      (isChain_tokens v (follows_moreMembers ms hclose))
    exact isChain_cons (.cons rfl hcolon.2)

theorem follows_moreItems (vs : List Value) {rest : List Token} (h : Follows rest) :
    Follows (moreItems vs ++ rest) := by
  match vs with
  | [] => exact h
  | v :: vs =>
    rw [moreItems, List.cons_append, List.append_assoc]
    exact .cons rfl (isChain_tokens v (follows_moreItems vs h))

theorem follows_moreMembers (ms : List (Content × Value)) {rest : List Token} (h : Follows rest) :
    Follows (moreMembers ms ++ rest) := by
  match ms with
  | [] => exact h
  | (name, v) :: ms =>
    rw [moreMembers, List.cons_append, List.cons_append, List.cons_append, List.append_assoc]
    have hcolon := Follows.cons (t := .colon) rfl (isChain_tokens v (follows_moreMembers ms h))
    exact .cons rfl (isChain_cons hcolon)

end

/-- Text that a value is written in: its words, with any gaps between them and any escapes. -/
def Written (v : Value) (text : List Char) : Prop :=
  Token.Layout v.tokens text

theorem exists_written (v : Value) : ∃ text, v.Written text :=
  Token.exists_layout v.tokens

theorem ofBytes?_encode {v : Value} {text : List Char} (h : v.Written text) :
    ofBytes? (Utf8.encode text) = some v := by
  have hend : Follows [] := And.intro (fun _ ht => nomatch ht) List.IsChain.nil
  have hchain := v.isChain_tokens hend
  rw [List.append_nil] at hchain
  unfold ofBytes?
  rw [Utf8.pieces_encode, Token.ofInput?_of_layout h hchain]
  exact v.ofTokens?_tokens

end TestCluster.Json.Value
