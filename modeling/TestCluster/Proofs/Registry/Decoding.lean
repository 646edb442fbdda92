import Mathlib.Data.Option.Basic
import TestCluster.Proofs.Json.Document
import TestCluster.Proofs.Registry.Lookup
import TestCluster.Proofs.Registry.Members
import TestCluster.Proofs.Registry.Results

namespace TestCluster

namespace RegisteredSchema

open Json (Value Content)

/-- What stands under the name of the type: nothing or null where there is none. -/
inductive TypeValues : Option String → List Value → Prop
  | absent : TypeValues none []
  | null : TypeValues none [.null]
  | text (type : String) : TypeValues (some type) [.ofText type]

def textNames : List String :=
  ["subject", "schema"]

def numberNames : List String :=
  ["id", "version"]

def memberNames : List String :=
  ["subject", "id", "version", "schema", "schemaType"]

theorem mem_memberNames {name : String} :
    name ∈ memberNames ↔ name ∈ textNames ∨ name ∈ numberNames ∨ name = "schemaType" := by
  simp only [memberNames, textNames, numberNames, List.mem_cons, List.not_mem_nil, or_false]
  tauto

def members (s : RegisteredSchema) (types : List Value) : List (String × Value) :=
  [("subject", .ofText s.subject), ("id", .number (some s.id.toInt)),
    ("version", .number (some s.version.toInt)), ("schema", .ofText s.schema)] ++
    types.map ("schemaType", ·)

/-- The members of a document are those of a schema, once each, and others, in whatever order. -/
inductive Describes (s : RegisteredSchema) (document : List (Content × Value)) : Prop
  | members {types : List Value} {others : List (String × Value)} (htypes : TypeValues s.type types)
    (hothers : ∀ m ∈ others, m.1 ∉ memberNames)
    (h : document.Perm ((s.members types ++ others).map Value.named))

theorem exists_describes (s : RegisteredSchema) : ∃ document, s.Describes document := by
  have htypes : ∃ types, TypeValues s.type types := by
    cases s.type with
    | none => exact ⟨[], .absent⟩
    | some type => exact ⟨_, .text type⟩
  obtain ⟨types, htypes⟩ := htypes
  exact ⟨_, .members htypes (List.forall_mem_nil _) (.refl _)⟩

/-- What keeps a document from being a schema's. -/
inductive Faulty (document : List (Content × Value)) : Prop
  | missing {name : String} (hname : name ∈ textNames ∨ name ∈ numberNames)
    (h : Value.valuesOf document name = [])
  | repeated {name : String} (hname : name ∈ memberNames)
    (h : 1 < (Value.valuesOf document name).length)
  | noText {name : String} {v : Value} (hname : name ∈ textNames)
    (hv : v ∈ Value.valuesOf document name) (h : ∀ text, v ≠ .ofText text)
  | noNumber {name : String} {v : Value} (hname : name ∈ numberNames)
    (hv : v ∈ Value.valuesOf document name)
    (h : ∀ n : Int, -2147483648 ≤ n → n ≤ 2147483647 → v ≠ .number (some n))
  | noType {v : Value} (hv : v ∈ Value.valuesOf document "schemaType") (hnull : v ≠ .null)
    (h : ∀ text, v ≠ .ofText text)

structure Fits (s : RegisteredSchema) (document : List (Content × Value)) : Prop where
  names : ∀ m ∈ document, m.1.isSome = true
  subject : Value.valuesOf document "subject" = [.ofText s.subject]
  id : Value.valuesOf document "id" = [.number (some s.id.toInt)]
  version : Value.valuesOf document "version" = [.number (some s.version.toInt)]
  schema : Value.valuesOf document "schema" = [.ofText s.schema]
  type : TypeValues s.type (Value.valuesOf document "schemaType")

theorem typeValues_iff (type : Option String) (document : List (Content × Value)) :
    (∃ v, Value.member? document "schemaType" = some v ∧ Value.optionalString? v = some type) ↔
      TypeValues type (Value.valuesOf document "schemaType") := by
  rw [Value.member?_eq]
  generalize Value.valuesOf document "schemaType" = values
  constructor
  · rintro ⟨v, hmember, htype⟩
    rcases values with _ | ⟨w, _ | ⟨w', rest⟩⟩
    · cases hmember
      cases htype
      exact .absent
    · cases hmember
      cases w with
      | null =>
        cases htype
        exact .null
      | text content =>
        obtain ⟨text, htext, rfl⟩ := Option.map_eq_some_iff.mp htype
        rw [(Value.string?_eq_some_iff _ text).mp htext]
        exact .text text
      | _ => cases htype
    · cases hmember
  · rintro (_ | _ | text)
    · exact ⟨none, rfl, rfl⟩
    · exact ⟨some .null, rfl, rfl⟩
    · refine ⟨some (.ofText text), rfl, ?_⟩
      exact congrArg (Option.map some) ((Value.string?_eq_some_iff _ text).mpr rfl)

theorem ofMembers?_eq_some_iff_fits (document : List (Content × Value)) (s : RegisteredSchema) :
    ofMembers? document = some s ↔ s.Fits document := by
  unfold ofMembers?
  simp only [Option.bind_eq_bind, Option.bind_eq_some_iff, Option.guard_eq_some', List.all_eq_true,
    Value.required?_eq_some_iff, Value.string?_eq_some_iff, Value.int32?_eq_some_iff,
    Option.some.injEq]
  constructor
  · rintro ⟨_, hnames, _, hsubject, subject, rfl, _, hid, id, rfl, _, hversion, version, rfl, _,
      hschema, schema, rfl, v, hmember, type, htype, rfl⟩
    exact ⟨hnames, hsubject, hid, hversion, hschema,
      (typeValues_iff type document).mp ⟨v, hmember, htype⟩⟩
  · intro h
    obtain ⟨v, hmember, htype⟩ := (typeValues_iff s.type document).mpr h.type
    exact ⟨(), h.names, _, h.subject, _, rfl, _, h.id, _, rfl, _, h.version, _, rfl, _, h.schema, _,
      rfl, v, hmember, _, htype, rfl⟩

theorem TypeValues.perm {type : Option String} {types values : List Value}
    (h : TypeValues type types) (hvalues : values.Perm types) : TypeValues type values := by
  cases h with
  | absent =>
    rw [List.perm_nil] at hvalues
    exact hvalues ▸ .absent
  | null =>
    rw [List.perm_singleton] at hvalues
    exact hvalues ▸ .null
  | text type =>
    rw [List.perm_singleton] at hvalues
    exact hvalues ▸ .text type

theorem TypeValues.length_le {type : Option String} {values : List Value}
    (h : TypeValues type values) : values.length ≤ 1 := by
  cases h <;> simp

theorem TypeValues.eq_of_mem {type : Option String} {values : List Value}
    (h : TypeValues type values) {v : Value} (hv : v ∈ values) :
    v = .null ∨ ∃ text, v = .ofText text := by
  cases h with
  | absent => cases hv
  | null => exact .inl (List.mem_singleton.mp hv)
  | text type => exact .inr ⟨type, List.mem_singleton.mp hv⟩

theorem valuesOf_perm_members {s : RegisteredSchema} {types : List Value}
    {others : List (String × Value)} {document : List (Content × Value)}
    (hothers : ∀ m ∈ others, m.1 ∉ memberNames)
    (h : document.Perm ((s.members types ++ others).map Value.named)) {name : String}
    (hname : name ∈ memberNames) : (Value.valuesOf document name).Perm
      (((s.members types).filter (·.1 = name)).map Prod.snd) := by
  have hnone : others.filter (·.1 = name) = [] := by
    rw [List.filter_eq_nil_iff]
    intro m hm heq
    exact hothers m hm (of_decide_eq_true heq ▸ hname)
  have hperm := Value.valuesOf_perm h name
  rwa [Value.valuesOf_named, List.filter_append, hnone, List.append_nil] at hperm

theorem Describes.fits {document : List (Content × Value)} {s : RegisteredSchema}
    (h : s.Describes document) : s.Fits document := by
  cases h with
  | @members types others htypes hothers h =>
    have hvalues := fun name (hname : name ∈ memberNames) => valuesOf_perm_members hothers h hname
    simp only [RegisteredSchema.members, List.filter_append, List.filter_map] at hvalues
    constructor
    case names =>
      intro m hm
      obtain ⟨entry, _, rfl⟩ := List.mem_map.mp (h.mem_iff.mp hm)
      rfl
    case subject => simpa [Function.comp_def] using hvalues "subject" (by decide)
    case id => simpa [Function.comp_def] using hvalues "id" (by decide)
    case version => simpa [Function.comp_def] using hvalues "version" (by decide)
    case schema => simpa [Function.comp_def] using hvalues "schema" (by decide)
    case type =>
      exact htypes.perm (by simpa [Function.comp_def] using hvalues "schemaType" (by decide))

theorem Fits.describes {document : List (Content × Value)} {s : RegisteredSchema}
    (h : s.Fits document) : s.Describes document := by
  obtain ⟨entries, rfl⟩ := Value.exists_map_named h.names
  have hothers : ∀ m ∈ entries.filter (·.1 ∉ memberNames), m.1 ∉ memberNames :=
    fun m hm => of_decide_eq_true (List.mem_filter.mp hm).2
  have hown : memberNames.flatMap (fun name => entries.filter (·.1 = name)) =
      s.members (Value.valuesOf (entries.map Value.named) "schemaType") := by
    simp only [Value.filter_eq_map_valuesOf, memberNames, List.flatMap_cons, List.flatMap_nil,
      List.append_nil, h.subject, h.id, h.version, h.schema]
    rfl
  refine .members h.type hothers (List.Perm.map _ ?_)
  rw [← hown]
  exact Value.perm_flatMap_filter entries (by decide)

theorem describes_iff_fits (document : List (Content × Value)) (s : RegisteredSchema) :
    s.Describes document ↔ s.Fits document :=
  ⟨Describes.fits, Fits.describes⟩

theorem ofMembers?_eq_some_iff (document : List (Content × Value)) (s : RegisteredSchema) :
    ofMembers? document = some s ↔ s.Describes document :=
  (ofMembers?_eq_some_iff_fits document s).trans (describes_iff_fits document s).symm

namespace Fits

variable {document : List (Content × Value)} {s : RegisteredSchema} (h : s.Fits document)
  {name : String}

include h

theorem exists_text (hname : name ∈ textNames) :
    ∃ text, Value.valuesOf document name = [.ofText text] := by
  simp only [textNames, List.mem_cons, List.not_mem_nil, or_false] at hname
  obtain rfl | rfl := hname
  · exact ⟨s.subject, h.subject⟩
  · exact ⟨s.schema, h.schema⟩

theorem exists_number (hname : name ∈ numberNames) :
    ∃ n : Int32, Value.valuesOf document name = [.number (some n.toInt)] := by
  simp only [numberNames, List.mem_cons, List.not_mem_nil, or_false] at hname
  obtain rfl | rfl := hname
  · exact ⟨s.id, h.id⟩
  · exact ⟨s.version, h.version⟩

theorem exists_value (hname : name ∈ textNames ∨ name ∈ numberNames) :
    ∃ v, Value.valuesOf document name = [v] := by
  obtain hname | hname := hname
  · obtain ⟨text, htext⟩ := h.exists_text hname
    exact ⟨_, htext⟩
  · obtain ⟨n, hn⟩ := h.exists_number hname
    exact ⟨_, hn⟩

theorem not_faulty : ¬Faulty document := by
  intro hfaulty
  cases hfaulty with
  | missing hname hnil =>
    obtain ⟨v, hv⟩ := h.exists_value hname
    rw [hv] at hnil
    cases hnil
  | repeated hname hlength =>
    rw [mem_memberNames, ← or_assoc] at hname
    obtain hname | rfl := hname
    · obtain ⟨v, hv⟩ := h.exists_value hname
      rw [hv] at hlength
      exact absurd hlength (by simp)
    · exact Nat.not_lt_of_le h.type.length_le hlength
  | noText hname hv hnone =>
    obtain ⟨text, htext⟩ := h.exists_text hname
    rw [htext, List.mem_singleton] at hv
    exact hnone text hv
  | noNumber hname hv hnone =>
    obtain ⟨n, hn⟩ := h.exists_number hname
    rw [hn, List.mem_singleton] at hv
    have hmin := n.le_toInt
    have hmax := n.toInt_lt
    exact hnone n.toInt (by omega) (by omega) hv
  | noType hv hnull hnone =>
    obtain hv | ⟨text, hv⟩ := h.type.eq_of_mem hv
    · exact hnull hv
    · exact hnone text hv

end Fits

section

variable {document : List (Content × Value)} (h : ¬Faulty document) {name : String}

include h

theorem valuesOf_length_le (hname : name ∈ memberNames) :
    (Value.valuesOf document name).length ≤ 1 := by
  by_contra hlength
  exact h (.repeated hname (Nat.lt_of_not_le hlength))

theorem exists_value (hname : name ∈ textNames ∨ name ∈ numberNames) :
    ∃ v, Value.valuesOf document name = [v] := by
  have hknown : name ∈ memberNames := mem_memberNames.mpr (hname.imp_right .inl)
  apply List.length_eq_one_iff.mp
  refine Nat.le_antisymm (valuesOf_length_le h hknown) (List.length_pos_iff.mpr ?_)
  exact fun hnil => h (.missing hname hnil)

theorem exists_text (hname : name ∈ textNames) :
    ∃ text, Value.valuesOf document name = [.ofText text] := by
  obtain ⟨v, hv⟩ := exists_value h (.inl hname)
  by_contra hnone
  refine h (.noText hname (hv ▸ List.mem_singleton_self v) ?_)
  rintro text rfl
  exact hnone ⟨text, hv⟩

theorem exists_number (hname : name ∈ numberNames) :
    ∃ n : Int32, Value.valuesOf document name = [.number (some n.toInt)] := by
  obtain ⟨v, hv⟩ := exists_value h (.inr hname)
  by_contra hnone
  refine h (.noNumber hname (hv ▸ List.mem_singleton_self v) ?_)
  rintro n hmin hmax rfl
  refine hnone ⟨Int32.ofInt n, ?_⟩
  rw [hv, Int32.toInt_ofInt_of_le (by omega) (by omega)]

theorem exists_typeValues : ∃ type, TypeValues type (Value.valuesOf document "schemaType") := by
  have hlength := valuesOf_length_le h (show "schemaType" ∈ memberNames by decide)
  match hvalues : Value.valuesOf document "schemaType" with
  | [] => exact ⟨none, .absent⟩
  | [v] =>
    by_contra hnone
    refine h (.noType (hvalues ▸ List.mem_singleton_self v) ?_ ?_)
    · rintro rfl
      exact hnone ⟨none, .null⟩
    · rintro text rfl
      exact hnone ⟨some text, .text text⟩
  | v :: w :: rest =>
    rw [hvalues] at hlength
    exact absurd hlength (by simp)

theorem exists_fits (hnames : ∀ m ∈ document, m.1.isSome = true) :
    ∃ s : RegisteredSchema, s.Fits document := by
  obtain ⟨subject, hsubject⟩ := exists_text h (show "subject" ∈ textNames by decide)
  obtain ⟨id, hid⟩ := exists_number h (show "id" ∈ numberNames by decide)
  obtain ⟨version, hversion⟩ := exists_number h (show "version" ∈ numberNames by decide)
  obtain ⟨schema, hschema⟩ := exists_text h (show "schema" ∈ textNames by decide)
  obtain ⟨type, htype⟩ := exists_typeValues h
  exact ⟨⟨subject, id, version, schema, type⟩, hnames, hsubject, hid, hversion, hschema, htype⟩

end

theorem ofMembers?_of_faulty {document : List (Content × Value)} (h : Faulty document) :
    ofMembers? document = none := by
  rw [Option.eq_none_iff_forall_ne_some]
  intro s hs
  exact ((ofMembers?_eq_some_iff_fits document s).mp hs).not_faulty h

/-- Every document whose names are well formed is a schema's or faulty, and none is both. -/
theorem faulty_iff {document : List (Content × Value)}
    (hnames : ∀ m ∈ document, m.1.isSome = true) :
    Faulty document ↔ ∀ s : RegisteredSchema, ¬s.Describes document := by
  simp only [describes_iff_fits]
  constructor
  · exact fun hfaulty s hfits => hfits.not_faulty hfaulty
  · intro hnone
    by_contra hfaulty
    obtain ⟨s, hs⟩ := exists_fits hfaulty hnames
    exact hnone s hs

end RegisteredSchema

namespace Registry

open Json (Value Content)

theorem latestSchema_result_of_found {r : Registry} {network : Network} {subject : String}
    {a : Response} (hfinal : (Call.latestSchema subject).final r network = .ok a)
    (hstatus : a.status = 200) : (r.latestSchema network subject).result =
      some <$> body a RegisteredSchema.ofValue? := by
  have hsend : (send network (.get (r.latestUrl subject) r.login)).result = .ok a := hfinal
  unfold latestSchema
  simp only [hsend, hstatus, if_true]

theorem ofValue?_of_written {document : List (Content × Value)} {text : List Char}
    (h : (Value.record document).Written text) :
    (Value.ofBytes? (Utf8.encode text)).bind RegisteredSchema.ofValue? =
      RegisteredSchema.ofMembers? document := by
  rw [Value.ofBytes?_encode h]
  rfl

/-- Every schema has a document. However a document is laid out, it is read as the schema that its
members describe: their order does not count, nor does what else is among them. A faulty document
is read as none, and where one is the answer to a lookup, the lookup fails. -/
theorem schemas_by_members :
    (∀ s : RegisteredSchema, ∃ document text,
      s.Describes document ∧ (Value.record document).Written text) ∧
    ∀ (document : List (Content × Value)) (text : List Char),
      (Value.record document).Written text →
        (∀ s : RegisteredSchema, s.Describes document →
          (Value.ofBytes? (Utf8.encode text)).bind RegisteredSchema.ofValue? = some s) ∧
        (RegisteredSchema.Faulty document →
          (Value.ofBytes? (Utf8.encode text)).bind RegisteredSchema.ofValue? = none) ∧
        ∀ (r : Registry) (network : Network) (subject : String) (a : Response),
          (Call.latestSchema subject).final r network = .ok a → a.status = 200 →
          a.content? = some (Utf8.encode text) →
            (∀ s, (r.latestSchema network subject).result = .ok (some s) ↔ s.Describes document) ∧
            (RegisteredSchema.Faulty document →
              (r.latestSchema network subject).result = .error (.registry .undecodable)) := by
  refine ⟨?_, ?_⟩
  · intro s
    obtain ⟨document, hdocument⟩ := s.exists_describes
    obtain ⟨text, htext⟩ := (Value.record document).exists_written
    exact ⟨document, text, hdocument, htext⟩
  · intro document text htext
    have hread := ofValue?_of_written htext
    refine ⟨fun s hs => ?_, fun h => hread.trans (RegisteredSchema.ofMembers?_of_faulty h), ?_⟩
    · rw [hread]
      exact (RegisteredSchema.ofMembers?_eq_some_iff document s).mpr hs
    · intro r network subject a hfinal hstatus hcontent
      have hbody : body a RegisteredSchema.ofValue? =
          match RegisteredSchema.ofMembers? document with
          | some s => .ok s
          | none => .error (.registry .undecodable) := by
        unfold body
        rw [hcontent, Option.bind_some, hread]
        cases RegisteredSchema.ofMembers? document <;> rfl
      rw [latestSchema_result_of_found hfinal hstatus, hbody]
      refine ⟨fun s => ?_, fun h => ?_⟩
      · rw [← RegisteredSchema.ofMembers?_eq_some_iff]
        cases RegisteredSchema.ofMembers? document <;> simp
      · rw [RegisteredSchema.ofMembers?_of_faulty h]
        rfl

/-- The members of a schema out of their order, and one that is not among them. -/
def shuffled : List (Content × Value) :=
  [("version", .number (some 2)), ("deleted", .flag false), ("schema", .ofText "\"int\""),
    ("id", .number (some 7)), ("subject", .ofText "orders-value")].map Value.named

def shuffledText : String :=
  "\x7b\"version\": 2,\"deleted\":false,\"schema\":\"\\\"int\\\"\",\"id\":7," ++
    "\"subject\":\"orders-value\"\x7d"

section

open Json.Token

theorem written_shuffled : (Value.record shuffled).Written shuffledText.toList := by
  have hquote : Piece.Spelled (.char '"') ['\\', '"'] := .escaped (by decide)
  have hschema : Spelled (text (some "\"int\"".toList)) _ :=
    spelled_of_join
      (.cons hquote (.cons (.plain (by decide) (by decide) (by decide))
        (.cons (.plain (by decide) (by decide) (by decide))
          (.cons (.plain (by decide) (by decide) (by decide)) (.cons hquote .nil)))))
      (join_map_char "\"int\"".toList)
  have hplain : ∀ s : String,
      s.toList.all (fun c => c ≠ '"' && c ≠ '\\' && 0x20 ≤ c.toNat) = true →
      Spelled (text (some s.toList)) ('"' :: s.toList ++ ['"']) := fun _ h => spelled_text h
  have hnumber : ∀ n : Nat, (number (some n)).Spelled (Nat.toDigits 10 n) :=
    fun n => .number (.whole (Text.numeral_toDigits n))
  have hgap : ∀ c ∈ [' '], isGap c = true := List.all_eq_true.mp rfl
  have hend : Layout [] [] := .nil (List.forall_mem_nil _)
  have h : Layout (Value.record shuffled).tokens _ :=
    .next .openRecord <|
    .next (hplain "version" rfl) <| .next .colon <| .cons hgap (hnumber 2) <| .next .comma <|
    .next (hplain "deleted" rfl) <| .next .colon <| .next .no <| .next .comma <|
    .next (hplain "schema" rfl) <| .next .colon <| .next hschema <| .next .comma <|
    .next (hplain "id" rfl) <| .next .colon <| .next (hnumber 7) <| .next .comma <|
    .next (hplain "subject" rfl) <| .next .colon <| .next (hplain "orders-value" rfl) <|
    .next .closeRecord hend
  exact h

end

theorem schemas_by_members_of_shuffled :
    (Value.record shuffled).Written shuffledText.toList ∧
      RegisteredSchema.Describes ⟨"orders-value", 7, 2, "\"int\"", none⟩ shuffled ∧
      (loopback.latestSchema (fun _ => some ⟨200, [], some (Utf8.encode shuffledText.toList)⟩)
        "orders-value").result = .ok (some ⟨"orders-value", 7, 2, "\"int\"", none⟩) := by
  have hdescribes : RegisteredSchema.Describes ⟨"orders-value", 7, 2, "\"int\"", none⟩ shuffled :=
    (RegisteredSchema.ofMembers?_eq_some_iff _ _).mp rfl
  obtain ⟨-, hdocuments⟩ := schemas_by_members
  obtain ⟨-, -, hresults⟩ := hdocuments shuffled shuffledText.toList written_shuffled
  have hfinal := (Call.latestSchema "orders-value").final_of_constant loopback
    (a := ⟨200, [], some (Utf8.encode shuffledText.toList)⟩) rfl rfl (fun h => nomatch h)
  exact ⟨written_shuffled, hdescribes,
    ((hresults loopback _ "orders-value" _ hfinal rfl rfl).1 _).mpr hdescribes⟩

end Registry

end TestCluster
