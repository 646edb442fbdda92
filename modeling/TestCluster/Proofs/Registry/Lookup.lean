import TestCluster.Proofs.Url.Segment
import TestCluster.Registry.Client

namespace TestCluster

namespace Registry

open Url

theorem head_exchange (network : Network) (left : Nat) (q : Request) :
    (exchange network left q).requests.head? = some q := by
  unfold exchange
  split
  · rfl
  · split
    · rfl
    · rfl
    · split <;> rfl

theorem send_of_isHttp (network : Network) {q : Request} (h : q.url.isHttp = true) :
    (send network q).requests.head? = some q := by
  unfold send
  rw [if_pos h]
  exact head_exchange network redirectLimit q

variable (r : Registry)

def lookupUrl (subject : String) : Url :=
  (Request.get (r.latestUrl subject) r.login).url

theorem latestSchema_requests (network : Network) (subject : String) :
    (r.latestSchema network subject).requests =
      (send network (.get (r.latestUrl subject) r.login)).requests := by
  unfold latestSchema
  simp only
  split
  · rfl
  · split
    · rfl
    · split <;> rfl

theorem requests_latestSchema (h : r.base.isHttp = true) (network : Network) (subject : String) :
    (r.latestSchema network subject).requests.head?.map Request.url =
      some (r.lookupUrl subject) := by
  have hhttp : (Request.get (r.latestUrl subject) r.login).url.isHttp = true := by
    simp only [Request.get]
    split <;> exact h
  rw [latestSchema_requests, send_of_isHttp network hhttp]
  rfl

theorem exists_lookupUrl :
    ∃ u : Url, ∀ subject, r.lookupUrl subject = { u with path := (r.latestUrl subject).path } := by
  cases hlogin : (urlLogin? r.base).isSome with
  | true =>
    refine ⟨r.base.withoutUser, fun subject => ?_⟩
    have hsome : (urlLogin? (r.latestUrl subject)).isSome = true := hlogin
    simp only [lookupUrl, Request.get, hsome]
    rfl
  | false =>
    refine ⟨r.base, fun subject => ?_⟩
    have hnone : (urlLogin? (r.latestUrl subject)).isSome = false := hlogin
    simp only [lookupUrl, Request.get, hnone]
    rfl

theorem lookupUrl_path (subject : String) :
    (r.lookupUrl subject).path = (r.latestUrl subject).path := by
  obtain ⟨u, hu⟩ := r.exists_lookupUrl
  rw [hu]

def lookupPath (p : Path) (segment : List Char) : Path :=
  p ++ ["subjects".toList, segment, "versions".toList, "latest".toList]

def written (subject : String) : List Char :=
  Percent.encode (Percent.inSegment r.base.isSpecial) subject.toList

theorem push_name (special : Bool) (p : Path) {name : String}
    (h : name ∈ ["subjects", "versions", "latest"]) :
    Path.push special p name.toList = p.base ++ [name.toList] := by
  have hkept : Path.IsKept name.toList := by
    simp only [List.mem_cons, List.not_mem_nil, or_false] at h
    obtain rfl | rfl | rfl := h <;> decide
  have hencode : Percent.encode (Percent.inSegment special) name.toList = name.toList := by
    simp only [List.mem_cons, List.not_mem_nil, or_false] at h
    obtain rfl | rfl | rfl := h <;> cases special <;> decide
  rw [Path.push_of_isKept special p hkept, hencode]

def subjectsPath : Path :=
  r.base.path.trim ++ ["subjects".toList]

theorem base_subjectsPath : r.subjectsPath.base = r.subjectsPath :=
  Path.base_of_ne (Path.append_segment_ne fun _ => by simp)

theorem subjectsPath_append (segment : List Char) :
    (r.subjectsPath ++ [segment]).base ++ ["versions".toList, "latest".toList] =
      lookupPath r.base.path.trim segment := by
  have hne : r.subjectsPath ++ [segment] ≠ [[]] :=
    Path.append_segment_ne fun hnil => by simp [subjectsPath] at hnil
  rw [Path.base_of_ne hne]
  simp [subjectsPath, lookupPath]

theorem push_subjects :
    Path.push r.base.isSpecial r.base.path.trim "subjects".toList = r.subjectsPath := by
  rw [push_name _ _ (by simp), Path.base_of_ne (Path.trim_ne _)]
  rfl

theorem latestUrl_path_eq (subject : String) :
    (r.latestUrl subject).path =
      (Path.push r.base.isSpecial r.subjectsPath subject.toList).base ++
        ["versions".toList, "latest".toList] := by
  have hrest : ∀ p : Path, Path.push r.base.isSpecial (Path.push r.base.isSpecial p
      "versions".toList) "latest".toList = p.base ++ ["versions".toList, "latest".toList] := by
    intro p
    have hne : p.base ++ ["versions".toList] ≠ [[]] := Path.append_segment_ne fun _ => by simp
    rw [push_name _ p (by simp), push_name _ _ (by simp), Path.base_of_ne hne]
    simp
  change Path.push _ (Path.push _ (Path.push _ (Path.push _ _ "subjects".toList) _)
    "versions".toList) "latest".toList = _
  rw [push_subjects, hrest]

theorem latestUrl_path {subject : String} (h : Path.IsKept subject.toList) :
    (r.latestUrl subject).path = lookupPath r.base.path.trim (r.written subject) := by
  rw [latestUrl_path_eq, Path.push_of_isKept _ _ h, base_subjectsPath]
  exact r.subjectsPath_append (r.written subject)

/-- The segments of a lookup stand for the subject only when the subject stays as it is. -/
theorem isKept_of_latestUrl_path {subject : String} {segment : List Char}
    (hpath : (r.latestUrl subject).path = lookupPath r.base.path.trim segment)
    (hsegment : Percent.decode segment = Utf8.encode subject.toList) :
    Path.IsKept subject.toList := by
  rw [latestUrl_path_eq] at hpath
  have hlength := congrArg List.length hpath
  by_cases hdots : subject.toList = ['.'] ∨ subject.toList = ['.', '.']
  · rw [Path.push_of_dots _ _ hdots, base_subjectsPath] at hlength
    simp [subjectsPath, lookupPath] at hlength
  obtain ⟨hhere, hup⟩ := not_or.mp hdots
  rw [Path.push_eq _ hhere hup, base_subjectsPath, Path.finish_encode] at hlength hpath
  have hsame : ∀ x, (r.subjectsPath ++ [x]).base ++ ["versions".toList, "latest".toList] =
      lookupPath r.base.path.trim segment → x = segment := by
    intro x hx
    rw [subjectsPath_append] at hx
    simpa [lookupPath] using hx
  split at hpath
  · -- Dots between line breaks take the path up, so that it is too short.
    rename_i hfilter
    rw [if_pos hfilter] at hlength
    have hle := Path.length_base_le (r.subjectsPath.dropLast ++ [[]])
    simp [subjectsPath, lookupPath] at hle hlength
    omega
  · split at hpath
    · rename_i hfilter
      rw [← hsame _ hpath] at hsegment
      have hnothing : Utf8.encode [] = Utf8.encode subject.toList := by
        simpa [Percent.decode, Utf8.encode] using hsegment
      have hnil : subject.toList = [] := (Utf8.encode_injective hnothing).symm
      rw [hnil] at hfilter
      cases hfilter
    · rw [← hsame _ hpath, Percent.decode_encode (Path.inSegment_percent _)] at hsegment
      have hfilter := List.filter_eq_self.mp (Utf8.encode_injective hsegment)
      exact ⟨hhere, hup, fun c hc => by simpa using hfilter c hc⟩

theorem write_lookupUrl :
    ∃ front back : List Char, ∀ subject, Path.IsKept subject.toList →
      (r.lookupUrl subject).write = String.ofList (front ++ r.written subject ++ back) := by
  obtain ⟨u, hu⟩ := r.exists_lookupUrl
  let apart := if u.host = none && r.subjectsPath.head? = some [] then ['/', '.'] else []
  refine ⟨u.scheme ++ [':'] ++ u.authority ++ apart ++ r.subjectsPath.write ++ ['/'],
    "/versions/latest".toList ++ u.query.elim [] ('?' :: ·) ++ u.fragment.elim [] ('#' :: ·), ?_⟩
  intro subject h
  have hpath : (r.latestUrl subject).path =
      r.subjectsPath ++ [r.written subject, "versions".toList, "latest".toList] := by
    rw [r.latestUrl_path h]
    simp [lookupPath, subjectsPath]
  have hhead : (r.latestUrl subject).path.head? = r.subjectsPath.head? := by
    rw [hpath, List.head?_append]
    simp [subjectsPath]
  have hlength : 1 < (r.latestUrl subject).path.length := by
    rw [hpath]
    simp
  have hwrite : (r.latestUrl subject).path.write =
      r.subjectsPath.write ++ ['/'] ++ r.written subject ++ "/versions/latest".toList := by
    rw [hpath]
    simp [Path.write]
  rw [hu, Url.write]
  congr 1
  simp only [Url.target, hhead, hlength, hwrite, decide_true, Bool.and_true, apart,
    List.append_assoc]
  rfl

theorem write_lookupUrl_injective {s t : String} (hs : Path.IsKept s.toList)
    (ht : Path.IsKept t.toList) (h : (r.lookupUrl s).write = (r.lookupUrl t).write) : s = t := by
  obtain ⟨front, back, hwrite⟩ := r.write_lookupUrl
  rw [hwrite s hs, hwrite t ht] at h
  have hchars := String.ofList_injective h
  have hwritten : r.written s = r.written t :=
    List.append_cancel_left (List.append_cancel_right hchars)
  exact String.toList_inj.mp (Percent.encode_injective (Path.inSegment_percent _) hwritten)

/-- The schema of a subject that stays as it is has a place of its own: the base path, up to an
empty last segment, and four segments, of which the second one is the subject in escapes. No other
subject has such a place. -/
theorem lookup_isolated (r : Registry) (hhttp : r.base.isHttp = true) :
    (∀ network subject, (r.latestSchema network subject).requests.head?.map Request.url =
      some (r.lookupUrl subject)) ∧
    (r.base.path = r.base.path.trim ∨ r.base.path = r.base.path.trim ++ [[]] ∨
      r.base.path = [[], []] ∧ r.base.path.trim = []) ∧
    (∀ subject : String, Path.IsKept subject.toList → ∃ segment,
      (r.lookupUrl subject).path = lookupPath r.base.path.trim segment ∧
      Percent.decode segment = Utf8.encode subject.toList ∧
      ∀ c ∈ segment, Percent.isVisible c = true ∧ c ≠ '/' ∧ c ≠ '?' ∧ c ≠ '#') ∧
    (∀ (subject : String) segment,
      (r.lookupUrl subject).path = lookupPath r.base.path.trim segment →
      Percent.decode segment = Utf8.encode subject.toList → Path.IsKept subject.toList) ∧
    ∀ s t : String, Path.IsKept s.toList → Path.IsKept t.toList →
      (r.lookupUrl s).write = (r.lookupUrl t).write → s = t := by
  refine ⟨r.requests_latestSchema hhttp, r.base.path.trim_cases, ?_, ?_, ?_⟩
  · intro subject h
    refine ⟨r.written subject, ?_, ?_, ?_⟩
    · rw [lookupUrl_path, r.latestUrl_path h]
    · exact Percent.decode_encode (Path.inSegment_percent _) subject.toList
    · exact fun c hc => Percent.mem_encode_inSegment hc
  · intro subject segment hpath hsegment
    rw [lookupUrl_path] at hpath
    exact r.isKept_of_latestUrl_path hpath hsegment
  · exact fun s t hs ht h => r.write_lookupUrl_injective hs ht h

def loopback : Registry where
  url := "http://[::1]:8081"
  base := ⟨"http".toList, [], none, some (.ipv6 [0, 0, 0, 0, 0, 0, 0, 1]), some 8081, [[]], none,
    none⟩
  login := none
  properties := .ofList [(urlProperty, "http://[::1]:8081/")]

theorem lookup_isolated_of_loopback :
    ofProperties (.ofList [(urlProperty, "http://[::1]:8081/")]) = .ok loopback ∧
      loopback.base.isHttp = true ∧ Path.IsKept "a b/c?".toList ∧ Path.IsKept "a b/c".toList ∧
      (∃ segment, (loopback.lookupUrl "a b/c?").path = lookupPath [] segment ∧
        Percent.decode segment = Utf8.encode "a b/c?".toList) ∧
      (loopback.lookupUrl "a b/c?").write ≠ (loopback.lookupUrl "a b/c").write := by
  have hlong : Path.IsKept "a b/c?".toList := by decide
  have hshort : Path.IsKept "a b/c".toList := by decide
  obtain ⟨-, -, hkept, -, hown⟩ := lookup_isolated loopback rfl
  obtain ⟨segment, hpath, hsegment, -⟩ := hkept "a b/c?" hlong
  refine ⟨rfl, rfl, hlong, hshort, ⟨segment, hpath, hsegment⟩, fun h => ?_⟩
  exact absurd (hown _ _ hlong hshort h) (by decide)

/-- Tabs are no part of a URL, so that a subject with one is looked up in another's place. -/
theorem lookup_of_tab :
    ofProperties (.ofList [(urlProperty, "http://[::1]:8081/")]) = .ok loopback ∧
      loopback.base.isHttp = true ∧
      (loopback.lookupUrl "a\tb").write = (loopback.lookupUrl "ab").write ∧
      ¬∃ segment, (loopback.lookupUrl "a\tb").path = lookupPath [] segment ∧
        Percent.decode segment = Utf8.encode "a\tb".toList := by
  refine ⟨rfl, rfl, congrArg Url.write rfl, ?_⟩
  rintro ⟨segment, hpath, hsegment⟩
  rw [lookupUrl_path] at hpath
  have hkept := loopback.isKept_of_latestUrl_path hpath hsegment
  have htab := hkept.no_break '\t' (by decide)
  cases htab

end Registry

end TestCluster
