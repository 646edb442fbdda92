import TestCluster.Proofs.Registry.Calls
import TestCluster.Proofs.Url.Path

namespace TestCluster

theorem Url.isSpecial_of_isHttp {u : Url} (h : u.isHttp = true) : u.isSpecial = true := by
  unfold isHttp at h
  unfold isSpecial
  simp only [Bool.or_eq_true, decide_eq_true_eq] at h
  obtain h | h := h <;> rw [h] <;> rfl

namespace Registry

open Url

section

variable (text : String)

theorem trimSlashes_append (n : Nat) :
    trimSlashes (text ++ String.ofList (List.replicate n '/')) = trimSlashes text := by
  unfold trimSlashes
  have hslashes : ∀ c ∈ List.replicate n '/', decide (c = '/') = true := by
    intro c hc
    exact decide_eq_true (List.eq_of_mem_replicate hc)
  rw [String.toList_append, String.toList_ofList, List.reverse_append, List.reverse_replicate,
    List.dropWhile_append_of_pos hslashes]

theorem getLast?_trimSlashes : (trimSlashes text).toList.getLast? ≠ some '/' := by
  unfold trimSlashes
  rw [String.toList_ofList, List.getLast?_reverse]
  intro hlast
  have hnot := List.head?_dropWhile_not (decide <| · = '/') text.toList.reverse
  rw [hlast] at hnot
  simp at hnot

variable (p : Properties)

/-- Properties of a registry with more slashes at the end of the URL. -/
def slashed (n : Nat) : Properties :=
  p.insert urlProperty (text ++ String.ofList (List.replicate n '/'))

variable {text p}

theorem ofProperties_slashed (h : p.get? urlProperty = some text) (n : Nat) :
    ofProperties (slashed text p n) =
      (ofProperties p).map fun r => { r with properties := slashed text p n } := by
  have hurl : (slashed text p n).get? urlProperty =
      some (text ++ String.ofList (List.replicate n '/')) := by
    rw [slashed, Properties.get?_insert, if_pos rfl]
  have hlogin : (slashed text p n).get? loginProperty = p.get? loginProperty := by
    rw [slashed, Properties.get?_insert, if_neg (by decide)]
  unfold ofProperties
  rw [hurl, h]
  dsimp only
  rw [hlogin, trimSlashes_append]
  cases Url.read (trimSlashes text) <;> rfl

end

def segment (subject : String) : List Char :=
  Percent.encode (Percent.inSegment true) subject.toList

theorem write_lookupPath (p : Path) (segment : List Char) :
    (lookupPath p segment).write =
      p.write ++ ("/subjects/".toList ++ segment ++ "/versions/latest".toList) := by
  rw [lookupPath, Path.write_append]
  simp [Path.write]

namespace Call

variable (call : Call) {r : Registry}

/-- What a call adds to the base path. -/
def place : Call → List Char
  | subjects => "/subjects".toList
  | latestSchema subject => "/subjects/".toList ++ segment subject ++ "/versions/latest".toList

theorem write_url_path (hhttp : r.base.isHttp = true)
    (hkept : ∀ subject, call = .latestSchema subject → Path.IsKept subject.toList) :
    (call.url r).path.write = r.base.path.trim.write ++ call.place := by
  cases call with
  | subjects =>
    change (Path.push r.base.isSpecial r.base.path.trim "subjects".toList).write = _
    rw [push_subjects, subjectsPath, Path.write_append]
    rfl
  | latestSchema subject =>
    have hsubject : Path.IsKept subject.toList := hkept subject rfl
    change (r.latestUrl subject).path.write = _
    rw [latestUrl_path r hsubject, write_lookupPath, written, Url.isSpecial_of_isHttp hhttp]
    rfl

theorem requests_congr {r' : Registry} (hbase : r'.base = r.base) (hlogin : r'.login = r.login)
    (network : Network) : call.requests r' network = call.requests r network := by
  have hurl : call.url r' = call.url r := by
    cases call with
    | subjects => simp only [url, subjectsUrl, endpoint, hbase]
    | latestSchema subject => simp only [url, latestUrl, endpoint, hbase]
  rw [requests_eq, requests_eq, hurl, hlogin]

end Call

/-- A call asks for the base path, up to a slash at its end, with the call's own place after it, and
leaves the base URL as it is otherwise. The subject is one segment there that reads as the subject.
However many slashes the configured URL ends in, the registry's own ends in none, and the requests
are the same. -/
theorem calls_below_base (p : Properties) (r : Registry) (h : ofProperties p = .ok r) :
    (r.base.isHttp = true → r.base.path.write ≠ ['/', '/'] → ∀ (call : Call) (network : Network),
      (∀ subject, call = .latestSchema subject → Path.IsKept subject.toList) →
      ∃ q, (call.requests r network).head? = some q ∧
        q.url.path.write = Path.upToSlash r.base.path.write ++ call.place ∧
        q.url.scheme = r.base.scheme ∧ q.url.host = r.base.host ∧ q.url.port = r.base.port ∧
        q.url.query = r.base.query) ∧
    (∀ subject, Percent.StandsFor (segment subject) subject.toList) ∧
    r.url.toList.getLast? ≠ some '/' ∧
    ∀ text n, p.get? urlProperty = some text → ∃ r', ofProperties (slashed text p n) = .ok r' ∧
      r'.url = r.url ∧
      ∀ (call : Call) network, call.requests r' network = call.requests r network := by
  have hmade := made_of_ofProperties h
  refine ⟨?_, fun subject => Path.standsFor_encode subject.toList, ?_, ?_⟩
  · intro hhttp hpath call network hkept
    have hurl := call.request_url r
    have hwrite : (call.request r).url.path.write =
        Path.upToSlash r.base.path.write ++ call.place := by
      rw [hurl]
      dsimp only
      rw [call.write_url_path hhttp hkept,
        Path.write_trim (readsSegmented_read _ _ hmade.base) hpath]
    refine ⟨call.request r, ?_, hwrite, ?_, ?_, ?_, ?_⟩
    · rw [call.head?_requests, if_pos hhttp]
    all_goals rw [hurl]
  · obtain ⟨text, -, hurl⟩ := hmade.url
    rw [hurl]
    exact getLast?_trimSlashes text
  · intro text n htext
    refine ⟨{ r with properties := slashed text p n }, ?_, rfl, fun call network => ?_⟩
    · rw [ofProperties_slashed htext, h]
      rfl
    · exact call.requests_congr rfl rfl network

def nested : Registry where
  url := "http://[::1]:8081/a/b/?q=1"
  base := ⟨"http".toList, [], none, some (.ipv6 [0, 0, 0, 0, 0, 0, 0, 1]), some 8081,
    ["a".toList, "b".toList, []], some "q=1".toList, none⟩
  login := none
  properties := .ofList [(urlProperty, "http://[::1]:8081/a/b/?q=1//")]

theorem calls_below_nested :
    ofProperties (.ofList [(urlProperty, "http://[::1]:8081/a/b/?q=1//")]) = .ok nested ∧
      nested.base.isHttp = true ∧ nested.base.path.write = "/a/b/".toList ∧
      Path.IsKept "50%/é".toList ∧
      ∃ q, ((Call.latestSchema "50%/é").requests nested fun _ => none).head? = some q ∧
        q.url.path.write = "/a/b/subjects/50%25%2F%C3%A9/versions/latest".toList ∧
        q.url.query = some "q=1".toList := by
  have hmade : ofProperties (.ofList [(urlProperty, "http://[::1]:8081/a/b/?q=1//")]) =
      .ok nested := rfl
  have hkept : Path.IsKept "50%/é".toList := by decide
  obtain ⟨hcalls, -⟩ := calls_below_base _ nested hmade
  obtain ⟨q, hq, hpath, -, -, -, hquery⟩ := hcalls rfl (by decide) (.latestSchema "50%/é")
    (fun _ => none) (by rintro _ ⟨⟩; exact hkept)
  refine ⟨hmade, rfl, by decide, hkept, q, hq, ?_, hquery⟩
  rw [hpath]
  decide

end Registry

end TestCluster
