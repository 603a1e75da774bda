import ClusterAudit.Proofs.Service.Details
import ClusterAudit.Proofs.Url.Extend

/-!
# Addresses of the scanner

Everything that the scanner is asked for has an address below its base: the segments of the base
come first, then the names of a resource, and what is asked for is either the last segment or in the
fields of the query. In both places it is some text of somebody else, the name of an image, which
may hold anything.

In the query every list of names can be read back (`ClusterAudit.Scanner.resultsUrl_exact`). As a
segment every name can be read back that is no directory and has no tabs or ends of line in it, and
no other one (`ClusterAudit.Scanner.addresses_iff`). Such a name has an address of its own, and a
service that is asked for it asks for nothing else (`ClusterAudit.Scanner.detailsUrl_exact`).
-/

namespace ClusterAudit

open Url

namespace Scanner

/-! ### Below the base -/

theorem ofUrl?_of_parse {text : String} {u : Url} (hparse : Url.parse text = .ok u)
    (hu : u.hasSegments = true) : ofUrl? text = .ok ⟨u, hu⟩ := by
  rw [ofUrl?, hparse]
  exact dif_pos hu

/-- **An address below the base can always be built.** -/
theorem extend?_base (s : Scanner) (segments : List String) :
    s.base.extend? segments = some (s.endpoint segments) := by
  obtain ⟨l, hpath⟩ := exists_path_eq_segments s.hasSegments
  rw [endpoint, extend?, hpath]

theorem endpoint_cons (s : Scanner) {first : String} {texts : List String} (hfirst : first ≠ "")
    (h : ∀ t ∈ first :: texts, IsPlain t) :
    s.endpoint (first :: texts) = { s.base with
      path := .segments
        (ground s.base.pathSegments ++
          (first :: texts).map (written (isSpecial s.base.scheme))) } :=
  Option.some.inj ((s.extend?_base _).symm.trans (extend?_cons s.hasSegments hfirst h))

/-- The last segment is put behind the others. -/
theorem pathSegments_endpoint_concat (s : Scanner) (segments : List String) (last : String) :
    (s.endpoint (segments ++ [last])).pathSegments =
      pushSegment (isSpecial s.base.scheme) (s.endpoint segments).pathSegments last := by
  obtain ⟨l, hpath⟩ := exists_path_eq_segments s.hasSegments
  simp only [endpoint, extend?, hpath, pathSegments, List.foldl_append, List.foldl_cons,
    List.foldl_nil]

/-! ### The summaries of images -/

theorem isPlain_names : ∀ t ∈ ["scan-results", "trivy"], IsPlain t := by
  decide

theorem endpoint_results (s : Scanner) :
    s.endpoint ["scan-results", "trivy"] = { s.base with
      path := .segments (ground s.base.pathSegments ++ ["scan-results", "trivy"]) } := by
  rw [s.endpoint_cons (by decide) isPlain_names]
  cases isSpecial s.base.scheme <;> rfl

/-- **The images are read back from the query**, in their order and behind the fields of the base.
Nothing else comes to the base but two segments, so that the address tells which images are asked
for. -/
theorem resultsUrl_exact (s : Scanner) (images : List String) :
    (s.resultsUrl images).path =
        .segments (ground s.base.pathSegments ++ ["scan-results", "trivy"]) ∧
      (s.resultsUrl images).queryFields =
        s.base.queryFields ++ images.map (fun image => ("images", image)) ∧
      { s.resultsUrl images with path := s.base.path, query := s.base.query } = s.base ∧
      ∀ other, (s.resultsUrl other).text = (s.resultsUrl images).text → other = images := by
  have hfields (l : List String) :
      (s.resultsUrl l).queryFields =
        s.base.queryFields ++ l.map (fun image => ("images", image)) := by
    rw [resultsUrl, queryFields_appendFields, endpoint_results]
    rfl
  refine ⟨?_, hfields images, ?_, ?_⟩
  · rw [resultsUrl, endpoint_results]
    rfl
  · rw [resultsUrl, endpoint_results]
    rfl
  · intro other h
    have hquery : (s.resultsUrl other).query = (s.resultsUrl images).query :=
      congrArg some (query_inj_of_text h)
    have hsame : (s.resultsUrl other).queryFields = (s.resultsUrl images).queryFields := by
      rw [queryFields, hquery, queryFields]
    rw [hfields, hfields, List.append_cancel_left_eq] at hsame
    exact List.map_injective_iff.2 (fun _ _ h => (Prod.mk.inj h).2) hsame

/-- The images are as they were, with the fields of the base in front and its fragment behind. -/
theorem resultsUrl_exact_twice :
    let s : Scanner := ⟨{
      scheme := "http"
      host := some (.name "scanner")
      port := some 8081
      path := .segments ["api", ""]
      query := some "a=1"
      fragment := some "top" }, rfl⟩
    let images := ["a b&c=d+é", "", "a b&c=d+é"]
    (s.resultsUrl images).queryFields =
        [("a", "1"), ("images", "a b&c=d+é"), ("images", ""), ("images", "a b&c=d+é")] ∧
      (s.resultsUrl images).text = "http://scanner:8081/api/scan-results/trivy?a=1" ++
        "&images=a+b%26c%3Dd%2B%C3%A9&images=&images=a+b%26c%3Dd%2B%C3%A9#top" ∧
      ∀ other, (s.resultsUrl other).text = (s.resultsUrl images).text → other = images := by
  intro s images
  obtain ⟨-, hfields, -, happart⟩ := resultsUrl_exact s images
  have hbase : s.base.queryFields = [("a", "1")] := by decide +kernel
  rw [hbase] at hfields
  exact ⟨hfields, by decide +kernel, happart⟩

/-- **Not every empty segment but one stays**: of two slashes behind the host none is left. -/
theorem exists_not_behind_lessTrailing :
    ∃ s images, ofUrl? "http://[::1]//" = .ok s ∧
      (s.resultsUrl images).path ≠
        .segments (lessTrailing s.base.pathSegments ++ ["scan-results", "trivy"]) := by
  let base : Url := {
    scheme := "http"
    host := some (.ipv6 [0, 0, 0, 0, 0, 0, 0, 1])
    path := .segments ["", ""] }
  have hparse : Url.parse "http://[::1]//" = .ok base := by decide +kernel
  exact ⟨⟨base, rfl⟩, ["nginx"], ofUrl?_of_parse hparse rfl, by decide +kernel⟩

/-! ### The scan of an image -/

variable {s : Scanner} {image : String}

theorem isPlain_names_image (h : IsPlain image) :
    ∀ t ∈ ["scan-results", "trivy", image], IsPlain t := by
  intro t ht
  have hsplit : t ∈ ["scan-results", "trivy"] ++ [image] := ht
  rcases List.mem_append.1 hsplit with ht | ht
  · exact isPlain_names t ht
  · rw [List.mem_singleton.1 ht]
    exact h

theorem detailsUrl_of_isPlain (s : Scanner) (h : IsPlain image) :
    s.detailsUrl image = { s.base with
      path := .segments (ground s.base.pathSegments ++
        ["scan-results", "trivy", image].map (written (isSpecial s.base.scheme))) } :=
  s.endpoint_cons (by decide) (isPlain_names_image h)

/-- The address for an image has three segments behind the given ones, and the last of them is the
image. -/
def Addresses (s : Scanner) (front : List String) (image : String) : Prop :=
  (s.detailsUrl image).pathSegments.map segmentBytes =
    front.map segmentBytes ++
      ["scan-results", "trivy", image].map fun text => Utf8.encode text.toList

instance (front : List String) : Decidable (s.Addresses front image) :=
  inferInstanceAs (Decidable (_ = _))

/-- **Exactly the plain images have an address of this form.** -/
theorem addresses_iff :
    s.Addresses (ground s.base.pathSegments) image ↔ IsPlain image := by
  have hne : (s.endpoint ["scan-results", "trivy"]).pathSegments ≠ [""] := by
    rw [endpoint_results]
    intro h
    exact absurd (congrArg List.length h) (by simp [pathSegments])
  have hpath : (s.detailsUrl image).pathSegments =
      pushSegment (isSpecial s.base.scheme)
        (s.endpoint ["scan-results", "trivy"]).pathSegments image :=
    s.pathSegments_endpoint_concat ["scan-results", "trivy"] image
  have hbytes : (s.endpoint ["scan-results", "trivy"]).pathSegments.map segmentBytes =
      (ground s.base.pathSegments).map segmentBytes ++
        ["scan-results", "trivy"].map fun text => Utf8.encode text.toList := by
    rw [endpoint_results, pathSegments, List.map_append]
    rfl
  rw [isPlain_iff_pushSegment hne, ← hpath, hbytes, List.append_assoc]
  rfl

/-- **The address for an image asks for this image and nothing else.** -/
structure AsksFor (s : Scanner) (image : String) : Prop where
  /-- Nothing but the path is different from the base. -/
  rest : { s.detailsUrl image with path := s.base.path } = s.base
  /-- Behind the segments of the base there are three, the last of which is the image. -/
  segments : s.Addresses (ground s.base.pathSegments) image
  /-- Who reads the address comes below the base. -/
  below : ∃ added, (s.detailsUrl image).pathSegments = ground s.base.pathSegments ++ added ∧
    LeadsBelow (isSpecial s.base.scheme) added
  /-- No other image has this address. -/
  apart (other : String) : IsPlain other →
    (s.detailsUrl other).text = (s.detailsUrl image).text → other = image
  /-- A service that is asked for the image answers with what it learns at the address. -/
  served (service : Service) (r : ServedRequest) (m : Metrics) : service.scanner = some s →
    service.AsksForDetails r image →
      service.answer m r = (service.detailsAnswer image, m) ∧
      ∀ net : Network,
        net (s.detailsRequest image) = service.surroundings.network (s.detailsRequest image) →
        (service.withNetwork net).answer m r = service.answer m r

/-- **The address for an image is always built, and a plain image has one of its own.** -/
theorem detailsUrl_exact (s : Scanner) (image : String) :
    s.base.extend? ["scan-results", "trivy", image] = some (s.detailsUrl image) ∧
      (IsPlain image → s.AsksFor image) := by
  refine ⟨s.extend?_base _, fun h => ?_⟩
  have hurl := s.detailsUrl_of_isPlain h
  refine { rest := ?_, segments := addresses_iff.2 h, below := ?_, apart := ?_, served := ?_ }
  · rw [hurl]
  · refine ⟨["scan-results", "trivy", image].map (written (isSpecial s.base.scheme)), ?_, ?_⟩
    · rw [hurl]
      rfl
    · exact leadsBelow_written (isPlain_names_image h)
        (by cases isSpecial s.base.scheme <;> decide)
  · intro other hother htext
    have hlast {i : String} (hi : IsPlain i) :
        s.detailsUrl i = { s.base with
          path := .segments ((ground s.base.pathSegments ++
            ["scan-results", "trivy"].map (written (isSpecial s.base.scheme))) ++
              [written (isSpecial s.base.scheme) i]) } := by
      rw [s.detailsUrl_of_isPlain hi, List.append_assoc]
      rfl
    rw [hlast h, hlast hother] at htext
    exact written_injective (last_inj_of_text (by simp) htext)
  · intro service r m hscanner hr
    exact ⟨Service.answer_of_asksForDetails hr m, Service.answer_withNetwork hscanner hr m⟩

/-- The image is one segment, also if there is a slash in it. -/
theorem detailsUrl_exact_slash :
    let s : Scanner := ⟨{
      scheme := "http"
      host := some (.name "scanner")
      port := some 8081
      path := .segments [""] }, rfl⟩
    let service : Service := {
      configuration := {}
      source := .static {}
      scanner := some s }
    let r : ServedRequest := { method := "GET", path := "/image/library%2Fnginx:1.25".toList }
    IsPlain "library/nginx:1.25" ∧ s.AsksFor "library/nginx:1.25" ∧
      (s.detailsUrl "library/nginx:1.25").text =
        "http://scanner:8081/scan-results/trivy/library%2Fnginx:1.25" ∧
      (s.detailsUrl "library/nginx:1.26").text ≠ (s.detailsUrl "library/nginx:1.25").text ∧
      service.AsksForDetails r "library/nginx:1.25" ∧
      service.answer {} r = (service.detailsAnswer "library/nginx:1.25", {}) := by
  intro s service r
  have hplain : IsPlain "library/nginx:1.25" := by decide
  have hasks : s.AsksFor "library/nginx:1.25" := (detailsUrl_exact s _).2 hplain
  have hencoded : r = ⟨"GET", Route.imagePath ++
      encode (inSegment true) "library/nginx:1.25".toList, []⟩ := by decide +kernel
  have hr : service.AsksForDetails r "library/nginx:1.25" := by
    rw [hencoded]
    exact Service.asksForDetails_encode rfl (by decide) (inSegment_percent true)
  refine ⟨hplain, hasks, by decide +kernel, ?_, hr, (hasks.served service r {} rfl hr).1⟩
  intro htext
  exact absurd (hasks.apart _ (by decide) htext) (by decide)

/-- **Not every image is plain, and not every empty segment but one stays.** Of two slashes behind
the host none is left, the name of a directory does not become a segment, and a tab makes no
difference. -/
theorem exists_not_addresses :
    (∃ s, ofUrl? "http://[::1]//" = .ok s ∧
      ¬s.Addresses (lessTrailing s.base.pathSegments) "nginx") ∧
    ∃ s, ofUrl? "http://[::1]" = .ok s ∧
      (∀ image ∈ [".", "..", "nginx\t"], ¬s.Addresses (lessTrailing s.base.pathSegments) image) ∧
      s.detailsUrl "nginx\t" = s.detailsUrl "nginx" := by
  let host : Url := {
    scheme := "http"
    host := some (.ipv6 [0, 0, 0, 0, 0, 0, 0, 1])
    path := .segments [""] }
  let slashes : Url := { host with path := .segments ["", ""] }
  have hhost : Url.parse "http://[::1]" = .ok host := by decide +kernel
  have hslashes : Url.parse "http://[::1]//" = .ok slashes := by decide +kernel
  exact ⟨⟨⟨slashes, rfl⟩, ofUrl?_of_parse hslashes rfl, by decide +kernel⟩,
    ⟨⟨host, rfl⟩, ofUrl?_of_parse hhost rfl, by decide +kernel, by decide +kernel⟩⟩

end Scanner

end ClusterAudit
