import ClusterAudit.Proofs.Url.Percent
import ClusterAudit.Service

/-!
# Details of images

The name of an image is the end of a path. It is decoded, and the scanner is asked for what it
decodes to; the answer tells what the scanner says about this image, or that it says nothing. So
there are two things to see about the answer: which image it is about
(`ClusterAudit.Service.answer_of_asksForDetails`), and that nothing else which can be reached has
to do with it (`ClusterAudit.Service.answer_withNetwork`). No image is out of reach, because every
name can stand encoded in a path (`ClusterAudit.Service.asksForDetails_encode`).
-/

namespace ClusterAudit

open Url

/-! ### Paths of images -/

theorem Route.ofTail?_image {tag : List Char} (h : tag ≠ []) :
    Route.ofTail? (Route.imagePath ++ tag) = some (.image tag) := by
  have hother {other : List Char} (hne : other.take 7 ≠ Route.imagePath) :
      Route.imagePath ++ tag ≠ other := by
    rintro rfl
    exact hne rfl
  have hlonger : (Route.imagePath.isPrefixOf (Route.imagePath ++ tag) &&
      Route.imagePath.length < (Route.imagePath ++ tag).length) = true := by
    simp [List.length_pos_iff.2 h]
  rw [Route.ofTail?, if_neg (hother (by decide)), if_neg (hother (by decide)),
    if_neg (hother (by decide)), if_neg (hother (by decide)), if_pos hlonger, List.drop_left]

/-- Without a base path, what is behind the path of images is asked for. -/
theorem BasePath.route?_image {tag : List Char} (h : tag ≠ []) :
    BasePath.route? [] (Route.imagePath ++ tag) = some (.image tag, []) := by
  have hpath : Route.imagePath ++ tag = '/' :: ("image/".toList ++ tag) := rfl
  have hpieces : Text.pieces '/' ('/' :: ("image/".toList ++ tag)) =
      [] :: Text.pieces '/' ("image/".toList ++ tag) := rfl
  rw [BasePath.route?, hpath, hpieces]
  dsimp only [BasePath.below?]
  rw [Text.flatMap_cons_pieces, ← hpath, Route.ofTail?_image h]
  rfl

/-! ### What the scanner is asked -/

namespace Scanner

variable {s : Scanner} {image : String}

/-- The request for the scan of an image. -/
def detailsRequest (s : Scanner) (image : String) : Request where
  method := "GET"
  url := s.detailsUrl image

/-- What is learnt about an image does not depend on what the network answers to other requests. -/
theorem details_congr {net net' : Network}
    (h : net (s.detailsRequest image) = net' (s.detailsRequest image)) :
    s.details net image = s.details net' image := by
  have hsend : net.send (s.detailsRequest image) = net'.send (s.detailsRequest image) := by
    rw [Network.send, Network.send, h]
  exact congrArg (decoded ImageScan.selection ImageScan.ofJson?) hsend

end Scanner

/-! ### What the service answers -/

namespace Service

/-- A request for the details of an image. -/
structure AsksForDetails (s : Service) (r : ServedRequest) (image : String) : Prop where
  /-- The path ends in what decodes to the image. -/
  route : ∃ tag, s.base.route? r.path = some (.image tag, []) ∧
    Utf8.decode? (decode tag) = some image
  /-- The method is the one that asks for something. -/
  method : r.method = "GET"

/-- The service with another network. -/
def withNetwork (s : Service) (net : Network) : Service :=
  { s with surroundings := { s.surroundings with network := net } }

variable {s : Service} {r : ServedRequest} {image : String}

/-- **A request for the details of an image is answered with them**, and the metrics stay. -/
theorem answer_of_asksForDetails (h : s.AsksForDetails r image) (m : Metrics) :
    s.answer m r = (s.detailsAnswer image, m) := by
  obtain ⟨⟨tag, hroute, htag⟩, hmethod⟩ := h
  have hargument : [("tag".toList, tag)].mapM argumentText = .ok [image] := by
    rw [List.mapM_cons, argumentText, htag]
    rfl
  rw [answer, hroute]
  simp only [hmethod, if_true, routeAnswer, imageAnswer, List.nil_append, hargument]

theorem detailsAnswer_withNetwork {sc : Scanner} (hsc : s.scanner = some sc) {net : Network}
    (hnet : net (sc.detailsRequest image) = s.surroundings.network (sc.detailsRequest image)) :
    (s.withNetwork net).detailsAnswer image = s.detailsAnswer image := by
  have hdetails : sc.details net image = sc.details s.surroundings.network image :=
    Scanner.details_congr hnet
  rw [detailsAnswer, detailsAnswer, withNetwork, hsc]
  dsimp only
  rw [hdetails]

/-- **The answer depends on one reply of the network**, the one to the request for this image. -/
theorem answer_withNetwork {sc : Scanner} (hsc : s.scanner = some sc)
    (h : s.AsksForDetails r image) (m : Metrics) (net : Network)
    (hnet : net (sc.detailsRequest image) = s.surroundings.network (sc.detailsRequest image)) :
    (s.withNetwork net).answer m r = s.answer m r := by
  have h' : (s.withNetwork net).AsksForDetails r image := ⟨h.route, h.method⟩
  rw [answer_of_asksForDetails h', answer_of_asksForDetails h, detailsAnswer_withNetwork hsc hnet]

/-- **Every image can be asked for**, by its name in percent encoding. -/
theorem asksForDetails_encode (hs : s.base = []) (h : image ≠ "") {set : Char → Bool}
    (hset : set '%' = true) :
    s.AsksForDetails { method := "GET", path := Route.imagePath ++ encode set image.toList }
      image := by
  have htag : Utf8.decode? (decode (encode set image.toList)) = some image := by
    rw [decode_encode hset, Utf8.decode?_encode]
  have hne : encode set image.toList ≠ [] := by
    intro hnil
    exact h (String.toList_injective (encode_injective hset hnil))
  refine ⟨⟨encode set image.toList, ?_, htag⟩, rfl⟩
  rw [hs, BasePath.route?_image hne]

end Service

end ClusterAudit
