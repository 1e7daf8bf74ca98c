import Bottlecap.Appsec.Cookies

namespace Bottlecap
namespace Appsec

open Foundations
open Lifecycle (Tags)

/-!
# The headers the WAF sees

`request_headers_no_cookies` of `appsec/processor/mod.rs` and
`response_headers_no_cookies` of `appsec/processor/response.rs` turn the headers of an
HTTP event and of its response into maps from names to values.  Cookies are to be left
out, since they are reported apart from the headers, and nothing else is to be lost.

The names are those after deserialization, in lower case.
-/

/-- A map from names to the values of a header. -/
abbrev HeaderMap := AList (fun _ : String => List String)

/-- An HTTP event, as far as its headers go. -/
inductive HttpHeaders where
  | apiGatewayHttpEvent (headers : Tags)
  | apiGatewayRestEvent (event : EventHeaders)
  | apiGatewayWebSocketEvent (event : EventHeaders)
  | albEvent (event : EventHeaders)
  | lambdaFunctionUrlEvent (headers : Tags)

/-- `ApiGatewayResponse`, as far as its headers go. -/
structure ApiGatewayResponse where
  headers : Tags
  multiValueHeaders : HeaderMap

/-- Entries whose values are lists already. -/
def cloned (headers : HeaderMap) : List (String × List String) :=
  headers.entries.map (fun entry => (entry.1, entry.2))

/-- Each value as a list of one. -/
def asMulti (headers : Tags) : List (String × List String) :=
  headers.entries.map (fun entry => (entry.1, [entry.2]))

def without (name : String) (headers : List (String × List String)) :
    List (String × List String) :=
  headers.filter (fun header => header.1 != name)

def requestHeadersNoCookies : HttpHeaders -> HeaderMap
  | .apiGatewayHttpEvent headers => collect (asMulti headers)
  | .apiGatewayRestEvent event =>
    collect (without "cookie" (cloned event.multiValueHeaders))
  | .apiGatewayWebSocketEvent event =>
    collect (without "cookie" (cloned event.multiValueHeaders))
  | .albEvent event =>
    if event.multiValueHeaders.entries.isEmpty then
      collect (without "cookie" (asMulti event.headers))
    else collect (without "cookie" (cloned event.multiValueHeaders))
  | .lambdaFunctionUrlEvent headers => collect (asMulti headers)

def ApiGatewayResponse.responseHeadersNoCookies (response : ApiGatewayResponse) : HeaderMap :=
  if response.multiValueHeaders.entries.isEmpty then
    collect (without "set-cookie" (asMulti response.headers))
  else response.multiValueHeaders

/-- Every header of the response but the one of the name is seen with its values. -/
structure ApiGatewayResponse.SeenWithout (name : String) (response : ApiGatewayResponse)
    (seen : HeaderMap) : Prop where
  hidden : seen.lookup name = none
  single : forall other value, other ≠ name -> response.headers.lookup other = some value ->
    Exists fun values => seen.lookup other = some values ∧ value ∈ values
  multi : forall other values, other ≠ name ->
    response.multiValueHeaders.lookup other = some values -> seen.lookup other = some values

namespace HttpHeaders

/-- The two kinds of events that list their cookies have no header with them. -/
def CookiesApart : HttpHeaders -> Prop
  | apiGatewayHttpEvent headers => headers.lookup "cookie" = none
  | lambdaFunctionUrlEvent headers => headers.lookup "cookie" = none
  | _ => True

end HttpHeaders

/-- If there are multi-value headers, they set no cookies and repeat the others. -/
def ApiGatewayResponse.MultiCovers (response : ApiGatewayResponse) : Prop :=
  response.multiValueHeaders.entries.isEmpty = false ->
    response.multiValueHeaders.lookup "set-cookie" = none ∧
    forall name value, name ≠ "set-cookie" -> response.headers.lookup name = some value ->
      Exists fun values => response.multiValueHeaders.lookup name = some values ∧ value ∈ values

theorem lookup_without (name : String) (headers : List (String × List String)) :
    (collect (without name headers)).lookup name = none := by
  apply lookup_collect_of_not_mem
  intro member
  obtain ⟨header, kept, same⟩ := List.mem_map.mp member
  rw [without, List.mem_filter, same, bne_self_eq_false] at kept
  exact absurd kept.2 Bool.false_ne_true

theorem names_asMulti (headers : Tags) : (asMulti headers).map Prod.fst = headers.keys := by
  rw [asMulti, List.map_map]
  rfl

theorem distinct_asMulti (headers : Tags) : ((asMulti headers).map Prod.fst).Nodup := by
  rw [names_asMulti]
  exact headers.keys_nodup

theorem mem_asMulti {name value : String} {headers : Tags}
    (given : headers.lookup name = some value) : (name, [value]) ∈ asMulti headers :=
  List.mem_map_of_mem (AList.mem_lookup_iff.mp given)

/-- A header whose name is not the one left out is found. -/
theorem lookup_without_asMulti {name other value : String} {headers : Tags}
    (different : other ≠ name) (given : headers.lookup other = some value) :
    (collect (without name (asMulti headers))).lookup other = some [value] := by
  have kept : (other, [value]) ∈ without name (asMulti headers) := by
    rw [without, List.mem_filter, bne_iff_ne]
    exact ⟨mem_asMulti given, different⟩
  have distinct : ((without name (asMulti headers)).map Prod.fst).Nodup :=
    (distinct_asMulti headers).sublist (List.filter_sublist.map Prod.fst)
  exact lookup_collect_of_mem distinct kept

/-- Without a filter, the header is seen if the event has it. -/
theorem lookup_asMulti_eq_none_iff (name : String) (headers : Tags) :
    (collect (asMulti headers)).lookup name = none <-> headers.lookup name = none := by
  constructor
  · intro unseen
    cases given : headers.lookup name with
    | none => rfl
    | some value =>
      have seen := lookup_collect_of_mem (distinct_asMulti headers) (mem_asMulti given)
      rw [unseen] at seen
      cases seen
  · intro absent
    apply lookup_collect_of_not_mem
    rw [names_asMulti]
    exact AList.lookup_eq_none.mp absent

/-- The request shows no cookies, and the response no cookies but everything else,
exactly if the events that list their cookies have no header with them and the
multi-value headers of the response, if there are any, set no cookies and repeat all
other headers. -/
theorem headers_without_cookies_iff (event : HttpHeaders) (response : ApiGatewayResponse) :
    (requestHeadersNoCookies event).lookup "cookie" = none ∧
        response.SeenWithout "set-cookie" response.responseHeadersNoCookies <->
      event.CookiesApart ∧ response.MultiCovers := by
  apply and_congr
  · cases event with
    | apiGatewayHttpEvent headers | lambdaFunctionUrlEvent headers =>
      exact lookup_asMulti_eq_none_iff "cookie" headers
    | apiGatewayRestEvent | apiGatewayWebSocketEvent =>
      exact iff_of_true (lookup_without "cookie" _) trivial
    | albEvent =>
      refine iff_of_true ?_ trivial
      rw [requestHeadersNoCookies]
      split <;> exact lookup_without "cookie" _
  · rw [ApiGatewayResponse.responseHeadersNoCookies, ApiGatewayResponse.MultiCovers]
    cases single : response.multiValueHeaders.entries.isEmpty with
    | true =>
      refine iff_of_true ⟨lookup_without "set-cookie" _, ?_, ?_⟩ (fun absurd => nomatch absurd)
      · intro name value different given
        exact ⟨[value], lookup_without_asMulti different given, List.mem_singleton_self value⟩
      · intro name values different given
        have listed := AList.mem_lookup_iff.mp given
        rw [List.isEmpty_iff.mp single] at listed
        cases listed
    | false =>
      constructor
      · intro seen _
        exact ⟨seen.hidden, seen.single⟩
      · intro covers
        exact ⟨(covers rfl).1, (covers rfl).2, fun _ _ _ given => given⟩

/-- A cookie in the headers of an HTTP API, and a response with a cookie and a content
type of which only the cookie is a multi-value header. -/
theorem cookies_shown :
    (requestHeadersNoCookies (HttpHeaders.apiGatewayHttpEvent
        ((∅ : Tags).insert "cookie" "session=1"))).lookup "cookie" = some ["session=1"] ∧
      let response : ApiGatewayResponse :=
        ⟨(∅ : Tags).insert "content-type" "text/html",
          (∅ : HeaderMap).insert "set-cookie" ["session=1"]⟩
      response.responseHeadersNoCookies.lookup "set-cookie" = some ["session=1"] ∧
        response.responseHeadersNoCookies.lookup "content-type" = none := by
  decide

end Appsec
end Bottlecap
