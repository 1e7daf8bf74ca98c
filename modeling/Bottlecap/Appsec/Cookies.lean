import Bottlecap.Foundations.Runs
import Bottlecap.Foundations.Text
import Bottlecap.Lifecycle.Span

namespace Bottlecap
namespace Appsec

open Foundations
open Lifecycle (Tags)

/-!
# The cookies the WAF sees

`request_cookies` of `appsec/processor/mod.rs` turns the cookies of an HTTP event
into a map from names to values.  Events of API Gateway HTTP APIs and of function
URLs list their cookies; the others carry them in headers, which are parsed by the
`cookie` crate.  Either way the pairs are grouped by runs of equal names and the
runs are collected into the map, where the last run of a name replaces the others.
-/

/-- The headers of an event. -/
structure EventHeaders where
  headers : Tags
  multiValueHeaders : AList (fun _ : String => List String)

/-- An HTTP event, as far as its cookies go.  The names of its headers are in lower
case, except for those of a load balancer's event. -/
inductive HttpEvent where
  | apiGatewayHttpEvent (cookies : Option (List String)) (headers : Tags)
  | apiGatewayRestEvent (headers : EventHeaders)
  | apiGatewayWebSocketEvent (headers : EventHeaders)
  | albEvent (headers : EventHeaders)
  | lambdaFunctionUrlEvent (cookies : Option (List String)) (headers : Tags)

/-- A map from names to the values of a cookie. -/
abbrev CookieMap := AList (fun _ : String => List String)

/-- `c.split_once('=')` -/
def splitCookie (cookie : String) : Option (String × String) :=
  (splitOnce '=' cookie.toList).map (fun pair => (String.ofList pair.1, String.ofList pair.2))

def listToMap (list : List String) : CookieMap :=
  collect (runs (list.filterMap splitCookie))

namespace EventHeaders

def cookieHeaders (event : EventHeaders) : Option (List String) :=
  event.multiValueHeaders.lookup "cookie"

def cookieHeadersOrHeader (event : EventHeaders) : Option (List String) :=
  event.cookieHeaders.or ((event.headers.lookup "cookie").map (fun value => [value]))

end EventHeaders

section Requests

variable (splitParse : String -> List (Option (String × String)))

/-- `Cookie::split_parse` without the cookies that do not parse. -/
def parseCookie (cookie : String) : List (String × String) :=
  (splitParse cookie).filterMap id

/-- The chain of adapters that the three kinds of events with headers share. -/
def parseToMap (headers : Option (List String)) : CookieMap :=
  collect (runs ((headers.getD []).flatMap (parseCookie splitParse)))

def requestCookies : HttpEvent -> CookieMap
  | .apiGatewayHttpEvent cookies _ => (cookies.map listToMap).getD ∅
  | .apiGatewayRestEvent event => parseToMap splitParse event.cookieHeadersOrHeader
  -- the only kind that does not fall back to the single header
  | .apiGatewayWebSocketEvent event => parseToMap splitParse event.cookieHeaders
  | .albEvent event => parseToMap splitParse event.cookieHeadersOrHeader
  | .lambdaFunctionUrlEvent cookies _ => (cookies.map listToMap).getD ∅

namespace HttpEvent

/-- The cookies in the list or the headers that `request_cookies` looks at. -/
def cookiesRead : HttpEvent -> List (String × String)
  | apiGatewayHttpEvent cookies _ => (cookies.getD []).filterMap splitCookie
  | apiGatewayRestEvent event =>
    (event.cookieHeadersOrHeader.getD []).flatMap (parseCookie splitParse)
  | apiGatewayWebSocketEvent event =>
    (event.cookieHeaders.getD []).flatMap (parseCookie splitParse)
  | albEvent event => (event.cookieHeadersOrHeader.getD []).flatMap (parseCookie splitParse)
  | lambdaFunctionUrlEvent cookies _ => (cookies.getD []).filterMap splitCookie

/-- The names and values of all headers. -/
def headerValues : HttpEvent -> List (String × String)
  | apiGatewayHttpEvent _ headers | lambdaFunctionUrlEvent _ headers => values headers
  | apiGatewayRestEvent event | apiGatewayWebSocketEvent event | albEvent event =>
    values event.headers ++
      event.multiValueHeaders.entries.flatMap (fun entry => entry.2.map (fun v => (entry.1, v)))
where
  values (headers : Tags) : List (String × String) :=
    headers.entries.map (fun entry => (entry.1, entry.2))

/-- The cookies in the headers whose name is `cookie` in any letter case. -/
def headerCookies (event : HttpEvent) : List (String × String) :=
  (event.headerValues.filter (fun header => header.1.toLower = "cookie")).flatMap
    (fun header => parseCookie splitParse header.2)

/-- The cookies an event carries.  A header may repeat the cookies of the list or
of another header. -/
def cookies (event : HttpEvent) : List (String × String) :=
  event.cookiesRead splitParse ++
    (event.headerCookies splitParse).filter (fun cookie => cookie ∉ event.cookiesRead splitParse)

end HttpEvent

/-- Each name is associated with all of its values, in order of appearance. -/
def SeesAllCookies (event : HttpEvent) : Prop :=
  forall name, ((requestCookies splitParse event).lookup name).getD [] =
    itemsOf name (event.cookies splitParse)

theorem requestCookies_eq (event : HttpEvent) :
    requestCookies splitParse event = collect (runs (event.cookiesRead splitParse)) := by
  cases event with
  | apiGatewayHttpEvent cookies | lambdaFunctionUrlEvent cookies => cases cookies <;> rfl
  | apiGatewayRestEvent | apiGatewayWebSocketEvent | albEvent => rfl

/-- The cookie map holds every cookie of an event exactly if no name comes back
after a different one and the cookies of its cookie headers are among those that
are read. -/
theorem request_cookies_complete_iff (event : HttpEvent) :
    SeesAllCookies splitParse event <->
      Contiguous ((event.cookiesRead splitParse).map Prod.fst) ∧
        event.headerCookies splitParse ⊆ event.cookiesRead splitParse := by
  rw [SeesAllCookies, requestCookies_eq, HttpEvent.cookies, collect_runs_complete_append_iff,
    List.filter_eq_nil_iff]
  apply and_congr_right
  intro _
  simp only [decide_eq_true_eq, not_not]
  rfl

end Requests

/-- An attack in the first of two values of a name, with another cookie between
them. -/
theorem first_value_hidden :
    ¬ forall (splitParse : String -> List (Option (String × String))) (event : HttpEvent),
      SeesAllCookies splitParse event := by
  intro always
  have seen := always (fun _ => [])
    (HttpEvent.apiGatewayHttpEvent (some ["id=attack", "theme=dark", "id=1"]) ∅) "id"
  exact absurd seen (by decide)

end Appsec
end Bottlecap
