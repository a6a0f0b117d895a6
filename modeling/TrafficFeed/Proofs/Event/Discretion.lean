import Mathlib.Tactic.Lemma
import TrafficFeed.Event.Describe

/-!
# What summaries keep to themselves

A summary tells nothing of a body but whether the response has one, and of the headers no more than
the first host, the first authority and the first content types. Flows that agree on the rest have
summaries with the same payloads.
-/

namespace TrafficFeed

open TrafficFeed.Clock TrafficFeed.Http TrafficFeed.Text

/-! ### Agreement -/

namespace Http

namespace Headers

/-- A value is the first under a name, in whatever letters the name is written. -/
def First (hs : Headers) (name value : String) : Prop :=
  ∃ before written after, hs.entries = before ++ (written, value) :: after ∧
    sameLetters written name = true ∧ ∀ e ∈ before, sameLetters e.1 name = false

/-- The same value is the first under a name in either list, or none is. -/
def Agree (name : String) (hs hs' : Headers) : Prop :=
  ∀ value, hs.First name value ↔ hs'.First name value

variable {hs hs' : Headers} {name value : String}

lemma get?_eq_some_iff : hs.get? name = some value ↔ hs.First name value := by
  simp only [get?, Option.map_eq_some_iff, List.find?_eq_some_iff_append, First]
  constructor
  · rintro ⟨⟨written, value⟩, ⟨hwritten, before, after, hentries, hbefore⟩, rfl⟩
    exact ⟨before, written, after, hentries, hwritten, by simpa using hbefore⟩
  · rintro ⟨before, written, after, hentries, hwritten, hbefore⟩
    exact ⟨(written, value), ⟨hwritten, before, after, hentries, by simpa using hbefore⟩, rfl⟩

lemma agree_iff : Agree name hs hs' ↔ hs.get? name = hs'.get? name := by
  simp only [Agree, ← get?_eq_some_iff]
  exact Option.ext_iff.symm

lemma contentType_congr (h : Agree "content-type" hs hs') : hs.contentType = hs'.contentType := by
  rw [contentType, contentType, agree_iff.mp h]

end Headers

/-- Requests that differ at most in their bodies, in when they started, and in headers other than
the first host, the first authority and the first content type. -/
structure Request.Agrees (r s : Request) : Prop where
  scheme : r.scheme = s.scheme
  host : r.host = s.host
  port : r.port = s.port
  method : r.method = s.method
  path : r.path = s.path
  version : r.version = s.version
  hostHeader : Headers.Agree "host" r.headers s.headers
  authority : Headers.Agree ":authority" r.headers s.headers
  contentType : Headers.Agree "content-type" r.headers s.headers

/-- Responses that differ at most in what their bodies hold, if both hold something, and in headers
other than the first content type. -/
structure Response.Agrees (r s : Response) : Prop where
  status : r.status = s.status
  reason : r.reason = s.reason
  version : r.version = s.version
  contentType : Headers.Agree "content-type" r.headers s.headers
  body : r.body.isEmpty = s.body.isEmpty

end Http

/-- Flows that agree on all but bodies, the start of the request and further headers. -/
structure Flow.Agrees (f g : Flow) : Prop where
  id : f.id = g.id
  request : f.request.Agrees g.request
  response : Option.Rel Response.Agrees f.response g.response
  client : f.client = g.client
  server : f.server = g.server

/-! ### What a summary is made of -/

namespace Http

variable {r s : Request}

lemma Request.Agrees.virtualHost (h : r.Agrees s) : r.virtualHost = s.virtualHost := by
  rw [Request.virtualHost, Request.virtualHost, Headers.agree_iff.mp h.authority,
    Headers.agree_iff.mp h.hostHeader, h.host]

lemma Request.Agrees.url (h : r.Agrees s) : r.url = s.url := by
  rw [Request.url, Request.url, h.scheme, h.host, h.port, h.path]

lemma Request.Agrees.destination (h : r.Agrees s) (server : Option PeerAddress) :
    r.destination server = s.destination server := by
  rcases server with _ | (_ | _)
  · simp only [Request.destination, h.host, h.scheme]
  · rfl
  · simp only [Request.destination, h.port]

/-- Of what is remembered, a summary shows what the requests agree on. -/
lemma Request.Agrees.summary (h : r.Agrees s) (asked asked' : Instant) (c : Connection) :
    (r.captured asked).summary c = (s.captured asked').summary c := by
  simp only [CapturedRequest.summary, Request.captured, h.method, h.path, h.url,
    Headers.contentType_congr h.contentType]

lemma Response.Agrees.info {r s : Response} (h : r.Agrees s) (version : String) :
    r.info version = s.info version := by
  simp only [Response.info, h.status, h.reason, h.body, Headers.contentType_congr h.contentType]

lemma Response.Agrees.summary {r s : Response} (h : r.Agrees s) (c : Connection)
    {found found' : Option CapturedRequest} (hmethod : found.map (·.method) = found'.map (·.method))
    (hpath : found.map (·.path) = found'.map (·.path))
    (hurl : found.map (·.url) = found'.map (·.url)) :
    r.summary c found = s.summary c found' := by
  simp only [Response.summary, h.status, h.info, hmethod, hpath, hurl,
    Headers.contentType_congr h.contentType]

end Http

namespace Flow

variable {f g : Flow}

lemma Agrees.of_mem (h : f.Agrees g) {r s : Response} (hr : r ∈ f.response)
    (hs : s ∈ g.response) : r.Agrees s := by
  have hrel := h.response
  rw [Option.mem_def.mp hr, Option.mem_def.mp hs] at hrel
  cases hrel with
  | some hagrees => exact hagrees

/-- The version is that of the response, where there is one; there is one in both or in neither. -/
lemma Agrees.connection (h : f.Agrees g) (now : Instant) : f.connection now = g.connection now := by
  obtain ⟨id, request, response, client, server⟩ := f
  obtain ⟨id', request', response', client', server'⟩ := g
  obtain ⟨hid, hrequest, hresponse, hclient, hserver⟩ := h
  dsimp only at hid hrequest hresponse hclient hserver
  subst hid hclient hserver
  cases hresponse with
  | none =>
    simp only [Flow.connection, hrequest.destination, hrequest.scheme, hrequest.virtualHost,
      hrequest.version]
  | some hagrees =>
    simp only [Flow.connection, hrequest.destination, hrequest.scheme, hrequest.virtualHost,
      hagrees.version]

end Flow

/-- The octets that are published for a summary. -/
def FlowSummary.octets (s : FlowSummary) : ByteArray := (Event.summary s).payload.toUTF8

/-- Flows that agree on all but bodies, the start of the request and further headers have the same
summaries octet for octet: that of the request, whenever it was captured, and that of the response,
with what was remembered of the request and without. -/
theorem summary_octets_congr {f g : Flow} (h : f.Agrees g) (now asked asked' : Instant) :
    ((f.request.captured asked).summary (f.connection now)).octets =
      ((g.request.captured asked').summary (g.connection now)).octets ∧
    ∀ r ∈ f.response, ∀ s ∈ g.response,
      (r.summary (f.connection now) (some (f.request.captured asked))).octets =
        (s.summary (g.connection now) (some (g.request.captured asked'))).octets ∧
      (r.summary (f.connection now) none).octets = (s.summary (g.connection now) none).octets := by
  rw [h.connection]
  refine ⟨by rw [h.request.summary asked asked'], ?_⟩
  intro r hr s hs
  have hagrees := h.of_mem hr hs
  constructor
  · rw [hagrees.summary]
    · exact congrArg some h.request.method
    · exact congrArg some h.request.path
    · exact congrArg some h.request.url
  · rw [hagrees.summary _ rfl rfl rfl]

def Http.Request.login (headers : List (String × String)) (body : String) : Request :=
  { scheme := "https", host := "h", port := 443, method := "POST", path := "/login",
    version := defaultVersion, headers := ⟨headers⟩, raw := body.toUTF8, decoded := none,
    startedAt := none }

def Http.Response.page (headers : List (String × String)) (body : String) : Response :=
  { status := 200, reason := "OK", version := defaultVersion, headers := ⟨headers⟩,
    raw := body.toUTF8, decoded := none }

/-- Two logins with a password and cookies of their own, of which the second writes its headers in
another order and in other letters, and has a host more. -/
theorem summary_octets_congr_of_passwords :
    let request : Request := .login
      [("Cookie", "s=1"), ("Host", "a"), ("Content-Type", "text/plain")] "pw=hunter2"
    let request' : Request := .login
      [("content-type", "text/plain"), ("HOST", "a"), ("host", "b")] "pw=swordfish"
    let response : Response := .page [("Set-Cookie", "s=2"), ("Content-Type", "text/html")] "hello"
    let response' : Response := .page [("content-type", "text/html"), ("X", "1")] "bye"
    let f : Flow := ⟨⟨"F"⟩, request, some response, none, none⟩
    let g : Flow := ⟨⟨"F"⟩, request', some response', none, none⟩
    request.body ≠ request'.body ∧ response.body ≠ response'.body ∧
      ((request.captured .epoch).summary (f.connection .epoch)).octets =
        ((request'.captured .epoch).summary (g.connection .epoch)).octets ∧
      (response.summary (f.connection .epoch) (some (request.captured .epoch))).octets =
        (response'.summary (g.connection .epoch) (some (request'.captured .epoch))).octets := by
  intro request request' response response' f g
  have hrequest : request.Agrees request' := by
    refine ⟨rfl, rfl, rfl, rfl, rfl, rfl, ?host, ?authority, ?contentType⟩ <;>
      simp [request, request', Request.login, Headers.agree_iff, Headers.get?_cons,
        sameLetters_iff, ← String.toList_inj]
  have hcontentType : Headers.Agree "content-type" response.headers response'.headers := by
    simp [response, response', Response.page, Headers.agree_iff, Headers.get?_cons,
      sameLetters_iff, ← String.toList_inj]
  have hresponse : response.Agrees response' := ⟨rfl, rfl, rfl, hcontentType, by decide +kernel⟩
  have hagrees : f.Agrees g := ⟨rfl, hrequest, .some hresponse, rfl, rfl⟩
  obtain ⟨hsummary, hanswer⟩ := summary_octets_congr hagrees .epoch .epoch .epoch
  exact ⟨by decide +kernel, by decide +kernel, hsummary, (hanswer response rfl response' rfl).1⟩

end TrafficFeed
