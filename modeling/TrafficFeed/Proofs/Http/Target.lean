import TrafficFeed.Http.Target
import TrafficFeed.Proofs.Url.Target

/-!
# The target of a request leads back to it

The full target that is shown of a request is read as that request. There are three exceptions,
and no others: the port 80 of the scheme `ftp` is left out as if it were that scheme's own, a domain
name may have become too long to be read, and within the scheme of files a path may begin with the
letter of a drive.
-/

namespace TrafficFeed.Http

open TrafficFeed.Text TrafficFeed.Url

/-! ### Ports -/

/-- The port that a full target shows. -/
def shownPort (scheme : String) (port : UInt16) : Option UInt16 :=
  if port = defaultPort scheme then none else some port

/-- The port of a scheme that names none. -/
def impliedPort (scheme : String) : UInt16 := (knownPort? scheme).getD (defaultPort scheme)

lemma defaultPort_ftp : defaultPort "ftp" = 80 := by decide +kernel

lemma impliedPort_ftp : impliedPort "ftp" = 21 := by decide

lemma impliedPort_eq {scheme : String} (h : scheme ≠ "ftp") :
    impliedPort scheme = defaultPort scheme := by
  unfold impliedPort knownPort?
  split
  · next hscheme => rcases hscheme with rfl | rfl <;> decide +kernel
  · split
    · next hscheme => rcases hscheme with rfl | rfl <;> decide +kernel
    · rfl

/-- What is read of the port that is shown. -/
def readBackPort (scheme : String) (port : UInt16) : UInt16 :=
  (keptPort scheme (shownPort scheme port)).getD (impliedPort scheme)

lemma readBackPort_eq_iff {scheme : String} {port : UInt16} :
    readBackPort scheme port = port ↔ ¬ (scheme = "ftp" ∧ port = 80) := by
  unfold readBackPort shownPort
  split
  · next hdefault =>
    rw [keptPort_none, Option.getD_none]
    by_cases hftp : scheme = "ftp"
    · subst hftp
      rw [impliedPort_ftp, hdefault, defaultPort_ftp]
      decide
    · simp [impliedPort_eq hftp, hdefault, hftp]
  · next hdefault =>
    have hkept : (keptPort scheme (some port)).getD (impliedPort scheme) = port := by
      unfold keptPort
      split
      · next hknown => rw [Option.getD_none, impliedPort, ← hknown, Option.getD_some]
      · rfl
    rw [hkept]
    refine iff_of_true rfl ?_
    rintro ⟨hftp, hport⟩
    apply hdefault
    rw [hftp, hport, defaultPort_ftp]

/-! ### The full target -/

variable {u : Url} {host : Host} {method : String}

/-- The port of the request of a target. -/
def requestPort (u : Url) : UInt16 := u.port?.getD (defaultPort u.scheme)

lemma hostText_eq (h : Resolved u host) : u.hostText = host.toText := by
  obtain ⟨a, hauthority, hhost, -⟩ := h.authority
  rw [Url.hostText, hauthority, Option.bind_some, hhost]
  rfl

lemma toList_pathAndQuery (u : Url) :
    u.pathAndQuery.toList = u.path.toList ++ queryText u.query := by
  unfold pathAndQuery
  cases u.query with
  | none => simp [queryText]
  | some q => simp [queryText]

/-- The full target of a request is put together from the parts of the target it was read from. -/
lemma url_ofTarget (h : Resolved u host) : (Request.ofTarget method u).url =
    String.ofList (targetText u.scheme host
      (shownPort u.scheme (requestPort u)) u.path u.query) := by
  have hport : (Request.ofTarget method u).port = requestPort u := rfl
  have hscheme : (Request.ofTarget method u).scheme = u.scheme := rfl
  have hhost : (Request.ofTarget method u).host = host.toText := hostText_eq h
  have hpath : (Request.ofTarget method u).path.toList = u.path.toList ++ queryText u.query :=
    toList_pathAndQuery u
  rw [← String.toList_inj, String.toList_ofList, Request.url, shownPort, hport, hscheme, hhost]
  split
  · simp [hpath, targetText, middleText, portText]
  · simp [hpath, targetText, middleText, portText]

/-! ### The way back -/

/-- The first segment of a path with a query. -/
def firstSegment (path : String) : List Char :=
  (path.toList.drop 1).takeWhile fun c => c != '/' && c != '?'

/-- What a request must be like for its full target to be read as the request: its port is not one
that is left out though its scheme is known by another, the parts of its host can be read, and its
path does not begin with the letter of a drive where that would stand in place of the host. -/
structure Request.Retrievable (r : Request) : Prop where
  port : ¬ (r.scheme = "ftp" ∧ r.port = 80)
  host : (Kind.ofScheme r.scheme).isSpecial = true → Idn.Fit r.host.toList
  path : r.scheme = "file" → isDrive (firstSegment r.path) = false

/-- A query does not belong to the segment before it. -/
lemma takeWhile_queryText {body : List Char} (hbody : ∀ c ∈ body, c ≠ '?')
    (query : Option String) :
    (body ++ queryText query).takeWhile (fun c => c != '/' && c != '?') =
      body.takeWhile (· != '/') := by
  induction body with
  | nil => cases query <;> rfl
  | cons c cs ih =>
    have hc := hbody c List.mem_cons_self
    have hcs := ih fun d hd => hbody d (List.mem_cons_of_mem _ hd)
    by_cases hslash : c = '/'
    · simp [hslash]
    · simp [hslash, hc, hcs]

/-- A file has no port. -/
lemma shownPort_of_file (h : Resolved u host) (hkind : Kind.ofScheme u.scheme = .file) :
    shownPort u.scheme (requestPort u) = none := by
  obtain ⟨a, hauthority, -, hport⟩ := h.authority
  have hfile := eq_file_of_ofScheme hkind
  have hknown : knownPort? u.scheme = none := by
    rw [hfile]
    decide
  have hnone : u.port? = none := by
    rw [port?, hauthority, Option.bind_some, hport hkind, hknown]
  rw [shownPort, requestPort, hnone, Option.getD_none, if_pos rfl]

/-- The target that the full target of a request is read as. -/
def readBack (u : Url) (host : Host) : Url :=
  ⟨u.scheme, some ⟨"", none, some host, keptPort u.scheme (shownPort u.scheme (requestPort u))⟩,
    u.path, u.query, none⟩

/-- Only the port can be another. -/
lemma ofTarget_readBack (h : Resolved u host) : Request.ofTarget method (readBack u host) =
    { Request.ofTarget method u with port := readBackPort u.scheme (requestPort u) } := by
  have hport : requestPort (readBack u host) = readBackPort u.scheme (requestPort u) := by
    simp only [requestPort, port?, readBack, readBackPort, impliedPort, Option.bind_some]
    split
    · next hkept => simp [hkept]
    · next hkept => simp [hkept]
  have hhost : (readBack u host).hostText = u.hostText := (hostText_eq h).symm
  rw [Request.ofTarget, hhost]
  exact congrArg (fun port => { Request.ofTarget method u with port := port }) hport

/-- Within the scheme of files the path begins with a slash, and the segment behind it decides. -/
lemma exists_path_of_file (h : Resolved u host) (hkind : Kind.ofScheme u.scheme = .file) :
    ∃ body segs, u.path.toList = '/' :: body ∧ Body .file body segs ∧
      segs.head? = some (firstSegment u.pathAndQuery) := by
  have hpath := h.path
  rw [hkind] at hpath
  obtain ⟨hspecial, -⟩ | ⟨body, segs, hpath, hbody⟩ := hpath
  · cases hspecial
  · have hmark : ∀ c ∈ body, c ≠ '?' := fun c hc => (visible_of_pathSet (hbody.encoded c hc).1).2.2
    refine ⟨body, segs, hpath, hbody, ?_⟩
    rw [hbody.head?, firstSegment, toList_pathAndQuery, hpath, List.cons_append,
      List.drop_succ_cons, List.drop_zero, takeWhile_queryText hmark]

/-- The full target of a request is read, unless its host is not or the letter of a drive stands in
its place. -/
lemma parse_url (h : Resolved u host)
    (hread : readHost (Kind.ofScheme u.scheme) host.toText.toList = .ok (some host))
    (hdrive : u.scheme = "file" → isDrive (firstSegment u.pathAndQuery) = false) :
    Url.parse (Request.ofTarget method u).url = .ok (readBack u host) := by
  rw [url_ofTarget h]
  by_cases hkind : Kind.ofScheme u.scheme = .file
  · obtain ⟨body, segs, hpath, hbody, hhead⟩ := exists_path_of_file h hkind
    have hscheme := eq_file_of_ofScheme hkind
    have hsame : readPath .file body = ('/' :: body, true) := by
      refine hbody.readPath fun _ s hs => ?_
      obtain rfl := Option.some.inj (hhead.symm.trans hs)
      exact hdrive hscheme
    rw [readBack, shownPort_of_file h hkind, (h.parse_of_file hkind hpath).1 (hkind ▸ hread), hsame,
      keptPort_none, ← hpath, String.ofList_toList, hscheme]
    rfl
  · exact (h.parse_of_ne_file _ hkind).1 hread

lemma parse_url_of_error (h : Resolved u host) {e : Url.Error}
    (hread : readHost (Kind.ofScheme u.scheme) host.toText.toList = .error e) :
    Url.parse (Request.ofTarget method u).url = .error e := by
  rw [url_ofTarget h]
  by_cases hkind : Kind.ofScheme u.scheme = .file
  · obtain ⟨body, segs, hpath, -⟩ := exists_path_of_file h hkind
    rw [shownPort_of_file h hkind]
    exact (h.parse_of_file hkind hpath).2 e (hkind ▸ hread)
  · exact (h.parse_of_ne_file _ hkind).2 e hread

/-- The letter of a drive takes the place of the host. -/
lemma parse_url_of_drive (method : String) (h : Resolved u host)
    (hread : readHost (Kind.ofScheme u.scheme) host.toText.toList = .ok (some host))
    (hscheme : u.scheme = "file") (hdrive : isDrive (firstSegment u.pathAndQuery) = true) :
    ∃ u', Url.parse (Request.ofTarget method u).url = .ok u' ∧ u'.hostText = "" := by
  have hkind : Kind.ofScheme u.scheme = .file := by
    rw [hscheme]
    decide
  obtain ⟨body, segs, hpath, hbody, hhead⟩ := exists_path_of_file h hkind
  have hdropped := hbody.not_keepsHost hhead hdrive
  rw [url_ofTarget h, shownPort_of_file h hkind, (h.parse_of_file hkind hpath).1 (hkind ▸ hread)]
  refine ⟨_, rfl, ?_⟩
  simp [Url.hostText, hdropped]

lemma exists_of_ofUrl {target : String} {r : Request} (h : Request.ofUrl method target = .ok r) :
    ∃ u, Url.parse target = .ok u ∧ r = Request.ofTarget method u := by
  unfold Request.ofUrl at h
  cases hparse : Url.parse target with
  | error e =>
    rw [hparse] at h
    cases h
  | ok u =>
    rw [hparse] at h
    exact ⟨u, rfl, (Except.ok.inj h).symm⟩

/-- The full target of a request with a host is read as that request if the request is retrievable,
and only then. -/
theorem Request.ofUrl_url_iff {method target : String} {r : Request}
    (h : Request.ofUrl method target = .ok r) (hhost : r.host ≠ "") :
    Request.ofUrl method r.url = .ok r ↔ r.Retrievable := by
  obtain ⟨u, hparse, rfl⟩ := exists_of_ofUrl h
  obtain ⟨host, hu⟩ := exists_of_parse hparse hhost
  obtain ⟨text, hread⟩ := hu.read
  obtain ⟨-, hfit, hlong⟩ := readHost_toText hread
  have htext : (Request.ofTarget method u).host = host.toText := hostText_eq hu
  by_cases hhostFits : (Kind.ofScheme u.scheme).isSpecial = true → Idn.Fit host.toText.toList
  case neg =>
    -- The name is refused when it is read again.
    obtain ⟨hspecial, hhostLong⟩ := Classical.not_imp.mp hhostFits
    rw [Request.ofUrl, parse_url_of_error hu (hlong hspecial hhostLong)]
    refine iff_of_false (fun h => by cases h) fun hr => hhostFits fun hspecial => ?_
    exact htext ▸ hr.host hspecial
  case pos =>
    replace hread := hfit hhostFits
    by_cases hdrive : u.scheme = "file" → isDrive (firstSegment u.pathAndQuery) = false
    case neg =>
      -- A target is read, but without the host.
      obtain ⟨hscheme, hdriven⟩ := Classical.not_imp.mp hdrive
      rw [Bool.not_eq_false] at hdriven
      obtain ⟨u', hread', hnone⟩ := parse_url_of_drive method hu hread hscheme hdriven
      rw [Request.ofUrl, hread']
      refine iff_of_false (fun h => hhost ?_) fun hr => hdrive hr.path
      exact (congrArg Request.host (Except.ok.inj h)).symm.trans hnone
    case pos =>
      -- All but the port is the same whatever the scheme, so the port decides.
      have hback : Request.ofUrl method (Request.ofTarget method u).url =
          .ok { Request.ofTarget method u with port := readBackPort u.scheme (requestPort u) } := by
        rw [Request.ofUrl, parse_url hu hread hdrive, Except.map, ofTarget_readBack hu]
      rw [hback]
      constructor
      · intro hsame
        have hport := congrArg Request.port (Except.ok.inj hsame)
        exact ⟨readBackPort_eq_iff.mp hport, fun hspecial => htext ▸ hhostFits hspecial, hdrive⟩
      · intro hr
        have hport := readBackPort_eq_iff.mpr hr.port
        exact congrArg (fun port => Except.ok { Request.ofTarget method u with port := port }) hport

lemma ofUrl_of_parse {target : String} (method : String) (h : Url.parse target = .ok u) :
    Request.ofUrl method target = .ok (Request.ofTarget method u) := by
  rw [Request.ofUrl, h]
  rfl

theorem Request.ofUrl_url_of_shop : ∃ r,
    Request.ofUrl "get" "HTTP://Shop.Test:8080/v1/../items?id=7" = .ok r ∧ r.host ≠ "" ∧
      r.url = "http://shop.test:8080/items?id=7" ∧ Request.ofUrl "get" r.url = .ok r := by
  have hparse : Url.parse "HTTP://Shop.Test:8080/v1/../items?id=7" =
      .ok ⟨"http", some ⟨"", none, some (.name "shop.test"), some 8080⟩, "/items", some "id=7",
        none⟩ := by
    decide +kernel
  have hread := ofUrl_of_parse "get" hparse
  have hhost : (Request.ofTarget "get" ⟨"http", some ⟨"", none, some (.name "shop.test"),
      some 8080⟩, "/items", some "id=7", none⟩).host ≠ "" := by
    decide
  refine ⟨_, hread, hhost, by decide +kernel, (Request.ofUrl_url_iff hread hhost).mpr ?_⟩
  exact ⟨fun hftp => absurd hftp.1 (by decide), fun _ => fit_of_notMem (by decide),
    fun hfile => absurd hfile (by decide)⟩

/-- The port 80 of the scheme `ftp` is not shown, and 21 is read instead. -/
theorem exists_request_misread : ∃ r, Request.ofUrl "GET" "ftp://h:80/p" = .ok r ∧
    r.host = "h" ∧ r.port = 80 ∧ r.url = "ftp://h/p" ∧
      ∃ r', Request.ofUrl "GET" r.url = .ok r' ∧ r'.port = 21 := by
  have hparse : Url.parse "ftp://h:80/p" =
      .ok ⟨"ftp", some ⟨"", none, some (.name "h"), some 80⟩, "/p", none, none⟩ := by
    decide +kernel
  have hshown : Url.parse "ftp://h/p" =
      .ok ⟨"ftp", some ⟨"", none, some (.name "h"), none⟩, "/p", none, none⟩ := by
    decide +kernel
  have hurl : (Request.ofTarget "GET" ⟨"ftp", some ⟨"", none, some (.name "h"), some 80⟩, "/p",
      none, none⟩).url = "ftp://h/p" := by
    decide +kernel
  refine ⟨_, ofUrl_of_parse "GET" hparse, by decide, by decide, hurl, ?_⟩
  rw [hurl]
  exact ⟨_, ofUrl_of_parse "GET" hshown, by decide⟩

/-- The letter of a drive that only comes to the front of the path when it is read leaves the host
in its place, but takes it away when it is read again. -/
example :
    (Url.parse "file://h//C:/x").toOption.map (fun u => (u.hostText, u.path)) =
      some ("h", "/C:/x") ∧
    (Url.parse "file://h/C:/x").toOption.map (fun u => (u.hostText, u.path)) =
      some ("", "/C:/x") := by
  decide +kernel

end TrafficFeed.Http
