import TrafficFeed.Proofs.Parties.Progress
import TrafficFeed.Proofs.Parties.Recall

/-!
# What comes before the summary of a response

A request is remembered before its events are queued, and it is remembered whatever becomes of
them. So a response can find its request although the queue has not taken the detail of the request:
there was no slot for it, or its turn has not come yet. As long as no capture is cancelled, these
are the only ways in which a summary that tells of a request can enter the queue without the detail
of that request before it.
-/

namespace TrafficFeed

open TrafficFeed.Pipeline TrafficFeed.Transport

variable {σ : Type}

namespace Parties

/-! ### Histories -/

/-- Every report of a history stands in a relation to those before it. -/
def Along (P : List Report → Report → Prop) (history : List Report) : Prop :=
  ∀ before r after, history = before ++ r :: after → P before r

lemma along_nil (P : List Report → Report → Prop) : Along P [] := by
  intro before r after h
  simp at h

lemma Along.concat {P : List Report → Report → Prop} {history : List Report} {r : Report}
    (h : Along P history) (hr : P history r) : Along P (history ++ [r]) := by
  intro before x after hsplit
  rcases concat_eq_append_cons_iff.mp hsplit with ⟨rfl, rfl, -⟩ | ⟨rest, -, hold⟩
  · exact hr
  · exact h before x rest hold

/-- Reports of which nothing is asked can be added. -/
lemma Along.append {P : List Report → Report → Prop} {history reports : List Report}
    (h : Along P history) (hr : ∀ r ∈ reports, ∀ before, P before r) :
    Along P (history ++ reports) := by
  induction reports generalizing history with
  | nil => simpa using h
  | cons r reports ih =>
    rw [← List.singleton_append, ← List.append_assoc]
    refine ih (h.concat (hr r (List.mem_cons_self ..) history)) fun x hx => ?_
    exact hr x (List.mem_cons_of_mem r hx)

/-! ### The detail of a request -/

/-- What has become of the detail of a request that was captured on behalf of a host. -/
inductive Fate (policy : Queue.Policy) (history : List Report) (n : Nat) (host : Host) (e : Event) :
    Prop where
  | accepted (h : .sent n e (.ok ()) ∈ history)
  /-- The queue was full and drops what it has no slot for. -/
  | full (hpolicy : policy = .dropNewest) (h : .sent n e (.error .full) ∈ history)
  /-- The queue was full and its host must not wait. -/
  | stuck (hpolicy : policy = .block) (hhost : host = .loop)
      (h : .sent n e (.error .cannotBlock) ∈ history)
  /-- The capture of the request is under way, and none of its sends has ended. -/
  | ahead (h : ∀ e r, .sent n e r ∉ history)

/-- The capture of a request by the producer `n` has stored what waits for a response of its flow:
nothing has ended the wait since. -/
def Stored (ttl : Nat) (history : List Report) (n : Nat) (asked : Flow) (moment : Moment) : Prop :=
  ∃ before after, history = before ++ .requested n asked moment :: after ∧
    ∀ r ∈ after, ¬ r.ends ttl asked.id moment.stamp

/-- The summary of a response tells of the request that was found, which an earlier capture of the
same flow has stored, and whose detail is among the events of that capture; or it tells of none. -/
def Announced (ttl : Nat) (policy : Queue.Policy) (history : List Report) (n : Nat)
    (info : FlowSummary) : Prop :=
  ∃ earlier later flow moment found, history = earlier ++ .responded n flow moment found :: later ∧
    flow.id = info.connection.flowId ∧
    (found = none → info.method = "" ∧ info.path = "" ∧ info.url = "") ∧
    (found ≠ none → ∃ m host asked moment' detail rest,
      Stored ttl earlier m asked moment' ∧ asked.id = flow.id ∧
      found = some (asked.request.captured moment'.now) ∧
      Schema.enriched.requestEvents asked moment' = .requestDetail detail :: rest ∧
      .joined m host.way (.requestDetail detail :: rest) ∈ history ∧
      detail.flowId = info.connection.flowId ∧ detail.method = info.method ∧
      detail.path = info.path ∧ detail.url = info.url ∧
      Fate policy history m host (.requestDetail detail))

/-- A response that finds a request finds one that was stored before, and the summary of a
response that enters the queue has been announced. -/
def Grounded (ttl : Nat) (policy : Queue.Policy) (before : List Report) : Report → Prop
  | .responded _ flow _ (some request) => ∃ m asked moment, Stored ttl before m asked moment ∧
      asked.id = flow.id ∧ request = asked.request.captured moment.now
  | .sent n (.summary info) (.ok _) => info.kind = .flowInfo → Announced ttl policy before n info
  | _ => True

/-- Producers are captures, and what they send is grounded. -/
structure Emits (policy : Queue.Policy) (ttl limit : Nat) (s : Parties σ) : Prop where
  progress : Progress s
  recalls : Recalls ttl limit s
  policy_eq : s.queue.policy = policy
  requested : ∀ n flow moment, .requested n flow moment ∈ s.history →
    ∃ host : Host, .joined n host.way (Schema.enriched.requestEvents flow moment) ∈ s.history
  joined : ∀ n way events, .joined n way events ∈ s.history →
    (∃ flow moment, events = Schema.enriched.requestEvents flow moment) ∨
    ∃ flow moment found, .responded n flow moment found ∈ s.history ∧
      events = Schema.enriched.responseEvents flow moment found
  grounded : Along (Grounded ttl policy) s.history

variable {policy : Queue.Policy} {ttl limit : Nat} {s s' : Parties σ}

lemma Emits.new (t : Transport σ) (connection : σ) {settings : Settings}
    (h : settings.schema = .enriched) (capacity : Nat) (policy : Queue.Policy) :
    Emits policy settings.cacheTtl settings.cacheLimit
      (new (Pipeline.new t settings connection (Queue.new capacity policy))) where
  progress := .new _
  recalls := .new t connection h _
  policy_eq := rfl
  requested _ _ _ h := absurd h List.not_mem_nil
  joined _ _ _ h := absurd h List.not_mem_nil
  grounded := along_nil _

/-! ### What is announced -/

lemma Stored.mem {history : List Report} {n : Nat} {asked : Flow} {moment : Moment}
    (h : Stored ttl history n asked moment) : .requested n asked moment ∈ history := by
  obtain ⟨before, after, rfl, -⟩ := h
  exact List.mem_append_right _ (List.mem_cons_self ..)

lemma eq_sent_of_sentBy? {n : Nat} {x : Report} {e : Event} (h : sentBy? n x = some e) :
    ∃ r, x = .sent n e r := by
  cases x with
  | sent m e' r =>
    simp only [sentBy?] at h
    split at h
    · next hm =>
      cases h
      exact ⟨r, by rw [hm]⟩
    · cases h
  | joined | requested | responded | swept => cases h

/-- What has become of the detail of a captured request while the queue is open. -/
lemma Emits.fate (h : Emits policy ttl limit s) (hopen : s.queue.closed = false) {n : Nat}
    {host : Host} {e : Event} {rest : List Event}
    (hjoined : .joined n host.way (e :: rest) ∈ s.history) :
    Fate policy s.history n host e := by
  cases hsent : s.sentBy n with
  | nil =>
    refine .ahead fun e' r hmem => ?_
    have := List.filterMap_eq_nil_iff.mp hsent _ hmem
    simp [sentBy?] at this
  | cons e' es =>
    have hprefix := (h.progress.begun _ _ _ hjoined).2
    rw [hsent, List.cons_prefix_cons] at hprefix
    obtain ⟨rfl, -⟩ := hprefix
    have hx : e' ∈ s.sentBy n := by
      rw [hsent]
      exact List.mem_cons_self ..
    obtain ⟨x, hmem, hx⟩ := List.mem_filterMap.mp hx
    obtain ⟨r, rfl⟩ := eq_sent_of_sentBy? hx
    obtain ⟨way, events, hj, -, hreason⟩ := h.progress.sent n e' r hmem
    obtain ⟨rfl, -⟩ := h.progress.once _ _ _ _ _ hj hjoined
    cases r with
    | ok => exact .accepted hmem
    | error error =>
      have hpermits := hreason error rfl
      cases error with
      | closed =>
        rw [Queue.Permits, hopen] at hpermits
        cases hpermits
      | full =>
        have hway : host.way ≠ .attempt := by cases host <;> simp [Host.way]
        exact .full (h.policy_eq.symm.trans (hpermits.resolve_right hway)) hmem
      | cannotBlock =>
        have hhost : host = .loop := by
          have := hpermits.2
          cases host <;> simp_all [Host.way]
        exact .stuck (h.policy_eq.symm.trans hpermits.1) hhost hmem

/-- The summary of a response that a producer sends into an open queue has been announced. -/
lemma Emits.announced (h : Emits policy ttl limit s) (hopen : s.queue.closed = false)
    {p : Producer} (hp : p ∈ s.workers) {info : FlowSummary} (hnext : p.next = .summary info)
    (hkind : info.kind = .flowInfo) : Announced ttl policy s.history p.name info := by
  have hmem : Event.summary info ∈ s.sentBy p.name ++ p.events := by
    rw [← hnext]
    exact List.mem_append_right _ (List.mem_cons_self ..)
  rcases h.joined _ _ _ (h.progress.rest p hp) with ⟨flow, moment, hevents⟩ |
      ⟨flow, moment, found, hresponded, hevents⟩
  · -- the summary of a request is of the other kind
    rw [hevents] at hmem
    obtain rfl : info = _ := by simpa [Schema.requestEvents] using hmem
    cases hkind
  · rw [hevents] at hmem
    obtain ⟨response, hinfo⟩ : ∃ response : Http.Response,
        info = response.summary (flow.connection moment.now) found := by
      unfold Schema.responseEvents at hmem
      cases hr : flow.response with
      | none => simp [hr] at hmem
      | some response => exact ⟨response, by simpa [hr] using hmem⟩
    obtain ⟨earlier, later, hsplit⟩ := List.append_of_mem hresponded
    refine ⟨earlier, later, flow, moment, found, hsplit, ?_, fun hnone => ?_, fun hsome => ?_⟩
    · rw [hinfo]
      rfl
    · rw [hinfo, hnone]
      exact ⟨rfl, rfl, rfl⟩
    · obtain ⟨request, rfl⟩ := Option.ne_none_iff_exists'.mp hsome
      obtain ⟨m, asked, moment', hstored, hid, rfl⟩ := h.grounded _ _ _ hsplit
      have hrequested : .requested m asked moment' ∈ s.history := by
        rw [hsplit]
        exact List.mem_append_left _ hstored.mem
      obtain ⟨host, hjoined⟩ := h.requested _ _ _ hrequested
      refine ⟨m, host, asked, moment', _, _, hstored, hid, rfl, rfl, hjoined, ?_, ?_, ?_, ?_,
        h.fate hopen hjoined⟩
      · rw [hinfo]
        exact hid
      all_goals
        rw [hinfo]
        rfl

lemma eq_sent_of_accepted? {x : Report} {e : Event} (h : x.accepted? = some e) :
    ∃ n, x = .sent n e (.ok ()) := by
  cases x with
  | sent n e' r =>
    cases r with
    | ok =>
      cases h
      exact ⟨n, rfl⟩
    | error => cases h
  | joined | requested | responded | swept => cases h

/-! ### Runs -/

/-- What has been captured stays captured when a history grows. -/
lemma Emits.extend (h : Emits policy ttl limit s) (hprogress : Progress s')
    (hrecalls : Recalls ttl limit s') (hpolicy : s'.queue.policy = s.queue.policy)
    (reports : List Report) (hhistory : s'.history = s.history ++ reports)
    (hnew : ∀ r ∈ reports, (∃ now, r = .swept now) ∨ ∃ n e result, r = .sent n e result)
    (hgrounded : Along (Grounded ttl policy) s'.history) : Emits policy ttl limit s' := by
  refine ⟨hprogress, hrecalls, hpolicy.trans h.policy_eq, fun n flow moment hr => ?_,
    fun n way events hj => ?_, hgrounded⟩
  · rw [hhistory] at hr ⊢
    rcases List.mem_append.mp hr with hold | hmem
    · obtain ⟨host, hj⟩ := h.requested n flow moment hold
      exact ⟨host, List.mem_append_left _ hj⟩
    · rcases hnew _ hmem with ⟨now, hx⟩ | ⟨n, e, result, hx⟩ <;> cases hx
  · rw [hhistory] at hj ⊢
    rcases List.mem_append.mp hj with hold | hmem
    · rcases h.joined n way events hold with hreq | ⟨flow, moment, found, hr, hevents⟩
      · exact .inl hreq
      · exact .inr ⟨flow, moment, found, List.mem_append_left _ hr, hevents⟩
    · rcases hnew _ hmem with ⟨now, hx⟩ | ⟨n, e, result, hx⟩ <;> cases hx

lemma Emits.turned (h : Emits policy ttl limit s) (ht : Turned s s') :
    Emits policy ttl limit s' := by
  have hprogress := h.progress.turned ht
  have hrecalls := h.recalls.turned ht
  have hpolicy := ht.born_eq.2.1
  cases Worked.of_turned ht with
  | rests hworkers hhistory =>
    rw [← List.append_nil s.history] at hhistory
    refine h.extend hprogress hrecalls hpolicy [] hhistory (by simp) ?_
    rw [hhistory, List.append_nil]
    exact h.grounded
  | sends p others r hbefore hafter hhistory hpermits =>
    refine h.extend hprogress hrecalls hpolicy _ hhistory ?_ ?_
    · intro x hx
      exact .inr ⟨_, _, _, List.mem_singleton.mp hx⟩
    · rw [hhistory]
      refine h.grounded.concat ?_
      have hp : p ∈ s.workers := hbefore.mem_iff.mpr (List.mem_cons_self ..)
      unfold Grounded
      split
      · next heq => cases heq
      · next n info u heq =>
        obtain ⟨rfl, hnext, rfl⟩ := Report.sent.inj heq
        exact fun hkind => h.announced hpermits hp hnext hkind
      · trivial

/-- The report of a capture is grounded in what has happened before. -/
lemma Emits.grounded_report (h : Emits policy ttl limit s) (side : Direction) (flow : Flow)
    (moment : Moment) : Grounded ttl policy s.history (s.report side flow moment) := by
  cases side with
  | request => trivial
  | response =>
    unfold Grounded report
    cases hfound : s.pipeline.found flow with
    | none => trivial
    | some request =>
      have hget : s.pipeline.cache.get? flow.id = some request := by
        unfold found at hfound
        split at hfound
        · exact hfound
        · cases hfound
      obtain ⟨asked, earlier, ⟨m, before, after, hs, hid, hwaits⟩, hrequest⟩ :=
        (h.recalls.get?_eq_some_iff flow.id request).mp hget
      rw [← hid] at hwaits
      exact ⟨m, asked, earlier, ⟨before, after, hs, hwaits⟩, hid, hrequest⟩

lemma Emits.capture (h : Emits policy ttl limit s) (side : Direction) (host : Host) (flow : Flow)
    (moment : Moment) : Emits policy ttl limit (s.capture side host flow moment) := by
  have halike := Alike.eventsOf s.pipeline side flow moment
  have hhistory := history_capture s side host flow moment
  rw [h.recalls.schema] at hhistory
  have hmem : ∀ r ∈ s.history, r ∈ (s.capture side host flow moment).history := by
    intro r hr
    rw [hhistory, List.append_assoc]
    exact List.mem_append_left _ hr
  have hjoined : .joined s.born host.way ((s.report side flow moment).events .enriched) ∈
      (s.capture side host flow moment).history := by simp [hhistory]
  have hreport : s.report side flow moment ∈ (s.capture side host flow moment).history := by
    simp [hhistory]
  -- a report of the longer history was there before, or the capture has made it
  have hcases : ∀ r ∈ (s.capture side host flow moment).history, r ∈ s.history ∨
      r = s.report side flow moment ∨ r = .swept moment.stamp ∨
      r = .joined s.born host.way ((s.report side flow moment).events .enriched) := by
    intro r hr
    rw [hhistory, List.append_assoc, List.mem_append, List.mem_append, List.mem_append,
      List.mem_singleton, List.mem_singleton] at hr
    rcases hr with hr | hr | hr | hr
    · exact .inl hr
    · exact .inr (.inl hr)
    · exact .inr (.inr (.inl (eq_swept_of_mem_sweepReports hr)))
    · exact .inr (.inr (.inr hr))
  refine ⟨?_, h.recalls.capture side host flow moment, ?_, fun n flow' moment' hr => ?_,
    fun n way events hj => ?_, ?_⟩
  · rw [capture_eq]
    exact (h.progress.note halike (isAside_reports s side flow moment)).join _ _
  · exact (congrArg Queue.policy halike.queue).trans h.policy_eq
  · rcases hcases _ hr with hold | hnew | hnew | hnew
    · obtain ⟨host', hj⟩ := h.requested n flow' moment' hold
      exact ⟨host', hmem _ hj⟩
    · cases side with
      | request =>
        obtain ⟨rfl, rfl, rfl⟩ := Report.requested.inj hnew
        exact ⟨host, hjoined⟩
      | response => cases hnew
    · cases hnew
    · cases hnew
  · rcases hcases _ hj with hold | hnew | hnew | hnew
    · rcases h.joined n way events hold with hreq | ⟨flow', moment', found, hr, hevents⟩
      · exact .inl hreq
      · exact .inr ⟨flow', moment', found, hmem _ hr, hevents⟩
    · cases side <;> cases hnew
    · cases hnew
    · obtain ⟨rfl, -, rfl⟩ := Report.joined.inj hnew
      cases side with
      | request => exact .inl ⟨flow, moment, rfl⟩
      | response => exact .inr ⟨flow, moment, _, hreport, rfl⟩
  · rw [hhistory]
    refine (h.grounded.concat (h.grounded_report side flow moment)).append fun r hr before => ?_
    rcases List.mem_append.mp hr with hr | hr
    · rw [eq_swept_of_mem_sweepReports hr]
      trivial
    · rw [List.mem_singleton.mp hr]
      trivial

lemma Emits.perform (h : Emits policy ttl limit s) (actions : List Action) :
    Emits policy ttl limit (s.perform actions) := by
  apply perform_induction (P := Emits policy ttl limit) h
  · exact fun s side host flow moment h _ => h.capture side host flow moment
  · intro s now h
    have hside : ∀ r ∈ [Report.swept now], r.isAside = true := by simp [Report.isAside]
    refine h.extend (h.progress.note (.sweep _ _) hside) (h.recalls.sweep now) rfl _ rfl ?_ ?_
    · exact fun r hr => .inl ⟨now, List.mem_singleton.mp hr⟩
    · exact h.grounded.concat trivial
  · intro s h _
    have hrecalls : Recalls ttl limit s.leave := ⟨h.recalls.schema, h.recalls.cache⟩
    exact h.extend h.progress.leave hrecalls rfl [] (List.append_nil _).symm (by simp) h.grounded
  · exact fun s s' h ht => h.turned ht

/-- Whenever the summary of a response enters the queue, its response was captured before, and
either nothing was found for it and the summary tells of no request, or what was found was stored
before that by a capture of a request of the same flow, and the summary agrees with the detail of
that request. The detail entered the queue before the summary did, unless the queue had no slot for
it, and it was refused, or its capture has not yet ended any send. -/
theorem detail_before_flowInfo (t : Transport σ) (connection : σ) (settings : Settings)
    (hschema : settings.schema = .enriched) (capacity : Nat) (policy : Queue.Policy)
    (actions : List Action) (before : List Report) (n : Nat) (info : FlowSummary)
    (after : List Report)
    (hsplit : ((new (Pipeline.new t settings connection (Queue.new capacity policy))).perform
      actions).history = before ++ .sent n (.summary info) (.ok ()) :: after)
    (hkind : info.kind = .flowInfo) : Announced settings.cacheTtl policy before n info := by
  have h := (Emits.new t connection hschema capacity policy).perform actions
  exact h.grounded before _ after hsplit hkind

/-- Under a policy that waits, the detail of a request enters, and then the summary of its
response. -/
theorem detail_before_flowInfo_of_wait :
    let id : FlowId := ⟨"F1"⟩
    let info : FlowSummary :=
      { kind := .flowInfo
        direction := .response
        connection := (Flow.simple id "/a" true).connection (Moment.simple 1).now
        method := "GET"
        path := "/a"
        url := "http://h/a"
        status := some 200
        contentType := ""
        info := "HTTP/1.1 200 OK  (content missing)" }
    let s := (new (Pipeline.new Script.transport Settings.default (Script.new [] [])
      (Queue.new 3 .block))).perform
      [.capture .request .task (.simple id "/a" false) (.simple 0), .turn (.offer 0),
        .turn (.offer 0), .capture .response .task (.simple id "/a" true) (.simple 1),
        .turn (.offer 0)]
    ∃ before n after, s.history = before ++ .sent n (.summary info) (.ok ()) :: after ∧
      Announced Settings.default.cacheTtl .block before n info := by
  intro id info s
  have hmem : .summary info ∈ s.accepted := by decide +kernel
  obtain ⟨r, hr, haccepted⟩ := List.mem_filterMap.mp hmem
  obtain ⟨n, rfl⟩ := eq_sent_of_accepted? haccepted
  obtain ⟨before, after, hsplit⟩ := List.append_of_mem hr
  exact ⟨before, n, after, hsplit, detail_before_flowInfo Script.transport (Script.new [] [])
    Settings.default rfl 3 .block _ before n info after hsplit rfl⟩

/-- A response finds its request, and its summary enters the queue without a detail of the request
before it: the full queue has dropped the detail, or the response has come between the capture of
the request and the first of its sends. -/
theorem exists_flowInfo_without_detail :
    let id : FlowId := ⟨"F1"⟩
    let start (policy : Queue.Policy) := new (Pipeline.new Script.transport Settings.default
      (Script.new [] []) (Queue.new 1 policy))
    let request : Action := .capture .request .task (.simple id "/a" false) (.simple 0)
    let response : Action := .capture .response .task (.simple id "/a" true) (.simple 1)
    ∀ run ∈ [
      ((start .dropNewest).perform [
        .capture .request .task (.simple ⟨"F0"⟩ "/" false) (.simple 0), .turn (.offer 0),
        .turn (.offer 0), request, .turn (.offer 0), .turn (.offer 0), .turn .wake,
        .turn .receive, .turn .deliver], [response, .turn (.offer 0), .turn (.offer 0)]),
      ((start .block).perform [request], [response, .turn (.offer 1)])],
    run.1.pipeline.cache.get? id ≠ none ∧
      (∃ e ∈ (run.1.perform run.2).accepted, e.label = "flow_info" ∧ e.flowId? = some id) ∧
      ∀ e ∈ (run.1.perform run.2).accepted, e.label = "request_detail" → e.flowId? ≠ some id := by
  decide +kernel

end Parties

end TrafficFeed
