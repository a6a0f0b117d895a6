import Mathlib.Algebra.GroupWithZero.Nat
import TrafficFeed.Proofs.Parties.Progress
import TrafficFeed.Proofs.Queue.Slots

/-!
# Counting events

Every event that a capture makes is counted once when its send ends, and every event that has
entered the queue once more when its publication ends. So the counts tell how many events there
are on each part of the way, wherever no event is between two parts: as long as no capture and no
delivery is under way.
-/

namespace TrafficFeed

open TrafficFeed.Pipeline TrafficFeed.Transport

variable {σ : Type}

/-- How many events the capture has made that a report tells of. -/
def Report.built (schema : Schema) : Report → Nat
  | .requested .. =>
    match schema with
    | .enriched => 2
    | .plain => 1
  | .responded _ flow _ _ =>
    match flow.response, schema with
    | none, _ => 0
    | some _, .enriched => 2
    | some _, .plain => 1
  | .joined .. | .sent .. | .swept .. => 0

lemma Report.length_events (schema : Schema) (r : Report) :
    (r.events schema).length = r.built schema := by
  cases r with
  | requested n flow moment => cases schema <;> rfl
  | responded n flow moment found =>
    simp only [events, built, Schema.responseEvents]
    cases flow.response <;> cases schema <;> rfl
  | joined | sent | swept => rfl

namespace Parties

/-- How many events the captures have made. -/
def built (s : Parties σ) : Nat := (s.history.map (Report.built s.pipeline.schema)).sum

/-- How many events the producers at work have still to send. -/
def pending (s : Parties σ) : Nat := (s.workers.map (·.events.length)).sum

/-- What has happened is not forgotten, so the events that were made do not become fewer. -/
lemma built_le_perform (s : Parties σ) (actions : List Action) :
    s.built ≤ (s.perform actions).built := by
  have hall : (s.perform actions).pipeline.schema = s.pipeline.schema ∧
      s.history <+: (s.perform actions).history := by
    apply perform_induction_of_alike (P := fun s' => s'.pipeline.schema = s.pipeline.schema ∧
      s.history <+: s'.history) ⟨rfl, List.prefix_rfl⟩
    · exact fun s' p reports h hp _ => ⟨hp.schema.trans h.1, h.2.trans (List.prefix_append _ _)⟩
    · exact fun s' way events h _ => ⟨h.1, h.2.trans (List.prefix_append _ _)⟩
    · exact fun s' h => h
    · rintro s' s'' ⟨hschema, hhistory⟩ ht
      refine ⟨ht.cache_eq.1.trans hschema, hhistory.trans ?_⟩
      cases Worked.of_turned ht with
      | rests _ heq => exact ⟨[], by rw [heq, List.append_nil]⟩
      | sends _ _ _ _ _ heq => exact ⟨_, heq.symm⟩
  obtain ⟨hschema, rest, hrest⟩ := hall
  rw [built, built, hschema, ← hrest, List.map_append, List.sum_append]
  exact Nat.le_add_right _ _

/-! ### The slots of the queue -/

lemma balanced_turned {s s' : Parties σ} (h : Queue.Balanced s.queue) (ht : Turned s s') :
    Queue.Balanced s'.queue := by
  cases ht with
  | nothing | cancels | wakes | delivers | stops => exact h
  | closes => exact h.close
  | enters i p hp hopen hfree =>
    have hentry : Queue.Entry s.queue p.way p.next .ok (s.queue.push p.next) := .enters hopen hfree
    exact h.entry hentry
  | refused => simpa using h
  | parks i p => simpa [Queue.Balanced] using h
  | resumes i p w hp hw hopen hready => exact h.poll (.enters w hw hopen hready)
  | fails i p w hp hw hclosed => exact h.poll (.fails w hw hclosed)
  | receives e items hc hitems => exact h.receipt (.item e items hitems)

lemma balanced_perform {s : Parties σ} (h : Queue.Balanced s.queue) (actions : List Action) :
    Queue.Balanced (s.perform actions).queue := by
  apply perform_induction_of_alike (P := fun s => Queue.Balanced s.queue) h
  · intro s p reports h hp _
    rw [queue, note, hp.queue]
    exact h
  · exact fun s way events h _ => h
  · exact fun s h => h.orphan
  · exact fun s s' h ht => balanced_turned h ht

/-- Where no producer waits, the reported size of the queue is the number of its events. -/
lemma size_eq_of_idle {s : Parties σ} (h : Queue.Balanced s.queue) (hlined : Lined s)
    (hidle : s.idle) : s.queue.size = s.queue.items.length := by
  rw [h.size_eq, hlined.waiting_eq_nil hidle]
  rfl

/-! ### Sends -/

/-- Every event that was made has entered the queue, or was refused, or has still to be sent. -/
def Shared (s : Parties σ) : Prop :=
  s.accepted.length + s.refused.length + s.pending = s.built

variable {s s' : Parties σ}

/-- Each send that ends is written down, and there is one less to come. -/
lemma Worked.pending_add (h : Worked s s') :
    s'.pending + s'.history.length = s.pending + s.history.length := by
  cases h with
  | rests hworkers hhistory =>
    have hpending : s'.pending = s.pending := (hworkers.map _).sum_nat
    rw [hpending, hhistory]
  | sends p others r hbefore hafter hhistory =>
    have hold : s.pending = p.events.length + (others.map (·.events.length)).sum :=
      (hbefore.map _).sum_nat
    have hnew : s'.pending = p.later.length + (others.map (·.events.length)).sum := by
      rw [pending, (hafter.map _).sum_nat]
      unfold Producer.rest?
      cases p.later <;> simp [Producer.ofEvents?, Producer.events]
    have hlength : p.events.length = p.later.length + 1 := rfl
    rw [hhistory, List.length_append, List.length_singleton]
    omega

lemma Shared.turned (h : Shared s) (ht : Turned s s') : Shared s' := by
  have hschema := ht.cache_eq.1
  have hworked := Worked.of_turned ht
  have hpending := hworked.pending_add
  cases hworked with
  | rests hworkers hhistory =>
    rw [hhistory, Nat.add_right_cancel_iff] at hpending
    simp only [Shared, accepted, refused, built, hpending, hhistory, hschema] at h ⊢
    exact h
  | sends p others r hbefore hafter hhistory =>
    rw [hhistory, List.length_append, List.length_singleton] at hpending
    have hsent : s'.accepted.length + s'.refused.length =
        s.accepted.length + s.refused.length + 1 := by
      rw [accepted, refused, hhistory, List.filterMap_append, List.filterMap_append,
        List.length_append, List.length_append]
      cases r with
      | ok => exact Nat.add_right_comm _ _ _
      | error => exact (Nat.add_assoc _ _ _).symm
    have hbuilt : s'.built = s.built := by
      simp [built, hhistory, hschema, Report.built]
    simp only [Shared] at h ⊢
    omega

lemma pending_join (s : Parties σ) (way : Queue.Way) (events : List Event) :
    (s.join way events).pending = events.length + s.pending := by
  rw [pending, ((workers_join s way events).map _).sum_nat]
  cases events <;> simp [Producer.ofEvents?, Producer.events, pending]

lemma built_sweepReports (s : Parties σ) (schema : Schema) (side : Direction) (flow : Flow)
    (moment : Moment) :
    ((s.sweepReports side flow moment).map (Report.built schema)).sum = 0 := by
  cases side with
  | request =>
    simp only [sweepReports]
    split <;> rfl
  | response => rfl

lemma Shared.capture (h : Shared s) (side : Direction) (host : Host) (flow : Flow)
    (moment : Moment) : Shared (s.capture side host flow moment) := by
  have halike := Alike.eventsOf s.pipeline side flow moment
  have haside := isAside_reports s side flow moment
  rw [capture_eq]
  have hbuilt : ∀ p reports way events, ((s.note p reports).join way events).built =
      ((s.history ++ reports).map (Report.built p.schema)).sum := by
    intro p reports way events
    simp [built, join, note, Report.built]
  have hpending : ∀ p reports, (s.note p reports).pending = s.pending := fun _ _ => rfl
  rw [Shared, accepted_join, accepted_note haside, refused_join, refused_note haside,
    pending_join, hpending, hbuilt, halike.schema, List.map_append, List.sum_append,
    List.map_cons, List.sum_cons, built_sweepReports, Report.length_events]
  simp only [Shared, built] at h
  omega

lemma Shared.perform (h : Shared s) (actions : List Action) : Shared (s.perform actions) := by
  apply perform_induction (P := Shared) h
  · exact fun s side host flow moment h _ => h.capture side host flow moment
  · intro s now h
    have haside : ∀ r ∈ [Report.swept now], r.isAside = true := by simp [Report.isAside]
    have hbuilt : (s.sweep now).built = s.built := by
      simp [built, sweep, note, (Alike.sweep s.pipeline now).schema, Report.built]
    rw [Shared, hbuilt, sweep, accepted_note haside, refused_note haside]
    exact h
  · intro s h hidle
    have hpending : s.leave.pending = s.pending := by
      simp [pending, workers, Parties.leave, hidle.1, hidle.2]
    rw [Shared, hpending]
    exact h
  · exact fun s s' h ht => h.turned ht

lemma pending_eq_zero_of_idle (hidle : s.idle) : s.pending = 0 := by
  simp [pending, workers, hidle.1, hidle.2]

/-! ### Counts -/

/-- What the counters of events should show. -/
def tally (s : Parties (σ × List Call)) : Counter → Nat
  | .enqueued => s.accepted.length
  | .dropped => s.refused.length
  | c => s.calls.countP (·.bears c)

/-- The counters show what has happened, as far as they can. -/
def Counted (s : Parties (σ × List Call)) : Prop :=
  ∀ c : Counter, c ≠ .evictions → c ≠ .misses →
    s.pipeline.metrics.get c = UInt64.ofNat (s.tally c)

variable {t : Transport σ} {q q' : Parties (σ × List Call)}

lemma Counted.new (t : Transport σ) (connection : σ) (settings : Settings)
    (queue : Queue Event) :
    Counted (new (Pipeline.new t.traced settings (connection, []) queue)) := by
  intro c _ _
  cases c <;> rfl

lemma tally_congr (haccepted : q'.accepted = q.accepted) (hrefused : q'.refused = q.refused)
    (hcalls : q'.calls = q.calls) (c : Counter) : q'.tally c = q.tally c := by
  cases c <;> simp only [tally, haccepted, hrefused, hcalls]

lemma Counted.congr (h : Counted q) (hmetrics : q'.pipeline.metrics = q.pipeline.metrics)
    (haccepted : q'.accepted = q.accepted) (hrefused : q'.refused = q.refused)
    (hcalls : q'.calls = q.calls) : Counted q' := by
  intro c he hm
  rw [hmetrics, tally_congr haccepted hrefused hcalls]
  exact h c he hm

lemma Counted.note (h : Counted q) {p : Pipeline (σ × List Call)} (hp : Alike q.pipeline p)
    {reports : List Report} (hr : ∀ r ∈ reports, r.isAside = true) :
    Counted (q.note p reports) := by
  intro c he hm
  have hcalls : (q.note p reports).calls = q.calls := congrArg Prod.snd hp.connection
  rw [tally_congr (accepted_note hr) (refused_note hr) hcalls]
  exact (hp.counts c he hm).trans (h c he hm)

/-- The end of a send is counted as what it is. -/
lemma Counted.record (h : Counted q) (p : Producer) (r : Except Queue.SendError Unit) :
    Counted (q.record p r) := by
  intro c he hm
  have htally : (q.record p r).tally c = q.tally c + if c = offerCounter r then 1 else 0 := by
    match r with
    | .ok () | .error e => cases c <;> simp [tally, offerCounter]
  rw [htally, UInt64.ofNat_add, ← h c he hm, pipeline_record, metrics, metrics_mapMetrics,
    Metrics.get_count]
  split <;> rfl

/-- The end of a publication is counted as what it is. -/
lemma Counted.deliver (h : Counted q) (ht : q.pipeline.transport = t.traced) (e : Event)
    (hq' : q' = { q with
      held := none
      pipeline := { q.pipeline with
        delivery := (Delivery.deliver q.pipeline.transport e q.pipeline.delivery).2.2 } }) :
    Counted q' := by
  obtain ⟨outcome, rest, hrest, hcalls, hmetrics⟩ :=
    Delivery.calls_deliver t e q.pipeline.delivery
  rw [← ht] at hcalls hmetrics
  have hrest : ∀ c, rest.countP (·.bears c) = 0 := by
    intro c
    rw [List.countP_eq_zero]
    intro call hcall
    obtain ⟨o, rfl⟩ := hrest call hcall
    cases c <;> simp [Call.bears, Call.publishes, Call.loses, Call.breaks]
  have hcount : ∀ c, q'.calls.countP (·.bears c) = q.calls.countP (·.bears c) +
      if (Call.publish e.payload outcome).bears c then 1 else 0 := by
    intro c
    rw [hq', calls, hcalls, List.countP_append, List.countP_cons, hrest, Nat.zero_add]
  have htally : ∀ c, q'.tally c = q.tally c +
      if (Call.publish e.payload outcome).bears c then 1 else 0 := by
    intro c
    cases c with
    | enqueued | dropped => rw [hq']; rfl
    | published | failures | rebuilds | evictions | misses => exact hcount _
  intro c he hm
  have hget : q'.pipeline.metrics.get c = q.pipeline.metrics.get c +
      if (Call.publish e.payload outcome).bears c then 1 else 0 := by
    rw [hq', metrics, hmetrics, Delivery.get_tally e.payload]
    rfl
  rw [hget, htally, UInt64.ofNat_add, h c he hm]
  split <;> rfl

lemma Counted.turned (h : Counted q) (ht : q.pipeline.transport = t.traced) (hq : Turned q q') :
    Counted q' := by
  cases hq with
  | nothing => exact h
  | cancels | wakes | receives | closes | parks => exact h.congr rfl rfl rfl rfl
  | enters | refused | resumes | fails =>
    refine Counted.record ?_ _ _
    exact h.congr rfl rfl rfl rfl
  | stops =>
    intro c he hm
    have htally : q.stop.tally c = q.tally c := by
      cases c <;> simp [tally, accepted, refused, stop, Delivery.stop, ht, traced, Call.bears,
        Call.publishes, Call.loses, Call.breaks]
    rw [htally]
    exact h c he hm
  | delivers e he => exact h.deliver ht e rfl

/-- Where a traced pipeline has got to: its events are on their way, its counters are right, its
slots are accounted for, and so are the events that were made. -/
structure Accounts (t : Transport σ) (q : Parties (σ × List Call)) : Prop where
  conveyed : Conveyed t q
  counted : Counted q
  balanced : Queue.Balanced q.queue
  shared : Shared q

lemma Accounts.new (t : Transport σ) (connection : σ) (settings : Settings) (capacity : Nat)
    (policy : Queue.Policy) :
    Accounts t (new (Pipeline.new t.traced settings (connection, [])
      (Queue.new capacity policy))) :=
  ⟨.new t connection settings capacity policy, .new t connection settings _, .new capacity policy,
    rfl⟩

lemma Accounts.perform (h : Accounts t q) (actions : List Action) :
    Accounts t (q.perform actions) := by
  have hcounted : Conveyed t (q.perform actions) ∧ Counted (q.perform actions) := by
    apply perform_induction_of_alike (P := fun q => Conveyed t q ∧ Counted q)
      ⟨h.conveyed, h.counted⟩
    · exact fun q p reports h hp hr => ⟨h.1.note hp hr, h.2.note hp hr⟩
    · exact fun q way events h hleft => ⟨h.1.join hleft way events,
        h.2.congr rfl (accepted_join _ _ _) (refused_join _ _ _) rfl⟩
    · exact fun q h => ⟨h.1.leave, h.2.congr rfl rfl rfl rfl⟩
    · exact fun q q' h hq => ⟨h.1.turned hq, h.2.turned h.1.transport hq⟩
  exact ⟨hcounted.1, hcounted.2, balanced_perform h.balanced actions, h.shared.perform actions⟩

/-! ### What the counters show -/

lemma length_payloads (calls : List Call) : (calls.filterMap Call.payload?).length =
    calls.countP Call.publishes + calls.countP Call.loses := by
  induction calls with
  | nil => rfl
  | cons call calls ih =>
    rw [List.countP_cons, List.countP_cons]
    cases call with
    | publish payload outcome =>
      have hcons : (Call.publish payload outcome :: calls).filterMap Call.payload? =
          payload :: calls.filterMap Call.payload? := rfl
      rw [hcons, List.length_cons, ih]
      by_cases h : outcome = .ok <;> simp [Call.publishes, Call.loses, h] <;> omega
    | rebuild | close => exact ih

/-- Every event that has entered the queue was published, or lost, or is held by the worker, or
is still inside. -/
lemma Conveyed.length_accepted (h : Conveyed t q) : q.accepted.length =
    q.tally .published + q.tally .failures + q.held.toList.length + q.queue.items.length := by
  obtain ⟨given, hpath, hhanded⟩ := h.path
  have hlength : given.length = q.tally .published + q.tally .failures := by
    have := congrArg List.length hhanded
    rw [handed, length_payloads, List.length_map] at this
    exact this.symm
  rw [hpath, List.length_append, List.length_append, hlength]

lemma tally_rebuilds_le (q : Parties (σ × List Call)) :
    q.tally .rebuilds ≤ q.tally .failures := by
  refine List.countP_mono_left fun call _ hbreaks => ?_
  cases call with
  | publish payload outcome =>
    cases outcome <;> simp_all [Call.bears, Call.breaks, Call.loses]
  | rebuild | close => cases hbreaks

/-- As long as fewer events were made than can be counted, no counter has begun anew. -/
lemma Accounts.toNat_get (h : Accounts t q) (hbuilt : q.built < UInt64.size) (c : Counter)
    (he : c ≠ .evictions) (hm : c ≠ .misses) :
    (q.pipeline.metrics.get c).toNat = q.tally c := by
  rw [h.counted c he hm]
  refine UInt64.toNat_ofNat_of_lt' (Nat.lt_of_le_of_lt ?_ hbuilt)
  have hshared := h.shared
  have hlength := h.conveyed.length_accepted
  have hrebuilds := tally_rebuilds_le q
  rw [Shared] at hshared
  cases c with
  | enqueued =>
    rw [tally]
    omega
  | dropped =>
    rw [tally]
    omega
  | published | failures | rebuilds => omega
  | evictions => exact absurd rfl he
  | misses => exact absurd rfl hm

/-- Once the worker has stopped there are no more calls of the transport. -/
lemma Conveyed.calls_perform (h : Conveyed t q) (hstop : q.pipeline.worker = .stopped)
    (actions : List Action) : (q.perform actions).pipeline.worker = .stopped ∧
      (q.perform actions).calls = q.calls := by
  have hall : Conveyed t (q.perform actions) ∧ (q.perform actions).pipeline.worker = .stopped ∧
      (q.perform actions).calls = q.calls := by
    apply perform_induction_of_alike (P := fun q' => Conveyed t q' ∧
      q'.pipeline.worker = .stopped ∧ q'.calls = q.calls) ⟨h, hstop, rfl⟩
    · rintro q' p reports ⟨h, hstop, hcalls⟩ hp hr
      refine ⟨h.note hp hr, hp.worker.trans hstop, ?_⟩
      rw [← hcalls]
      exact congrArg Prod.snd hp.connection
    · exact fun q' way events h hleft => ⟨h.1.join hleft way events, h.2⟩
    · exact fun q' h => ⟨h.1.leave, h.2⟩
    · rintro q' q'' ⟨h, hstop, hcalls⟩ ht
      refine ⟨h.turned ht, ?_⟩
      cases ht with
      | nothing | cancels | parks => exact ⟨hstop, hcalls⟩
      | enters | refused | resumes | fails => exact ⟨by simpa using hstop, by simpa using hcalls⟩
      | wakes hidle => simp [hstop] at hidle
      | receives e items hc | stops hc | closes hc => simp [choosing, hstop] at hc
      | delivers e he => simp [h.held_of_stopped hstop] at he
  exact hall.2

/-- Where no capture is under way, every event that was made has entered the queue or was
refused. -/
lemma Accounts.enqueued_add_dropped (h : Accounts t q) (hbuilt : q.built < UInt64.size)
    (hidle : q.idle) :
    q.pipeline.metrics.enqueued.toNat + q.pipeline.metrics.dropped.toNat = q.built := by
  have henqueued := h.toNat_get hbuilt .enqueued (by decide) (by decide)
  have hdropped := h.toNat_get hbuilt .dropped (by decide) (by decide)
  have hshared := h.shared
  rw [Shared, pending_eq_zero_of_idle hidle] at hshared
  simp only [Metrics.get, tally] at henqueued hdropped
  omega

/-- Where no delivery is under way, every event that has entered the queue was published, or lost,
or is still inside. -/
lemma Accounts.enqueued_eq (h : Accounts t q) (hbuilt : q.built < UInt64.size)
    (hheld : q.held = none) : q.pipeline.metrics.enqueued.toNat =
      q.pipeline.metrics.published.toNat + q.pipeline.metrics.failures.toNat +
        q.queue.items.length := by
  have henqueued := h.toNat_get hbuilt .enqueued (by decide) (by decide)
  have hpublished := h.toNat_get hbuilt .published (by decide) (by decide)
  have hfailures := h.toNat_get hbuilt .failures (by decide) (by decide)
  have hlength := h.conveyed.length_accepted
  rw [hheld] at hlength
  simp only [Metrics.get] at henqueued hpublished hfailures
  rw [henqueued, hpublished, hfailures]
  exact hlength

/-- All that has entered the queue was published or lost when the worker has stopped. -/
lemma Conveyed.length_accepted_of_stopped (h : Conveyed t q)
    (hstop : q.pipeline.worker = .stopped) :
    q.accepted.length = q.tally .published + q.tally .failures := by
  have hlength := h.length_accepted
  rw [h.held_of_stopped hstop, (h.after hstop).items] at hlength
  exact hlength

/-- Of the counters of events only that of refusals goes on when the worker has stopped. -/
lemma Accounts.get_perform_of_stopped (h : Accounts t q) (hstop : q.pipeline.worker = .stopped)
    (more : List Action) {c : Counter} (he : c ≠ .evictions) (hm : c ≠ .misses)
    (hd : c ≠ .dropped) :
    (q.perform more).pipeline.metrics.get c = q.pipeline.metrics.get c := by
  have h' := h.perform more
  obtain ⟨hstop', hcalls⟩ := h.conveyed.calls_perform hstop more
  have hworker : ∀ c, c ≠ .enqueued → c ≠ .dropped → (q.perform more).tally c = q.tally c := by
    intro c hne hd
    cases c with
    | enqueued => exact absurd rfl hne
    | dropped => exact absurd rfl hd
    | _ => exact congrArg (List.countP _) hcalls
  rw [h'.counted c he hm, h.counted c he hm]
  congr 1
  by_cases hc : c = .enqueued
  · rw [hc]
    have hlength := h.conveyed.length_accepted_of_stopped hstop
    have hlength' := h'.conveyed.length_accepted_of_stopped hstop'
    rw [hworker .published (by decide) (by decide), hworker .failures (by decide) (by decide)]
      at hlength'
    exact hlength'.trans hlength.symm
  · exact hworker c hc hd

/-- Where no capture and no delivery is under way, the events that were made are those that have
entered the queue and those that were refused, and the events that have entered are those that were
published, those that were lost and those still inside; each publication that ended in a failure to
send or in a break is counted as a new connection. Once the worker has stopped, nothing more is
published or lost: whatever happens then, only refusals are counted, one for each event that is
made, and the transport is not called. -/
theorem counters_perform (t : Transport σ) (connection : σ) (settings : Settings) (capacity : Nat)
    (policy : Queue.Policy) (actions : List Action) :
    let s := (new (Pipeline.new t.traced settings (connection, [])
      (Queue.new capacity policy))).perform actions
    let m := s.pipeline.metrics
    s.built < UInt64.size →
      (s.idle → s.held = none →
        m.enqueued.toNat + m.dropped.toNat = s.built ∧
        m.enqueued.toNat = m.published.toNat + m.failures.toNat + s.queue.items.length ∧
        s.queue.size = s.queue.items.length ∧
        m.rebuilds.toNat = s.calls.countP Call.breaks) ∧
      (s.pipeline.worker = .stopped →
        m.enqueued.toNat = m.published.toNat + m.failures.toNat ∧
        ∀ more,
          let s' := s.perform more
          let m' := s'.pipeline.metrics
          s'.calls = s.calls ∧ m'.enqueued = m.enqueued ∧ m'.published = m.published ∧
            m'.failures = m.failures ∧ m'.rebuilds = m.rebuilds ∧
            (s.idle → s'.idle → s'.built < UInt64.size →
              m'.dropped.toNat = m.dropped.toNat + (s'.built - s.built))) := by
  intro s m hbuilt
  have h : Accounts t s := (Accounts.new t connection settings capacity policy).perform actions
  refine ⟨fun hidle hheld => ⟨?_, ?_, ?_, ?_⟩, fun hstop => ⟨?_, fun more => ?_⟩⟩
  · exact h.enqueued_add_dropped hbuilt hidle
  · exact h.enqueued_eq hbuilt hheld
  · exact size_eq_of_idle h.balanced h.conveyed.lined hidle
  · exact h.toNat_get hbuilt .rebuilds (by decide) (by decide)
  · have henqueued := h.enqueued_eq hbuilt (h.conveyed.held_of_stopped hstop)
    rw [(h.conveyed.after hstop).items] at henqueued
    exact henqueued
  · have h' : Accounts t (s.perform more) := h.perform more
    have hsame : ∀ c : Counter, c ≠ .evictions → c ≠ .misses → c ≠ .dropped →
        (s.perform more).pipeline.metrics.get c = s.pipeline.metrics.get c :=
      fun c he hm hd => h.get_perform_of_stopped hstop more he hm hd
    have henqueued := hsame .enqueued (by decide) (by decide) (by decide)
    refine ⟨(h.conveyed.calls_perform hstop more).2, henqueued,
      hsame .published (by decide) (by decide) (by decide),
      hsame .failures (by decide) (by decide) (by decide),
      hsame .rebuilds (by decide) (by decide) (by decide), fun hidle hidle' hbuilt' => ?_⟩
    have hall := h.enqueued_add_dropped hbuilt hidle
    have hall' := h'.enqueued_add_dropped hbuilt' hidle'
    have htoNat := congrArg UInt64.toNat henqueued
    have hle := s.built_le_perform more
    simp only [Metrics.get] at htoNat
    change (s.perform more).pipeline.metrics.dropped.toNat =
      s.pipeline.metrics.dropped.toNat + _
    omega

/-- A request of which one event is published in vain and the other finds no slot, the end, and a
response after it, whose two events are refused. -/
theorem counters_perform_of_late_capture :
    let id : FlowId := ⟨"F1"⟩
    let actions : List Action :=
      [.capture .request .task (.simple id "/a" false) (.simple 0), .turn (.offer 0),
        .turn (.offer 0), .turn .wake, .turn .cancel, .turn .receive, .turn .deliver,
        .turn .close, .turn .receive]
    let late : List Action :=
      [.capture .response .task (.simple id "/a" true) (.simple 1), .turn (.offer 0),
        .turn (.offer 0)]
    let s := (new (Pipeline.new Script.transport.traced Settings.default
      (Script.new [.broken] [], []) (Queue.new 1 .dropNewest))).perform actions
    let s' := s.perform late
    (s.built = 2 ∧ s'.built = 4 ∧ s.calls.countP Call.breaks = 1) ∧
      s.pipeline.metrics.enqueued.toNat + s.pipeline.metrics.dropped.toNat = s.built ∧
      s.pipeline.metrics.rebuilds.toNat = s.calls.countP Call.breaks ∧ s'.calls = s.calls ∧
      s'.pipeline.metrics.dropped.toNat =
        s.pipeline.metrics.dropped.toNat + (s'.built - s.built) := by
  intro id actions late
  have h := counters_perform Script.transport (Script.new [.broken] []) Settings.default 1
    .dropNewest actions (by decide +kernel)
  dsimp only at h ⊢
  have hat := h.1 (by decide +kernel) (by decide +kernel)
  have hafter := (h.2 (by decide +kernel)).2 late
  refine ⟨by decide +kernel, hat.1, hat.2.2.2, hafter.1, ?_⟩
  exact hafter.2.2.2.2.2 (by decide +kernel) (by decide +kernel) (by decide +kernel)

end Parties

end TrafficFeed
