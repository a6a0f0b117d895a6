import Mathlib.Algebra.BigOperators.Ring.List
import Mathlib.Algebra.Ring.Nat
import TrafficFeed.Proofs.Crew.Progress
import TrafficFeed.Transport.Script

/-!
# The completion of a crew

When a crew is complete, the order in which its members took their steps shows only in the order of
the events of different flows. The events of each flow have been published in the order in which
they were made, they tell of that flow alone, none has been lost, and what has been counted depends
on the number of flows and on nothing else.
-/

namespace TrafficFeed

open TrafficFeed.Pipeline TrafficFeed.Transport Event

variable {σ : Type}

/-- Whether events are those of a flow, in their order: the detail and the summary of its request,
the summary of its response, which says what the request was for, and the detail of its response. -/
def Exchange.Recounted (x : Exchange) (es : List Event) : Prop :=
  ∃ asked request info answered,
    es = [.requestDetail asked, .summary request, .summary info, .responseDetail answered] ∧
      request.kind = .request ∧ info.kind = .flowInfo ∧
      info.method = x.asked.request.method ∧ info.path = x.asked.request.path ∧
      info.url = x.asked.request.url

lemma Exchange.Told.recounted {s : Parties σ} {x : Exchange} (h : x.Told s) :
    x.Recounted (ofFlow (some x.id) s.made) := by
  obtain ⟨asked, answered, hmade⟩ := h
  simp only [hmade, Schema.requestEvents, Schema.responseEvents, x.responds]
  exact ⟨_, _, _, _, rfl, rfl, rfl, rfl, rfl, rfl⟩

namespace Parties

variable {t : Transport σ} {s : Parties (σ × List Call)}

/-- Once the worker has stopped, every event that has entered the queue has been published. -/
lemma Smooth.calls_of_stopped (h : Smooth t s) (hstop : s.pipeline.worker = .stopped) :
    s.calls = s.accepted.map (fun e => .publish e.payload .ok) ++ [.close] := by
  have hconveyed := h.accounts.conveyed
  obtain ⟨given, hpath, hhanded⟩ := hconveyed.path
  rw [hconveyed.held_of_stopped hstop, (hconveyed.after hstop).items, Option.toList_none,
    List.append_nil, List.append_nil] at hpath
  rw [h.calls, if_pos hstop, hhanded, hpath, List.map_map]
  rfl

/-- Where no producer is at work, every event that was made has entered the queue. -/
lemma Smooth.length_accepted (h : Smooth t s) (hidle : s.idle) :
    s.accepted.length = s.made.length := by
  have hshared := h.accounts.shared
  rwa [Shared, h.refused, pending_eq_zero_of_idle hidle, ← length_made] at hshared

/-- Once the worker has stopped, sends and publications have been counted, and nothing else. -/
lemma Smooth.get_of_stopped (h : Smooth t s) (hstop : s.pipeline.worker = .stopped) (c : Counter) :
    s.pipeline.metrics.get c =
      if c = .enqueued ∨ c = .published then UInt64.ofNat s.accepted.length else 0 := by
  have hcalls := h.calls_of_stopped hstop
  have hcount := fun he hm => h.accounts.counted c he hm
  cases c with
  | enqueued => simp [hcount, tally]
  | dropped => simp [hcount, tally, h.refused]
  | published =>
    have htally : s.tally .published = s.accepted.length := by
      change s.calls.countP Call.publishes = _
      rw [hcalls]
      simp [List.countP_map, Function.comp_def, Call.publishes]
    simp [hcount, htally]
  | failures =>
    have htally : s.tally .failures = 0 := by
      change s.calls.countP Call.loses = 0
      rw [hcalls]
      simp [List.countP_map, Function.comp_def, Call.loses]
    simp [hcount, htally]
  | rebuilds =>
    have htally : s.tally .rebuilds = 0 := by
      change s.calls.countP Call.breaks = 0
      rw [hcalls]
      simp [List.countP_map, Function.comp_def, Call.breaks]
    simp [hcount, htally]
  | evictions => simp [h.steady]
  | misses => simp [h.steady]

end Parties

namespace Crew

open Parties

variable {t : Transport σ} {ttl limit : Nat} {c : Crew (σ × List Call)}

/-- The events of each flow have entered the queue when the crew is done. -/
lemma OnCourse.recounted (h : c.OnCourse t ttl limit) (hdone : c.Done) :
    ∀ x ∈ c.exchanges, x.Recounted (ofFlow (some x.id) c.parties.accepted) := by
  intro x hx
  obtain ⟨th, hth, hx⟩ := List.mem_flatMap.mp hx
  obtain ⟨hawaited, hlater⟩ := hdone.1 th hth
  have hmem : x ∈ th.done := by simpa [Thread.exchanges, hawaited, hlater] using hx
  have hserved : some x.id ∉ c.parties.served := by
    simp [served, workers_eq_nil_iff.mpr hdone.2]
  rw [h.smooth.ordered.sent _ hserved]
  exact ((h.threads th hth).done x hmem).recounted

/-- No request waits for its response when the crew is done. -/
lemma OnCourse.pending_eq_zero (h : c.OnCourse t ttl limit) (hdone : c.Done) :
    c.parties.pipeline.pending = 0 := by
  have hnil : c.parties.pipeline.cache.entries = [] := by
    rw [List.eq_nil_iff_forall_not_mem]
    intro w hw
    obtain ⟨th, hth, x, hx, -⟩ := h.entries w hw
    rw [(hdone.1 th hth).1] at hx
    cases hx
  rw [Pipeline.pending, Correlation.size, hnil]
  rfl

/-- Four events have been made of each flow when the crew is done. -/
lemma OnCourse.length_made (h : c.OnCourse t ttl limit) (hdone : c.Done) :
    c.parties.made.length = 4 * c.exchanges.length := by
  have hsum := List.sum_map_mul_left (r := 4) c.threads fun th => th.exchanges.length
  rw [h.made, exchanges, List.length_flatMap, ← hsum]
  refine congrArg List.sum (List.map_congr_left fun th hth => ?_)
  obtain ⟨hawaited, hlater⟩ := hdone.1 th hth
  simp [Thread.made, Thread.exchanges, hawaited, hlater]

/-- Threads capture flows, each its own, one after the other, at an enriched pipeline whose queue
blocks and has room for an event at least, with a transport that publishes whatever it is given,
and no request waits as long as requests may live. However the steps of the threads, of their sends
and of the worker follow one another: the threads and the worker can come to their end; and when
they have, the events of each flow have been published in their order, nothing has been dropped, no
request waits, and each counter shows what it shows after any other order of the steps. -/
theorem complete_run (t : Transport σ) (connection : σ) (settings : Settings) (capacity : Nat)
    (threads : List Thread) (steps : List Step) (hreliable : t.Reliable connection)
    (hschema : settings.schema = .enriched) (hlive : 0 < settings.cacheTtl)
    (hcapacity : 0 < capacity) (hnew : ∀ th ∈ threads, th.done = [] ∧ th.awaited = none)
    (hdistinct : ((threads.flatMap Thread.exchanges).map Exchange.id).Nodup) :
    let start := new (Pipeline.new t.traced settings (connection, [])
      (Queue.new capacity .block)) threads
    let s := (start.run steps).parties
    start.Timely steps →
      (∃ more, start.Timely (steps ++ more) ∧ (start.run (steps ++ more)).Complete) ∧
      ((start.run steps).Complete →
        (∀ x ∈ start.exchanges, x.Recounted (ofFlow (some x.id) s.accepted)) ∧
        s.calls = s.accepted.map (fun e => .publish e.payload .ok) ++ [.close] ∧
        s.accepted.length = 4 * start.exchanges.length ∧ s.refused = [] ∧
        s.pipeline.pending = 0 ∧
        ∀ c : Counter, s.pipeline.metrics.get c = if c = .enqueued ∨ c = .published
          then UInt64.ofNat (4 * start.exchanges.length) else 0) := by
  intro start s htimely
  have hstart := OnCourse.new hreliable hschema hcapacity hnew hdistinct
  have h : (start.run steps).OnCourse t settings.cacheTtl settings.cacheLimit :=
    hstart.run hlive htimely
  constructor
  · obtain ⟨more, hmore, hcomplete⟩ := h.exists_complete hlive
    refine ⟨more, (timely_append _ _ _).mpr ⟨htimely, hmore⟩, ?_⟩
    rw [run_append]
    exact hcomplete
  · rintro ⟨hdone, hstop⟩
    have hflows : (start.run steps).exchanges.Perm start.exchanges := exchanges_run start steps
    have hlength : s.accepted.length = 4 * start.exchanges.length := by
      rw [h.smooth.length_accepted hdone.2, h.length_made hdone, hflows.length_eq]
    refine ⟨?_, h.smooth.calls_of_stopped hstop, hlength, h.smooth.refused,
      h.pending_eq_zero hdone, ?_⟩
    · intro x hx
      exact h.recounted hdone x (hflows.mem_iff.mpr hx)
    · intro c
      rw [← hlength]
      exact h.smooth.get_of_stopped hstop c

/-- Two threads at a queue with room for one event: whenever both send, one of them waits. -/
theorem complete_run_of_contention :
    let a : Exchange := .simple ⟨"F1"⟩ "/a"
    let b : Exchange := .simple ⟨"F2"⟩ "/b"
    let threads := [Thread.new .task (by decide) [a], .new .thread (by decide) [b]]
    let round : List Step := [.turn (.offer 0), .turn (.offer 0), .turn .receive, .turn .deliver,
      .turn (.resume 0), .turn .receive, .turn .deliver]
    let half (stamp : Nat) : List Step :=
      [.capture 0 (.simple stamp), .capture 1 (.simple stamp)] ++ round ++ round
    let steps := .turn .wake :: half 0 ++ half 1 ++ [.turn .cancel, .turn .close, .turn .receive]
    let s := ((new (Pipeline.new Script.transport.traced Settings.default (Script.new [] [], [])
      (Queue.new 1 .block)) threads).run steps).parties
    s.accepted.map Event.flowId? =
        (List.replicate 4 [some a.id, some b.id]).flatten ∧
      a.Recounted (ofFlow (some a.id) s.accepted) ∧
      b.Recounted (ofFlow (some b.id) s.accepted) ∧
      s.refused = [] ∧ s.pipeline.pending = 0 ∧
      ∀ c : Counter,
        s.pipeline.metrics.get c = if c = .enqueued ∨ c = .published then 8 else 0 := by
  intro a b threads round half steps s
  have h := complete_run Script.transport (Script.new [] []) Settings.default 1 threads steps
    (Script.reliable_new []) rfl (by decide) (by decide) (by simp [threads, Thread.new])
    (by decide +kernel) (by decide +kernel)
  obtain ⟨htold, -, -, hrefused, hpending, hcounts⟩ := h.2 (by decide +kernel)
  refine ⟨by decide +kernel, htold a ?_, htold b ?_, hrefused, hpending, hcounts⟩
  · exact List.mem_cons_self
  · exact List.mem_cons_of_mem _ List.mem_cons_self

end Crew

end TrafficFeed
