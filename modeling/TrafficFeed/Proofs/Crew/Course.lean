import TrafficFeed.Proofs.Crew.Stages

/-!
# The course of a crew

Whatever the order of the steps, each flow is in the stage in which its thread believes it to be:
threads do not disturb each other, as their flows are different ones, and a thread does not capture
a response before the events of the request have been sent.
-/

namespace TrafficFeed

open TrafficFeed.Pipeline TrafficFeed.Transport Event

variable {σ : Type}

namespace Thread

/-- How many events have been made of a thread's flows. -/
def made (th : Thread) : Nat := 4 * th.done.length + 2 * th.awaited.toList.length

variable {th th' : Thread} {side : Direction} {flow : Flow}

lemma Next.made_eq (h : th.Next side flow th') : th'.made = th.made + 2 := by
  cases h with
  | asks x later hawaited => simp [made, hawaited]
  | answers x hawaited =>
    simp [made, hawaited]
    omega

lemma Next.not_finished (h : th.Next side flow th') : ¬ th.Finished := by
  rintro ⟨hawaited, hlater⟩
  cases h with
  | asks x later _ hlater' => simp [hlater] at hlater'
  | answers x hawaited' => simp [hawaited] at hawaited'

/-- A capture is one of a flow of the thread. -/
lemma Next.exists_exchange (h : th.Next side flow th') : ∃ x ∈ th.exchanges, x.id = flow.id := by
  cases h with
  | asks x later _ hlater => exact ⟨x, mem_exchanges.mpr (.inr (.inr (by simp [hlater]))), rfl⟩
  | answers x hawaited =>
    exact ⟨x, mem_exchanges.mpr (.inr (.inl (by simp [hawaited]))), x.same.symm⟩

/-- As long as a response is awaited, the next capture is that of this response. -/
lemma Next.id_of_awaited (h : th.Next side flow th') : ∀ x ∈ th.awaited, x.id = flow.id := by
  intro x hx
  cases h with
  | asks y later hawaited => simp [hawaited] at hx
  | answers y hawaited =>
    obtain rfl : x = y := by simpa [hawaited, eq_comm] using hx
    exact x.same.symm

end Thread

namespace Crew

open Parties

/-- Every thread is on its course, the requests that wait are those of the threads, and the end is
not asked for before all threads are done. -/
structure OnCourse (t : Transport σ) (ttl limit : Nat) (c : Crew (σ × List Call)) : Prop where
  smooth : Smooth t c.parties
  recalls : Recalls ttl limit c.parties
  threads : ∀ th ∈ c.threads, th.OnCourse c.parties
  entries : ∀ w ∈ c.parties.pipeline.cache.entries,
    ∃ th ∈ c.threads, ∃ x ∈ th.awaited, w.id = x.id
  distinct : (c.exchanges.map Exchange.id).Nodup
  cancelled : c.parties.cancelled = true → c.Done
  closed : c.parties.queue.closed = true → c.parties.cancelled = true
  made : c.parties.made.length = (c.threads.map Thread.made).sum

variable {t : Transport σ} {ttl limit : Nat} {c : Crew (σ × List Call)}

/-- No thread has a flow of another. -/
lemma OnCourse.apart (h : c.OnCourse t ttl limit) {th : Thread} {others : List Thread}
    (hthreads : c.threads.Perm (th :: others)) :
    (th.exchanges.map Exchange.id).Nodup ∧
      ∀ x ∈ th.exchanges, ∀ other ∈ others, ∀ y ∈ other.exchanges, y.id ≠ x.id := by
  have hall := h.distinct
  rw [exchanges, ((hthreads.flatMap_right _).map _).nodup_iff, List.flatMap_cons, List.map_append,
    List.nodup_append] at hall
  refine ⟨hall.1, ?_⟩
  intro x hx other hother y hy heq
  refine hall.2.2 x.id (List.mem_map_of_mem hx) y.id ?_ heq.symm
  exact List.mem_map_of_mem (List.mem_flatMap.mpr ⟨other, hother, hy⟩)

/-- A step of the worker or of a producer. -/
lemma OnCourse.turned (h : c.OnCourse t ttl limit) {s : Parties (σ × List Call)}
    (hturned : Turned c.parties s)
    (hdone : s.cancelled = true → c.Done) : OnCourse t ttl limit { c with parties := s } := by
  have hmade := made_turned hturned
  have hcache := hturned.cache_eq.2
  have hclosed : s.queue.closed = true → s.cancelled = true :=
    cancelled_of_closed_turned hturned h.closed
  -- a crew that is done stays so
  have hidle : s.cancelled = true → s.workers = [] := by
    intro hc
    exact workers_eq_nil_turned hturned (workers_eq_nil_iff.mpr (hdone hc).2)
  refine
    { smooth := h.smooth.turned hturned fun hc => hidle (hclosed hc)
      recalls := h.recalls.turned hturned
      threads := ?_
      entries := ?_
      distinct := h.distinct
      cancelled := fun hc => ⟨(hdone hc).1, workers_eq_nil_iff.mp (hidle hc)⟩
      closed := hclosed
      made := by rw [hmade]; exact h.made }
  · intro th hth
    refine (h.threads th hth).congr ?_ ?_ ?_
    · intro x _
      rw [hmade]
    · intro x _ w hw _
      rw [hcache]
      exact hw
    · intro x _ p hp hflow
      obtain ⟨q, hq, hflow', hname⟩ := h.smooth.exists_worker hturned hp
      exact ⟨q, hq, hflow'.trans hflow, hname⟩
  · intro w hw
    rw [hcache] at hw
    exact h.entries w hw

lemma OnCourse.sweep (h : c.OnCourse t ttl limit) {now : Nat}
    (hfresh : c.parties.pipeline.cache.AllFresh now) :
    OnCourse t ttl limit { c with parties := c.parties.sweep now } := by
  have hentries : (c.parties.sweep now).pipeline.cache.entries =
      c.parties.pipeline.cache.entries := hfresh.sweep.2
  refine
    { smooth := h.smooth.sweep hfresh
      recalls := h.recalls.sweep now
      threads := ?_
      entries := ?_
      distinct := h.distinct
      cancelled := h.cancelled
      closed := h.closed
      made := by rw [made_sweep]; exact h.made }
  · intro th hth
    refine (h.threads th hth).congr ?_ ?_ ?_
    · intro x _
      rw [made_sweep]
    · intro x _ w hw _
      rw [hentries]
      exact hw
    · intro x _ p hp hflow
      exact ⟨p, hp, hflow, rfl⟩
  · intro w hw
    rw [hentries] at hw
    exact h.entries w hw

/-- Each capture makes two events. -/
lemma OnCourse.length_eventsOf (h : c.OnCourse t ttl limit) {th th' : Thread} {side : Direction}
    {flow : Flow} (hnext : th.Next side flow th') (moment : Moment) :
    (c.parties.eventsOf side flow moment).length = 2 := by
  cases hnext with
  | asks x =>
    rw [eventsOf_request h.recalls.schema]
    rfl
  | answers x =>
    rw [eventsOf_response h.recalls.schema x.responds]
    simp [Schema.responseEvents, x.responds]

/-! ### Captures -/

section Capture

variable {i : Nat} {moment : Moment} {th th' th'' : Thread} {side : Direction} {flow : Flow}

/-- The end has not been asked for while a thread has something left to capture. -/
lemma OnCourse.cancelled_eq_false (h : c.OnCourse t ttl limit) (hmem : th ∈ c.threads)
    (hnext : th.Next side flow th') : c.parties.cancelled = false := by
  by_contra hne
  exact hnext.not_finished ((h.cancelled (by simpa using hne)).1 th hmem)

lemma OnCourse.closed_eq_false (h : c.OnCourse t ttl limit)
    (hcancelled : c.parties.cancelled = false) : c.parties.queue.closed = false := by
  by_contra hne
  have := h.closed (by simpa using hne)
  rw [hcancelled] at this
  cases this

/-- A flow that no producer works for is captured at an open queue. -/
lemma OnCourse.smooth_capture (h : c.OnCourse t ttl limit) (hopen : c.parties.queue.closed = false)
    (hnext : th.Next side flow th') (hfree : some flow.id ∉ c.parties.served)
    (hsteady : ∀ k, (c.parties.pipeline.eventsOf side flow moment).2.2.metrics.get k =
      c.parties.pipeline.metrics.get k) :
    Smooth t (c.parties.capture side th.host flow moment) := by
  have hlength := h.length_eventsOf hnext moment
  have huniform := flowId?_eventsOf h.recalls.schema side flow moment
  cases hevents : c.parties.eventsOf side flow moment with
  | nil => simp [hevents] at hlength
  | cons e es =>
    rw [hevents] at huniform
    have he : e.flowId? = some flow.id := huniform e List.mem_cons_self
    refine h.smooth.capture th.waits hopen hevents ?_ (by rwa [he]) hsteady
    rw [he]
    exact huniform

/-- The flow is one of the thread that captures it, so that the capture is nothing to the flows of
the others. -/
lemma OnCourse.threads_capture (h : c.OnCourse t ttl limit) (hpos : 0 < ttl)
    (hfresh : c.parties.pipeline.cache.AllFresh moment.stamp) (hth : c.threads[i]? = some th)
    (hnext : th.Next side flow th')
    (hself : th''.OnCourse (c.parties.capture side th.host flow moment)) :
    ∀ other ∈ c.threads.set i th'',
      other.OnCourse (c.parties.capture side th.host flow moment) := by
  obtain ⟨others, hbefore, hafter⟩ := exists_perm_set hth th''
  obtain ⟨x, hx, hid⟩ := hnext.exists_exchange
  intro other hother
  rcases List.mem_cons.mp (hafter.mem_iff.mp hother) with rfl | hother
  · exact hself
  · have hold : other ∈ c.threads := hbefore.mem_iff.mpr (List.mem_cons_of_mem _ hother)
    refine (h.threads other hold).capture h.recalls.schema (by rwa [h.recalls.ttl_eq]) hfresh side
      th.host ?_
    rw [← hid]
    exact (h.apart hbefore).2 x hx other hother

/-- An entry after a capture is awaited by the thread that has captured, or it was there before and
is of another flow. -/
lemma OnCourse.entries_capture (h : c.OnCourse t ttl limit) (hth : c.threads[i]? = some th)
    (hnext : th.Next side flow th')
    (hentries : ∀ w ∈ (c.parties.capture side th.host flow moment).pipeline.cache.entries,
      (∃ x ∈ th''.awaited, w.id = x.id) ∨
        w ∈ c.parties.pipeline.cache.entries ∧ w.id ≠ flow.id) :
    ∀ w ∈ (c.parties.capture side th.host flow moment).pipeline.cache.entries,
      ∃ other ∈ c.threads.set i th'', ∃ x ∈ other.awaited, w.id = x.id := by
  obtain ⟨others, hbefore, hafter⟩ := exists_perm_set hth th''
  intro w hw
  rcases hentries w hw with ⟨x, hx, hwid⟩ | ⟨hw, hne⟩
  · exact ⟨th'', hafter.mem_iff.mpr List.mem_cons_self, x, hx, hwid⟩
  · obtain ⟨other, hother, x, hx, hwid⟩ := h.entries w hw
    rcases List.mem_cons.mp (hbefore.mem_iff.mp hother) with rfl | hother
    · exact absurd (hwid.trans (hnext.id_of_awaited x hx)) hne
    · exact ⟨other, hafter.mem_iff.mpr (List.mem_cons_of_mem _ hother), x, hx, hwid⟩

lemma OnCourse.length_made_capture (h : c.OnCourse t ttl limit) (hth : c.threads[i]? = some th)
    (hnext : th.Next side flow th') (hmade : th''.made = th.made + 2) :
    (c.parties.capture side th.host flow moment).made.length =
      ((c.threads.set i th'').map Thread.made).sum := by
  obtain ⟨others, hbefore, hafter⟩ := exists_perm_set hth th''
  have hall := h.made
  rw [(hbefore.map _).sum_nat, List.map_cons, List.sum_cons] at hall
  rw [(hafter.map _).sum_nat, List.map_cons, List.sum_cons, made_capture, List.length_append,
    h.length_eventsOf hnext moment, hmade, hall]
  omega

/-- A capture of a thread whose flow no producer works for, and what it must do to the thread
itself. -/
lemma OnCourse.capture (h : c.OnCourse t ttl limit) (hpos : 0 < ttl)
    (hfresh : c.parties.pipeline.cache.AllFresh moment.stamp) (hth : c.threads[i]? = some th)
    (hnext : th.Next side flow th') (hth'' : th'' = { th' with last := some c.parties.born })
    (hfree : some flow.id ∉ c.parties.served)
    (hsteady : ∀ k, (c.parties.pipeline.eventsOf side flow moment).2.2.metrics.get k =
      c.parties.pipeline.metrics.get k)
    (hself : th''.OnCourse (c.parties.capture side th.host flow moment))
    (hentries : ∀ w ∈ (c.parties.capture side th.host flow moment).pipeline.cache.entries,
      (∃ x ∈ th''.awaited, w.id = x.id) ∨
        w ∈ c.parties.pipeline.cache.entries ∧ w.id ≠ flow.id) :
    OnCourse t ttl limit
      ⟨c.parties.capture side th.host flow moment, c.threads.set i th''⟩ := by
  have hcancelled := h.cancelled_eq_false (List.mem_of_getElem? hth) hnext
  have hopen := h.closed_eq_false hcancelled
  have hqueue : (c.parties.capture side th.host flow moment).queue = c.parties.queue :=
    (alike_capture c.parties side th.host flow moment).queue
  have hexchanges : th''.exchanges = th.exchanges := by
    rw [hth'']
    exact hnext.exchanges_eq
  have hmade : th''.made = th.made + 2 := by
    rw [hth'']
    exact hnext.made_eq
  refine
    { smooth := h.smooth_capture hopen hnext hfree hsteady
      recalls := h.recalls.capture side th.host flow moment
      threads := h.threads_capture hpos hfresh hth hnext hself
      entries := h.entries_capture hth hnext hentries
      distinct := ?distinct
      cancelled := fun hc => absurd (hcancelled.symm.trans hc) (by decide)
      closed := ?closed
      made := h.length_made_capture hth hnext hmade }
  case distinct =>
    have hperm := flatMap_exchanges_set hth hexchanges
    exact (hperm.map _).nodup_iff.mpr h.distinct
  case closed =>
    intro hc
    rw [hqueue, hopen] at hc
    cases hc

variable {x : Exchange} {later : List Exchange}

/-- The request of a flow is captured that nothing has been made of. -/
lemma OnCourse.asks (h : c.OnCourse t ttl limit) (hpos : 0 < ttl)
    (hfresh : c.parties.pipeline.cache.AllFresh moment.stamp) (hth : c.threads[i]? = some th)
    (hawaited : th.awaited = none) (hlater : th.later = x :: later) :
    OnCourse t ttl limit ⟨c.parties.capture .request th.host x.asked moment, c.threads.set i
      { th with awaited := some x, later, last := some c.parties.born }⟩ := by
  have hschema := h.recalls.schema
  have httl : 0 < c.parties.pipeline.cache.ttl := by rwa [h.recalls.ttl_eq]
  have hold := h.threads th (List.mem_of_getElem? hth)
  obtain ⟨others, hthreads, -⟩ := exists_perm_set hth th
  have hnil : ofFlow (some x.id) c.parties.made = [] := hold.later x (by simp [hlater])
  -- a producer at work has events to send, and none has been made of this flow
  have hfree : some x.asked.id ∉ c.parties.served := by
    intro hmem
    obtain ⟨p, hp, hflow⟩ := List.mem_map.mp hmem
    have hrest := h.smooth.ordered.rest p hp
    have hnone : ofFlow p.flow? c.parties.made = [] := by rw [hflow]; exact hnil
    rw [hnone] at hrest
    simp [Producer.events] at hrest
  have hapart : ∀ y ∈ th.done ++ later, y.id ≠ x.asked.id := by
    have hnodup := (h.apart hthreads).1
    rw [Thread.exchanges, hawaited, hlater, Option.toList_none, List.append_nil, List.map_append,
      List.map_cons, List.perm_middle.nodup_iff, List.nodup_cons, ← List.map_append] at hnodup
    intro y hy heq
    exact hnodup.1 (List.mem_map.mpr ⟨y, hy, heq⟩)
  have hevents := eventsOf_request hschema x.asked moment
  have hmade := fun y (hy : y ∈ th.done ++ later) =>
    ofFlow_made_capture hschema .request th.host moment (hapart y hy)
  refine h.capture hpos hfresh hth (.asks x later hawaited hlater) rfl hfree
    (get_requestEvents hschema httl hfresh) ⟨?later, ?awaited, ?done⟩ ?entries
  case later =>
    intro y hy
    rw [hmade y (List.mem_append_right _ hy)]
    exact hold.later y (by simp [hlater, show y ∈ later from hy])
  case awaited =>
    intro y hy
    obtain rfl : x = y := by simpa using hy
    refine ⟨moment, ?_, ?_, ?_⟩
    · refine (ofFlow_made_capture_self hschema .request th.host x.asked moment).trans ?_
      rw [hevents, show ofFlow (some x.asked.id) c.parties.made = [] from hnil, List.nil_append]
    · rw [entries_capture_request hschema httl hfresh]
      exact List.mem_cons_self
    · intro p hp hflow
      rcases mem_workers_capture hschema hp with ⟨hname, -⟩ | hp
      · rw [hname]
      · exact absurd (List.mem_map.mpr ⟨p, hp, hflow⟩) hfree
  case done =>
    intro y hy
    obtain ⟨asked, answered, htold⟩ := hold.done y hy
    exact ⟨asked, answered, (hmade y (List.mem_append_left _ hy)).trans htold⟩
  case entries =>
    intro w hw
    rw [entries_capture_request hschema httl hfresh] at hw
    rcases List.mem_cons.mp hw with rfl | hw
    · exact .inl ⟨x, rfl, rfl⟩
    · obtain ⟨hw, hne⟩ := List.mem_filter.mp hw
      exact .inr ⟨hw, by simpa using hne⟩

/-- The response of a flow is captured, when the events of its request have been sent. -/
lemma OnCourse.answers (h : c.OnCourse t ttl limit) (hpos : 0 < ttl)
    (hfresh : c.parties.pipeline.cache.AllFresh moment.stamp) (hth : c.threads[i]? = some th)
    (hidle : ¬ th.Busy c.parties) (hawaited : th.awaited = some x) :
    OnCourse t ttl limit ⟨c.parties.capture .response th.host x.answered moment, c.threads.set i
      { th with done := th.done ++ [x], awaited := none, last := some c.parties.born }⟩ := by
  have hschema := h.recalls.schema
  have hold := h.threads th (List.mem_of_getElem? hth)
  obtain ⟨others, hthreads, -⟩ := exists_perm_set hth th
  obtain ⟨asked, hasked, hentry, hlast⟩ := hold.awaited x (by simp [hawaited])
  have hfree : some x.answered.id ∉ c.parties.served := by
    rw [x.same]
    intro hmem
    obtain ⟨p, hp, hflow⟩ := List.mem_map.mp hmem
    exact hidle ⟨p, hp, hlast p hp hflow⟩
  have hget : c.parties.pipeline.cache.get? x.answered.id =
      some (x.asked.request.captured asked.now) := by
    rw [x.same]
    exact h.recalls.get?_of_mem hentry
  have hapart : ∀ y ∈ th.done ++ th.later, y.id ≠ x.answered.id := by
    have hnodup := (h.apart hthreads).1
    rw [Thread.exchanges, hawaited, Option.toList_some, List.append_assoc, List.singleton_append,
      List.map_append, List.map_cons, List.perm_middle.nodup_iff, List.nodup_cons,
      ← List.map_append] at hnodup
    intro y hy heq
    exact hnodup.1 (List.mem_map.mpr ⟨y, hy, heq.trans x.same⟩)
  have hevents := eventsOf_response hschema x.responds moment
  rw [hget] at hevents
  have hmade := fun y (hy : y ∈ th.done ++ th.later) =>
    ofFlow_made_capture hschema .response th.host moment (hapart y hy)
  refine h.capture hpos hfresh hth (.answers x hawaited) rfl hfree
    (get_responseEvents hschema x.responds (by simp [hget])) ⟨?later, ?awaited, ?done⟩
    ?entries
  case later =>
    intro y hy
    rw [hmade y (List.mem_append_right _ hy)]
    exact hold.later y hy
  case awaited => simp
  case done =>
    intro y hy
    rcases List.mem_append.mp hy with hy | hy
    · obtain ⟨asked', answered, htold⟩ := hold.done y hy
      exact ⟨asked', answered, (hmade y (List.mem_append_left _ hy)).trans htold⟩
    · obtain rfl := List.mem_singleton.mp hy
      refine ⟨asked, moment, ?_⟩
      have hself := ofFlow_made_capture_self hschema .response th.host y.answered moment
      rw [y.same, hevents] at hself
      refine hself.trans ?_
      rw [show ofFlow (some y.asked.id) c.parties.made = _ from hasked]
  case entries =>
    intro w hw
    rw [entries_capture_response hschema x.responds] at hw
    obtain ⟨hw, hne⟩ := List.mem_filter.mp hw
    exact .inr ⟨hw, by simpa using hne⟩

end Capture

/-! ### Runs -/

lemma OnCourse.new {t : Transport σ} {connection : σ} (hreliable : t.Reliable connection)
    {settings : Settings} (hschema : settings.schema = .enriched) {capacity : Nat}
    (hcapacity : 0 < capacity) {threads : List Thread}
    (hnew : ∀ th ∈ threads, th.done = [] ∧ th.awaited = none)
    (hdistinct : ((threads.flatMap Thread.exchanges).map Exchange.id).Nodup) :
    OnCourse t settings.cacheTtl settings.cacheLimit
      (new (Pipeline.new t.traced settings (connection, []) (Queue.new capacity .block))
        threads) where
  smooth := .new hreliable settings hcapacity
  recalls := .new t.traced (connection, []) hschema _
  threads th hth := by
    obtain ⟨hdone, hawaited⟩ := hnew th hth
    constructor
    · intro x _
      rfl
    · simp [hawaited]
    · simp [hdone]
  entries _ hw := absurd hw List.not_mem_nil
  distinct := hdistinct
  cancelled hc := by cases hc
  closed hc := by cases hc
  made := by
    have hzero : ∀ th ∈ threads, th.made = 0 := by
      intro th hth
      obtain ⟨hdone, hawaited⟩ := hnew th hth
      simp [Thread.made, hdone, hawaited]
    have hsum : (threads.map Thread.made).sum = 0 := by
      rw [List.map_congr_left hzero]
      simp
    exact hsum.symm

/-- Every step keeps a crew on its course, as long as no request waits too long. -/
lemma OnCourse.acted {c' : Crew (σ × List Call)} {a : Step} (h : c.OnCourse t ttl limit)
    (hpos : 0 < ttl) (hprompt : c.Prompt a) (ha : Acted c a c') :
    c'.OnCourse t ttl limit := by
  cases ha with
  | nothing => exact h
  | sweeps now => exact h.sweep (hprompt now rfl)
  | cancels hdone => exact h.turned .cancels fun _ => hdone
  | turns turn s hturned hcancelled =>
    refine h.turned hturned fun hc => h.cancelled ?_
    rw [← hcancelled]
    exact hc
  | captures i moment th th' side flow hth hidle hnext =>
    rw [act_capture h.smooth.present]
    cases hnext with
    | asks x later hawaited hlater => exact h.asks hpos (hprompt _ rfl) hth hawaited hlater
    | answers x hawaited => exact h.answers hpos (hprompt _ rfl) hth hidle hawaited

lemma OnCourse.run (h : c.OnCourse t ttl limit) (hpos : 0 < ttl)
    {steps : List Step} (hsteps : c.Timely steps) : (c.run steps).OnCourse t ttl limit :=
  run_induction h (fun _ _ _ h hprompt ha => h.acted hpos hprompt ha) steps hsteps

end Crew

end TrafficFeed
