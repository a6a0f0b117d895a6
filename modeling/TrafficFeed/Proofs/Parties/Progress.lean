import Mathlib.Data.List.Perm.Basic
import TrafficFeed.Proofs.Parties.Capture

/-!
# The progress of producers

As far as producers are concerned a step ends one send, or none; what else it does is to move a
producer from those that can go on to those that wait. A producer sends the events with which it has
come one after the other, each once, and how each send ended is written down with the reason for it
still to be seen at the queue.
-/

namespace TrafficFeed

open TrafficFeed.Pipeline

variable {σ : Type}

/-- Whether a send by a way may end so at a queue. -/
def Queue.Permits {α : Type} (q : Queue α) (way : Queue.Way) : Except Queue.SendError Unit → Prop
  | .ok _ => q.closed = false
  | .error .closed => q.closed = true
  | .error .full => q.policy = .dropNewest ∨ way = .attempt
  | .error .cannotBlock => q.policy = .block ∧ way = .blocking .loop

namespace Parties

/-! ### What a step does to the producers -/

def workers (s : Parties σ) : List Producer := s.active ++ s.parked

/-- What a step does to the producers. -/
inductive Worked (s s' : Parties σ) : Prop where
  | rests (hworkers : s'.workers.Perm s.workers) (hhistory : s'.history = s.history)
  /-- A send of a producer ends. -/
  | sends (p : Producer) (others : List Producer) (r : Except Queue.SendError Unit)
      (hbefore : s.workers.Perm (p :: others))
      (hafter : s'.workers.Perm (p.rest?.toList ++ others))
      (hhistory : s'.history = s.history ++ [.sent p.name p.next r])
      (hpermits : s.queue.Permits p.way r)

lemma perm_of_getElem? {α : Type} {l : List α} {i : Nat} {a : α} (h : l[i]? = some a) :
    l.Perm (a :: l.eraseIdx i) := by
  rw [List.getElem?_eq_some_iff] at h
  obtain ⟨hi, ha⟩ := h
  rw [← ha]
  exact (List.getElem_cons_eraseIdx_perm hi).symm

/-- A producer that can go on, among all. -/
lemma workers_perm_of_active {s : Parties σ} {i : Nat} {p : Producer}
    (hp : s.active[i]? = some p) :
    s.workers.Perm (p :: (s.active.eraseIdx i ++ s.parked)) :=
  (perm_of_getElem? hp).append_right s.parked

/-- A producer that waits, among all. -/
lemma workers_perm_of_parked {s : Parties σ} {i : Nat} {p : Producer}
    (hp : s.parked[i]? = some p) :
    s.workers.Perm (p :: (s.active ++ s.parked.eraseIdx i)) :=
  ((perm_of_getElem? hp).append_left s.active).trans List.perm_middle

/-- A producer that goes on is placed behind the active ones. -/
lemma perm_insert {α : Type} (l m new : List α) : (l ++ new ++ m).Perm (new ++ (l ++ m)) := by
  rw [← List.append_assoc]
  exact List.perm_append_comm.append_right m

lemma workers_join (s : Parties σ) (way : Queue.Way) (events : List Event) :
    (s.join way events).workers.Perm
      ((Producer.ofEvents? s.born way events).toList ++ s.workers) :=
  perm_insert _ _ _

lemma Worked.of_turned {s s' : Parties σ} (h : Turned s s') : Worked s s' := by
  cases h with
  | nothing | cancels | wakes | receives | stops | closes | delivers =>
    exact .rests (.refl _) rfl
  | enters i p hp hopen =>
    exact .sends p _ _ (workers_perm_of_active hp) (perm_insert _ _ _) rfl hopen
  | refused i p e hp he =>
    refine .sends p _ _ (workers_perm_of_active hp) (perm_insert _ _ _) rfl ?_
    cases he with
    | closed hclosed => exact hclosed
    | full hopen hfree hway => exact hway
    | stuck hopen hfree hpolicy hway => exact ⟨hpolicy, hway⟩
  | parks i p hp =>
    refine .rests ?_ rfl
    have hmiddle : (s.active.eraseIdx i ++ (s.parked ++ [p])).Perm
        (p :: (s.active.eraseIdx i ++ s.parked)) := by
      rw [← List.append_assoc]
      exact List.perm_append_singleton p _
    exact hmiddle.trans (workers_perm_of_active hp).symm
  | resumes i p w hp hw hopen =>
    exact .sends p _ _ (workers_perm_of_parked hp) (perm_insert _ _ _) rfl hopen
  | fails i p w hp hw hclosed =>
    exact .sends p _ _ (workers_perm_of_parked hp) (perm_insert _ _ _) rfl hclosed

/-! ### What a producer has sent -/

/-- The event of a send of one producer. -/
def sentBy? (n : Nat) : Report → Option Event
  | .sent m e _ => if m = n then some e else none
  | _ => none

def sentBy (s : Parties σ) (n : Nat) : List Event := s.history.filterMap (sentBy? n)

/-- The progress of the producers. -/
structure Progress (s : Parties σ) : Prop where
  names : (s.workers.map (·.name)).Nodup
  /-- What a producer has sent and what it has still to send are the events with which it came. -/
  rest : ∀ p ∈ s.workers, .joined p.name p.way (s.sentBy p.name ++ p.events) ∈ s.history
  begun : ∀ n way events, .joined n way events ∈ s.history →
    n < s.born ∧ s.sentBy n <+: events
  once : ∀ n way events way' events', .joined n way events ∈ s.history →
    .joined n way' events' ∈ s.history → way = way' ∧ events = events'
  /-- Every send was one of a producer, and a refusal has its reason. -/
  sent : ∀ n e r, .sent n e r ∈ s.history →
    ∃ way events, .joined n way events ∈ s.history ∧ e ∈ events ∧
      ∀ error, r = .error error → s.queue.Permits way (.error error)

/-- The reason of a refusal does not pass away. -/
lemma permits_error_mono {q q' : Queue Event} (hpolicy : q'.policy = q.policy)
    (hclosed : q.closed = true → q'.closed = true) {way : Queue.Way} {error : Queue.SendError}
    (h : q.Permits way (.error error)) : q'.Permits way (.error error) := by
  cases error with
  | closed => exact hclosed h
  | full | cannotBlock => simpa only [Queue.Permits, hpolicy] using h

lemma Progress.new (p : Pipeline σ) : Progress (new p) where
  names := List.nodup_nil
  rest _ hp := absurd hp List.not_mem_nil
  begun _ _ _ h := absurd h List.not_mem_nil
  once _ _ _ _ _ h := absurd h List.not_mem_nil
  sent _ _ _ h := absurd h List.not_mem_nil

variable {s s' : Parties σ}

lemma Progress.name_lt (h : Progress s) {p : Producer} (hp : p ∈ s.workers) : p.name < s.born :=
  (h.begun _ _ _ (h.rest p hp)).1

/-- Nobody has sent under a name that is still to be given. -/
lemma Progress.sentBy_of_le (h : Progress s) {n : Nat} (hn : s.born ≤ n) : s.sentBy n = [] := by
  rw [sentBy, List.filterMap_eq_nil_iff]
  intro r hr
  cases r with
  | sent m e r =>
    obtain ⟨way, events, hjoined, -⟩ := h.sent m e r hr
    have hm : m ≠ n := by
      have := (h.begun m way events hjoined).1
      omega
    simp [sentBy?, hm]
  | joined | requested | responded | swept => rfl

/-- What is said of the producers is kept if reports are added that tell of none, and the queue is
left or closed. -/
lemma Progress.extend (h : Progress s) (reports : List Report)
    (hreports : ∀ r ∈ reports, r.isAside = true) (hnames : (s'.workers.map (·.name)).Nodup)
    (hworkers : ∀ p ∈ s'.workers, p ∈ s.workers)
    (hhistory : s'.history = s.history ++ reports) (hborn : s'.born = s.born)
    (hpolicy : s'.queue.policy = s.queue.policy)
    (hclosed : s.queue.closed = true → s'.queue.closed = true) : Progress s' := by
  have hmem : ∀ r : Report, r.isAside = false → (r ∈ s'.history ↔ r ∈ s.history) := by
    intro r hr
    rw [hhistory, List.mem_append]
    constructor
    · rintro (hold | hnew)
      · exact hold
      · rw [hreports r hnew] at hr
        cases hr
    · exact .inl
  have hsent : ∀ n, s'.sentBy n = s.sentBy n := by
    intro n
    have hnil : reports.filterMap (sentBy? n) = [] := by
      rw [List.filterMap_eq_nil_iff]
      intro r hr
      have := hreports r hr
      cases r <;> simp_all [Report.isAside, sentBy?]
    rw [sentBy, hhistory, List.filterMap_append, hnil, List.append_nil, sentBy]
  refine ⟨hnames, fun p hp => ?_, fun n way events hj => ?_,
    fun n way events way' events' hj hj' => ?_, fun n e r hr => ?_⟩
  · rw [hsent, hmem _ rfl]
    exact h.rest p (hworkers p hp)
  · rw [hborn, hsent]
    exact h.begun n way events ((hmem _ rfl).mp hj)
  · exact h.once n way events way' events' ((hmem _ rfl).mp hj) ((hmem _ rfl).mp hj')
  · obtain ⟨way, events, hj, he, hreason⟩ := h.sent n e r ((hmem _ rfl).mp hr)
    exact ⟨way, events, (hmem _ rfl).mpr hj, he,
      fun error herror => permits_error_mono hpolicy hclosed (hreason error herror)⟩

lemma Progress.note (h : Progress s) {p : Pipeline σ} (hp : Alike s.pipeline p)
    {reports : List Report} (hr : ∀ r ∈ reports, r.isAside = true) :
    Progress (s.note p reports) := by
  refine h.extend reports hr h.names (fun _ hq => hq) rfl rfl ?_ ?_
  · exact congrArg Queue.policy hp.queue
  · intro hclosed
    exact (congrArg Queue.closed hp.queue).trans hclosed

lemma Progress.leave (h : Progress s) : Progress s.leave :=
  h.extend [] (by simp) List.nodup_nil (fun _ hq => absurd hq List.not_mem_nil)
    (List.append_nil _).symm rfl rfl id

/-- A producer that comes has a new name and has sent nothing. -/
lemma Progress.join (h : Progress s) (way : Queue.Way) (events : List Event) :
    Progress (s.join way events) := by
  have hsent : ∀ n, (s.join way events).sentBy n = s.sentBy n := by
    intro n
    simp [sentBy, Parties.join, sentBy?]
  have hmem : ∀ n way' events', .joined n way' events' ∈ (s.join way events).history ↔
      .joined n way' events' ∈ s.history ∨ n = s.born ∧ way' = way ∧ events' = events := by
    intro n way' events'
    simp [Parties.join]
  have hworkers := workers_join s way events
  refine ⟨?_, fun p hp => ?_, fun n way' events' hj => ?_,
    fun n way₁ events₁ way₂ events₂ h₁ h₂ => ?_, fun n e r hr => ?_⟩
  · rw [(hworkers.map _).nodup_iff]
    cases events with
    | nil => exact h.names
    | cons e es =>
      refine List.nodup_cons.mpr ⟨fun hmem => ?_, h.names⟩
      obtain ⟨p, hp, hname⟩ := List.mem_map.mp hmem
      exact absurd (h.name_lt hp) (by simp [hname])
  · rw [hsent, hmem]
    rw [hworkers.mem_iff, List.mem_append] at hp
    rcases hp with hnew | hold
    · cases events with
      | nil => simp [Producer.ofEvents?] at hnew
      | cons e es =>
        obtain rfl : p = ⟨s.born, way, e, es⟩ := by simpa [Producer.ofEvents?] using hnew
        exact .inr ⟨rfl, rfl, by rw [h.sentBy_of_le (Nat.le_refl _)]; rfl⟩
    · exact .inl (h.rest p hold)
  · rw [hsent]
    rcases (hmem _ _ _).mp hj with hold | ⟨rfl, rfl, rfl⟩
    · exact ⟨Nat.lt_succ_of_lt (h.begun n way' events' hold).1, (h.begun n way' events' hold).2⟩
    · rw [h.sentBy_of_le (Nat.le_refl _)]
      exact ⟨Nat.lt_succ_self _, List.nil_prefix⟩
  · rcases (hmem _ _ _).mp h₁ with hold₁ | ⟨rfl, rfl, rfl⟩ <;>
      rcases (hmem _ _ _).mp h₂ with hold₂ | ⟨hn, rfl, rfl⟩
    · exact h.once n way₁ events₁ way₂ events₂ hold₁ hold₂
    · exact absurd (h.begun n way₁ events₁ hold₁).1 (by simp [hn])
    · exact absurd (h.begun _ way₂ events₂ hold₂).1 (Nat.lt_irrefl _)
    · exact ⟨rfl, rfl⟩
  · have hr' : .sent n e r ∈ s.history := by simpa [Parties.join] using hr
    obtain ⟨way', events', hj, he, hreason⟩ := h.sent n e r hr'
    exact ⟨way', events', (hmem _ _ _).mpr (.inl hj), he, hreason⟩

/-- A send that ends is the next of its producer. -/
lemma Progress.sends (h : Progress s) (p : Producer) (others : List Producer)
    (r : Except Queue.SendError Unit) (hbefore : s.workers.Perm (p :: others))
    (hafter : s'.workers.Perm (p.rest?.toList ++ others))
    (hhistory : s'.history = s.history ++ [.sent p.name p.next r])
    (hpermits : s.queue.Permits p.way r) (hborn : s'.born = s.born)
    (hpolicy : s'.queue.policy = s.queue.policy)
    (hclosed : s.queue.closed = true → s'.queue.closed = true) : Progress s' := by
  have hmem : ∀ n way events, .joined n way events ∈ s'.history ↔
      .joined n way events ∈ s.history := by
    intro n way events
    simp [hhistory]
  have hself : s'.sentBy p.name = s.sentBy p.name ++ [p.next] := by
    simp [sentBy, hhistory, sentBy?]
  have hother : ∀ n, n ≠ p.name → s'.sentBy n = s.sentBy n := by
    intro n hn
    simp [sentBy, hhistory, sentBy?, hn.symm]
  have hp : p ∈ s.workers := hbefore.mem_iff.mpr (List.mem_cons_self ..)
  have hnames : ((p :: others).map (·.name)).Nodup := (hbefore.map _).nodup_iff.mp h.names
  rw [List.map_cons, List.nodup_cons] at hnames
  refine ⟨?_, fun q hq => ?_, fun n way events hj => ?_,
    fun n way events way' events' hj hj' => ?_, fun n e r' hr => ?_⟩
  · rw [(hafter.map _).nodup_iff]
    unfold Producer.rest?
    cases p.later with
    | nil => exact hnames.2
    | cons e es => exact List.nodup_cons.mpr hnames
  · rw [hmem]
    rw [hafter.mem_iff, List.mem_append] at hq
    rcases hq with hrest | hq
    · have hjoined := h.rest p hp
      unfold Producer.rest? at hrest
      cases hlater : p.later with
      | nil => simp [hlater, Producer.ofEvents?] at hrest
      | cons e es =>
        obtain rfl : q = ⟨p.name, p.way, e, es⟩ := by
          simpa [hlater, Producer.ofEvents?] using hrest
        rw [hself, List.append_assoc]
        simpa [Producer.events, hlater] using hjoined
    · have hne : q.name ≠ p.name := fun heq => hnames.1 (List.mem_map.mpr ⟨q, hq, heq⟩)
      rw [hother _ hne]
      exact h.rest q (hbefore.mem_iff.mpr (List.mem_cons_of_mem _ hq))
  · have hold := (hmem _ _ _).mp hj
    rw [hborn]
    by_cases hn : n = p.name
    · subst hn
      obtain ⟨rfl, rfl⟩ := h.once _ _ _ _ _ (h.rest p hp) hold
      rw [hself]
      refine ⟨(h.begun _ _ _ hold).1, p.later, ?_⟩
      rw [List.append_assoc]
      rfl
    · rw [hother n hn]
      exact h.begun n way events hold
  · exact h.once n way events way' events' ((hmem _ _ _).mp hj) ((hmem _ _ _).mp hj')
  · rw [hhistory, List.mem_append, List.mem_singleton] at hr
    rcases hr with hold | hnew
    · obtain ⟨way, events, hj, he, hreason⟩ := h.sent n e r' hold
      exact ⟨way, events, (hmem _ _ _).mpr hj, he,
        fun error herror => permits_error_mono hpolicy hclosed (hreason error herror)⟩
    · cases hnew
      refine ⟨p.way, _, (hmem _ _ _).mpr (h.rest p hp), ?_, fun error herror => ?_⟩
      · exact List.mem_append_right _ (List.mem_cons_self ..)
      · subst herror
        exact permits_error_mono hpolicy hclosed hpermits

lemma Progress.turned (h : Progress s) (ht : Turned s s') : Progress s' := by
  obtain ⟨hborn, hpolicy, hclosed⟩ := ht.born_eq
  cases Worked.of_turned ht with
  | rests hworkers hhistory =>
    refine h.extend [] (by simp) ((hworkers.map _).nodup_iff.mpr h.names) ?_ ?_ hborn hpolicy
      hclosed
    · exact fun p hp => hworkers.mem_iff.mp hp
    · rw [hhistory, List.append_nil]
  | sends p others r hbefore hafter hhistory hpermits =>
    exact h.sends p others r hbefore hafter hhistory hpermits hborn hpolicy hclosed

end Parties

end TrafficFeed
