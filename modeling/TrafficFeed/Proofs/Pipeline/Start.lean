import Mathlib.Tactic.Lemma
import Mathlib.Tactic.SplitIfs
import TrafficFeed.Pipeline.Basic
import TrafficFeed.Transport.Script

/-!
# Starting a pipeline

Settings that pass their check have a queue with room, requests that may wait, and an interval
between sweeps. What the check does not ask is whether the queue is too large; that alone can keep
a pipeline with checked settings from starting.
-/

namespace TrafficFeed

open TrafficFeed.Text TrafficFeed.Transport

/-! ### Checked settings -/

/-- What the check asks of settings. -/
structure Settings.Sound (s : Settings) : Prop where
  capacity : 0 < s.queueCapacity
  ttl : 0 < s.cacheTtl
  interval : 0 < s.sweepInterval
  endpoint : s.transport = .zmq → allBlank s.endpoint = false
  list : s.transport = .redis → allBlank s.redisList = false

namespace Settings

variable {s : Settings}

lemma Sound.of_validate (h : s.validate = .ok ()) : s.Sound := by
  have hnone := validate_eq_ok_iff.mp h
  rw [fault?] at hnone
  split_ifs at hnone with hcapacity httl hinterval hendpoint hlist
  refine ⟨Nat.pos_of_ne_zero hcapacity, Nat.pos_of_ne_zero httl, Nat.pos_of_ne_zero hinterval,
    ?endpoint, ?list⟩
  case endpoint =>
    intro hkind
    exact Bool.eq_false_iff.mpr fun hblank => hendpoint ⟨hkind, hblank⟩
  case list =>
    intro hkind
    exact Bool.eq_false_iff.mpr fun hblank => hlist ⟨hkind, hblank⟩

lemma Sound.validate (h : s.Sound) : s.validate = .ok () := by
  have hcapacity := Nat.ne_of_gt h.capacity
  have httl := Nat.ne_of_gt h.ttl
  have hinterval := Nat.ne_of_gt h.interval
  have hendpoint : ¬(s.transport = .zmq ∧ allBlank s.endpoint) := by
    rintro ⟨hkind, hblank⟩
    exact Bool.noConfusion (hblank.symm.trans (h.endpoint hkind))
  have hlist : ¬(s.transport = .redis ∧ allBlank s.redisList) := by
    rintro ⟨hkind, hblank⟩
    exact Bool.noConfusion (hblank.symm.trans (h.list hkind))
  rw [validate_eq_ok_iff, fault?, if_neg hcapacity, if_neg httl, if_neg hinterval,
    if_neg hendpoint, if_neg hlist]

end Settings

namespace Pipeline

variable {σ : Type}

/-- A pipeline as it starts: everything that the settings ask for is there, and nothing has
happened yet. -/
structure Ready (s : Settings) (connection : σ) (p : Pipeline σ) : Prop where
  queue : p.queue = Queue.new s.queueCapacity s.queuePolicy
  free : 0 < p.queue.free
  cache : p.cache = Correlation.new s.cacheTtl s.cacheLimit
  connection : p.delivery.connection = connection
  interval : p.sweepInterval = s.sweepInterval
  sweeps : ∃ due, p.nextSweep = some due ∧ p.clock < due
  idle : p.worker = .idle

lemma start_of_le {s : Settings} (h : s.Sound) (hle : s.queueCapacity ≤ Queue.maxCapacity)
    (t : Transport σ) (connection : σ) :
    start t s connection =
      .ok ([startedEntry s],
        new t s connection (Queue.new s.queueCapacity s.queuePolicy)) := by
  have hbounded : (Queue.bounded s.queueCapacity s.queuePolicy : Except _ (Queue Event)) =
      .ok (Queue.new s.queueCapacity s.queuePolicy) := by
    rw [Queue.bounded, if_neg (Nat.ne_of_gt h.capacity), if_neg (Nat.not_lt.mpr hle)]
  rw [start, h.validate, hbounded]

lemma start_of_lt {s : Settings} (h : s.Sound) (hlt : Queue.maxCapacity < s.queueCapacity)
    (t : Transport σ) (connection : σ) :
    start t s connection = .error (.capacity .tooLarge) := by
  have hbounded : (Queue.bounded s.queueCapacity s.queuePolicy : Except _ (Queue Event)) =
      .error .tooLarge := by
    rw [Queue.bounded, if_neg (Nat.ne_of_gt h.capacity), if_pos hlt]
  rw [start, h.validate, hbounded]

lemma ready_new {s : Settings} (h : s.Sound) (t : Transport σ) (connection : σ) :
    Ready s connection (new t s connection (Queue.new s.queueCapacity s.queuePolicy)) :=
  { queue := rfl
    free := h.capacity
    cache := rfl
    connection := rfl
    interval := rfl
    sweeps := ⟨s.sweepInterval, rfl, h.interval⟩
    idle := rfl }

/-- With checked settings a pipeline starts over every connection, unless its queue is larger than
a queue can be. -/
theorem start_of_validate (t : Transport σ) (s : Settings) (connection : σ)
    (h : s.validate = .ok ()) :
    (s.queueCapacity ≤ Queue.maxCapacity →
      ∃ p, start t s connection = .ok ([startedEntry s], p) ∧ Ready s connection p) ∧
    (Queue.maxCapacity < s.queueCapacity →
      start t s connection = .error (.capacity .tooLarge)) := by
  have hsound := Settings.Sound.of_validate h
  constructor
  · intro hle
    exact ⟨_, start_of_le hsound hle t connection, ready_new hsound t connection⟩
  · intro hlt
    exact start_of_lt hsound hlt t connection

/-- The default settings start. -/
theorem start_of_validate_default :
    Settings.default.validate = .ok () ∧
      ∃ p, start Script.transport Settings.default (Script.new [] []) =
          .ok ([startedEntry Settings.default], p) ∧
        Ready Settings.default (Script.new [] []) p := by
  have hvalid : Settings.default.validate = .ok () :=
    Settings.validate_eq_ok_iff.mpr Settings.fault?_default
  have hstart := start_of_validate Script.transport Settings.default (Script.new [] []) hvalid
  exact ⟨hvalid, hstart.1 (by decide)⟩

/-- The check lets a queue pass that is larger by one slot than a queue can be. -/
theorem exists_checked_not_started :
    let s := { Settings.default with queueCapacity := Queue.maxCapacity + 1 }
    s.validate = .ok () ∧
      ∀ (σ : Type) (t : Transport σ) (connection : σ),
        start t s connection = .error (.capacity .tooLarge) := by
  intro s
  have hvalid : s.validate = .ok () := by
    rw [Settings.validate_eq_ok_iff]
    decide +kernel
  refine ⟨hvalid, ?_⟩
  intro σ t connection
  exact start_of_lt (Settings.Sound.of_validate hvalid) (Nat.lt_succ_self _) t connection

end Pipeline

end TrafficFeed
