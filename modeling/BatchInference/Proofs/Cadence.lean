import Mathlib.Algebra.GroupWithZero.Nat
import Mathlib.Data.List.Induction
import BatchInference.Proofs.Display

/-!
How often a log shows the progress of a phase. A log keeps the count of its phase and makes a record when an advance
takes the count to a multiple of the interval or beyond one, so that an advance over several multiples is recorded
once. The records of a phase are therefore at most as many as the multiples its count has come to, and as many if no
advance is longer than the interval.
-/

namespace BatchInference

namespace PhaseUpdate

def status? : PhaseUpdate → Option String
  | .advance _ => none
  | .status text => some text

/-- How far these updates take a phase. -/
def distance (updates : List PhaseUpdate) : Nat := (updates.filterMap (·.advanced?)).sum

/-- The status after these updates, which is the last that they give. -/
def statusAfter (status : String) (updates : List PhaseUpdate) : String :=
  (updates.filterMap (·.status?)).getLast?.getD status

@[simp]
theorem distance_nil : distance [] = 0 := rfl

@[simp]
theorem distance_advance (n : Nat) (rest : List PhaseUpdate) : distance (.advance n :: rest) = n + distance rest :=
  List.sum_cons

@[simp]
theorem distance_status (text : String) (rest : List PhaseUpdate) : distance (.status text :: rest) = distance rest :=
  rfl

theorem distance_append (updates more : List PhaseUpdate) :
    distance (updates ++ more) = distance updates + distance more := by
  simp [distance]

@[simp]
theorem statusAfter_advance (status : String) (n : Nat) (rest : List PhaseUpdate) :
    statusAfter status (.advance n :: rest) = statusAfter status rest := rfl

@[simp]
theorem statusAfter_status (status text : String) (rest : List PhaseUpdate) :
    statusAfter status (.status text :: rest) = statusAfter text rest := by
  simp [statusAfter, status?, List.getLast?_cons]

end PhaseUpdate

namespace ProgressSink

variable {τ : Type}

/-- The log records that a display makes of reports in order. -/
def recordsOf (sink : ProgressSink τ) : τ → List ProgressEvent → List LogRecord
  | _, [] => []
  | shown, e :: rest => (sink.receive shown e).2 ++ sink.recordsOf (sink.receive shown e).1 rest

variable (sink : ProgressSink τ) (shown : τ)

theorem receiveAll_cons (e : ProgressEvent) (rest : List ProgressEvent) :
    sink.receiveAll shown (e :: rest) = sink.receiveAll (sink.receive shown e).1 rest := rfl

/-- One more report adds to the records what is made of it in the state in which those before it leave the display. -/
theorem recordsOf_concat (events : List ProgressEvent) (e : ProgressEvent) :
    sink.recordsOf shown (events ++ [e]) =
      sink.recordsOf shown events ++ (sink.receive (sink.receiveAll shown events) e).2 := by
  induction events generalizing shown with
  | nil => exact List.append_nil _
  | cons first rest ih => simp only [List.cons_append, recordsOf, receiveAll_cons, ih, List.append_assoc]

end ProgressSink

/-- Going up, the quotient by an interval changes exactly if a multiple of the interval is come to. -/
theorem div_ne_div_iff {interval low high : Nat} (hpos : 0 < interval) (hle : low ≤ high) :
    high / interval ≠ low / interval ↔ ∃ k, interval ∣ k ∧ low < k ∧ k ≤ high := by
  have hmono : low / interval ≤ high / interval := Nat.div_le_div_right hle
  constructor
  · intro hne
    have hlt : low / interval < high / interval := by omega
    refine ⟨high / interval * interval, Nat.dvd_mul_left _ _, ?_, Nat.div_mul_le_self _ _⟩
    exact (Nat.div_lt_iff_lt_mul hpos).mp hlt
  · rintro ⟨_, ⟨m, rfl⟩, hlow, hhigh⟩
    have habove : low / interval < m := (Nat.div_lt_iff_lt_mul hpos).mpr (by rwa [Nat.mul_comm])
    have hbelow : m ≤ high / interval := (Nat.le_div_iff_mul_le hpos).mpr (by rwa [Nat.mul_comm])
    omega

/-- What a log with this interval shows of one more update of a phase: nothing of a status; and of an advance one
record, with the count, the total and the status of the moment, if the count comes to a multiple of the interval. -/
inductive ProgressPhase.Logs (p : ProgressPhase) (interval : Nat) (earlier : List PhaseUpdate) :
    PhaseUpdate → List LogRecord → Prop
  | status (text : String) : Logs p interval earlier (.status text) []
  | reached {n k : Nat} : interval ∣ k → PhaseUpdate.distance earlier < k → k ≤ PhaseUpdate.distance earlier + n →
      Logs p interval earlier (.advance n)
        [⟨.info, p.description ++ ": " ++ (toString (PhaseUpdate.distance earlier + n) ++ "/" ++ toString p.total ++
          " " ++ PhaseUpdate.statusAfter "" earlier)⟩]
  | between {n : Nat} : (∀ k, interval ∣ k → PhaseUpdate.distance earlier < k → PhaseUpdate.distance earlier + n < k) →
      Logs p interval earlier (.advance n) []

namespace LogProgress

open PhaseUpdate (distance statusAfter)

variable (p : LogProgress)

@[simp]
theorem receive_status (text : String) :
    sink.receive p (PhaseUpdate.status text).event = ({ p with status := text }, []) := rfl

@[simp]
theorem receive_advance (n : Nat) :
    sink.receive p (PhaseUpdate.advance n).event =
      ({ p with done := p.done + n },
        if (p.done + n) / p.every ≠ p.done / p.every then
          [⟨.info, p.description ++ ": " ++ (toString (p.done + n) ++ "/" ++ toString p.total ++ " " ++ p.status)⟩]
        else []) := rfl

/-- No report changes how often a log is written to. -/
theorem every_receiveAll (events : List ProgressEvent) : (sink.receiveAll p events).every = p.every := by
  induction events generalizing p with
  | nil => rfl
  | cons e rest ih =>
    rw [ProgressSink.receiveAll_cons, ih]
    cases e <;> rfl

/-- The updates of a phase change its count and its status only. -/
theorem receiveAll_updates (updates : List PhaseUpdate) :
    sink.receiveAll p (updates.map (·.event)) =
      { p with done := p.done + distance updates, status := statusAfter p.status updates } := by
  induction updates generalizing p with
  | nil => rfl
  | cons u rest ih =>
    rw [List.map_cons, ProgressSink.receiveAll_cons, ih]
    cases u <;> simp [Nat.add_assoc]

/-- One update is recorded at most as often as it takes the quotient of count and interval up, and no less often if it
is no longer than the interval. -/
theorem records_of_update (u : PhaseUpdate) :
    p.done / p.every + (sink.receive p u.event).2.length ≤ (p.done + distance [u]) / p.every ∧
      ((∀ n ∈ u.advanced?, n ≤ p.every) →
        p.done / p.every + (sink.receive p u.event).2.length = (p.done + distance [u]) / p.every) := by
  cases u with
  | status text => exact ⟨Nat.le_refl _, fun _ => rfl⟩
  | advance n =>
    have hmono : p.done / p.every ≤ (p.done + n) / p.every := Nat.div_le_div_right (Nat.le_add_right _ _)
    simp only [receive_advance, PhaseUpdate.distance_advance, PhaseUpdate.distance_nil, Nat.add_zero]
    refine ⟨?_, ?_⟩
    · split <;> simp only [List.length_singleton, List.length_nil] <;> omega
    · intro hshort
      have hnext : (p.done + n) / p.every ≤ p.done / p.every + 1 := by
        rw [← Nat.add_div_right _ p.every_pos]
        exact Nat.div_le_div_right (Nat.add_le_add_left (hshort n rfl) _)
      split <;> simp only [List.length_singleton, List.length_nil] <;> omega

/-- The same of all updates of a phase together. -/
theorem records_of_updates (updates : List PhaseUpdate) :
    p.done / p.every + (sink.recordsOf p (updates.map (·.event))).length ≤ (p.done + distance updates) / p.every ∧
      ((∀ u ∈ updates, ∀ n ∈ u.advanced?, n ≤ p.every) →
        p.done / p.every + (sink.recordsOf p (updates.map (·.event))).length =
          (p.done + distance updates) / p.every) := by
  induction updates using List.reverseRecOn with
  | nil => exact ⟨Nat.le_refl _, fun _ => rfl⟩
  | append_singleton earlier u ih =>
    obtain ⟨hmost, hshort⟩ := ih
    obtain ⟨hlast, hlastShort⟩ := (sink.receiveAll p (earlier.map (·.event))).records_of_update u
    rw [every_receiveAll] at hlast hlastShort
    simp only [receiveAll_updates] at hlast hlastShort
    rw [List.map_append, List.map_singleton, ProgressSink.recordsOf_concat, List.length_append,
      PhaseUpdate.distance_append, receiveAll_updates, ← Nat.add_assoc, ← Nat.add_assoc]
    refine ⟨by omega, ?_⟩
    intro hall
    have hbefore := hshort fun v hv => hall v (List.mem_append_left _ hv)
    have hu := hlastShort (hall u (List.mem_append_right _ (List.mem_singleton_self u)))
    omega

/-- What a log at a moment of a phase makes of one more update. -/
theorem logs_update (phase : ProgressPhase) (earlier : List PhaseUpdate) (u : PhaseUpdate)
    (hdescription : p.description = phase.description) (htotal : p.total = phase.total)
    (hdone : p.done = distance earlier) (hstatus : p.status = statusAfter "" earlier) :
    phase.Logs p.every earlier u (sink.receive p u.event).2 := by
  cases u with
  | status text => exact .status text
  | advance n =>
    have hle : p.done ≤ p.done + n := Nat.le_add_right _ _
    rw [receive_advance, hdescription, htotal, hstatus]
    split
    case isTrue hreached =>
      obtain ⟨k, hk, hlow, hhigh⟩ := (div_ne_div_iff p.every_pos hle).mp hreached
      rw [hdone] at hlow hhigh ⊢
      exact .reached hk hlow hhigh
    case isFalse hbetween =>
      refine .between ?_
      intro k hk hlow
      by_contra hhigh
      rw [← hdone] at hlow hhigh
      exact hbetween ((div_ne_div_iff p.every_pos hle).mpr ⟨k, hk, hlow, Nat.le_of_not_lt hhigh⟩)

/-- A log with an interval, of which zero counts as one, once a phase is begun, whatever it was told before. The count
of the phase is what its advances add up to. Each of its updates adds to the records what `ProgressPhase.Logs` tells,
so that an advance is recorded, once, exactly if the count comes to a multiple of the interval. The records are at most
as many as the interval goes into the count, and as many if no advance is longer than the interval. -/
theorem recorded_at_multiples (interval : Nat) (history : List ProgressEvent) (phase : ProgressPhase) :
    let begun := sink.receiveAll (ofInterval interval) (history ++ [.start phase.description phase.total])
    let records := fun updates : List PhaseUpdate => sink.recordsOf begun (updates.map (·.event))
    (sink.receiveAll begun (phase.updates.map (·.event))).done = phase.advances.sum ∧
      (∀ earlier u, ∃ new, records (earlier ++ [u]) = records earlier ++ new ∧
        phase.Logs (max interval 1) earlier u new) ∧
      (records phase.updates).length ≤ phase.advances.sum / max interval 1 ∧
      ((∀ n ∈ phase.advances, n ≤ max interval 1) →
        (records phase.updates).length = phase.advances.sum / max interval 1) := by
  intro begun records
  have hevery : begun.every = max interval 1 := every_receiveAll _ _
  have hbegun : begun.description = phase.description ∧ begun.total = phase.total ∧ begun.done = 0 ∧
      begun.status = "" := by
    simp only [begun, ProgressSink.receiveAll_append]
    exact ⟨rfl, rfl, rfl, rfl⟩
  obtain ⟨hdescription, htotal, hdone, hstatus⟩ := hbegun
  obtain ⟨hmost, hshort⟩ := begun.records_of_updates phase.updates
  rw [hevery, hdone, Nat.zero_div, Nat.zero_add, Nat.zero_add] at hmost hshort
  refine ⟨?_, ?_, hmost, ?_⟩
  · rw [receiveAll_updates, hdone]
    exact Nat.zero_add _
  · intro earlier u
    have hlogs := logs_update (sink.receiveAll begun (earlier.map (·.event))) phase earlier u
    rw [every_receiveAll, hevery] at hlogs
    simp only [receiveAll_updates, hdone, hstatus, Nat.zero_add] at hlogs
    refine ⟨_, ?_, hlogs hdescription htotal trivial trivial⟩
    simp only [records, List.map_append, List.map_singleton, ProgressSink.recordsOf_concat, receiveAll_updates, hdone,
      hstatus, Nat.zero_add]
  · intro hadvances
    refine hshort ?_
    intro u hu n hn
    exact hadvances n (List.mem_filterMap.mpr ⟨u, hu, hn⟩)

/-- An advance over two multiples is recorded once. -/
example : sink.recordsOf (ofInterval 2) [.start "Adding requests" 8, .advance 1, .status "half", .advance 4] =
    [⟨.info, "Adding requests: 5/8 half"⟩] := by decide

end LogProgress

end BatchInference
