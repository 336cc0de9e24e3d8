import BatchInference.Proofs.Session.Preserves

/-!
Histories of calls. A history is any number of calls at any stations of a session, in any order and each with any
arguments, display and tick limit; it records of every call how it ended. What every call at one station
preserves holds of the station after every history.
-/

namespace BatchInference

variable {σ τ α : Type}

/-- How a call ended, as its caller sees it: where, and with which error if with one. -/
structure CallEnd where
  station : Nat
  error : Option CallError

/-- The activity of a visit came to an end: with an answer, or with an error. -/
inductive Visit.Ended (v : Visit τ α) : Option CallError → Prop
  | answered {a : α} (h : v.result = .ok a) : v.Ended none
  | failed {e : CallError} (h : v.result = .error (.failed e)) : v.Ended (some e)

namespace Station

/-- The world a visit to the station starts in. -/
def world (station : Station σ) (counter : IdCounter) (shown : τ) : World σ τ :=
  { engine := station.engine, counter, sink := shown, defaults := station.defaults }

theorem core_world (station : Station σ) (counter : IdCounter) (shown : τ) :
    (station.world counter shown).core = ⟨station.engine, counter, station.defaults⟩ := rfl

def left (station : Station σ) (core : Core σ) : Station σ :=
  { station with engine := core.engine, defaults := core.defaults }

end Station

namespace Session

def left (s : Session σ) (index : Nat) (station : Station σ) (core : Core σ) : Session σ :=
  ⟨core.counter, s.stations.set index (station.left core)⟩

/-- The sessions that calls can make of another one, with the ends of the calls. A call that never ends is not
followed by others, so that it is in no history. -/
inductive History (start : Session σ) : List CallEnd → Session σ → Prop
  | start : History start [] start
  | call {τ : Type} {ends : List CallEnd} {s s' : Session σ} {v : Visit τ Answer} {error : Option CallError}
      (earlier : History start ends s) (index ticks : Nat) (sink : Option (ProgressSink τ)) (shown : τ)
      (call : Call) (visit : s.visit index shown (fun svc => svc.call ticks sink call) = some (v, s'))
      (ended : v.Ended error) : History start (ends ++ [⟨index, error⟩]) s'

variable {s s' : Session σ} {index : Nat} {station : Station σ} {shown : τ} {act : Service σ → Run σ τ α}
  {v : Visit τ α}

/-- A visit runs its activity in the world of the station, and leaves what the activity leaves. -/
theorem exists_of_visit (h : s.visit index shown act = some (v, s')) :
    ∃ station after, s.stations[index]? = some station ∧
      (act station.service).Ends (station.world s.counter shown) v.result after ∧
      s' = s.left index station after := by
  unfold visit at h
  cases hstation : s.stations[index]? with
  | none => simp [hstation] at h
  | some station =>
    simp only [hstation, Option.bind_eq_bind, Option.bind_some, Option.pure_def, Option.some.injEq,
      Prod.mk.injEq] at h
    obtain ⟨rfl, rfl⟩ := h
    exact ⟨station, _, rfl, Run.ends_outcome _ _, rfl⟩

theorem visit_of_ends (hstation : s.stations[index]? = some station) {result : Except Halt α} {after : Core σ}
    (h : (act station.service).Ends (station.world s.counter shown) result after) :
    ∃ v, s.visit index shown act = some (v, s.left index station after) ∧ v.result = result := by
  obtain ⟨w', hw', rfl⟩ := h
  refine ⟨⟨result, w'.sink, w'.log⟩, ?_, rfl⟩
  unfold Station.world at hw'
  simp only [visit, hstation, Option.bind_eq_bind, Option.bind_some, hw']
  rfl

@[simp]
theorem stations_left_self (hstation : s.stations[index]? = some station) (after : Core σ) :
    (s.left index station after).stations[index]? = some (station.left after) := by
  have hlt := (List.getElem?_eq_some_iff.mp hstation).1
  simp [left, hlt]

theorem stations_left_other {other : Nat} (h : index ≠ other) (after : Core σ) :
    (s.left index station after).stations[other]? = s.stations[other]? := by
  simp [left, h]

variable {start : Session σ} {ends : List CallEnd} {first : Station σ} {I : σ → Prop}
  {allowed : CallError → Prop}

/-- What every call at a station preserves holds of it after every history whose calls there ended as allowed,
whatever happened at other stations. -/
theorem History.holds_at (h : History start ends s) (hfirst : start.stations[index]? = some first)
    (hengine : I first.engine)
    (hcalls : ∀ {τ : Type} (ticks : Nat) (sink : Option (ProgressSink τ)) (call : Call),
      (first.service.call ticks sink call).Preserves I allowed)
    (hends : ∀ e ∈ ends, e.station = index → ∀ err, e.error = some err → allowed err) :
    ∃ station, s.stations[index]? = some station ∧ station.service = first.service ∧ I station.engine := by
  induction h with
  | start => exact ⟨first, hfirst, rfl, hengine⟩
  | @call τ ends s s' v error _ visited ticks sink shown call hvisit hended ih =>
    obtain ⟨station, hstation, hservice, hI⟩ := ih fun e he => hends e (List.mem_append_left _ he)
    obtain ⟨there, after, hthere, hact, rfl⟩ := exists_of_visit hvisit
    by_cases hsame : visited = index
    · subst hsame
      cases hthere.symm.trans hstation
      refine ⟨station.left after, stations_left_self hstation after, hservice, ?_⟩
      obtain ⟨w', hw', rfl⟩ := hact
      have hkept := hcalls ticks sink call (station.world s.counter shown) hI
      rw [← hservice, hw'] at hkept
      apply hkept
      have hlast := hends ⟨visited, error⟩ (List.mem_append_right _ (List.mem_singleton_self _)) rfl
      cases hended with
      | answered hresult =>
        rw [hresult]
        trivial
      | failed hresult =>
        rw [hresult]
        exact hlast _ rfl
    · exact ⟨station, (stations_left_other hsame after).trans hstation, hservice, hI⟩

end Session

end BatchInference
