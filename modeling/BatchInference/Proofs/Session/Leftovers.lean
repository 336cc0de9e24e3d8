import BatchInference.Proofs.Batch.Answers
import BatchInference.Proofs.Scripted.Contract
import BatchInference.Proofs.Session.History

/-!
What becomes of requests that a failed call leaves with the engine. A call works the engine until it is idle, so
it collects the results of everything the engine holds. Its outputs are those of its own requests exactly if the
engine was idle when it began, which only a call that ended with an error of the engine can have changed.
-/

namespace BatchInference

variable {σ τ : Type}

namespace BatchCall

variable {c : BatchCall} {svc : Service σ} {w : World σ τ} {s : σ} {n : IdCounter} {d : Option SamplingParams}
  {after : Core σ} {ticks : Nat} {sink : Option (ProgressSink τ)} {answer : Answer}

/-- A call that answers had its requests accepted, and shows everything that was reported finished. -/
theorem exists_of_answer (hw : w.core = ⟨s, n, d⟩) (h : (svc.call ticks sink c.call).Ends w (.ok answer) after) :
    ∃ pending work, c.validate svc d = .ok pending ∧ (svc.engine.offerAll (n.number pending) s).refusal = none ∧
      svc.engine.work ticks (svc.engine.offerAll (n.number pending) s).engine = work ∧ work.halt = none ∧
      answer.Shows (Update.sorted work.finished) := by
  cases hbatch : c.batch svc d with
  | error err =>
    cases (h.unique (call_invalid ticks sink hbatch hw)).1
  | ok batch =>
    have hresult := (h.unique (call_ends ticks sink hbatch hw rfl)).1
    obtain ⟨us, hus, hanswer⟩ := resultOf_eq_ok.mp hresult.symm
    obtain ⟨pending, work, hprepare, haccepted, hwork, hhalt, rfl, _⟩ :=
      Service.exists_of_batchEnd (Prod.ext hus rfl)
    exact ⟨pending, work, bind_eq_ok.mpr ⟨batch, hbatch, hprepare⟩, haccepted, hwork, hhalt, shows_of_answer hanswer⟩

variable {owes : σ → List Request → Prop} {leftover : List Request}

/-- The outputs of a call are those of its own requests and of whatever the engine still owed. -/
theorem ids_of_answer (hkeeps : svc.engine.Keeps Update.IsOn owes) (howes : owes s leftover)
    (hw : w.core = ⟨s, n, d⟩) (h : (svc.call ticks sink c.call).Ends w (.ok answer) after) :
    ∃ pending outputs, c.validate svc d = .ok pending ∧ answer.Shows outputs ∧
      (outputs.map (·.id)).Perm (leftover.map (·.id) ++ n.ids pending.length) := by
  obtain ⟨pending, work, hvalid, haccepted, rfl, hhalt, hshown⟩ := exists_of_answer hw h
  refine ⟨pending, _, hvalid, hshown, ?_⟩
  obtain ⟨done, hdone, hanswers, _⟩ := hkeeps.work_done (hkeeps.offerAll_accepted howes haccepted) hhalt
  apply ((Update.sorted_perm _).map _).trans
  rw [Update.ids_of_answers (fun _ _ hr => hr) hanswers, ← n.ids_number, ← List.map_append]
  exact hdone.map _

end BatchCall

namespace Session

variable {owes : σ → List Request → Prop} {start session after : Session σ} {ends : List CallEnd} {index : Nat}
  {first station : Station σ} {c : BatchCall} {ticks : Nat} {sink : Option (ProgressSink τ)} {shown : τ}
  {v : Visit τ Answer} {answer : Answer}

/-- After any history on an engine that keeps what it accepts, the outputs of a call are those of its own requests,
one for each prompt, exactly if the engine is idle when the call begins; and it is idle unless an earlier call at
its station ended with an error of the engine. -/
theorem outputs_own_iff_idle (hfirst : start.stations[index]? = some first)
    (hkeeps : first.service.engine.Keeps Update.IsOn owes) (hidle : owes first.engine [])
    (hhistory : History start ends session) (hstation : session.stations[index]? = some station)
    (hvisit : session.visit index shown (fun svc => svc.call ticks sink c.call) = some (v, after))
    (hanswer : v.result = .ok answer) :
    ∃ prompts outputs, c.input.normalize = .ok prompts ∧ answer.Shows outputs ∧
      ((outputs.length = prompts.length ∧ ∀ u ∈ outputs, u.id ∈ session.counter.ids prompts.length) ↔
        station.service.engine.hasUnfinished station.engine = false) ∧
      (station.service.engine.hasUnfinished station.engine = true →
        ∃ reason, ⟨index, some (.engine (.reported reason))⟩ ∈ ends) := by
  obtain ⟨there, hthere, hservice, leftover, howes⟩ := hhistory.holds_at hfirst ⟨[], hidle⟩
    (fun ticks sink call => Service.call_preserves_owing hkeeps ticks sink call) fun _ _ _ _ _ => trivial
  cases hthere.symm.trans hstation
  obtain ⟨visited, core, hvisited, hact, _⟩ := exists_of_visit hvisit
  cases hvisited.symm.trans hstation
  rw [← hservice] at hkeeps
  rw [hanswer] at hact
  obtain ⟨pending, outputs, hvalid, hshown, hids⟩ :=
    BatchCall.ids_of_answer hkeeps howes (station.core_world session.counter shown) hact
  have hlength := hids.length_eq
  simp only [List.length_map, List.length_append, IdCounter.length_ids] at hlength
  refine ⟨pending.map (·.prompt), outputs, BatchCall.prompts_of_validate hvalid, hshown, ?_, ?_⟩
  · rw [List.length_map, hkeeps.idle_iff howes]
    constructor
    · rintro ⟨hcount, _⟩
      apply List.eq_nil_of_length_eq_zero
      omega
    · rintro rfl
      constructor
      · simpa using hlength
      · intro u hu
        exact hids.mem_iff.mp (List.mem_map_of_mem hu)
  · intro hbusy
    by_contra hnone
    -- without an error of the engine, every call at the station left the engine idle
    obtain ⟨there', hthere', _, hstill⟩ := hhistory.holds_at hfirst hidle
      (fun ticks sink call => Service.call_preserves_idle (hservice ▸ hkeeps) ticks sink call) (by
        rintro ⟨_, error⟩ he rfl err rfl reason rfl
        exact hnone ⟨reason, he⟩)
    cases hthere'.symm.trans hstation
    rw [(hkeeps.idle_iff hstill).mpr rfl] at hbusy
    cases hbusy

/-- A station whose engine refuses the second request it is offered. -/
def refusingStation : Station Scripted.State where
  service := ⟨({ answers := { offsets := [] }, alphabet := {}, refused := [1] } : Scripted.Plan).engine,
    Scripted.Alphabet.tokenizer {}, none⟩
  engine := {}

/-- The request for a text with the parameters that calls assume. -/
def textRequest (text : String) (id : UInt64) : Request where
  prompt := .ofText text
  params := .sampling { outputKind := .finalOnly }
  id := ⟨id⟩

/-- The station after a call with two prompts: the first request stays with the engine. -/
def stationLeft : Station Scripted.State :=
  { refusingStation with
    engine := { offers := 2, accepted := [textRequest "a" 0], jobs := [⟨textRequest "a" 0, 1⟩] } }

theorem refusingStation_keeps : refusingStation.service.engine.Keeps Update.IsOn Scripted.Plan.Owes :=
  Scripted.Plan.Faithful.keeps ⟨rfl, rfl, rfl⟩ fun r => Scripted.Answers.id_update _ _ r _ _

theorem refusingStation_idle : Scripted.Plan.Owes refusingStation.engine [] := ⟨.refl _, fun _ h => nomatch h⟩

theorem history_to_stationLeft : History ⟨⟨0⟩, [refusingStation]⟩
    [⟨0, some (.engine (.reported "rejected request 1"))⟩] ⟨⟨2⟩, [stationLeft]⟩ :=
  .call .start 0 1 (none : Option (ProgressSink Unit)) ()
    (.generate (.batch [.ofText "a", .ofText "b"]) { params := some (.one {}) }) rfl (.failed rfl)

def onePrompt : BatchCall := .generate (.single (.ofText "c")) { params := some (.one {}) }

/-- The next call returns the result of the request that was left behind beside its own. -/
theorem visit_stationLeft : ∃ (v : Visit Unit Answer) (after : Session Scripted.State) (g₀ g₂ : Generation),
    (⟨⟨2⟩, [stationLeft]⟩ : Session Scripted.State).visit 0 () (fun svc => svc.call 1 none onePrompt.call) =
      some (v, after) ∧
    v.result = .ok (.generations [g₀, g₂]) ∧ g₀.id = ⟨0⟩ ∧ g₂.id = ⟨2⟩ := by
  obtain ⟨batch, hbatch, hprepare⟩ : ∃ batch,
      onePrompt.batch stationLeft.service stationLeft.defaults = .ok batch ∧
      batch.prepare stationLeft.service.model = .ok [(textRequest "c" 2).toPendingRequest] := ⟨_, rfl, rfl⟩
  obtain ⟨work, g₀, g₂, hwork, hhalt, hfinished, h₀, h₂⟩ : ∃ (work : Work Scripted.State) (g₀ g₂ : Generation),
      stationLeft.service.engine.work 1 (stationLeft.service.engine.offerAll
        (IdCounter.number ⟨2⟩ [(textRequest "c" 2).toPendingRequest]) stationLeft.engine).engine = work ∧
      work.halt = none ∧ work.finished = [.generation g₂, .generation g₀] ∧ g₀.id = ⟨0⟩ ∧ g₂.id = ⟨2⟩ :=
    ⟨_, _, _, rfl, rfl, rfl, rfl, rfl⟩
  have hsorted : Update.sorted [.generation g₂, .generation g₀] = [.generation g₀, .generation g₂] := by
    simp [Update.sorted, List.mergeSort, List.MergeSort.Internal.splitInTwo, Update.id, RequestId.le, h₀, h₂]
  have hends := onePrompt.call_ends 1 none hbatch (stationLeft.core_world ⟨2⟩ ()) rfl
  rw [Service.batchEnd_accepted hprepare rfl hwork] at hends
  simp only [Work.result, hhalt, hfinished, hsorted] at hends
  obtain ⟨v, hvisit, hv⟩ : ∃ v, (⟨⟨2⟩, [stationLeft]⟩ : Session Scripted.State).visit 0 ()
      (fun svc => svc.call 1 none onePrompt.call) = some (v, _) ∧ v.result = _ := visit_of_ends rfl hends
  exact ⟨v, _, g₀, g₂, hvisit, hv, h₀, h₂⟩

/-- A call for one prompt that answers two outputs, the first under an id of the call before it. -/
theorem leftover_shown_to_later_call :
    refusingStation.service.engine.Keeps Update.IsOn Scripted.Plan.Owes ∧
    Scripted.Plan.Owes refusingStation.engine [] ∧
    ∃ session, History ⟨⟨0⟩, [refusingStation]⟩ [⟨0, some (.engine (.reported "rejected request 1"))⟩] session ∧
    ∃ v after g₀ g₂, session.visit 0 () (fun svc => svc.call 1 none onePrompt.call) = some (v, after) ∧
      v.result = .ok (.generations [g₀, g₂]) ∧ onePrompt.input.normalize = .ok [.ofText "c"] ∧
      g₀.id ∉ session.counter.ids 1 := by
  obtain ⟨v, after, g₀, g₂, hvisit, hv, h₀, _⟩ := visit_stationLeft
  refine ⟨refusingStation_keeps, refusingStation_idle, _, history_to_stationLeft, v, after, g₀, g₂,
    hvisit, hv, rfl, ?_⟩
  rw [h₀]
  decide

/-- The call of which the outputs are not its own found the engine with something left to do. -/
theorem stationLeft_outputs_not_own :
    ∃ (v : Visit Unit Answer) (after : Session Scripted.State) (answer : Answer),
      (⟨⟨2⟩, [stationLeft]⟩ : Session Scripted.State).visit 0 () (fun svc => svc.call 1 none onePrompt.call) =
        some (v, after) ∧ v.result = .ok answer ∧
      ∃ prompts outputs, onePrompt.input.normalize = .ok prompts ∧ answer.Shows outputs ∧
        ((outputs.length = prompts.length ∧ ∀ u ∈ outputs, u.id ∈ IdCounter.ids ⟨2⟩ prompts.length) ↔
          stationLeft.service.engine.hasUnfinished stationLeft.engine = false) ∧
        (stationLeft.service.engine.hasUnfinished stationLeft.engine = true → ∃ reason,
          (⟨0, some (.engine (.reported reason))⟩ : CallEnd) ∈
            [⟨0, some (.engine (.reported "rejected request 1"))⟩]) := by
  have hfirst : (⟨⟨0⟩, [refusingStation]⟩ : Session Scripted.State).stations[0]? = some refusingStation := rfl
  have hstation : (⟨⟨2⟩, [stationLeft]⟩ : Session Scripted.State).stations[0]? = some stationLeft := rfl
  obtain ⟨v, after, g₀, g₂, hvisit, hv, _⟩ := visit_stationLeft
  have hown := outputs_own_iff_idle hfirst refusingStation_keeps refusingStation_idle history_to_stationLeft
    hstation hvisit hv
  exact ⟨v, after, _, hvisit, hv, hown⟩

end Session

end BatchInference
