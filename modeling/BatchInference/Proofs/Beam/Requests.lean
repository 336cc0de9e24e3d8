import BatchInference.Beam.Lockstep
import BatchInference.Proofs.Batch.Prepare

/-!
The requests of one step of a beam search: one for each active beam, with the tokens of the beam, its adapter and
parameters that are the same for all beams and all steps.
-/

namespace BatchInference

/-- The sampling parameters of every request of a search, as they are submitted. -/
def BeamParams.samplingParams (params : BeamParams) : SamplingParams :=
  { params.stepParams with outputKind := .finalOnly }

/-- The request that continues a beam, before it has an id. -/
def beamRequest (params : BeamParams) (beam : BeamSequence) : PendingRequest where
  prompt := beam.toPrompt
  params := .sampling params.samplingParams
  adapters := ⟨beam.lora, none, none⟩

/-- An accepted search keeps and steps at least one, and twice its width is a number of alternatives that can be
asked for. -/
theorem BeamParams.bounds_of_verify {params : BeamParams} (h : params.verify = .ok ()) :
    1 ≤ params.beamWidth ∧ 2 * params.beamWidth ≤ maxCount ∧ 1 ≤ params.maxTokens := by
  obtain ⟨_, hwidth, h⟩ := bind_eq_ok.mp h
  obtain ⟨_, hcount, h⟩ := bind_eq_ok.mp h
  obtain ⟨_, hsteps, _⟩ := bind_eq_ok.mp h
  exact ⟨of_decide_eq_true (require_eq_ok.mp hwidth), of_decide_eq_true (require_eq_ok.mp hcount),
    of_decide_eq_true (require_eq_ok.mp hsteps)⟩

/-- The parameters of an accepted search make parameters of requests that are accepted. -/
theorem BeamParams.verify_samplingParams {params : BeamParams} (h : params.verify = .ok ()) :
    params.samplingParams.verify = .ok () := by
  obtain ⟨_, _, h⟩ := bind_eq_ok.mp h
  obtain ⟨_, _, h⟩ := bind_eq_ok.mp h
  obtain ⟨_, _, h⟩ := bind_eq_ok.mp h
  obtain ⟨_, htemperature, _⟩ := bind_eq_ok.mp h
  have hnonneg : params.samplingParams.temperature.isNonNegative = true := require_eq_ok.mp htemperature
  have htopP : (Binary32.zero.lt params.samplingParams.topP && params.samplingParams.topP.le .one) = true := by
    change (Binary32.zero.lt .one && Binary32.one.le .one) = true
    decide
  have hminP : (Binary32.zero.le params.samplingParams.minP && params.samplingParams.minP.le .one) = true := by
    change (Binary32.zero.le .zero && Binary32.zero.le .one) = true
    decide
  have hpenalty : (!params.samplingParams.repetitionPenalty.isNonPositive) = true := by
    change (!Binary32.one.isNonPositive) = true
    decide
  unfold SamplingParams.verify
  rw [hnonneg, htopP, hminP, hpenalty]
  rfl

/-- The batch of a step is one request for each beam, unless the parameters are refused. -/
theorem prepare_beamBatch {params : BeamParams} {beams : List BeamSequence} {model : ModelConfig}
    {pending : List PendingRequest} :
    (Service.beamBatch params beams).prepare model = .ok pending ↔
      params.samplingParams.verify = .ok () ∧ pending = beams.map (beamRequest params) := by
  have hfinalize : ∀ q, RequestParams.finalize none model (.sampling params.stepParams) = .ok q ↔
      params.samplingParams.verify = .ok () ∧ q = .sampling params.samplingParams := by
    intro q
    simp only [RequestParams.finalize, SamplingParams.finalize, bind_eq_ok, pure, Except.pure, Except.ok.injEq]
    constructor
    · rintro ⟨_, rfl, _, rfl, ⟨⟩, hverify, rfl⟩
      exact ⟨hverify, rfl⟩
    · rintro ⟨hverify, rfl⟩
      exact ⟨_, rfl, _, rfl, (), hverify, rfl⟩
  have hassemble := Batch.assemble_shared (b := Service.beamBatch params beams) beams (·.toPrompt)
    (.sampling params.samplingParams) (·.lora)
  rw [Batch.prepare_eq_ok]
  simp only [Service.beamBatch, List.length_map, Broadcast.checkLength, if_true, true_and, resolvePriorities,
    Except.ok.injEq, exists_eq_left', Broadcast.traverse, bind_eq_ok, hfinalize, pure, Except.pure,
    Broadcast.resolve]
  constructor
  · rintro ⟨_, ⟨_, ⟨hverify, rfl⟩, rfl⟩, _, ⟨⟩, rfl⟩
    exact ⟨hverify, hassemble⟩
  · rintro ⟨hverify, rfl⟩
    exact ⟨_, ⟨_, ⟨hverify, rfl⟩, rfl⟩, _, rfl, hassemble⟩

end BatchInference
