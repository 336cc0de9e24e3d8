import BatchInference.Proofs.Batch.Pointwise
import BatchInference.Proofs.Params.Ranges
import BatchInference.Proofs.Session.Asked

/-!
Guidance that is given once for a whole call. It goes into the parameters of every request of the call or into none:
what is offered to the engine carries it, with everything else as the caller gave it for the prompt, and parameters
that have guidance of their own, in whatever place, are found before the first request is offered.
-/

namespace BatchInference

variable {σ τ : Type}

/-- Parameters with the guidance of a call, as they are submitted. -/
def SamplingParams.guidedBy (g : GuidedDecoding) (p : SamplingParams) : SamplingParams :=
  { p with guidedDecoding := some g, outputKind := .finalOnly }

/-- Parameters without any guidance. -/
def SamplingParams.unguided (p : SamplingParams) : SamplingParams := { p with guidedDecoding := none }

/-- Guidance with one mode at most spoils no parameters. -/
theorem SamplingParams.verify_guidedBy {g : GuidedDecoding} (hg : g.AtMostOneMode) {p : SamplingParams}
    (h : p.unguided.verify = .ok ()) : (p.guidedBy g).verify = .ok () := by
  obtain ⟨hsettings, -⟩ := p.unguided.verify_eq_ok_iff.mp h
  refine (p.guidedBy g).verify_eq_ok_iff.mpr ⟨?_, ?_⟩
  · intro s
    have hsetting := hsettings s
    cases s <;> exact hsetting
  · rintro _ ⟨⟩
    exact hg

theorem GuidedOptions.resolve_eq_ok {o : GuidedOptions} {g : GuidedDecoding} :
    o.resolve = .ok g ↔ o.guidance.AtMostOneMode ∧ g = o.guidance := by
  rw [← GuidedDecoding.modeCount_le_one, resolve]
  split
  case isTrue h => simp [h]
  case isFalse h => simp [Nat.le_of_not_lt h, eq_comm]

theorem GuidedOptions.resolve_eq_error {o : GuidedOptions} (h : ¬o.guidance.AtMostOneMode) :
    o.resolve = .error (.conflictingConfig (.guidedOptions o)) := by
  rw [← GuidedDecoding.modeCount_le_one, Nat.not_le] at h
  rw [resolve, if_pos h]

namespace Service

/-- The parameters of a generate call, which are the defaults where it gives none. -/
def callParams (svc : Service σ) (remembered : Option SamplingParams) (options : GenerateOptions) :
    Broadcast SamplingParams :=
  options.params.getD (.one (svc.defaultsFrom remembered))

/-- A generate call for some prompts has nothing wrong with it, as far as guidance is left aside. -/
structure FineButGuidance (svc : Service σ) (remembered : Option SamplingParams) (prompts : List Prompt)
    (options : GenerateOptions) : Prop where
  runner : svc.requireGeneration = .ok ()
  truncation : ∃ truncation, svc.truncationOf (svc.callParams remembered options) = .ok truncation
  params : (svc.callParams remembered options).Fits prompts.length
  lora : options.lora.Fits prompts.length
  priority : ∀ values, options.priority = some values → values.length = prompts.length
  settings : ∀ p ∈ (svc.callParams remembered options).values, p.unguided.verify = .ok ()

variable {svc : Service σ} {d : Option SamplingParams} {input : PromptInput} {options : GenerateOptions}
  {g : GuidedOptions} {batch : Batch} {prompts : List Prompt}

/-- What the batch of a call with guidance is made of. -/
theorem generateBatch_guided (hg : options.guided = some g) (h : svc.generateBatch d input options = .ok batch) :
    g.guidance.AtMostOneMode ∧ input.normalize = .ok batch.prompts ∧ batch.guided = some g.guidance ∧
      batch.params = (svc.callParams d options).map .sampling ∧ batch.lora = options.lora ∧
      batch.priority = options.priority := by
  obtain ⟨_, _, h⟩ := bind_eq_ok.mp h
  obtain ⟨prompts, hprompts, h⟩ := bind_eq_ok.mp h
  obtain ⟨guided, hguided, h⟩ := bind_eq_ok.mp h
  obtain ⟨_, _, h⟩ := bind_eq_ok.mp h
  cases h
  rw [hg] at hguided
  obtain ⟨guidance, hresolve, hguided⟩ := bind_eq_ok.mp hguided
  cases hguided
  obtain ⟨hmodes, rfl⟩ := GuidedOptions.resolve_eq_ok.mp hresolve
  exact ⟨hmodes, hprompts, rfl, rfl, rfl, rfl⟩

/-- Options with more than one mode are found once the prompts are. -/
theorem generateBatch_of_modes (hg : options.guided = some g) (hrunner : svc.requireGeneration = .ok ())
    (hprompts : input.normalize = .ok prompts) (hmodes : ¬g.guidance.AtMostOneMode) :
    svc.generateBatch d input options = .error (.conflictingConfig (.guidedOptions g)) := by
  refine bind_eq_error.mpr (.inr ⟨(), hrunner, ?_⟩)
  refine bind_eq_error.mpr (.inr ⟨prompts, hprompts, ?_⟩)
  refine bind_eq_error.mpr (.inl ?_)
  rw [hg]
  exact bind_eq_error.mpr (.inl (GuidedOptions.resolve_eq_error hmodes))

theorem exists_generateBatch (hg : options.guided = some g) (hprompts : input.normalize = .ok prompts)
    (hfine : svc.FineButGuidance d prompts options) (hmodes : g.guidance.AtMostOneMode) :
    ∃ batch, svc.generateBatch d input options = .ok batch := by
  obtain ⟨truncation, htruncation⟩ := hfine.truncation
  have hguidance : guidance options.guided = .ok (some g.guidance) := by
    rw [hg]
    exact bind_eq_ok.mpr ⟨_, GuidedOptions.resolve_eq_ok.mpr ⟨hmodes, rfl⟩, rfl⟩
  exact ⟨_, bind_eq_ok.mpr ⟨(), hfine.runner, bind_eq_ok.mpr ⟨prompts, hprompts,
    bind_eq_ok.mpr ⟨_, hguidance, bind_eq_ok.mpr ⟨truncation, htruncation, rfl⟩⟩⟩⟩⟩

end Service

namespace Batch

variable {b : Batch} {model : ModelConfig} {params : Broadcast SamplingParams} {g : GuidedDecoding}
  {pending : List PendingRequest}

/-- In a batch with guidance that passes, no parameters have guidance of their own. -/
theorem unguided_of_prepare (h : b.prepare model = .ok pending) (hparams : b.params = params.map .sampling)
    (hguided : b.guided = some g) : ∀ p ∈ params.values, p.guidedDecoding = none := by
  intro p hp
  have hmem : RequestParams.sampling p ∈ b.params.values := by
    rw [hparams]
    exact Broadcast.mem_values_map.mpr ⟨p, hp, rfl⟩
  obtain ⟨htwice, -⟩ := (passed_of_prepare h).2 _ hmem
  simpa [RequestParams.GuidedTwice, hguided] using htwice

/-- The requests of a batch with guidance carry it, each beside what was given for its prompt. -/
theorem guided_of_prepare (h : b.prepare model = .ok pending) (hparams : b.params = params.map .sampling)
    (hguided : b.guided = some g) {i : Nat} {r : PendingRequest} (hr : pending[i]? = some r) :
    b.prompts[i]? = some r.prompt ∧ ∃ p, params.valueAt i = some p ∧ r.params = .sampling (p.guidedBy g) := by
  have hrequest := requestAt_of_prepare h hr
  simp only [requestAt, hparams, Broadcast.valueAt_map, Option.bind_eq_bind, Option.bind_eq_some_iff,
    Option.map_eq_some_iff, hguided] at hrequest
  obtain ⟨prompt, hprompt, _, ⟨p, hp, rfl⟩, lora, _, priority, _, hmade⟩ := hrequest
  cases hmade
  exact ⟨hprompt, p, hp, rfl⟩

/-- A batch with guidance of which some parameters have their own is refused for this, if nothing else is wrong with
it: the first such parameters are reached, because those before them pass with the guidance of the call. -/
theorem prepare_guidedTwice (hfits : b.Fits) (hparams : b.params = params.map .sampling) (hguided : b.guided = some g)
    (hmodes : g.AtMostOneMode) (hsettings : ∀ p ∈ params.values, p.unguided.verify = .ok ())
    (hown : ∃ p ∈ params.values, p.guidedDecoding.isSome) :
    b.prepare model = .error (.conflictingConfig .guidedTwice) := by
  have hfirst : ∃ i : Nat, ∃ p, params.values[i]? = some p ∧ p.guidedDecoding.isSome := by
    obtain ⟨p, hp, hguided⟩ := hown
    obtain ⟨i, hi⟩ := List.getElem?_of_mem hp
    exact ⟨i, p, hi, hguided⟩
  classical
  obtain ⟨p, hp, hpguided⟩ := Nat.find_spec hfirst
  have hvalues : b.params.values = params.values.map .sampling := by
    rw [hparams, Broadcast.values_map]
  refine FirstFault.prepare_eq_error (.finalization (i := Nat.find hfirst) (p := .sampling p) hfits ?_ ?_ ?_)
  · rw [hvalues, List.getElem?_map, hp]
    rfl
  · exact .guidedTwice ⟨by simp [hguided], hpguided⟩
  · intro j hj q hq
    rw [hvalues, List.getElem?_map] at hq
    obtain ⟨s, hs, rfl⟩ := Option.map_eq_some_iff.mp hq
    have hnone : ¬s.guidedDecoding.isSome := fun hsome => Nat.find_min hfirst hj ⟨s, hs, hsome⟩
    refine ⟨fun htwice => hnone htwice.2, ?_⟩
    rw [hguided]
    exact SamplingParams.verify_guidedBy hmodes (hsettings s (List.mem_of_getElem? hs))

end Batch

namespace Service

variable {svc : Service σ} {options : GenerateOptions} {g : GuidedOptions} {batch : Batch} {w : World σ τ}
  {core : Core σ} {ticks : Nat}

/-- The batch of such a call has as many of everything as there are prompts. -/
theorem FineButGuidance.fits {remembered : Option SamplingParams}
    (hfine : svc.FineButGuidance remembered batch.prompts options)
    (hparams : batch.params = (svc.callParams remembered options).map .sampling) (hlora : batch.lora = options.lora)
    (hpriority : batch.priority = options.priority) : batch.Fits := by
  refine ⟨?_, ?_, ?_⟩
  · rw [hparams]
    exact hfine.params.map _
  · rw [hlora]
    exact hfine.lora
  · rw [hpriority]
    exact hfine.priority

/-- What a batch with guidance offers carries it, each request beside what was given for its prompt; and if it offers
anything, no parameters have guidance of their own. -/
theorem batchUses_guided {params : Broadcast SamplingParams} {g : GuidedDecoding}
    (hparams : batch.params = params.map .sampling) (hguided : batch.guided = some g)
    (hasked : EngineUse.requests (svc.batchUses ticks batch core) ≠ []) :
    (∀ p ∈ params.values, p.guidedDecoding = none) ∧
      ∀ (i : Nat) (r : Request), (EngineUse.requests (svc.batchUses ticks batch core))[i]? = some r →
        batch.prompts[i]? = some r.prompt ∧ ∃ p, params.valueAt i = some p ∧ r.params = .sampling (p.guidedBy g) := by
  cases hprepare : batch.prepare svc.model with
  | error e =>
    rw [batchUses_of_prepare_error hprepare] at hasked
    exact absurd rfl hasked
  | ok pending =>
    refine ⟨Batch.unguided_of_prepare hprepare hparams hguided, ?_⟩
    intro i r hr
    have hpending : pending[i]? = some r.toPendingRequest := by
      rw [← core.counter.toPendingRequest_number pending, List.getElem?_map, offered_in_place hprepare hr]
      rfl
    exact Batch.guided_of_prepare hprepare hparams hguided hpending

/-- If a generate call with guidance offers anything to its engine, then the guidance has one mode at most, no
parameters of the call have guidance of their own, the defaults in their place included, and each request carries the
guidance as it was given, with everything else, apart from when it reports, as it was given for its prompt. If the
guidance has more modes than one, or if it meets guidance of its own in parameters in any place and nothing else is
wrong with the call, then the call is refused for this. -/
theorem guidance_for_all_or_none (svc : Service σ) (ticks : Nat) (sink : Option (ProgressSink τ)) (input : PromptInput)
    (w : World σ τ) (hg : options.guided = some g) :
    ∃ asked result after, svc.CallAsks ticks sink (.generate input options) w asked result after ∧
      (EngineUse.requests asked ≠ [] →
        g.guidance.AtMostOneMode ∧ (∀ p ∈ (svc.callParams w.defaults options).values, p.guidedDecoding = none) ∧
          ∃ prompts, input.normalize = .ok prompts ∧
            ∀ (i : Nat) (r : Request), (EngineUse.requests asked)[i]? = some r →
              prompts[i]? = some r.prompt ∧ ∃ p, (svc.callParams w.defaults options).valueAt i = some p ∧
                r.params = .sampling (p.guidedBy g.guidance)) ∧
      ∀ prompts, input.normalize = .ok prompts →
        (svc.requireGeneration = .ok () → ¬g.guidance.AtMostOneMode →
          result = .error (.failed (.conflictingConfig (.guidedOptions g)))) ∧
        (g.guidance.AtMostOneMode → svc.FineButGuidance w.defaults prompts options →
          (∃ p ∈ (svc.callParams w.defaults options).values, p.guidedDecoding.isSome) →
          result = .error (.failed (.conflictingConfig .guidedTwice))) := by
  cases hbatch : svc.generateBatch w.defaults input options with
  | error e =>
    refine ⟨_, _, _, batchCall_asks_nothing (c := .generate input options) hbatch, fun h => absurd rfl h, ?_⟩
    intro prompts hprompts
    constructor
    · intro hrunner hmodes
      rw [generateBatch_of_modes hg hrunner hprompts hmodes] at hbatch
      cases hbatch
      rfl
    · intro hmodes hfine _
      obtain ⟨batch, hbatch'⟩ := exists_generateBatch hg hprompts hfine hmodes
      rw [hbatch'] at hbatch
      cases hbatch
  | ok batch =>
    obtain ⟨hmodes, hnormalized, hguided, hparams, hlora, hpriority⟩ := generateBatch_guided hg hbatch
    refine ⟨_, _, _, batchCall_asks_batch (c := .generate input options) hbatch rfl, ?_, ?_⟩
    · intro hasked
      obtain ⟨hown, hrequests⟩ := batchUses_guided hparams hguided hasked
      exact ⟨hmodes, hown, batch.prompts, hnormalized, hrequests⟩
    · intro prompts hprompts
      rw [hnormalized] at hprompts
      cases hprompts
      refine ⟨fun _ hmany => absurd hmodes hmany, ?_⟩
      intro _ hfine hown
      have hprepare : batch.prepare svc.model = .error (.conflictingConfig .guidedTwice) :=
        Batch.prepare_guidedTwice (hfine.fits hparams hlora hpriority) hparams hguided hmodes hfine.settings hown
      rw [batchEnd_of_prepare_error hprepare]
      rfl

/-- A service whose engine takes every request. -/
def takingService : Service Scripted.State where
  engine := ({ answers := { offsets := [] }, alphabet := {} } : Scripted.Plan).engine
  tokenizer := Scripted.Alphabet.tokenizer {}
  logger := none

def twoTexts : PromptInput := .batch [.ofText "a", .ofText "b"]

/-- Guidance for two prompts, each of which has parameters. -/
def guidedPair (first second : SamplingParams) : GenerateOptions :=
  { params := some (.each [first, second]), guided := some ⟨{ regex := some "a" }⟩ }

def untouchedWorld : World Scripted.State Unit where
  engine := {}
  counter := ⟨0⟩
  sink := ()

/-- Guidance with no mode in it, in the parameters for the last prompt, keeps the first prompt from being offered; and
without it the last prompt is offered with the guidance of the call. -/
theorem guidedPair_all_or_none :
    (∃ asked after, takingService.CallAsks 1 (none : Option (ProgressSink Unit))
      (.generate twoTexts (guidedPair {} { guidedDecoding := some {} })) untouchedWorld asked
      (.error (.failed (.conflictingConfig .guidedTwice))) after ∧ EngineUse.requests asked = []) ∧
    ∃ asked result after r, takingService.CallAsks 1 (none : Option (ProgressSink Unit))
      (.generate twoTexts (guidedPair {} { n := 2 })) untouchedWorld asked result after ∧
      (EngineUse.requests asked)[1]? = some r ∧
      r.params = .sampling { n := 2, guidedDecoding := some { regex := some "a" }, outputKind := .finalOnly } := by
  constructor
  · have hg : (guidedPair {} { guidedDecoding := some {} }).guided = some ⟨{ regex := some "a" }⟩ := rfl
    obtain ⟨asked, result, after, hasks, hoffered, hrefused⟩ := takingService.guidance_for_all_or_none 1
      (none : Option (ProgressSink Unit)) twoTexts untouchedWorld hg
    have hmodes : ({ regex := some "a" } : GuidedDecoding).AtMostOneMode :=
      (GuidedDecoding.modeCount_le_one _).mp (by decide)
    have hfine : takingService.FineButGuidance none [.ofText "a", .ofText "b"]
        (guidedPair {} { guidedDecoding := some {} }) := by
      refine ⟨rfl, ⟨none, rfl⟩, rfl, trivial, nofun, ?_⟩
      rintro p (_ | ⟨_, _ | ⟨_, ⟨⟩⟩⟩) <;> rfl
    have hown : { guidedDecoding := some {} } ∈
        (takingService.callParams none (guidedPair {} { guidedDecoding := some {} })).values :=
      .tail _ (.head _)
    obtain rfl := (hrefused _ rfl).2 hmodes hfine ⟨_, hown, rfl⟩
    refine ⟨asked, after, hasks, ?_⟩
    by_contra hasked
    cases (hoffered hasked).2.1 _ hown
  · have hg : (guidedPair {} { n := 2 }).guided = some ⟨{ regex := some "a" }⟩ := rfl
    obtain ⟨asked, result, after, hasks, hoffered, -⟩ := takingService.guidance_for_all_or_none 1
      (none : Option (ProgressSink Unit)) twoTexts untouchedWorld hg
    have hcomputed : takingService.CallAsks 1 (none : Option (ProgressSink Unit))
        (.generate twoTexts (guidedPair {} { n := 2 })) untouchedWorld _ _ _ :=
      batchCall_asks_batch (c := .generate twoTexts (guidedPair {} { n := 2 })) rfl rfl
    obtain ⟨-, -, hasked⟩ := hasks.unique (hcomputed.recorded [])
    have hrequests : ∃ first second, EngineUse.requests asked = [first, second] := by
      rw [← hasked]
      exact ⟨_, _, rfl⟩
    obtain ⟨first, second, hrequests⟩ := hrequests
    obtain ⟨-, -, _, -, hguided⟩ := hoffered (by rw [hrequests]; simp)
    obtain ⟨-, p, hp, hparams⟩ := hguided 1 second (by rw [hrequests]; rfl)
    cases hp
    exact ⟨asked, result, after, second, hasks, by rw [hrequests]; rfl, hparams⟩

end Service

end BatchInference
