import BatchInference.Proofs.Batch.Recording
import BatchInference.Proofs.Score.Ends
import BatchInference.Proofs.Session.Refusals
import BatchInference.Scripted.Engine

/-!
Refusals of score calls. Like any other call a score call is refused by its checks, before anything is done, with
one exception: whether a query and a document can be compared is only found out when the engine has pooled both.
A call that is refused for the sizes of its vectors has drawn an id for every text and has worked the engine until
it was idle.
-/

namespace BatchInference

open Run

variable {σ τ : Type} {svc : Service σ} {input left right : PromptInput} {e : CallError}

/-! What each check of a score call can find. None of them looks at a vector. -/

section Causes

theorem PromptInput.normalize_eq_error (h : input.normalize = .error e) :
    e = .invalidInput .noPrompts ∨ e = .invalidInput .splitLengths := by
  unfold normalize at h
  split at h
  case h_3 =>
    cases h
    exact .inl rfl
  case h_4 =>
    split at h <;> cases h
    exact .inr rfl
  all_goals cases h

theorem Truncation.resolve_eq_error {window : Nat} {requested : Option Int}
    (h : Truncation.resolve window requested = .error e) : ∃ k, e = .invalidInput (.truncation k window) := by
  cases requested with
  | none => cases h
  | some k =>
    simp only [resolve] at h
    split at h <;> split at h <;> cases h
    all_goals exact ⟨k, rfl⟩

theorem Service.requirePooling_eq_error {operation : String} (h : svc.requirePooling operation = .error e) :
    ∃ cause, e = .unsupported cause := by
  unfold requirePooling at h
  split at h <;> cases h
  exact ⟨_, rfl⟩

theorem Service.requireScoring_eq_error (h : svc.requireScoring = .error e) : ∃ cause, e = .unsupported cause := by
  unfold requireScoring at h
  split at h
  · cases h
  · obtain ⟨_, rfl⟩ := require_eq_error.mp h
    exact ⟨_, rfl⟩
  · cases h
    exact ⟨_, rfl⟩

theorem Score.textOf_eq_error {tokenizer : Tokenizer} {p : Prompt} (h : textOf tokenizer p = .error e) :
    e = .invalidInput .scorePayload ∨ e = .invalidInput .scoreEmbeds := by
  unfold textOf at h
  split at h
  · cases h
    exact .inl rfl
  · split at h <;> cases h
    exact .inr rfl

theorem Score.checkSides_eq_error {lefts rights : Nat} (h : checkSides lefts rights = .error e) :
    e = .invalidInput .scoreShape ∨ e = .invalidInput .noQueries ∨ e = .invalidInput .noDocuments := by
  rcases bind_eq_error.mp h with hshape | ⟨_, _, h⟩
  · exact .inl (require_eq_error.mp hshape).2.symm
  rcases bind_eq_error.mp h with hqueries | ⟨_, _, hdocuments⟩
  · exact .inr (.inl (require_eq_error.mp hqueries).2.symm)
  · exact .inr (.inr (require_eq_error.mp hdocuments).2.symm)

/-- The sides go together if there is one text on the left, or as many as on the right, and neither is empty. -/
theorem Score.checkSides_eq_ok {lefts rights : Nat} :
    checkSides lefts rights = .ok () ↔ 0 < lefts ∧ 0 < rights ∧ (lefts = 1 ∨ lefts = rights) := by
  simp only [checkSides, bind_eq_ok, require_eq_ok, exists_const]
  simp only [Bool.not_eq_true', Bool.and_eq_false_iff, decide_eq_false_iff_not, bne_eq_false_iff_eq, bne_iff_ne]
  omega

theorem Score.sides_nonempty {lefts rights : Nat} (h : checkSides lefts rights = .ok ()) :
    0 < lefts ∧ 0 < rights := by
  obtain ⟨hlefts, hrights, _⟩ := checkSides_eq_ok.mp h
  exact ⟨hlefts, hrights⟩

theorem Score.mem_of_mem_pairUp {α β : Type} {left : List α} {right : List β} {pair : α × β}
    (h : pair ∈ pairUp left right) : pair.1 ∈ left ∧ pair.2 ∈ right := by
  obtain ⟨⟨b, i⟩, hb, hpair⟩ := List.mem_filterMap.mp h
  obtain ⟨a, ha, rfl⟩ := Option.map_eq_some_iff.mp hpair
  exact ⟨List.mem_of_getElem? ha, List.fst_mem_of_mem_zipIdx hb⟩

end Causes

namespace Service

variable {lefts rights : List String} {options : ScoreOptions} {batch : Batch} {us : List Update}

theorem textsOf_ne_vectorSizes {tokenizer : Tokenizer} (h : textsOf tokenizer input = .error e) (m n : Nat) :
    e ≠ .invalidInput (.vectorSizes m n) := by
  rcases bind_eq_error.mp h with hprompts | ⟨prompts, _, htexts⟩
  · rcases PromptInput.normalize_eq_error hprompts with rfl | rfl <;> exact nofun
  · obtain ⟨p, _, hp⟩ := exists_of_mapM_eq_error htexts
    rcases Score.textOf_eq_error hp with rfl | rfl <;> exact nofun

theorem scoreSides_ne_vectorSizes (h : svc.scoreSides left right = .error e) (m n : Nat) :
    e ≠ .invalidInput (.vectorSizes m n) := by
  rcases bind_eq_error.mp h with hrunner | ⟨_, _, h⟩
  · obtain ⟨_, rfl⟩ := requirePooling_eq_error hrunner
    exact nofun
  rcases bind_eq_error.mp h with htask | ⟨_, _, h⟩
  · obtain ⟨_, rfl⟩ := requireScoring_eq_error htask
    exact nofun
  rcases bind_eq_error.mp h with hlefts | ⟨_, _, h⟩
  · exact textsOf_ne_vectorSizes hlefts m n
  rcases bind_eq_error.mp h with hrights | ⟨_, _, h⟩
  · exact textsOf_ne_vectorSizes hrights m n
  rcases bind_eq_error.mp h with hsides | ⟨_, _, hpure⟩
  · rcases Score.checkSides_eq_error hsides with rfl | rfl | rfl <;> exact nofun
  · cases hpure

theorem encodeBatch_ne_vectorSizes {options : EncodeOptions} (h : svc.encodeBatch input options = .error e)
    (m n : Nat) : e ≠ .invalidInput (.vectorSizes m n) := by
  rcases bind_eq_error.mp h with hrunner | ⟨_, _, h⟩
  · obtain ⟨_, rfl⟩ := requirePooling_eq_error hrunner
    exact nofun
  rcases bind_eq_error.mp h with hprompts | ⟨_, _, h⟩
  · rcases PromptInput.normalize_eq_error hprompts with rfl | rfl <;> exact nofun
  rcases bind_eq_error.mp h with htruncation | ⟨_, _, hpure⟩
  · obtain ⟨_, rfl⟩ := Truncation.resolve_eq_error htruncation
    exact nofun
  · cases hpure

theorem scoreBatch_ne_vectorSizes (h : svc.scoreBatch options lefts rights = .error e) (m n : Nat) :
    e ≠ .invalidInput (.vectorSizes m n) := by
  unfold scoreBatch at h
  split at h
  · rcases bind_eq_error.mp h with htruncation | ⟨_, _, hpure⟩
    · obtain ⟨_, rfl⟩ := Truncation.resolve_eq_error htruncation
      exact nofun
    · cases hpure
  · exact encodeBatch_ne_vectorSizes h m n

/-- What a score call checks before its batch says nothing about vectors. -/
theorem scoreRequest_ne_vectorSizes (h : svc.scoreRequest left right options = .error e) (m n : Nat) :
    e ≠ .invalidInput (.vectorSizes m n) := by
  rcases bind_eq_error.mp h with hsides | ⟨⟨lefts, rights⟩, _, h⟩
  · exact scoreSides_ne_vectorSizes hsides m n
  rcases bind_eq_error.mp h with hbatch | ⟨_, _, hpure⟩
  · exact scoreBatch_ne_vectorSizes hbatch m n
  · cases hpure

/-- The batch of a score call is never refused: all its prompts share what the call assumes. -/
theorem prepare_scoreBatch (h : svc.scoreBatch options lefts rights = .ok batch) :
    ∃ pending, batch.prepare svc.model = .ok pending := by
  unfold scoreBatch at h
  split at h
  · obtain ⟨_, _, hbatch⟩ := bind_eq_ok.mp h
    cases hbatch
    exact ⟨_, rfl⟩
  · obtain ⟨_, _, h⟩ := bind_eq_ok.mp h
    obtain ⟨_, _, h⟩ := bind_eq_ok.mp h
    obtain ⟨_, _, hbatch⟩ := bind_eq_ok.mp h
    cases hbatch
    exact ⟨_, rfl⟩

theorem prompts_of_scoreBatch (hmodel : svc.model.isCrossEncoder = false)
    (h : svc.scoreBatch options lefts rights = .ok batch) : batch.prompts = (lefts ++ rights).map .ofText := by
  simp only [scoreBatch, hmodel, Bool.false_eq_true, if_false] at h
  obtain ⟨_, _, h⟩ := bind_eq_ok.mp h
  obtain ⟨_, hprompts, h⟩ := bind_eq_ok.mp h
  obtain ⟨_, _, hbatch⟩ := bind_eq_ok.mp h
  cases hprompts
  cases hbatch
  rfl

/-- The only thing a caller is told about pooled vectors is that two of them cannot be compared. -/
theorem scoresOf_refused {queries : Nat} (h : svc.scoresOf queries us = .error e) (he : e.isRefusal = true) :
    svc.model.isCrossEncoder = false ∧ ∃ query document : Pooled, .pooled query ∈ us ∧ .pooled document ∈ us ∧
      query.data.length ≠ document.data.length ∧
      e = .invalidInput (.vectorSizes query.data.length document.data.length) := by
  rcases bind_eq_error.mp h with hkinds | ⟨outputs, houtputs, hscores⟩
  · obtain ⟨u, _, hu⟩ := exists_of_mapM_eq_error hkinds
    cases u <;> cases hu
    cases he
  cases Update.mapM_toPooled_eq_ok.mp houtputs
  split at hscores
  case isTrue =>
    obtain ⟨p, _, hp⟩ := exists_of_mapM_eq_error hscores
    unfold Score.ofPooled at hp
    split at hp <;> cases hp
    cases he
  case isFalse hmodel =>
    obtain ⟨⟨query, document⟩, hpair, hfails⟩ := exists_of_mapM_eq_error hscores
    obtain ⟨hquery, hdocument⟩ := Score.mem_of_mem_pairUp hpair
    refine ⟨eq_false_of_ne_true hmodel, query, document, List.mem_map_of_mem (List.mem_of_mem_take hquery),
      List.mem_map_of_mem (List.mem_of_mem_drop hdocument), ?_⟩
    rcases bind_eq_error.mp hfails with hcosine | ⟨_, _, hpure⟩
    · exact Score.cosine_eq_error_iff.mp hcosine
    · cases hpure

variable {w : World σ τ} {core after : Core σ} {ticks m n : Nat} {sink : Option (ProgressSink τ)}

/-- Everything that a score call has done when it finds a query and a document with vectors of different sizes:
each text of both sides has been submitted under an id of its own, and the engine has worked until it was idle. -/
structure ComparedInVain (svc : Service σ) (ticks : Nat) (left right : PromptInput) (start : Core σ)
    (requests : List Request) (work : Work σ) (after : Core σ) (m n : Nat) : Prop where
  byVectors : svc.model.isCrossEncoder = false
  texts : ∃ lefts rights, svc.scoreSides left right = .ok (lefts, rights) ∧
    requests.map (·.prompt) = (lefts ++ rights).map .ofText
  nonempty : requests ≠ []
  ids : requests.map (·.id) = start.counter.ids requests.length
  accepted : (svc.engine.offerAll requests start.engine).refusal = none
  worked : svc.engine.work ticks (svc.engine.offerAll requests start.engine).engine = work
  idle : work.halt = none
  sizes : m ≠ n ∧ ∃ query document : Pooled, .pooled query ∈ work.finished ∧ .pooled document ∈ work.finished ∧
    query.data.length = m ∧ document.data.length = n
  left_eq : after = { start with engine := work.engine, counter := start.counter.skip requests.length }

/-- The batch of a score call that comes to updates, of which two cannot be compared. -/
theorem exists_comparedInVain (hsides : svc.scoreSides left right = .ok (lefts, rights))
    (hbatch : svc.scoreBatch options lefts rights = .ok batch) (hmodel : svc.model.isCrossEncoder = false)
    (hend : svc.batchEnd ticks batch core = (.ok us, after)) {query document : Pooled}
    (hquery : .pooled query ∈ us) (hdocument : .pooled document ∈ us)
    (hsizes : query.data.length ≠ document.data.length) :
    ∃ requests work,
      svc.ComparedInVain ticks left right core requests work after query.data.length document.data.length ∧
      svc.batchUses ticks batch core = requests.map .offered ++ List.replicate work.steps .stepped := by
  obtain ⟨pending, work, hprepare, haccepted, hworked, hidle, rfl, hafter⟩ := exists_of_batchEnd hend
  have hprompts : (core.counter.number pending).map (·.prompt) = (lefts ++ rights).map .ofText := by
    rw [core.counter.prompts_number, Batch.prompts_of_prepare hprepare, prompts_of_scoreBatch hmodel hbatch]
  obtain ⟨hlefts, _⟩ := Score.sides_nonempty (scoreSides_eq_ok.mp hsides).2.2.2.2
  have hlength := congrArg List.length hprompts
  simp only [List.length_map, List.length_append] at hlength
  refine ⟨core.counter.number pending, work, ?_, batchUses_accepted hprepare haccepted hworked⟩
  exact
    { byVectors := hmodel
      texts := ⟨lefts, rights, hsides, hprompts⟩
      nonempty := List.ne_nil_of_length_pos (by omega)
      ids := by rw [core.counter.ids_number, core.counter.length_number]
      accepted := haccepted
      worked := hworked
      idle := hidle
      sizes := ⟨hsizes, query, document, (Update.sorted_perm _).mem_iff.mp hquery,
        (Update.sorted_perm _).mem_iff.mp hdocument, rfl, rfl⟩
      left_eq := by rw [hafter, core.counter.length_number] }

/-- A score call is refused by its checks, or else for the sizes of its vectors when everything is done. -/
theorem score_refused (h : (svc.score ticks left right options sink).Ends w (.error (.failed e)) after)
    (he : e.isRefusal = true) :
    svc.scoreRequest left right options = .error e ∨
      ∃ m n requests work, e = .invalidInput (.vectorSizes m n) ∧
        svc.ComparedInVain ticks left right w.core requests work after m n ∧
        ∀ uses, (svc.recorded.score ticks left right options sink).Ends (w.recorded uses) (.error (.failed e))
          (after.recorded (uses ++ (requests.map .offered ++ List.replicate work.steps .stepped))) := by
  cases hrequest : svc.scoreRequest left right options with
  | error err =>
    cases (h.unique (score_invalid hrequest rfl)).1
    exact .inl rfl
  | ok request =>
    obtain ⟨lefts, rights, batch⟩ := request
    obtain ⟨hsides, hbatch⟩ := scoreRequest_eq_ok.mp hrequest
    obtain ⟨hresult, hafter⟩ := h.unique (score_ends hrequest rfl)
    rcases resultOf_eq_failed.mp hresult.symm with hfailed | ⟨us, hus, hscores⟩
    · obtain ⟨_, hprepare⟩ := prepare_scoreBatch hbatch
      rw [prepare_of_refused (Prod.ext hfailed rfl) he] at hprepare
      cases hprepare
    · obtain ⟨hmodel, query, document, hquery, hdocument, hsizes, rfl⟩ := scoresOf_refused hscores he
      obtain ⟨requests, work, hvain, huses⟩ := exists_comparedInVain hsides hbatch hmodel
        (Prod.ext hus hafter.symm) hquery hdocument hsizes
      refine .inr ⟨_, _, requests, work, rfl, hvain, ?_⟩
      intro uses
      have hrecorded : (svc.recorded.score ticks left right options sink).Ends (w.recorded uses) _ _ :=
        score_ends hrequest rfl
      rw [w.core_recorded, batchEnd_recorded, huses, ← hafter] at hrecorded
      rw [hresult]
      exact hrecorded

/-- A score call that is refused has drawn no id and asked nothing of the engine, which is left as it is, unless it
is refused for the sizes of its vectors: then it has done everything there was to do. -/
theorem score_refusal_untouched_iff
    (h : (svc.score ticks left right options sink).Ends w (.error (.failed e)) after) (he : e.isRefusal = true) :
    ((after.engine = w.engine ∧ after.counter = w.counter ∧
        ∀ uses, (svc.recorded.score ticks left right options sink).Declines (w.recorded uses) e) ↔
      ∀ m n, e ≠ .invalidInput (.vectorSizes m n)) ∧
    ∀ m n, e = .invalidInput (.vectorSizes m n) → ∃ requests work,
      svc.ComparedInVain ticks left right w.core requests work after m n ∧
      ∀ uses, (svc.recorded.score ticks left right options sink).Ends (w.recorded uses) (.error (.failed e))
        (after.recorded (uses ++ (requests.map .offered ++ List.replicate work.steps .stepped))) := by
  rcases score_refused h he with hchecks | ⟨m, n, requests, work, rfl, hvain, hrecorded⟩
  · have hcause := scoreRequest_ne_vectorSizes hchecks
    have hdeclines : (svc.score ticks left right options sink).Declines w e := ⟨_, score_invalid hchecks rfl⟩
    obtain ⟨hengine, hcounter⟩ := hdeclines.untouched h
    have hrecorded : svc.recorded.scoreRequest left right options = .error e := hchecks
    refine ⟨⟨fun _ => hcause, fun _ => ⟨hengine, hcounter, fun uses => ⟨_, score_invalid hrecorded rfl⟩⟩⟩, ?_⟩
    intro m n hsizes
    exact absurd hsizes (hcause m n)
  · constructor
    · constructor
      · rintro ⟨_, _, hdeclines⟩
        -- the record of the uses tells the two ends apart, for at least one request was offered
        have hengine := ((hdeclines []).untouched (hrecorded [])).1
        have huses : requests.map EngineUse.offered ++ List.replicate work.steps .stepped = [] :=
          congrArg Prod.snd hengine
        exact absurd (List.map_eq_nil_iff.mp (List.append_eq_nil_iff.mp huses).1) hvain.nonempty
      · intro hcause
        exact absurd rfl (hcause m n)
    · rintro _ _ ⟨⟩
      exact ⟨requests, work, hvain, hrecorded⟩

/-- A service that pools the texts "a" and "b" to vectors of different sizes. -/
def unevenService : Service Scripted.State where
  engine := (
    { model := { runner := .pooling, supportedRunners := [.pooling], task := .embed }
      answers := { offsets := [], vectors := [([97], [.one]), ([98], [.one, .one])] }
      alphabet := {}
      forward := true } : Scripted.Plan).engine
  tokenizer := Scripted.Alphabet.tokenizer {}
  logger := none

def freshWorld : World Scripted.State Unit where
  engine := {}
  counter := ⟨0⟩
  sink := ()
  log := []
  defaults := none

theorem unevenService_ends : ∃ after,
    (unevenService.score 1 (.single (.ofText "a")) (.single (.ofText "b")) {} none).Ends freshWorld
      (.error (.failed (.invalidInput (.vectorSizes 1 2)))) after ∧
    after.counter = ⟨2⟩ ∧ after.engine.offers = 2 ∧ after.engine.steps = 1 := by
  obtain ⟨batch, pending, work, hrequest, hprepare, haccepted, hwork⟩ : ∃ batch pending work,
      unevenService.scoreRequest (.single (.ofText "a")) (.single (.ofText "b")) {} = .ok (["a"], ["b"], batch) ∧
      batch.prepare unevenService.model = .ok pending ∧
      (unevenService.engine.offerAll (freshWorld.counter.number pending) freshWorld.engine).refusal = none ∧
      unevenService.engine.work 1
        (unevenService.engine.offerAll (freshWorld.counter.number pending) freshWorld.engine).engine = work ∧
      work.halt = none ∧
      work.finished = [.pooled ⟨⟨0⟩, [97], [.one], true⟩, .pooled ⟨⟨1⟩, [98], [.one, .one], true⟩] ∧
      freshWorld.counter.skip pending.length = ⟨2⟩ ∧ work.engine.offers = 2 ∧ work.engine.steps = 1 :=
    ⟨_, _, _, rfl, rfl, rfl, rfl, rfl, rfl, rfl, rfl, rfl⟩
  obtain ⟨hwork, hidle, hfinished, hcounter, hoffers, hsteps⟩ := hwork
  have hsorted : Update.sorted [.pooled ⟨⟨0⟩, [97], [.one], true⟩, .pooled ⟨⟨1⟩, [98], [.one, .one], true⟩] =
      [.pooled ⟨⟨0⟩, [97], [.one], true⟩, .pooled ⟨⟨1⟩, [98], [.one, .one], true⟩] := by
    simp [Update.sorted, List.mergeSort, List.MergeSort.Internal.splitInTwo, Update.id, RequestId.le]
  have hends : (unevenService.score 1 (.single (.ofText "a")) (.single (.ofText "b")) {} none).Ends freshWorld _ _ :=
    score_ends hrequest rfl
  rw [batchEnd_accepted hprepare haccepted hwork] at hends
  simp only [Work.result, hidle, hfinished, hsorted] at hends
  exact ⟨_, hends, hcounter, hoffers, hsteps⟩

/-- A call refused for the sizes of its vectors after two ids were drawn, two requests submitted and a step taken. -/
theorem uneven_vectors_found_after_batch : ∃ after e,
    (unevenService.score 1 (.single (.ofText "a")) (.single (.ofText "b")) {} none).Ends freshWorld
      (.error (.failed e)) after ∧
    e.isRefusal = true ∧ after.counter ≠ freshWorld.counter ∧ after.engine.offers = 2 ∧ after.engine.steps = 1 := by
  obtain ⟨after, hends, hcounter, hoffers, hsteps⟩ := unevenService_ends
  refine ⟨after, _, hends, rfl, ?_, hoffers, hsteps⟩
  rw [hcounter]
  decide

/-- Of the same call: everything it did is what such a call does. -/
theorem unevenService_compared_in_vain : ∃ after requests work,
    (unevenService.score 1 (.single (.ofText "a")) (.single (.ofText "b")) {} none).Ends freshWorld
      (.error (.failed (.invalidInput (.vectorSizes 1 2)))) after ∧
    unevenService.ComparedInVain 1 (.single (.ofText "a")) (.single (.ofText "b")) freshWorld.core requests work
      after 1 2 ∧
    ¬ (after.engine = freshWorld.engine ∧ after.counter = freshWorld.counter ∧ ∀ uses,
      (unevenService.recorded.score 1 (.single (.ofText "a")) (.single (.ofText "b")) {} none).Declines
        (freshWorld.recorded uses) (.invalidInput (.vectorSizes 1 2))) := by
  obtain ⟨after, hends, _⟩ := unevenService_ends
  obtain ⟨huntouched, hvain⟩ := score_refusal_untouched_iff hends rfl
  obtain ⟨requests, work, hdone, _⟩ := hvain 1 2 rfl
  refine ⟨after, requests, work, hends, hdone, ?_⟩
  intro h
  exact huntouched.mp h 1 2 rfl

end Service

end BatchInference
