import BatchInference.Proofs.Score.Repetition

/-!
Scores that are read and not compared. A model that reads pairs gets one input for each document, cut before it is
submitted, and what it pools this input to comes back as the score of the document: its first number, under the id of
its request. A vector without a first number is no score, and the one that comes first in the order of the documents
is reported.
-/

namespace BatchInference

namespace Score

variable {p : Pooled} {pooled : List Pooled} {score : PairScore} {c : IdCounter} {n i : Nat}

theorem ofPooled_eq_ok : ofPooled p = .ok score ↔
    score.id = p.id.text ∧ score.promptTokenIds = p.promptTokenIds ∧ p.data.head? = some score.score := by
  obtain ⟨id, tokens, value⟩ := score
  cases hdata : p.data <;> simp [ofPooled, hdata, eq_comm]

theorem ofPooled_eq_error {e : CallError} : ofPooled p = .error e ↔
    p.data = [] ∧ e = .unexpectedOutput p.id "a score" "empty pooled output" := by
  cases hdata : p.data <;> simp [ofPooled, hdata, eq_comm]

/-- The score of the document in place `i`, if vectors stand in the order of their ids, of which `start` is the
first. -/
def ReadAt (pooled : List Pooled) (start i : Nat) (score : PairScore) : Prop :=
  ∃ p, pooled[i]? = some p ∧ score.id = toString (start + i) ∧ score.promptTokenIds = p.promptTokenIds ∧
    p.data.head? = some score.score

/-- The vector in place `i` is the first that is empty. -/
def FirstEmpty (pooled : List Pooled) (i : Nat) (p : Pooled) : Prop :=
  pooled[i]? = some p ∧ p.data = [] ∧ ∀ j < i, ∀ q, pooled[j]? = some q → q.data ≠ []

theorem FirstEmpty.unique {i' : Nat} {p' : Pooled} (h : FirstEmpty pooled i p) (h' : FirstEmpty pooled i' p') :
    i = i' ∧ p = p' := by
  obtain ⟨hp, hempty, hearlier⟩ := h
  obtain ⟨hp', hempty', hearlier'⟩ := h'
  obtain rfl : i = i' := by
    rcases Nat.lt_trichotomy i i' with hlt | heq | hlt
    · exact absurd hempty (hearlier' i hlt p hp)
    · exact heq
    · exact absurd hempty' (hearlier i' hlt p' hp')
  rw [hp] at hp'
  exact ⟨rfl, Option.some.inj hp'⟩

/-- Vectors in the order of their ids come to a score each, or the first empty one is reported, whatever comes after
it. -/
theorem read_of_pooled (hids : pooled.map (·.id) = c.ids n) (hroom : c.HasRoom n) :
    ((∀ p ∈ pooled, p.data ≠ []) ∧ ∃ scores, pooled.mapM ofPooled = .ok scores ∧ scores.length = n ∧
      ∀ i score, scores[i]? = some score → ReadAt pooled c.next.toNat i score) ∨
    ∃ i p, FirstEmpty pooled i p ∧ p.id.text = toString (c.next.toNat + i) ∧
      pooled.mapM ofPooled = .error (.unexpectedOutput p.id "a score" "empty pooled output") := by
  cases hread : pooled.mapM ofPooled with
  | ok scores =>
    have hall := mapM_eq_ok.mp hread
    have hcount : pooled.length = n := by
      simpa using congrArg List.length hids
    refine .inl ⟨?_, scores, rfl, by rw [← hall.length_eq, hcount], ?_⟩
    · intro p hp hempty
      obtain ⟨i, hi, rfl⟩ := List.getElem_of_mem hp
      have hscore := (List.forall₂_iff_get.mp hall).2 i hi (hall.length_eq ▸ hi)
      have hfirst := (ofPooled_eq_ok.mp hscore).2.2
      simp [hempty] at hfirst
    · intro i score hscore
      obtain ⟨p, hp, hone⟩ := exists_getElem?_of_forall₂ hall hscore
      obtain ⟨hid, htokens, hfirst⟩ := ofPooled_eq_ok.mp hone
      exact ⟨p, hp, by rw [hid, text_of_ids hids hroom hp], htokens, hfirst⟩
  | error e =>
    obtain ⟨i, p, hp, hfails, hearlier⟩ := mapM_eq_error.mp hread
    obtain ⟨hempty, rfl⟩ := ofPooled_eq_error.mp hfails
    refine .inr ⟨i, p, ⟨hp, hempty, ?_⟩, text_of_ids hids hroom hp, rfl⟩
    intro j hj q hq hempty'
    obtain ⟨score, hscore⟩ := hearlier j hj q hq
    rw [ofPooled_eq_error.mpr ⟨hempty', rfl⟩] at hscore
    cases hscore

end Score

/-- An idle reliable engine pools the requests of a batch for pooling once each, and hands the vectors back in the
order of the requests, given enough ticks. -/
theorem Engine.Reliable.pools {σ : Type} {e : Engine σ} {owes : σ → List Request → Prop} {s : σ} {c : IdCounter}
    {pending : List PendingRequest} (h : e.Reliable Update.Answers owes) (hidle : owes s [])
    (hroom : c.HasRoom pending.length) (hsort : ∀ r ∈ pending, r.params.sort = .pooled) :
    ∃ (pooled : List Pooled) (work : Work σ) (enough : Nat),
      (∀ ticks, enough ≤ ticks → e.work ticks (e.offerAll (c.number pending) s).engine = work) ∧
      work.halt = none ∧ Update.sorted work.finished = pooled.map .pooled ∧
      pooled.map (·.id) = c.ids pending.length ∧
      List.Forall₂ (fun r p => work.finishedFor r.id = [.pooled p]) (c.number pending) pooled := by
  have hid : ∀ r u, Update.Answers r u → u.id = r.id := fun _ _ h => h.1
  obtain ⟨enough, work, hhalt, hwork, hanswers, -⟩ := h.serves hid hidle hroom
  obtain ⟨pooled, hpooled⟩ := Update.exists_pooled (sort_of_answers hsort hanswers)
  have hfinished := forall₂_finishedFor hid hroom hanswers
  rw [← hpooled, List.forall₂_map_right_iff] at hfinished
  have hids := Update.ids_of_answers hid hanswers
  rw [IdCounter.ids_number, ← hpooled, List.map_map] at hids
  exact ⟨pooled, work, enough, hwork, hhalt, hpooled.symm, hids, hfinished⟩

namespace Service

variable {σ τ : Type} {svc : Service σ} {w : World σ τ} {left right : PromptInput} {options : ScoreOptions}
  {lefts rights : List String} {truncation : Option Truncation} {pooled : List Pooled}
  {owes : σ → List Request → Prop}

/-- A request reads the document in place `i` together with its query: the only text on the left, or the one in its
place. Both are cut to the length that the call asks for, and the engine is not asked to cut anything. -/
structure ReadsDocument (svc : Service σ) (truncation : Option Truncation) (lefts rights : List String) (i : Nat)
    (r : Request) : Prop where
  pair : ∃ query document ids typeIds, lefts[if lefts.length = 1 then 0 else i]? = some query ∧
    rights[i]? = some document ∧
    svc.tokenizer.encodePair query document (truncation.map (·.maxLength)) = (ids, typeIds) ∧
    r.prompt = .tokens ids typeIds {}
  params : r.params = .pooling {}
  whole : r.truncation = none

/-- The requests for pairs read one document each. -/
theorem readsDocument_of_number (hmodel : svc.model.isCrossEncoder = true) (hlefts : 0 < lefts.length)
    (hlengths : lefts.length = 1 ∨ lefts.length = rights.length) {c : IdCounter} {i : Nat} {r : Request}
    (hr : (c.number (svc.scorePendings options truncation lefts rights))[i]? = some r) :
    svc.ReadsDocument truncation lefts rights i r := by
  have hpending : (svc.scorePendings options truncation lefts rights)[i]? = some r.toPendingRequest := by
    rw [← c.toPendingRequest_number (svc.scorePendings options truncation lefts rights), List.getElem?_map, hr]
    rfl
  rw [scorePendings, scorePrompts, if_pos hmodel, pairPrompts, List.map_map, List.getElem?_map] at hpending
  obtain ⟨⟨query, document⟩, hpair, hmade⟩ := Option.map_eq_some_iff.mp hpending
  obtain ⟨hquery, hdocument⟩ := (Score.getElem?_pairUp_eq_some hlefts).mp hpair
  have hi : i < rights.length := (List.getElem?_eq_some_iff.mp hdocument).1
  rw [Score.mod_of_lengths hlengths hi] at hquery
  rw [Function.comp_apply, scorePending_of_pairs hmodel] at hmade
  have hprompt := congrArg PendingRequest.prompt hmade
  refine ⟨⟨query, document, _, _, hquery, hdocument, rfl, hprompt.symm⟩, ?_, ?_⟩
  · exact (congrArg PendingRequest.params hmade).symm
  · exact (congrArg PendingRequest.truncation hmade).symm

theorem length_scorePendings (hmodel : svc.model.isCrossEncoder = true) (hlefts : 0 < lefts.length) :
    (svc.scorePendings options truncation lefts rights).length = rights.length := by
  rw [scorePendings, scorePrompts, if_pos hmodel, pairPrompts, List.length_map, List.length_map,
    Score.length_pairUp hlefts]

/-- What a model that reads pairs pools them to is read one by one. -/
theorem scoresOf_pooled (hmodel : svc.model.isCrossEncoder = true) (n : Nat) (pooled : List Pooled) :
    svc.scoresOf n (pooled.map .pooled) = pooled.mapM Score.ofPooled := by
  have hviewed : (pooled.map Update.pooled).mapM (·.toPooled) = .ok pooled := Update.mapM_toPooled_eq_ok.mpr rfl
  rw [scoresOf, hviewed]
  exact if_pos hmodel

/-- On an idle reliable engine a score call at a model that reads pairs submits one request for each document, under the
ids that follow the start of the counter, and the engine pools each of them once, in whatever order. Given enough ticks
the call answers with the first number of each vector and what the engine reports of its prompt, in the order of the
documents; or there are empty vectors, and it fails with the first of them. -/
theorem documents_read_one_by_one (hreliable : svc.engine.Reliable Update.Answers owes) (hidle : owes w.engine [])
    (hmodel : svc.model.isCrossEncoder = true) (hsides : svc.scoreSides left right = .ok (lefts, rights))
    (htruncation : Truncation.resolve svc.model.maxModelLen options.truncate = .ok truncation)
    (hroom : w.counter.HasRoom rights.length) :
    ∃ (requests : List Request) (pooled : List Pooled) (work : Work σ) (enough : Nat),
      requests.length = rights.length ∧ requests.map (·.id) = w.counter.ids rights.length ∧
      (∀ (i : Nat) (r : Request), requests[i]? = some r → svc.ReadsDocument truncation lefts rights i r) ∧
      (∀ ticks, enough ≤ ticks →
        svc.engine.work ticks (svc.engine.offerAll requests w.engine).engine = work) ∧
      List.Forall₂ (fun r p => work.finishedFor r.id = [.pooled p]) requests pooled ∧
      ∀ ticks, enough ≤ ticks → ∀ sink : Option (ProgressSink τ), ∃ asked result after,
        svc.CallAsks ticks sink (.score left right options) w asked result after ∧
        EngineUse.requests asked = requests ∧
        (((∀ p ∈ pooled, p.data ≠ []) ∧ ∃ scores : List PairScore, result = .ok (.scores scores) ∧
            scores.length = rights.length ∧
            ∀ i score, scores[i]? = some score → Score.ReadAt pooled w.counter.next.toNat i score) ∨
          ∃ i p, Score.FirstEmpty pooled i p ∧ p.id.text = toString (w.counter.next.toNat + i) ∧
            result = .error (.failed (.unexpectedOutput p.id "a score" "empty pooled output"))) := by
  obtain ⟨hpooling, -, -, -, hchecked⟩ := scoreSides_eq_ok.mp hsides
  obtain ⟨hlefts, -, hlengths⟩ := Score.checkSides_eq_ok.mp hchecked
  obtain ⟨batch, hbatch, hprepare⟩ := exists_scoreBatch (runner_of_requirePooling hpooling) htruncation lefts rights
  have hrequest := scoreRequest_eq_ok.mpr ⟨hsides, hbatch⟩
  have hlength : (svc.scorePendings options truncation lefts rights).length = rights.length :=
    length_scorePendings hmodel hlefts
  have hsort : ∀ r ∈ svc.scorePendings options truncation lefts rights, r.params.sort = .pooled := by
    intro r hr
    obtain ⟨prompt, -, rfl⟩ := List.mem_map.mp hr
    rfl
  rw [← hlength] at hroom
  have haccepted := hreliable.offerAll_accepted hidle
    (w.counter.number (svc.scorePendings options truncation lefts rights))
  obtain ⟨pooled, work, enough, hwork, hhalt, hpooled, hids, hfinished⟩ := hreliable.pools hidle hroom hsort
  refine ⟨_, pooled, work, enough, ?_, ?_, fun i r => readsDocument_of_number hmodel hlefts hlengths, hwork,
    hfinished, ?_⟩
  · rw [IdCounter.length_number, hlength]
  · rw [IdCounter.ids_number, hlength]
  intro ticks hticks sink
  have hasks : svc.CallAsks ticks sink (.score left right options) w _ _ _ := score_asks_batch hrequest
  rw [batchEnd_accepted hprepare haccepted (hwork ticks hticks)] at hasks
  simp only [Work.result, hhalt, hpooled, resultOf, scoresOf_pooled hmodel] at hasks
  refine ⟨_, _, _, hasks, ?_, ?_⟩
  · rw [batchUses_accepted hprepare haccepted (hwork ticks hticks), EngineUse.requests_append,
      EngineUse.requests_offered, EngineUse.requests_stepped, List.append_nil]
    rfl
  · rcases Score.read_of_pooled hids hroom with ⟨hdata, scores, hscores, htotal, hread⟩ | ⟨i, p, hfirst, htext, hfails⟩
    · refine .inl ⟨hdata, scores, ?_, by rw [htotal, hlength], hread⟩
      rw [hscores]
      rfl
    · refine .inr ⟨i, p, hfirst, htext, ?_⟩
      rw [hfails]
      rfl

/-- A service whose model reads pairs and reports what comes last first. It pools the pair of "a" and "c" to nothing
and every other to two numbers. -/
def readingService : Service Scripted.State where
  engine := (
    { model := { runner := .pooling, supportedRunners := [.pooling], task := .classify, numLabels := some 1,
                 isCrossEncoder := true }
      answers := { offsets := [], vectors := [([97, 1, 99], [])] }
      alphabet := {} } : Scripted.Plan).engine
  tokenizer := Scripted.Alphabet.tokenizer {}

def threeDocuments : PromptInput := .batch [.ofText "b", .ofText "c", .ofText "c"]

/-- Of three documents the second and the third are read to nothing, and the second is reported. -/
theorem second_document_empty : ∃ (requests : List Request) (enough : Nat),
    requests.map (·.prompt) = [.tokens [97, 1, 98] (some [0, 0, 1]) {}, .tokens [97, 1, 99] (some [0, 0, 1]) {},
      .tokens [97, 1, 99] (some [0, 0, 1]) {}] ∧
    ∀ ticks, enough ≤ ticks → ∀ sink : Option (ProgressSink Unit), ∃ asked after,
      readingService.CallAsks ticks sink
        (.score (.single (.ofText "a")) threeDocuments {}) sevenWorld asked
        (.error (.failed (.unexpectedOutput ⟨8⟩ "a score" "empty pooled output"))) after ∧
      EngineUse.requests asked = requests := by
  have hreliable : readingService.engine.Reliable Update.Answers Scripted.Plan.Owes :=
    Scripted.Plan.Faithful.reliable ⟨rfl, rfl, rfl⟩ rfl rfl (Scripted.Plan.answers_last rfl)
  have hidle : Scripted.Plan.Owes sevenWorld.engine [] := ⟨.refl _, fun _ h => nomatch h⟩
  have hsides : readingService.scoreSides (.single (.ofText "a")) threeDocuments = .ok (["a"], ["b", "c", "c"]) := rfl
  have htruncation : Truncation.resolve readingService.model.maxModelLen ({} : ScoreOptions).truncate = .ok none := rfl
  have hroom : sevenWorld.counter.HasRoom ["b", "c", "c"].length := by decide
  obtain ⟨requests, pooled, work, enough, hcount, hids, hreads, hwork, hfinished, hcall⟩ :=
    documents_read_one_by_one hreliable hidle rfl hsides htruncation hroom
  have hknown : requests = sevenWorld.counter.number
      [⟨.tokens [97, 1, 98] (some [0, 0, 1]) {}, .pooling {}, {}, none, 0⟩,
        ⟨.tokens [97, 1, 99] (some [0, 0, 1]) {}, .pooling {}, {}, none, 0⟩,
        ⟨.tokens [97, 1, 99] (some [0, 0, 1]) {}, .pooling {}, {}, none, 0⟩] := by
    obtain ⟨asked, result, after, hasks, hrequests, -⟩ := hcall enough (Nat.le_refl enough) none
    have hrequest : readingService.scoreRequest (.single (.ofText "a")) threeDocuments {} =
        .ok (["a"], ["b", "c", "c"], _) := rfl
    have hcomputed : readingService.CallAsks enough none (.score (.single (.ofText "a")) threeDocuments {}) sevenWorld
        _ _ _ := score_asks_batch hrequest
    obtain ⟨-, -, hasked⟩ := hasks.unique (hcomputed.recorded [])
    rw [← hrequests, ← hasked]
    change EngineUse.requests (List.map .offered _ ++ List.replicate _ .stepped) = _
    rw [EngineUse.requests_append, EngineUse.requests_offered, EngineUse.requests_stepped, List.append_nil]
    rfl
  rw [hknown] at hwork hfinished
  have hdone : work = readingService.engine.work 1 (readingService.engine.offerAll _ sevenWorld.engine).engine :=
    (hwork _ (Nat.le_max_left enough 1)).symm.trans (Engine.work_eq_of_le rfl (Nat.le_max_right enough 1))
  obtain ⟨first, _, hfirst, hrest, rfl⟩ := List.forall₂_cons_left_iff.mp hfinished
  obtain ⟨second, others, hsecond, -, rfl⟩ := List.forall₂_cons_left_iff.mp hrest
  obtain rfl : first = ⟨⟨7⟩, [97, 1, 98], [⟨0x40400000⟩, .one], true⟩ := by
    rw [hdone] at hfirst
    cases hfirst
    rfl
  obtain rfl : second = ⟨⟨8⟩, [97, 1, 99], [], true⟩ := by
    rw [hdone] at hsecond
    cases hsecond
    rfl
  refine ⟨requests, enough, by rw [hknown]; rfl, ?_⟩
  intro ticks hticks sink
  obtain ⟨asked, result, after, hasks, hrequests, hend⟩ := hcall ticks hticks sink
  have hfirstEmpty : Score.FirstEmpty
      (⟨⟨7⟩, [97, 1, 98], [⟨0x40400000⟩, .one], true⟩ :: ⟨⟨8⟩, [97, 1, 99], [], true⟩ :: others) 1
      ⟨⟨8⟩, [97, 1, 99], [], true⟩ := by
    refine ⟨rfl, rfl, ?_⟩
    intro j hj q hq
    obtain rfl : j = 0 := by omega
    cases hq
    exact List.cons_ne_nil _ _
  rcases hend with ⟨hdata, -⟩ | ⟨i, p, hfirst, -, rfl⟩
  · exact absurd rfl (hdata _ (.tail _ (.head _)))
  · obtain ⟨-, rfl⟩ := hfirst.unique hfirstEmpty
    exact ⟨asked, after, hasks, hrequests⟩

end Service

end BatchInference
