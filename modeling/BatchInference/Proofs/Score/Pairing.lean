import BatchInference.Proofs.Batch.Serving
import BatchInference.Proofs.Score.Refusals
import BatchInference.Proofs.Scripted.Contract

/-!
Which texts are compared with which. Both sides of a score call are pooled as one batch, whose results come in any
order, are put into the order of the ids and are split into the two sides again. On a reliable engine the split is
where the sides met, and every text on the right is compared with its own partner on the left.
-/

namespace BatchInference

namespace Score

variable {α β : Type} {left : List α} {right : List β} {i : Nat} {query document : Pooled} {score : PairScore}

/-- Every item on the right has a partner, of which the left is gone through again and again. -/
theorem pairUp_eq_map (hleft : 0 < left.length) (right : List β) :
    pairUp left right = right.zipIdx.map fun p => (left.get ⟨p.2 % left.length, Nat.mod_lt p.2 hleft⟩, p.1) := by
  have hpartner : (fun p : β × Nat => left[p.2 % left.length]?.map (·, p.1)) =
      some ∘ fun p => (left.get ⟨p.2 % left.length, Nat.mod_lt p.2 hleft⟩, p.1) := by
    funext p
    simp [Nat.mod_lt p.2 hleft]
  rw [pairUp, ← List.filterMap_eq_map, ← hpartner]

theorem length_pairUp (hleft : 0 < left.length) (right : List β) : (pairUp left right).length = right.length := by
  simp [pairUp_eq_map hleft]

theorem getElem?_pairUp_eq_some (hleft : 0 < left.length) {a : α} {b : β} :
    (pairUp left right)[i]? = some (a, b) ↔ left[i % left.length]? = some a ∧ right[i]? = some b := by
  rw [pairUp_eq_map hleft, List.getElem?_map, List.getElem?_zipIdx]
  cases right[i]? <;> simp [Nat.mod_lt i hleft]

/-- One item on the left is the partner of all on the right, of as many each is that of the one in its place. -/
theorem mod_of_lengths {lefts rights : Nat} (h : lefts = 1 ∨ lefts = rights) (hi : i < rights) :
    i % lefts = if lefts = 1 then 0 else i := by
  split
  case isTrue hone => rw [hone, Nat.mod_one]
  case isFalse hone => exact Nat.mod_eq_of_lt (by omega)

theorem ofPair_eq_ok : ofPair query document = .ok score ↔
    score.id = query.id.text ++ "_" ++ document.id.text ∧
      score.promptTokenIds = query.promptTokenIds ++ document.promptTokenIds ∧
      cosine query.data document.data = .ok score.score := by
  obtain ⟨id, tokens, value⟩ := score
  simp only [ofPair, bind_eq_ok, pure, Except.pure, Except.ok.injEq, PairScore.mk.injEq]
  constructor
  · rintro ⟨_, hcosine, rfl, rfl, rfl⟩
    exact ⟨rfl, rfl, hcosine⟩
  · rintro ⟨rfl, rfl, hcosine⟩
    exact ⟨value, hcosine, rfl, rfl, rfl⟩

/-- Vectors of one size can be compared. -/
theorem exists_ofPair (h : query.data.length = document.data.length) : ∃ score, ofPair query document = .ok score := by
  have hcosine : cosine query.data document.data = .ok _ := cosine_eq_ok_iff.mpr ⟨h, rfl⟩
  exact ⟨⟨_, _, _⟩, ofPair_eq_ok.mpr ⟨rfl, rfl, hcosine⟩⟩

/-- The text of the id that stands in a given place among those drawn from a counter that does not come round. -/
theorem text_of_ids {pooled : List Pooled} {c : IdCounter} {n j : Nat} {p : Pooled}
    (hids : pooled.map (·.id) = c.ids n) (hroom : c.HasRoom n) (hp : pooled[j]? = some p) :
    p.id.text = toString (c.next.toNat + j) := by
  have hid : (c.ids n)[j]? = some p.id := by
    simp [← hids, hp]
  obtain ⟨hj, hid⟩ := List.getElem?_eq_some_iff.mp hid
  rw [IdCounter.length_ids] at hj
  unfold IdCounter.HasRoom at hroom
  rw [← hid, IdCounter.getElem_ids, RequestId.text, IdCounter.peek, IdCounter.toNat_skip, Nat.mod_eq_of_lt (by omega)]

/-- What is reported on the text in place `i` on the right, if vectors stand in the order of their ids, of which
`start` is the first, and those of the texts on the left come before the others. -/
def ComparedAt (pooled : List Pooled) (start lefts i : Nat) (score : PairScore) : Prop :=
  let partner := if lefts = 1 then 0 else i
  ∃ query document, pooled[partner]? = some query ∧ pooled[lefts + i]? = some document ∧
    score.id = toString (start + partner) ++ "_" ++ toString (start + (lefts + i)) ∧
    score.promptTokenIds = query.promptTokenIds ++ document.promptTokenIds ∧
    cosine query.data document.data = .ok score.score

/-- The vectors that are compared determine what is reported on them. -/
theorem ComparedAt.eq_mk {pooled : List Pooled} {start lefts : Nat} {value : Binary32}
    (h : ComparedAt pooled start lefts i score) (hquery : pooled[if lefts = 1 then 0 else i]? = some query)
    (hdocument : pooled[lefts + i]? = some document) (hvalue : cosine query.data document.data = .ok value) :
    score = ⟨toString (start + if lefts = 1 then 0 else i) ++ "_" ++ toString (start + (lefts + i)),
      query.promptTokenIds ++ document.promptTokenIds, value⟩ := by
  obtain ⟨id, tokens, number⟩ := score
  obtain ⟨query', document', hquery', hdocument', rfl, rfl, hnumber⟩ := h
  cases hquery.symm.trans hquery'
  cases hdocument.symm.trans hdocument'
  cases hvalue.symm.trans hnumber
  rfl

theorem scores_of_pairs {pooled : List Pooled} {scores : List PairScore} {c : IdCounter} {lefts rights : Nat}
    (hids : pooled.map (·.id) = c.ids (lefts + rights)) (hroom : c.HasRoom (lefts + rights)) (hlefts : 0 < lefts)
    (hlengths : lefts = 1 ∨ lefts = rights)
    (hpairs : List.Forall₂ (fun pair score => ofPair pair.1 pair.2 = .ok score)
      (pairUp (pooled.take lefts) (pooled.drop lefts)) scores) :
    scores.length = rights ∧
      ∀ i score, scores[i]? = some score → ComparedAt pooled c.next.toNat lefts i score := by
  have hcount : pooled.length = lefts + rights := by
    simpa using congrArg List.length hids
  have htake : (pooled.take lefts).length = lefts := by
    simp [hcount]
  have hqueries : 0 < (pooled.take lefts).length := by omega
  have htotal : scores.length = rights := by
    rw [← hpairs.length_eq, length_pairUp hqueries]
    simp [hcount]
  refine ⟨htotal, ?_⟩
  intro i score hscore
  obtain ⟨⟨query, document⟩, hpair, hcompared⟩ := exists_getElem?_of_forall₂ hpairs hscore
  obtain ⟨hquery, hdocument⟩ := (getElem?_pairUp_eq_some hqueries).mp hpair
  have hi : i < rights := htotal ▸ (List.getElem?_eq_some_iff.mp hscore).1
  rw [List.getElem?_take_of_lt (by rw [htake]; exact Nat.mod_lt i hlefts), htake, mod_of_lengths hlengths hi] at hquery
  rw [List.getElem?_drop] at hdocument
  obtain ⟨hid, htokens, hcosine⟩ := ofPair_eq_ok.mp hcompared
  refine ⟨query, document, hquery, hdocument, ?_, htokens, hcosine⟩
  rw [hid, text_of_ids hids hroom hquery, text_of_ids hids hroom hdocument]

end Score

namespace Service

variable {σ τ : Type} {svc : Service σ} {w : World σ τ} {left right : PromptInput} {options : ScoreOptions}
  {lefts rights : List String} {pooled : List Pooled} {owes : σ → List Request → Prop}

/-- A score call of these texts at a model that embeds, with arguments that pass apart from the numbers of texts. -/
structure ComparesTexts (svc : Service σ) (left right : PromptInput) (options : ScoreOptions)
    (lefts rights : List String) : Prop where
  runner : svc.model.runner = .pooling
  task : svc.requireScoring = .ok ()
  byVectors : svc.model.isCrossEncoder = false
  lefts : textsOf svc.tokenizer left = .ok lefts
  rights : textsOf svc.tokenizer right = .ok rights
  window : ∃ truncation, Truncation.resolve svc.model.maxModelLen options.truncate = .ok truncation

/-- Such a call passes if its texts go together, and its batch asks for a vector for each text. -/
theorem ComparesTexts.exists_request (h : svc.ComparesTexts left right options lefts rights)
    (hsides : Score.checkSides lefts.length rights.length = .ok ()) :
    ∃ batch pending, svc.scoreRequest left right options = .ok (lefts, rights, batch) ∧
      batch.prepare svc.model = .ok pending ∧ pending.map (·.prompt) = (lefts ++ rights).map .ofText ∧
      ∀ r ∈ pending, r.params.sort = .pooled := by
  obtain ⟨truncation, htruncation⟩ := h.window
  have hpooling (operation : String) : svc.requirePooling operation = .ok () := if_pos h.runner
  obtain ⟨batch, hbatch⟩ : ∃ batch, svc.scoreBatch options lefts rights = .ok batch := by
    simp only [scoreBatch, h.byVectors, Bool.false_eq_true, if_false]
    exact ⟨_, bind_eq_ok.mpr ⟨(), hpooling _, bind_eq_ok.mpr ⟨_, rfl, bind_eq_ok.mpr ⟨_, htruncation, rfl⟩⟩⟩⟩
  obtain ⟨pending, hprepare⟩ := prepare_scoreBatch hbatch
  refine ⟨batch, pending, scoreRequest_eq_ok.mpr ⟨?_, hbatch⟩, hprepare, ?_, ?_⟩
  · exact scoreSides_eq_ok.mpr ⟨hpooling _, h.task, h.lefts, h.rights, hsides⟩
  · rw [Batch.prompts_of_prepare hprepare, prompts_of_scoreBatch h.byVectors hbatch]
  · apply Batch.sort_of_prepare hprepare
    simp only [scoreBatch, h.byVectors, Bool.false_eq_true, if_false] at hbatch
    exact (BatchCall.encodeBatch_made hbatch).2.1

/-- The pooled vectors of both sides come to a score for each text on the right if all are of one size. -/
theorem exists_scoresOf (hmodel : svc.model.isCrossEncoder = false) {n : Nat}
    (hsizes : ∀ p ∈ pooled, ∀ q ∈ pooled, p.data.length = q.data.length) :
    ∃ scores, svc.scoresOf n (pooled.map .pooled) = .ok scores ∧
      List.Forall₂ (fun pair score => Score.ofPair pair.1 pair.2 = .ok score)
        (Score.pairUp (pooled.take n) (pooled.drop n)) scores := by
  have hscoresOf : svc.scoresOf n (pooled.map .pooled) =
      (Score.pairUp (pooled.take n) (pooled.drop n)).mapM fun pair => Score.ofPair pair.1 pair.2 := by
    simp [scoresOf, Update.mapM_toPooled_eq_ok.mpr rfl, hmodel, bind, Except.bind]
  cases hscores : svc.scoresOf n (pooled.map .pooled) with
  | ok scores => exact ⟨scores, rfl, mapM_eq_ok.mp (hscoresOf.symm.trans hscores)⟩
  | error e =>
    exfalso
    obtain ⟨⟨query, document⟩, hpair, hfails⟩ := exists_of_mapM_eq_error (hscoresOf.symm.trans hscores)
    obtain ⟨hquery, hdocument⟩ := Score.mem_of_mem_pairUp hpair
    obtain ⟨score, hscore⟩ :=
      Score.exists_ofPair (hsizes _ (List.mem_of_mem_take hquery) _ (List.mem_of_mem_drop hdocument))
    cases hscore.symm.trans hfails

/-- On an idle reliable engine the two sides are pooled to one vector for each text, under the ids that follow the
start of the counter, and split where they met. If all vectors are of one size the call answers, given enough ticks,
with a score for each text on the right: that of its own vector and the one of its partner on the left, with the ids
and the tokens of both. -/
theorem texts_compared_with_partners (hreliable : svc.engine.Reliable Update.Answers owes) (hidle : owes w.engine [])
    (htexts : svc.ComparesTexts left right options lefts rights) (hlefts : lefts ≠ []) (hrights : rights ≠ [])
    (hlengths : lefts.length = 1 ∨ lefts.length = rights.length)
    (hroom : w.counter.HasRoom (lefts.length + rights.length)) :
    ∃ (batch : Batch) (pending : List PendingRequest) (work : Work σ) (pooled : List Pooled) (enough : Nat),
      svc.scoreRequest left right options = .ok (lefts, rights, batch) ∧ batch.prepare svc.model = .ok pending ∧
      pending.map (·.prompt) = (lefts ++ rights).map .ofText ∧
      (svc.engine.offerAll (w.counter.number pending) w.engine).refusal = none ∧
      (∀ ticks, enough ≤ ticks →
        svc.engine.work ticks (svc.engine.offerAll (w.counter.number pending) w.engine).engine = work) ∧
      List.Forall₂ (fun r p => work.finishedFor r.id = [.pooled p]) (w.counter.number pending) pooled ∧
      Update.sorted work.finished = pooled.map .pooled ∧ pooled.length = lefts.length + rights.length ∧
      ((∀ p ∈ pooled, ∀ q ∈ pooled, p.data.length = q.data.length) →
        ∃ scores : List PairScore, scores.length = rights.length ∧
          (∀ i score, scores[i]? = some score →
            Score.ComparedAt pooled w.counter.next.toNat lefts.length i score) ∧
          ∀ ticks, enough ≤ ticks → ∀ sink : Option (ProgressSink τ),
            (svc.score ticks left right options sink).Ends w (.ok scores)
              ⟨work.engine, w.counter.skip (lefts.length + rights.length), w.defaults⟩) := by
  have hid : ∀ r u, Update.Answers r u → u.id = r.id := fun _ _ h => h.1
  have hleft : 0 < lefts.length := List.length_pos_iff.mpr hlefts
  have hsides : Score.checkSides lefts.length rights.length = .ok () :=
    Score.checkSides_eq_ok.mpr ⟨hleft, List.length_pos_iff.mpr hrights, hlengths⟩
  obtain ⟨batch, pending, hrequest, hprepare, hprompts, hsort⟩ := htexts.exists_request hsides
  have hlength : pending.length = lefts.length + rights.length := by
    simpa using congrArg List.length hprompts
  rw [← hlength] at hroom
  have haccepted := hreliable.offerAll_accepted hidle (w.counter.number pending)
  obtain ⟨enough, work, hhalt, hwork, hanswers, _⟩ := hreliable.serves hid hidle hroom
  obtain ⟨pooled, hpooled⟩ := Update.exists_pooled (Engine.sort_of_answers hsort hanswers)
  have hfinished := Engine.forall₂_finishedFor hid hroom hanswers
  rw [← hpooled, List.forall₂_map_right_iff] at hfinished
  have hids : pooled.map (·.id) = w.counter.ids (lefts.length + rights.length) := by
    have hall := Update.ids_of_answers hid hanswers
    rwa [IdCounter.ids_number, ← hpooled, List.map_map, hlength] at hall
  refine ⟨batch, pending, work, pooled, enough, hrequest, hprepare, hprompts, haccepted, hwork, hfinished,
    hpooled.symm, ?_, ?_⟩
  · simpa using congrArg List.length hids
  intro hsizes
  obtain ⟨scores, hscores, hpairs⟩ := exists_scoresOf htexts.byVectors hsizes
  obtain ⟨htotal, hall⟩ := Score.scores_of_pairs hids (hlength ▸ hroom) hleft hlengths hpairs
  refine ⟨scores, htotal, hall, ?_⟩
  intro ticks hticks sink
  have hends : (svc.score ticks left right options sink).Ends w _ _ := score_ends hrequest rfl
  rw [batchEnd_accepted hprepare haccepted (hwork ticks hticks)] at hends
  simp only [Work.result, hhalt, ← hpooled, resultOf, hscores, hlength] at hends
  exact hends

/-- The texts "a", "b" and "c" are pooled to vectors that point in different directions. -/
def threeDirections : Scripted.Answers where
  offsets := []
  vectors := [([97], [.one, .zero]), ([98], [.ofNat 3, .ofNat 4]), ([99], [.ofNat 4, .ofNat 3])]

/-- A service that reports what comes last first. -/
def backwardService : Service Scripted.State where
  engine := (
    { model := { runner := .pooling, supportedRunners := [.pooling], task := .embed }
      answers := threeDirections
      alphabet := {} } : Scripted.Plan).engine
  tokenizer := Scripted.Alphabet.tokenizer {}

def sevenWorld : World Scripted.State Unit := { engine := {}, counter := ⟨7⟩, sink := () }

/-- One text on the left goes with both on the right, although its result comes after theirs. The scores are the
cosines of the angles of its vector with theirs, three and four fifths. -/
theorem one_query_two_documents : ∃ (enough : Nat) (after : Core Scripted.State),
    ∀ ticks, enough ≤ ticks → ∀ sink : Option (ProgressSink Unit),
      (backwardService.score ticks (.single (.ofText "a")) (.batch [.ofText "b", .ofText "c"]) {} sink).Ends sevenWorld
        (.ok [⟨"7_8", [97, 98], ⟨0x3f19999a⟩⟩, ⟨"7_9", [97, 99], ⟨0x3f4ccccd⟩⟩]) after := by
  have hreliable : backwardService.engine.Reliable Update.Answers Scripted.Plan.Owes :=
    Scripted.Plan.Faithful.reliable ⟨rfl, rfl, rfl⟩ rfl rfl (Scripted.Plan.answers_last rfl)
  have hidle : Scripted.Plan.Owes sevenWorld.engine [] := ⟨.refl _, fun _ h => nomatch h⟩
  have htexts : backwardService.ComparesTexts (.single (.ofText "a")) (.batch [.ofText "b", .ofText "c"]) {} ["a"]
      ["b", "c"] := ⟨rfl, rfl, rfl, rfl, rfl, _, rfl⟩
  obtain ⟨batch, pending, work, pooled, enough, hrequest, hprepare, _, _, hwork, hfinished, _, _, hscores⟩ :=
    texts_compared_with_partners hreliable hidle htexts (by decide) (by decide) (.inl rfl) (by decide)
  cases hrequest
  cases hprepare
  have hdone : work = backwardService.engine.work 1 (backwardService.engine.offerAll _ sevenWorld.engine).engine :=
    (hwork _ (Nat.le_max_left enough 1)).symm.trans (Engine.work_eq_of_le rfl (Nat.le_max_right enough 1))
  obtain rfl : pooled = [⟨⟨7⟩, [97], [.one, .zero], true⟩, ⟨⟨8⟩, [98], [.ofNat 3, .ofNat 4], true⟩,
      ⟨⟨9⟩, [99], [.ofNat 4, .ofNat 3], true⟩] := by
    rw [hdone] at hfinished
    obtain ⟨query, _, hquery, hdocuments, rfl⟩ := List.forall₂_cons_left_iff.mp hfinished
    obtain ⟨first, _, hfirst, hlast, rfl⟩ := List.forall₂_cons_left_iff.mp hdocuments
    obtain ⟨second, _, hsecond, hnone, rfl⟩ := List.forall₂_cons_left_iff.mp hlast
    cases hquery
    cases hfirst
    cases hsecond
    cases hnone
    rfl
  obtain ⟨scores, hcount, hcompared, hends⟩ := hscores (by decide)
  obtain ⟨first, second, rfl⟩ := List.length_eq_two.mp hcount
  have hthree : Score.cosine [.one, .zero] [.ofNat 3, .ofNat 4] = .ok ⟨0x3f19999a⟩ :=
    Score.cosine_eq_ok_iff.mpr ⟨rfl, by decide +kernel⟩
  have hfour : Score.cosine [.one, .zero] [.ofNat 4, .ofNat 3] = .ok ⟨0x3f4ccccd⟩ :=
    Score.cosine_eq_ok_iff.mpr ⟨rfl, by decide +kernel⟩
  obtain rfl : first = ⟨"7_8", [97, 98], ⟨0x3f19999a⟩⟩ := (hcompared 0 first rfl).eq_mk rfl rfl hthree
  obtain rfl : second = ⟨"7_9", [97, 99], ⟨0x3f4ccccd⟩⟩ := (hcompared 1 second rfl).eq_mk rfl rfl hfour
  exact ⟨enough, _, hends⟩

end Service

end BatchInference
