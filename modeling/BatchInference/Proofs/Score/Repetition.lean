import BatchInference.Proofs.Batch.Conventions
import BatchInference.Proofs.Score.Pairing
import BatchInference.Proofs.Session.Asked

/-!
One query for many documents. A query that is given once is scored against every document as if it had been repeated
for each of them, although the batches of the two calls differ where the texts are compared by their vectors. What a
caller sees of the scores, apart from ids, is told by the pairs of texts alone, and so is the kind of an error.
-/

namespace BatchInference

inductive ErrorKind where
  | shapeMismatch
  | unsupported
  | conflictingConfig
  | invalidInput
  | unexpectedOutput
  | engine
  deriving DecidableEq, Repr

def CallError.kind : CallError → ErrorKind
  | .shapeMismatch .. => .shapeMismatch
  | .unsupported _ => .unsupported
  | .conflictingConfig _ => .conflictingConfig
  | .invalidInput _ => .invalidInput
  | .unexpectedOutput .. => .unexpectedOutput
  | .engine _ => .engine

section Seen

variable {α β γ δ : Type}

/-- What is seen of an outcome through a view of results: of an error, its kind. -/
def seenBy (view : α → β) : Except CallError α → Except ErrorKind β
  | .ok a => .ok (view a)
  | .error e => .error e.kind

/-- Checks of two lists look alike if they look alike for the items in each place. -/
theorem seenBy_mapM {view : α → β} {f : γ → Except CallError α} {g : δ → Except CallError α} {l : List γ} {l' : List δ}
    (h : List.Forall₂ (fun a b => seenBy view (f a) = seenBy view (g b)) l l') :
    seenBy (List.map view) (l.mapM f) = seenBy (List.map view) (l'.mapM g) := by
  induction h with
  | nil => rfl
  | @cons a b rest rest' hhead _ ih =>
    rw [List.mapM_cons, List.mapM_cons]
    cases hf : f a <;> cases hg : g b <;> simp only [hf, hg, seenBy, Except.ok.injEq, reduceCtorEq] at hhead
    case error.error => simpa [seenBy, bind, Except.bind] using hhead
    case ok.ok =>
      cases hrest : rest.mapM f <;> cases hrest' : rest'.mapM g <;>
        simp_all [seenBy, bind, Except.bind, pure, Except.pure]

end Seen

/-- All that is seen of a score but the ids it comes from. -/
def PairScore.shown (s : PairScore) : List TokenId × Binary32 := (s.promptTokenIds, s.score)

/-- Two pooled results differ in nothing but their ids. -/
structure Pooled.Alike (p q : Pooled) : Prop where
  promptTokenIds : p.promptTokenIds = q.promptTokenIds
  data : p.data = q.data

/-- An update that pools a request to what its prompt, parameters, adapters and truncation make, under its id. -/
def Update.Pools (pool : Prompt → PoolingParams → Adapters → Option Truncation → Pooled) (r : Request) (u : Update) :
    Prop :=
  u.id = r.id ∧ ∀ p, r.params = .pooling p →
    u = .pooled { pool r.prompt p r.adapters r.truncation with id := r.id, finished := true }

namespace Score

variable {α β γ : Type} {left : List α} {right : List β}

theorem seenBy_ofPair {query query' document document' : Pooled} (hquery : query.Alike query')
    (hdocument : document.Alike document') :
    seenBy PairScore.shown (ofPair query document) = seenBy PairScore.shown (ofPair query' document') := by
  simp only [ofPair, hquery.data, hquery.promptTokenIds, hdocument.data, hdocument.promptTokenIds]
  cases cosine query'.data document'.data <;> rfl

theorem seenBy_ofPooled {p q : Pooled} (h : p.Alike q) :
    seenBy PairScore.shown (ofPooled p) = seenBy PairScore.shown (ofPooled q) := by
  simp only [ofPooled, h.data, h.promptTokenIds]
  cases q.data <;> rfl

/-- An item that is repeated on the left is the partner of all on the right. -/
theorem pairUp_replicate {k : Nat} (hk : 0 < k) (a : α) (right : List β) :
    pairUp (List.replicate k a) right = right.map fun b => (a, b) := by
  have hfst : right.zipIdx.map (·.1) = right := List.zipIdx_map_fst 0 right
  rw [pairUp_eq_map (by simpa using hk)]
  conv_rhs => rw [← hfst, List.map_map]
  simp [Function.comp_def]

/-- What holds of all on the left and of those on the right in their places holds of the pairs. -/
theorem forall₂_pairUp {P : α → Prop} {R : γ → β → Prop} {l : List γ} (hleft : 0 < left.length)
    (hall : ∀ a ∈ left, P a) (hright : List.Forall₂ R l right) :
    List.Forall₂ (fun c pair => P pair.1 ∧ R c pair.2) l (pairUp left right) := by
  refine List.forall₂_iff_get.mpr ⟨?_, ?_⟩
  · rw [length_pairUp hleft, hright.length_eq]
  · intro i hi hi'
    obtain ⟨hquery, hdocument⟩ := (getElem?_pairUp_eq_some hleft).mp (List.getElem?_eq_getElem hi')
    obtain ⟨c, hc, hR⟩ := exists_getElem?_of_forall₂ hright hdocument
    rw [List.getElem?_eq_getElem hi, Option.some.injEq] at hc
    exact ⟨hall _ (List.mem_of_getElem? hquery), by simpa [hc] using hR⟩

end Score

namespace Service

variable {σ τ : Type} {svc : Service σ} {w : World σ τ} {left right : PromptInput} {options : ScoreOptions}
  {query : Prompt} {documents : List Prompt} {text : String} {lefts texts : List String} {batch : Batch} {k : Nat}

/-- The texts of one query and of many documents, once they have passed. -/
def queryTexts (svc : Service σ) (query : Prompt) (documents : List Prompt) :
    Except CallError (String × List String) := do
  svc.requirePooling "score"
  svc.requireScoring
  let text ← Score.textOf svc.tokenizer query
  return (text, ← documents.mapM (Score.textOf svc.tokenizer))

theorem runner_of_requirePooling {operation : String} (h : svc.requirePooling operation = .ok ()) :
    svc.model.runner = .pooling := by
  by_contra hother
  rw [requirePooling, if_neg hother] at h
  cases h

theorem runner_of_queryTexts (h : svc.queryTexts query documents = .ok (text, texts)) : svc.model.runner = .pooling := by
  obtain ⟨_, hrunner, _⟩ := bind_eq_ok.mp h
  exact runner_of_requirePooling hrunner

theorem textsOf_replicate (tokenizer : Tokenizer) (hk : 0 < k)
    (hleft : left.normalize = .ok (List.replicate k query)) :
    textsOf tokenizer left = List.replicate k <$> Score.textOf tokenizer query := by
  rw [textsOf, hleft]
  exact mapM_replicate hk query _

/-- A query that is given once, or once for each document, passes or fails as it does by itself. -/
theorem scoreSides_replicate (svc : Service σ) (hdocuments : 0 < documents.length)
    (hsides : k = 1 ∨ k = documents.length) (hleft : left.normalize = .ok (List.replicate k query))
    (hright : right.normalize = .ok documents) :
    svc.scoreSides left right = (fun parts => (List.replicate k parts.1, parts.2)) <$> svc.queryTexts query documents := by
  have hk : 0 < k := by omega
  have hlefts := textsOf_replicate svc.tokenizer hk hleft
  have hrights : textsOf svc.tokenizer right = documents.mapM (Score.textOf svc.tokenizer) := by
    rw [textsOf, hright]
    rfl
  unfold scoreSides queryTexts
  rw [hlefts, hrights]
  simp only [map_bind, bind_map_left]
  refine bind_congr fun _ => bind_congr fun _ => bind_congr fun text => ?_
  cases htexts : documents.mapM (Score.textOf svc.tokenizer) with
  | error e => rfl
  | ok texts =>
    have hlength := (mapM_eq_ok.mp htexts).length_eq
    have hpass : Score.checkSides (List.replicate k text).length texts.length = .ok () := by
      rw [List.length_replicate, Score.checkSides_eq_ok]
      omega
    change (Score.checkSides (List.replicate k text).length texts.length >>= fun _ => _) = _
    rw [hpass]
    rfl

/-! The requests of a score call, and what there is to see of them. -/

/-- The request for one prompt of a score call. A model that reads pairs is told nothing about truncation. -/
def scorePending (svc : Service σ) (options : ScoreOptions) (truncation : Option Truncation) (prompt : Prompt) :
    PendingRequest where
  prompt := prompt
  params := .pooling {}
  adapters := ⟨options.lora, options.promptAdapter, options.steerVector⟩
  truncation := if svc.model.isCrossEncoder then none else truncation

def pairPrompt (svc : Service σ) (maxLength : Option Nat) (query document : String) : Prompt :=
  let (ids, typeIds) := svc.tokenizer.encodePair query document maxLength
  .tokens ids typeIds {}

/-- The prompts of a score call: the pairs, or the texts of both sides. -/
def scorePrompts (svc : Service σ) (truncation : Option Truncation) (lefts rights : List String) : List Prompt :=
  if svc.model.isCrossEncoder then svc.pairPrompts (truncation.map (·.maxLength)) lefts rights
  else (lefts ++ rights).map .ofText

/-- The requests of a score call before they have ids. -/
def scorePendings (svc : Service σ) (options : ScoreOptions) (truncation : Option Truncation)
    (lefts rights : List String) : List PendingRequest :=
  (svc.scorePrompts truncation lefts rights).map (svc.scorePending options truncation)

variable {truncation : Option Truncation}

theorem scorePending_of_pairs (h : svc.model.isCrossEncoder = true) (prompt : Prompt) :
    svc.scorePending options truncation prompt =
      ⟨prompt, .pooling {}, ⟨options.lora, options.promptAdapter, options.steerVector⟩, none, 0⟩ := by
  simp [scorePending, h]

theorem scorePending_of_texts (h : ¬ svc.model.isCrossEncoder = true) (prompt : Prompt) :
    svc.scorePending options truncation prompt =
      ⟨prompt, .pooling {}, ⟨options.lora, options.promptAdapter, options.steerVector⟩, truncation, 0⟩ := by
  simp [scorePending, h]

/-- The batch of a score call makes the same request of all its prompts. -/
theorem exists_scoreBatch (hrunner : svc.model.runner = .pooling)
    (htruncation : Truncation.resolve svc.model.maxModelLen options.truncate = .ok truncation)
    (lefts rights : List String) :
    ∃ batch, svc.scoreBatch options lefts rights = .ok batch ∧
      batch.prepare svc.model = .ok (svc.scorePendings options truncation lefts rights) := by
  unfold scoreBatch scorePendings scorePrompts
  split
  case isTrue hmodel =>
    refine ⟨_, bind_eq_ok.mpr ⟨truncation, htruncation, rfl⟩, ?_⟩
    rw [Batch.prepare_shared .one .one .absent, funext (scorePending_of_pairs hmodel)]
    rfl
  case isFalse hmodel =>
    refine ⟨_, bind_eq_ok.mpr ⟨(), if_pos hrunner, bind_eq_ok.mpr ⟨_, rfl, bind_eq_ok.mpr ⟨_, htruncation, rfl⟩⟩⟩, ?_⟩
    rw [Batch.prepare_shared .one .one .absent, funext (scorePending_of_texts hmodel)]
    rfl

theorem scoreBatch_error {e : CallError} (hrunner : svc.model.runner = .pooling)
    (htruncation : Truncation.resolve svc.model.maxModelLen options.truncate = .error e) (lefts rights : List String) :
    svc.scoreBatch options lefts rights = .error e := by
  unfold scoreBatch
  split
  · exact bind_eq_error.mpr (.inl htruncation)
  · exact bind_eq_error.mpr (.inr ⟨(), if_pos hrunner, bind_eq_error.mpr (.inr ⟨_, rfl, bind_eq_error.mpr (.inl htruncation)⟩)⟩)

/-- Pairs with one query that is repeated are the same however often it is. -/
theorem pairPrompts_replicate (hk : 0 < k) (maxLength : Option Nat) (text : String) (texts : List String) :
    svc.pairPrompts maxLength (List.replicate k text) texts = texts.map (svc.pairPrompt maxLength text) := by
  rw [pairPrompts, Score.pairUp_replicate hk, List.map_map]
  rfl

/-- A model that reads pairs is asked the same however often the query is repeated. -/
theorem scorePendings_replicate (hmodel : svc.model.isCrossEncoder = true) (hk : 0 < k) (text : String)
    (texts : List String) :
    svc.scorePendings options truncation (List.replicate k text) texts =
      texts.map fun document =>
        svc.scorePending options truncation (svc.pairPrompt (truncation.map (·.maxLength)) text document) := by
  rw [scorePendings, scorePrompts, if_pos hmodel, pairPrompts_replicate hk, List.map_map]
  rfl

variable {pool : Prompt → PoolingParams → Adapters → Option Truncation → Pooled} {owes : σ → List Request → Prop}
  {us : List Update} {ticks : Nat} {core : Core σ}

/-- What the engine makes of one prompt of a score call, apart from the id. -/
def pooledOf (svc : Service σ) (pool : Prompt → PoolingParams → Adapters → Option Truncation → Pooled)
    (options : ScoreOptions) (truncation : Option Truncation) (prompt : Prompt) : Pooled :=
  let request := svc.scorePending options truncation prompt
  pool prompt {} request.adapters request.truncation

/-- The score of one pair of texts, apart from the ids. -/
def pairScore (svc : Service σ) (pool : Prompt → PoolingParams → Adapters → Option Truncation → Pooled)
    (options : ScoreOptions) (truncation : Option Truncation) (query document : String) : Except CallError PairScore :=
  let pooled := svc.pooledOf pool options truncation
  if svc.model.isCrossEncoder then Score.ofPooled (pooled (svc.pairPrompt (truncation.map (·.maxLength)) query document))
  else Score.ofPair (pooled (.ofText query)) (pooled (.ofText document))

/-- The prompts of a score call are pooled one by one, whatever the ids are. -/
theorem exists_alike {prompts : List Prompt} {c : IdCounter}
    (h : List.Forall₂ (Update.Pools pool) (c.number (prompts.map (svc.scorePending options truncation))) us) :
    ∃ pooled : List Pooled, us = pooled.map .pooled ∧
      List.Forall₂ (fun prompt p => (svc.pooledOf pool options truncation prompt).Alike p) prompts pooled := by
  induction prompts generalizing c us with
  | nil =>
    cases h
    exact ⟨[], rfl, .nil⟩
  | cons prompt rest ih =>
    cases h with
    | cons hu hrest =>
      obtain ⟨pooled, rfl, hpooled⟩ := ih hrest
      obtain ⟨_, hpools⟩ := hu
      refine ⟨_ :: pooled, congrArg (· :: pooled.map Update.pooled) (hpools {} rfl), .cons ⟨rfl, rfl⟩ hpooled⟩

/-- With one query, what is seen of the scores is told by the pairs of texts, however often the query is repeated. -/
theorem seenBy_scoresOf (hk : 0 < k) {c : IdCounter}
    (h : List.Forall₂ (Update.Pools pool)
      (c.number (svc.scorePendings options truncation (List.replicate k text) texts)) us) :
    seenBy (List.map PairScore.shown) (svc.scoresOf k us) =
      seenBy (List.map PairScore.shown) (texts.mapM (svc.pairScore pool options truncation text)) := by
  obtain ⟨pooled, rfl, hpooled⟩ := exists_alike h
  have hviewed : (pooled.map Update.pooled).mapM (·.toPooled) = .ok pooled := Update.mapM_toPooled_eq_ok.mpr rfl
  rw [scoresOf, hviewed]
  symm
  by_cases hmodel : svc.model.isCrossEncoder
  · simp only [scorePrompts, hmodel, if_true, pairPrompts_replicate hk, List.forall₂_map_left_iff] at hpooled
    change seenBy _ _ = seenBy _ (if svc.model.isCrossEncoder then _ else _)
    rw [if_pos hmodel]
    refine seenBy_mapM (hpooled.imp fun document p hp => ?_)
    rw [pairScore, if_pos hmodel]
    exact Score.seenBy_ofPooled hp
  · simp only [scorePrompts, hmodel, List.map_append, Bool.false_eq_true, if_false] at hpooled
    change seenBy _ _ = seenBy _ (if svc.model.isCrossEncoder then _ else _)
    rw [if_neg hmodel]
    have hqueries := List.forall₂_take k hpooled
    have hdocuments := List.forall₂_drop k hpooled
    rw [List.take_left' (by simp), List.map_replicate] at hqueries
    rw [List.drop_left' (by simp), List.forall₂_map_left_iff] at hdocuments
    have hall : ∀ q ∈ pooled.take k, (svc.pooledOf pool options truncation (.ofText text)).Alike q := by
      intro q hq
      obtain ⟨i, hi⟩ := List.getElem?_of_mem hq
      obtain ⟨prompt, hprompt, hquery⟩ := exists_getElem?_of_forall₂ hqueries hi
      rwa [List.eq_of_mem_replicate (List.mem_of_getElem? hprompt)] at hquery
    have hlength : 0 < (pooled.take k).length := by
      simpa [← hqueries.length_eq] using hk
    refine seenBy_mapM ((Score.forall₂_pairUp hlength hall hdocuments).imp fun document pair hpair => ?_)
    rw [pairScore, if_neg hmodel]
    exact Score.seenBy_ofPair hpair.1 hpair.2

private theorem map_resultOf_ok {f : List Update → Except CallError (List PairScore)} :
    (resultOf (.ok us) f).map Answer.scores = (Answer.scores <$> f us).mapError .failed := by
  simp only [resultOf]
  cases f us <;> rfl

/-- A score call of one query, however often it is given, ends on an idle engine within some ticks. What is seen of
its outcome is told by the pairs of texts, and its requests are those of its prompts under the next ids. -/
theorem exists_scored (hreliable : svc.engine.Reliable (Update.Pools pool) owes) (hidle : owes w.engine []) (hk : 0 < k)
    (hrequest : svc.scoreRequest left right options = .ok (List.replicate k text, texts, batch))
    (hprepare : batch.prepare svc.model = .ok (svc.scorePendings options truncation (List.replicate k text) texts))
    (hroom : w.counter.HasRoom batch.prompts.length) :
    ∃ outcome enough, seenBy (List.map PairScore.shown) outcome =
        seenBy (List.map PairScore.shown) (texts.mapM (svc.pairScore pool options truncation text)) ∧
      ∀ ticks, enough ≤ ticks → ∀ sink : Option (ProgressSink τ), ∃ asked after,
        svc.CallAsks ticks sink (.score left right options) w asked ((Answer.scores <$> outcome).mapError .failed) after ∧
        EngineUse.requests asked =
          w.counter.number (svc.scorePendings options truncation (List.replicate k text) texts) := by
  have hid : ∀ r u, Update.Pools pool r u → u.id = r.id := fun _ _ h => h.1
  rw [← Batch.prompts_of_prepare hprepare, List.length_map] at hroom
  have haccepted := hreliable.offerAll_accepted hidle
    (w.counter.number (svc.scorePendings options truncation (List.replicate k text) texts))
  obtain ⟨enough, work, hhalt, hwork, hpools, _⟩ := hreliable.serves hid hidle hroom
  refine ⟨_, enough, seenBy_scoresOf hk hpools, ?_⟩
  intro ticks hticks sink
  have hasks : svc.CallAsks ticks sink (.score left right options) w _ _ _ := score_asks_batch hrequest
  have hend : svc.batchEnd ticks batch w.core = _ := batchEnd_accepted hprepare haccepted (hwork ticks hticks)
  rw [hend, Work.result, hhalt, List.length_replicate, map_resultOf_ok] at hasks
  refine ⟨_, _, hasks, ?_⟩
  rw [batchUses_accepted hprepare haccepted (hwork ticks hticks), EngineUse.requests_append,
    EngineUse.requests_offered, EngineUse.requests_stepped, List.append_nil]
  rfl

/-- However often its query is given, a score call fails with one error, or its requests are those of the same query
and the same documents. -/
theorem scoreRequest_replicate (svc : Service σ) (query : Prompt) (options : ScoreOptions)
    (hdocuments : 0 < documents.length) (hright : right.normalize = .ok documents) :
    (∃ e, ∀ k left, k = 1 ∨ k = documents.length → left.normalize = .ok (List.replicate k query) →
      svc.scoreRequest left right options = .error e) ∨
    ∃ text texts truncation, ∀ k left, k = 1 ∨ k = documents.length → left.normalize = .ok (List.replicate k query) →
      ∃ batch, svc.scoreRequest left right options = .ok (List.replicate k text, texts, batch) ∧
        batch.prepare svc.model = .ok (svc.scorePendings options truncation (List.replicate k text) texts) := by
  cases htexts : svc.queryTexts query documents with
  | error e =>
    refine .inl ⟨e, fun k left hsides hleft => ?_⟩
    have hboth := svc.scoreSides_replicate hdocuments hsides hleft hright
    rw [htexts] at hboth
    exact bind_eq_error.mpr (.inl hboth)
  | ok parts =>
    obtain ⟨text, texts⟩ := parts
    have hrunner := runner_of_queryTexts htexts
    have hpassed {k : Nat} {left : PromptInput} (hsides : k = 1 ∨ k = documents.length)
        (hleft : left.normalize = .ok (List.replicate k query)) :
        svc.scoreSides left right = .ok (List.replicate k text, texts) := by
      rw [svc.scoreSides_replicate hdocuments hsides hleft hright, htexts]
      rfl
    cases htruncation : Truncation.resolve svc.model.maxModelLen options.truncate with
    | error e =>
      refine .inl ⟨e, fun k left hsides hleft => ?_⟩
      have hbatch := scoreBatch_error hrunner htruncation (List.replicate k text) texts
      exact bind_eq_error.mpr (.inr ⟨_, hpassed hsides hleft, bind_eq_error.mpr (.inl hbatch)⟩)
    | ok truncation =>
      refine .inr ⟨text, texts, truncation, fun k left hsides hleft => ?_⟩
      obtain ⟨batch, hbatch, hprepare⟩ := exists_scoreBatch hrunner htruncation (List.replicate k text) texts
      exact ⟨batch, scoreRequest_eq_ok.mpr ⟨hpassed hsides hleft, hbatch⟩, hprepare⟩

/-- On engines that pool by what is asked of them, one query for many documents comes to the same as the query repeated
for each of them, given enough ticks: the same scores and tokens in the same order, or an error of the same kind. For
a model that reads pairs the two calls moreover make the same requests if they start from the same counter. -/
theorem query_broadcast_eq_repeated {τ' : Type} (hreliable : svc.engine.Reliable (Update.Pools pool) owes)
    (hdocuments : documents ≠ []) {left' : PromptInput} (hleft : left.normalize = .ok [query])
    (hleft' : left'.normalize = .ok (List.replicate documents.length query)) (hright : right.normalize = .ok documents)
    {w' : World σ τ'} (hidle : owes w.engine []) (hidle' : owes w'.engine [])
    (hroom : ∀ lefts rights batch, svc.scoreRequest left right options = .ok (lefts, rights, batch) →
      w.counter.HasRoom batch.prompts.length)
    (hroom' : ∀ lefts rights batch, svc.scoreRequest left' right options = .ok (lefts, rights, batch) →
      w'.counter.HasRoom batch.prompts.length) :
    ∃ outcome outcome' enough,
      seenBy (List.map PairScore.shown) outcome = seenBy (List.map PairScore.shown) outcome' ∧
      ∀ ticks, enough ≤ ticks → ∀ (sink : Option (ProgressSink τ)) (sink' : Option (ProgressSink τ')),
        ∃ asked asked' after after',
          svc.CallAsks ticks sink (.score left right options) w asked ((Answer.scores <$> outcome).mapError .failed)
            after ∧
          svc.CallAsks ticks sink' (.score left' right options) w' asked'
            ((Answer.scores <$> outcome').mapError .failed) after' ∧
          (svc.model.isCrossEncoder = true → w.counter = w'.counter →
            EngineUse.requests asked = EngineUse.requests asked') := by
  have hcount : 0 < documents.length := List.length_pos_iff.mpr hdocuments
  rcases svc.scoreRequest_replicate query options hcount hright with ⟨e, hfails⟩ | ⟨text, texts, truncation, hpasses⟩
  · refine ⟨.error e, .error e, 0, rfl, fun ticks _ sink sink' => ?_⟩
    have hone := hfails 1 left (.inl rfl) hleft
    have hmany := hfails documents.length left' (.inr rfl) hleft'
    exact ⟨[], [], _, _, score_asks_nothing hone, score_asks_nothing hmany, fun _ _ => rfl⟩
  · obtain ⟨batch, hone, hprepare⟩ := hpasses 1 left (.inl rfl) hleft
    obtain ⟨batch', hmany, hprepare'⟩ := hpasses documents.length left' (.inr rfl) hleft'
    obtain ⟨outcome, enough, hseen, hcall⟩ :=
      exists_scored hreliable hidle Nat.one_pos hone hprepare (hroom _ _ _ hone)
    obtain ⟨outcome', enough', hseen', hcall'⟩ :=
      exists_scored hreliable hidle' hcount hmany hprepare' (hroom' _ _ _ hmany)
    refine ⟨outcome, outcome', max enough enough', hseen.trans hseen'.symm, fun ticks hticks sink sink' => ?_⟩
    obtain ⟨asked, after, hasks, hrequests⟩ := hcall ticks (by omega) sink
    obtain ⟨asked', after', hasks', hrequests'⟩ := hcall' ticks (by omega) sink'
    refine ⟨asked, asked', after, after', hasks, hasks', fun hmodel hcounter => ?_⟩
    -- pairs are cycled before they are submitted, so the two batches are one and the same
    rw [hrequests, hrequests', hcounter, scorePendings_replicate hmodel hcount,
      ← scorePendings_replicate hmodel Nat.one_pos]

/-- What the service that reports backwards pools a prompt to. -/
def backwardPool (prompt : Prompt) (params : PoolingParams) (_ : Adapters) (_ : Option Truncation) : Pooled :=
  threeDirections.pooled {} { prompt, params := .pooling params, id := ⟨0⟩ } true

theorem backwardService_pools : backwardService.engine.Reliable (Update.Pools backwardPool) Scripted.Plan.Owes := by
  apply Scripted.Plan.Faithful.reliable ⟨rfl, rfl, rfl⟩ rfl rfl
  intro r
  refine ⟨Scripted.Answers.id_update _ _ r _ _, ?_⟩
  intro p hp
  simp only [Scripted.Plan.last, Scripted.Answers.update, hp]
  rfl

def twoDocuments : PromptInput := .batch [.ofText "b", .ofText "c"]

/-- A text compared with two others by three vectors, and given twice compared with them by four. -/
theorem one_query_as_two : ∃ outcome outcome' enough,
    seenBy (List.map PairScore.shown) outcome = seenBy (List.map PairScore.shown) outcome' ∧
    ∀ ticks, enough ≤ ticks → ∃ asked asked' after after',
      backwardService.CallAsks ticks none (.score (.single (.ofText "a")) twoDocuments {}) sevenWorld asked
        ((Answer.scores <$> outcome).mapError .failed) after ∧
      backwardService.CallAsks ticks none (.score (.split (some ["a", "a"]) none) twoDocuments {}) sevenWorld asked'
        ((Answer.scores <$> outcome').mapError .failed) after' := by
  have hidle : Scripted.Plan.Owes sevenWorld.engine [] := ⟨.refl _, fun _ h => nomatch h⟩
  have hone : (PromptInput.single (.ofText "a")).normalize = .ok [.ofText "a"] := rfl
  have hmany : (PromptInput.split (some ["a", "a"]) none).normalize = .ok (List.replicate 2 (.ofText "a")) := rfl
  have hdocuments : twoDocuments.normalize = .ok [.ofText "b", .ofText "c"] := rfl
  have hroom : ∀ lefts rights batch, backwardService.scoreRequest (.single (.ofText "a")) twoDocuments {} =
      .ok (lefts, rights, batch) → sevenWorld.counter.HasRoom batch.prompts.length := by
    rintro _ _ _ ⟨⟩
    decide
  have hroom' : ∀ lefts rights batch, backwardService.scoreRequest (.split (some ["a", "a"]) none) twoDocuments {} =
      .ok (lefts, rights, batch) → sevenWorld.counter.HasRoom batch.prompts.length := by
    rintro _ _ _ ⟨⟩
    decide
  obtain ⟨outcome, outcome', enough, hseen, hcalls⟩ := query_broadcast_eq_repeated backwardService_pools
    (List.cons_ne_nil _ _) hone hmany hdocuments hidle hidle hroom hroom'
  refine ⟨outcome, outcome', enough, hseen, ?_⟩
  intro ticks hticks
  obtain ⟨asked, asked', after, after', hasks, hasks', _⟩ := hcalls ticks hticks none none
  exact ⟨asked, asked', after, after', hasks, hasks'⟩

end Service

end BatchInference
