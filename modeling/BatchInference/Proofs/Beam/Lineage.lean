import Mathlib.Data.List.Forall2
import Mathlib.Data.List.Induction
import BatchInference.Proofs.Beam.Ranking
import BatchInference.Scripted.Tokenizer

/-!
Where the beams of one prompt come from. Whatever the results of its steps are, a beam is the prompt with one token
for each step, and what it has recorded are the candidates that each step showed to its own beginning. Two beams of
one step never have the same tokens, so that a beginning is shown its candidates once.
-/

namespace BatchInference

namespace Candidates

variable {c : Candidates} {token : TokenId} {value : Logprob}

theorem nodup_tokens (c : Candidates) : (c.entries.map (·.1)).Nodup := by
  rw [List.Nodup, List.pairwise_map]
  refine c.rising.imp ?_
  intro a b hlt heq
  rw [heq] at hlt
  exact UInt32.lt_irrefl _ hlt

/-- There is at most one candidate with a given token. -/
theorem filter_token : c.entries.filter (·.1 == token) = ((c.get? token).map (token, ·)).toList := by
  obtain ⟨entries, hrising⟩ := c
  simp only [get?]
  induction entries with
  | nil => rfl
  | cons e rest ih =>
    obtain ⟨hfirst, hrest⟩ := List.pairwise_cons.mp hrising
    rw [List.filter_cons, List.lookup_cons, Bool.beq_comm]
    cases htoken : token == e.1 with
    | false => exact ih hrest
    | true =>
      cases beq_iff_eq.mp htoken
      have habsent : rest.filter (·.1 == e.1) = [] := by
        rw [List.filter_eq_nil_iff]
        intro d hd heq
        have hlt := hfirst d hd
        rw [beq_iff_eq.mp heq] at hlt
        exact UInt32.lt_irrefl _ hlt
      rw [if_pos rfl, habsent]
      rfl

/-- A candidate is found under its token. -/
theorem get?_eq_some_iff : c.get? token = some value ↔ (token, value) ∈ c.entries := by
  have hmem : (token, value) ∈ c.entries ↔ (token, value) ∈ c.entries.filter (·.1 == token) := by
    simp [List.mem_filter]
  rw [hmem, filter_token, Option.mem_toList, Option.map_eq_some_iff]
  simp

end Candidates

/-- The tokens a search for a prompt starts with. -/
def Prompt.tokensBy (tokenizer : Tokenizer) : Prompt → List TokenId
  | .text s _ => tokenizer.encode s
  | .tokens ids _ _ => ids
  | .embeds _ => []

theorem BeamSequence.ofPrompt_eq_ok {tokenizer : Tokenizer} {prompt : Prompt} {lora : Option LoraAdapter}
    {root : BeamSequence} (h : BeamSequence.ofPrompt tokenizer prompt lora = .ok root) :
    root = { tokens := prompt.tokensBy tokenizer, lora, companions := prompt.companions } := by
  cases prompt <;> cases h <;> rfl

namespace Hypotheses

variable {rule : BeamRule} {h : Hypotheses} {results : List Generation} {rs more : List (List Generation)}
  {root beam s : BeamSequence} {result : Generation} {position : Candidates} {path : List (TokenId × Logprob)}
  {tokens : List TokenId} {j : Nat}

theorem mem_extensions : s ∈ extensions beam result ↔
    ∃ position, position? result = some position ∧ ∃ e ∈ position.entries, beam.extend e.1 e.2.logprob position = s := by
  unfold extensions
  cases position? result with
  | none => simp
  | some position => simp

/-! The tokens of two beams of one step are never the same. -/

theorem pairwise_zip {α β : Type} {R : α → α → Prop} {l : List α} (hl : l.Pairwise R) (l' : List β) :
    (l.zip l').Pairwise fun p q => R p.1 q.1 := by
  induction hl generalizing l' with
  | nil => simp
  | cons ha _ ih =>
    cases l' with
    | nil => simp
    | cons b rest =>
      rw [List.zip_cons_cons, List.pairwise_cons]
      exact ⟨fun q hq => ha q.1 (List.of_mem_zip hq).1, ih rest⟩

theorem nodup_extensions : ((extensions beam result).map (·.tokens)).Nodup := by
  unfold extensions
  cases position? result with
  | none => exact .nil
  | some position =>
    rw [List.map_map, List.Nodup, List.pairwise_map]
    refine (List.pairwise_map.mp position.nodup_tokens).imp ?_
    intro a b hne heq
    exact hne (List.append_singleton_inj.mp heq).2

theorem nodup_expansions (hnodup : (h.active.map (·.tokens)).Nodup) :
    ((h.expansions results).map (·.tokens)).Nodup := by
  rw [List.Nodup, List.pairwise_map, expansions, List.pairwise_flatMap]
  refine ⟨fun p _ => List.pairwise_map.mp nodup_extensions, ?_⟩
  -- extensions of two beams differ before their last tokens already
  refine (pairwise_zip (List.pairwise_map.mp hnodup) results).imp ?_
  intro p q hne s hs t ht heq
  obtain ⟨_, _, _, _, rfl⟩ := mem_extensions.mp hs
  obtain ⟨_, _, _, _, rfl⟩ := mem_extensions.mp ht
  exact hne (List.append_singleton_inj.mp heq).1

theorem nodup_advance (hnodup : (h.active.map (·.tokens)).Nodup) :
    ((h.advance rule results).active.map (·.tokens)).Nodup :=
  BeamRanking.nodup_keepBest ((nodup_expansions hnodup).sublist (List.filter_sublist.map _))

/-! One prompt and the results of its steps. -/

def start (root : BeamSequence) : Hypotheses := ⟨[root], []⟩

/-- The search after one step for each list of results. -/
def run (rule : BeamRule) (root : BeamSequence) (rs : List (List Generation)) : Hypotheses :=
  rs.foldl (fun h results => h.advance rule results) (start root)

theorem run_snoc : run rule root (rs ++ [results]) = (run rule root rs).advance rule results := by
  simp [run]

theorem nodup_run (rule : BeamRule) (root : BeamSequence) (rs : List (List Generation)) :
    ((run rule root rs).active.map (·.tokens)).Nodup := by
  induction rs using List.reverseRecOn with
  | nil => exact List.nodup_singleton root.tokens
  | append_singleton rs results ih =>
    rw [run_snoc]
    exact nodup_advance ih

/-- Step number `j`, counted from zero, gave a result with these candidates to a beam with these tokens. -/
def ShownAt (rule : BeamRule) (root : BeamSequence) (rs : List (List Generation)) (j : Nat) (tokens : List TokenId)
    (position : Candidates) : Prop :=
  ∃ results, rs[j]? = some results ∧ ∃ p ∈ (run rule root (rs.take j)).active.zip results,
    p.1.tokens = tokens ∧ position? p.2 = some position

/-- Step number `j`, counted from zero, brought forth this sequence, which ends in the stop token. -/
def CompletedAt (rule : BeamRule) (root : BeamSequence) (rs : List (List Generation)) (j : Nat) (s : BeamSequence) :
    Prop :=
  ∃ results, rs[j]? = some results ∧ s ∈ (run rule root (rs.take j)).expansions results ∧
    endsIn rule.stopToken s = true

/-- The sequence is the root with the tokens of the path after it. Each token is one of the candidates recorded for
it, which are those that were shown to the tokens before it, and the log-probabilities are added up in order. -/
structure Descends (rule : BeamRule) (root : BeamSequence) (rs : List (List Generation))
    (path : List (TokenId × Logprob)) (s : BeamSequence) : Prop where
  tokens : s.tokens = root.tokens ++ path.map (·.1)
  candidates : List.Forall₂ (fun e position => position.get? e.1 = some e.2) path s.logprobs
  shown : ∀ j < path.length, ∀ position,
    ShownAt rule root rs j (s.tokens.take (root.tokens.length + j)) position ↔ s.logprobs[j]? = some position
  cumLogprob : s.cumLogprob = path.foldl (fun sum e => sum + e.2.logprob) .zero
  lora : s.lora = root.lora
  companions : s.companions = root.companions

/-- What has been shown once stays so, whatever the next steps are. -/
theorem shownAt_append (hj : j < rs.length) :
    ShownAt rule root (rs ++ more) j tokens position ↔ ShownAt rule root rs j tokens position := by
  unfold ShownAt
  rw [List.getElem?_append_left hj, List.take_append_of_le_length (Nat.le_of_lt hj)]

theorem CompletedAt.append (hs : CompletedAt rule root rs j s) : CompletedAt rule root (rs ++ more) j s := by
  obtain ⟨results, hresults, hs⟩ := hs
  have hj := (List.getElem?_eq_some_iff.mp hresults).1
  refine ⟨results, ?_, ?_⟩
  · rwa [List.getElem?_append_left hj]
  · rwa [List.take_append_of_le_length (Nat.le_of_lt hj)]

theorem Descends.append (hs : Descends rule root rs path s) (hpath : path.length ≤ rs.length) :
    Descends rule root (rs ++ more) path s :=
  { hs with
    shown := by
      intro j hj position
      rw [shownAt_append (by omega)]
      exact hs.shown j hj position }

/-- Only one beam has given tokens, and it is given one result. -/
theorem shownAt_last (hpair : (beam, result) ∈ (run rule root rs).active.zip results)
    (hposition : position? result = some position) {position' : Candidates} :
    ShownAt rule root (rs ++ [results]) rs.length beam.tokens position' ↔ position = position' := by
  have hdistinct : (((run rule root rs).active.zip results).map (·.1.tokens)).Nodup :=
    List.pairwise_map.mpr (pairwise_zip (List.pairwise_map.mp (nodup_run rule root rs)) results)
  unfold ShownAt
  rw [List.getElem?_concat_length, List.take_left]
  constructor
  · rintro ⟨_, ⟨⟩, p, hp, htokens, hposition'⟩
    rw [List.inj_on_of_nodup_map hdistinct hp hpair htokens, hposition] at hposition'
    exact Option.some.inj hposition'
  · rintro rfl
    exact ⟨results, rfl, _, hpair, rfl, hposition⟩

theorem Descends.extend (hbeam : Descends rule root rs path beam) (hpath : path.length = rs.length)
    (hpair : (beam, result) ∈ (run rule root rs).active.zip results)
    (hposition : position? result = some position) {e : TokenId × Logprob} (he : e ∈ position.entries) :
    Descends rule root (rs ++ [results]) (path ++ [e]) (beam.extend e.1 e.2.logprob position) where
  tokens := by
    simp only [BeamSequence.extend, hbeam.tokens, List.map_append, List.map_cons, List.map_nil, List.append_assoc]
  candidates := List.rel_append hbeam.candidates (.cons (Candidates.get?_eq_some_iff.mpr he) .nil)
  shown := by
    intro j hj position'
    have htokens : beam.tokens.length = root.tokens.length + path.length := by
      rw [hbeam.tokens, List.length_append, List.length_map]
    have hlogprobs := hbeam.candidates.length_eq
    rw [List.length_append, List.length_singleton] at hj
    simp only [BeamSequence.extend]
    rw [List.take_append_of_le_length (by omega)]
    by_cases hlast : j = path.length
    · subst hlast
      rw [← htokens, List.take_length, hpath, shownAt_last hpair hposition, ← hpath, hlogprobs,
        List.getElem?_concat_length, Option.some.injEq]
    · rw [shownAt_append (by omega), List.getElem?_append_left (by omega)]
      exact hbeam.shown j (by omega) position'
  cumLogprob := by
    simp only [BeamSequence.extend, hbeam.cumLogprob, List.foldl_append, List.foldl_cons, List.foldl_nil]
  lora := hbeam.lora
  companions := hbeam.companions

/-- The root is its own descendant by no step. -/
theorem descends_root (hlogprobs : root.logprobs = []) (hcum : root.cumLogprob = .zero) :
    Descends rule root [] [] root where
  tokens := (List.append_nil root.tokens).symm
  candidates := by
    rw [hlogprobs]
    exact .nil
  shown := nofun
  cumLogprob := hcum
  lora := rfl
  companions := rfl

/-- Every active beam descends from the root by all steps, and every completed one by those up to the step that
completed it. -/
theorem run_descends (hlogprobs : root.logprobs = []) (hcum : root.cumLogprob = .zero) (rule : BeamRule)
    (rs : List (List Generation)) :
    (∀ s ∈ (run rule root rs).active, ∃ path, path.length = rs.length ∧ Descends rule root rs path s) ∧
    ∀ s ∈ (run rule root rs).completed, ∃ j path, CompletedAt rule root rs j s ∧ path.length = j + 1 ∧
      Descends rule root rs path s := by
  -- on the number of steps, the last one apart: beams grow at their end
  induction rs using List.reverseRecOn with
  | nil =>
    constructor
    · intro s hs
      cases List.mem_singleton.mp hs
      exact ⟨[], rfl, descends_root hlogprobs hcum⟩
    · exact nofun
  | append_singleton rs results ih =>
    obtain ⟨hactive, hcompleted⟩ := ih
    have hexpansion : ∀ s ∈ (run rule root rs).expansions results, ∃ path, path.length = rs.length + 1 ∧
        Descends rule root (rs ++ [results]) path s := by
      intro s hs
      obtain ⟨⟨beam, result⟩, hpair, hs⟩ := List.mem_flatMap.mp hs
      obtain ⟨position, hposition, e, he, rfl⟩ := mem_extensions.mp hs
      obtain ⟨path, hpath, hbeam⟩ := hactive beam (List.of_mem_zip hpair).1
      refine ⟨path ++ [e], ?_, hbeam.extend hpath hpair hposition he⟩
      rw [List.length_append, hpath, List.length_singleton]
    rw [run_snoc]
    constructor
    · intro s hs
      have hmem := List.mem_of_mem_filter (BeamRanking.mem_of_mem_keepBest hs)
      obtain ⟨path, hpath, hs⟩ := hexpansion s hmem
      refine ⟨path, ?_, hs⟩
      rw [hpath, List.length_append, List.length_singleton]
    · intro s hs
      rcases List.mem_append.mp hs with hold | hnew
      · obtain ⟨j, path, hj, hpath, hs⟩ := hcompleted s hold
        refine ⟨j, path, hj.append, hpath, hs.append ?_⟩
        obtain ⟨_, hresults, _⟩ := hj
        have hlt := (List.getElem?_eq_some_iff.mp hresults).1
        omega
      · obtain ⟨hmem, hstop⟩ := List.mem_filter.mp hnew
        obtain ⟨path, hpath, hs⟩ := hexpansion s hmem
        refine ⟨rs.length, path, ⟨results, List.getElem?_concat_length, ?_, hstop⟩, hpath, hs⟩
        rwa [List.take_left]

/-- However the steps of a search for a prompt turn out, at most as many beams are active as are kept, and every
beam, active, completed or returned at the end, is the prompt with one token for each step it took part in, the
candidates that were shown to its own beginnings and the sum of their log-probabilities in order. -/
theorem beams_descend_from_prompt {tokenizer : Tokenizer} {prompt : Prompt} {lora : Option LoraAdapter}
    (hroot : BeamSequence.ofPrompt tokenizer prompt lora = .ok root) (rule : BeamRule)
    (rs : List (List Generation)) :
    (root.tokens = prompt.tokensBy tokenizer ∧ root.lora = lora ∧ root.companions = prompt.companions) ∧
    (rs ≠ [] → (run rule root rs).active.length ≤ rule.width) ∧
    (∀ s ∈ (run rule root rs).active, ∃ path, path.length = rs.length ∧ Descends rule root rs path s) ∧
    (∀ s ∈ (run rule root rs).completed, ∃ j path, CompletedAt rule root rs j s ∧ path.length = j + 1 ∧
      Descends rule root rs path s) ∧
    ∀ s ∈ (run rule root rs).finish rule tokenizer, ∃ t path,
      s = { t with text := some (tokenizer.decode t.tokens) } ∧ Descends rule root rs path s ∧
        (t ∈ (run rule root rs).active ∧ path.length = rs.length ∨
          ∃ j, CompletedAt rule root rs j t ∧ path.length = j + 1) := by
  have hstart := BeamSequence.ofPrompt_eq_ok hroot
  have hlogprobs : root.logprobs = [] := by rw [hstart]
  have hcum : root.cumLogprob = .zero := by rw [hstart]
  obtain ⟨hactive, hcompleted⟩ := run_descends hlogprobs hcum rule rs
  refine ⟨⟨by rw [hstart], by rw [hstart], by rw [hstart]⟩, ?_, hactive, hcompleted, ?_⟩
  · intro hrs
    obtain ⟨before, results, rfl⟩ := (List.eq_nil_or_concat' rs).resolve_left hrs
    rw [run_snoc]
    exact List.length_take_le _ _
  · intro s hs
    obtain ⟨t, ht, rfl⟩ := List.mem_map.mp hs
    rcases List.mem_append.mp (BeamRanking.mem_of_mem_keepBest ht) with hdone | hbusy
    · obtain ⟨j, path, hj, hpath, hdescends⟩ := hcompleted t hdone
      exact ⟨t, path, rfl, { hdescends with }, .inr ⟨j, hj, hpath⟩⟩
    · obtain ⟨path, hpath, hdescends⟩ := hactive t hbusy
      exact ⟨t, path, rfl, { hdescends with }, .inl ⟨hbusy, hpath⟩⟩

/-- A result that reports these tokens, all of one log-probability. -/
def resultOn (tokens : List TokenId) : Generation where
  id := ⟨0⟩
  prompt := none
  promptTokenIds := []
  outputs := [⟨0, "", [], none, some [.ofList (tokens.map fun token => (token, ⟨.one, none, none⟩))], none⟩]
  finished := true

/-- One beam is kept, and the token 0 ends a beam. -/
def narrowRule : BeamRule := ⟨⟨some 0, .one⟩, 1, some 0⟩

def tenRoot : BeamSequence := { tokens := [10] }

/-- Each step offers the token that ends a beam and one other. -/
def tenResults : List (List Generation) := [[resultOn [0, 11]], [resultOn [0, 12]]]

/-- A step that offers one beam the token that ends it and another one. -/
theorem advance_narrowRule {done go : BeamSequence} (hnew : h.expansions results = [done, go])
    (hdone : endsIn (some 0) done = true) (hgo : endsIn (some 0) go = false) :
    h.advance narrowRule results = ⟨[go], h.completed ++ [done]⟩ := by
  simp [advance, narrowRule, hnew, hdone, hgo]

theorem run_tenResults : ∃ s t u, run narrowRule tenRoot tenResults = ⟨[s], [t, u]⟩ ∧ u.tokens = [10, 11, 0] := by
  obtain ⟨t, go, hfirst, ht, hgo⟩ : ∃ t go, (start tenRoot).expansions [resultOn [0, 11]] = [t, go] ∧
      t.tokens = [10, 0] ∧ go.tokens = [10, 11] := ⟨_, _, rfl, rfl, rfl⟩
  obtain ⟨u, s, hsecond, hu, hs⟩ : ∃ u s, (⟨[go], [t]⟩ : Hypotheses).expansions [resultOn [0, 12]] = [u, s] ∧
      u.tokens = go.tokens ++ [0] ∧ s.tokens = go.tokens ++ [12] := ⟨_, _, rfl, rfl, rfl⟩
  rw [hgo] at hu hs
  refine ⟨s, t, u, ?_, hu⟩
  simp only [run, tenResults, List.foldl_cons, List.foldl_nil]
  rw [advance_narrowRule hfirst (by simp [endsIn, ht]) (by simp [endsIn, hgo])]
  exact advance_narrowRule hsecond (by simp [endsIn, hu]) (by simp [endsIn, hs])

/-- A search of two steps with two completed beams. -/
theorem tenResults_descend : ∃ s t u, run narrowRule tenRoot tenResults = ⟨[s], [t, u]⟩ ∧
    (∃ path, path.length = 2 ∧ Descends narrowRule tenRoot tenResults path s) ∧
    (∃ path, path.map (·.1) = [11, 0] ∧ Descends narrowRule tenRoot tenResults path u) := by
  obtain ⟨s, t, u, hrun, hu⟩ := run_tenResults
  have hroot : BeamSequence.ofPrompt (Scripted.Alphabet.tokenizer {}) (.ofTokens [10]) none = .ok tenRoot := rfl
  obtain ⟨_, _, hactive, hcompleted, _⟩ := beams_descend_from_prompt hroot narrowRule tenResults
  rw [hrun] at hactive hcompleted
  obtain ⟨j, path, _, _, hdescends⟩ := hcompleted u (by simp)
  refine ⟨s, t, u, hrun, hactive s (by simp), path, ?_, hdescends⟩
  have htokens := hdescends.tokens
  rw [hu] at htokens
  simpa [tenRoot] using htokens.symm

end Hypotheses

end BatchInference
