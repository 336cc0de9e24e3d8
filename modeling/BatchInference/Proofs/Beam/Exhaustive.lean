import BatchInference.Proofs.Beam.Generated
import BatchInference.Proofs.Beam.Independence
import BatchInference.Proofs.Beam.Tree
import BatchInference.Proofs.Scripted.Shown

/-!
Wide searches leave nothing out. As long as no more sequences are found than are kept, a step loses nothing: what was
completed, together with the leaves below the active beams, stays the same from step to step. A search that keeps as
many beams as its tree has nodes therefore returns the leaves of the tree, each of them once.
-/

namespace BatchInference

/-- A sequence as it is told by its tokens and the sum of its log-probabilities. -/
def BeamSequence.told (s : BeamSequence) : List TokenId × Binary32 := (s.tokens, s.cumLogprob)

/-- What a path makes of a sequence: its tokens follow, and its log-probabilities are added in order. -/
def BeamSequence.follow (s : BeamSequence) (path : List (TokenId × Logprob)) : List TokenId × Binary32 :=
  (s.tokens ++ path.map (·.1), path.foldl (fun sum e => sum + e.2.logprob) s.cumLogprob)

theorem BeamSequence.follow_cons (s : BeamSequence) (e : TokenId × Logprob) (path : List (TokenId × Logprob))
    (position : Candidates) : s.follow (e :: path) = (s.extend e.1 e.2.logprob position).follow path := by
  simp [follow, extend]

namespace SearchTree

open Hypotheses

variable {t : SearchTree} {s : BeamSequence} {g : Generation} {depth : Nat}

/-- The leaves of the tree below a sequence, as they are told. -/
def found (t : SearchTree) (depth : Nat) (s : BeamSequence) : List (List TokenId × Binary32) :=
  (t.leaves depth s.tokens).map s.follow

theorem found_zero : t.found 0 s = [s.told] := by
  simp [found, leaves_zero, BeamSequence.follow, BeamSequence.told]

theorem extensions_eq (hposition : position? g = t.reported s.tokens) : ∃ position,
    extensions s g = (t.branches s.tokens).map fun e => s.extend e.1 e.2.logprob position := by
  unfold extensions branches
  rw [hposition]
  cases t.reported s.tokens with
  | none => exact ⟨.ofList [], rfl⟩
  | some position => exact ⟨position, rfl⟩

/-- The leaves below a sequence are its ended extensions and the leaves below the others. -/
theorem found_succ (hposition : position? g = t.reported s.tokens) :
    t.found (depth + 1) s = (extensions s g).flatMap fun x =>
      if endsIn t.stopToken x then [x.told] else t.found depth x := by
  obtain ⟨position, hextensions⟩ := extensions_eq hposition
  rw [found, leaves_succ, hextensions, List.map_flatMap, List.flatMap_map]
  congr 1
  funext e
  by_cases hstop : t.stopToken = some e.1
  · rw [if_pos hstop, if_pos (endsIn_extend.mpr hstop)]
    simp [BeamSequence.follow, BeamSequence.told, BeamSequence.extend]
  · rw [if_neg hstop, if_neg fun hends => hstop (endsIn_extend.mp hends), List.map_map]
    simp only [found, Function.comp_def, s.follow_cons _ _ position, BeamSequence.extend]

theorem length_nodes_succ (hposition : position? g = t.reported s.tokens) :
    (t.nodes (depth + 1) s.tokens).length = ((extensions s g).flatMap fun x =>
      if endsIn t.stopToken x then [[]] else t.nodes depth x.tokens).length + 1 := by
  obtain ⟨position, hextensions⟩ := extensions_eq hposition
  rw [nodes, List.length_cons, hextensions, List.flatMap_map, List.length_flatMap, List.length_flatMap]
  congr 3
  funext e
  rw [List.length_map]
  by_cases hstop : t.stopToken = some e.1
  · rw [if_pos hstop, if_pos (endsIn_extend.mpr hstop)]
  · rw [if_neg hstop, if_neg fun hends => hstop (endsIn_extend.mp hends)]
    rfl

/-- There are at least as many nodes below sequences as there are sequences. -/
theorem length_le_nodes (ss : List BeamSequence) : ss.length ≤ (ss.flatMap fun s => t.nodes depth s.tokens).length := by
  have hpos : ∀ k ∈ ss.map fun s => (t.nodes depth s.tokens).length, 1 ≤ k := by
    intro k hk
    obtain ⟨s, _, rfl⟩ := List.mem_map.mp hk
    exact length_nodes_pos
  have hsum := List.length_le_sum_of_one_le _ hpos
  rwa [List.length_map, ← List.length_flatMap] at hsum

theorem nodup_found : ((t.found depth s).map Prod.fst).Nodup := by
  rw [found, List.map_map, List.Nodup, List.pairwise_map]
  refine (List.pairwise_map.mp nodup_leaves).imp ?_
  intro path path' hne heq
  exact hne (List.append_cancel_left heq)

end SearchTree

namespace Hypotheses

variable {rule : BeamRule} {t : SearchTree} {shown : BeamSequence → Generation} {root : BeamSequence}
  {h : Hypotheses} {n : Nat}

/-- What all active beams become by the candidates they are shown. -/
def offspring (shown : BeamSequence → Generation) (h : Hypotheses) : List BeamSequence :=
  h.active.flatMap fun s => extensions s (shown s)

theorem expansions_told : h.expansions (h.active.map shown) = h.offspring shown := by
  unfold expansions offspring
  induction h.active with
  | nil => rfl
  | cons s rest ih => rw [List.map_cons, List.zip_cons_cons, List.flatMap_cons, List.flatMap_cons, ih]

theorem active_alone : (alone rule shown h).active =
    rule.ranking.keepBest rule.width ((h.offspring shown).filter (!endsIn rule.stopToken ·)) := by
  rw [alone, advance, expansions_told]

theorem completed_alone : (alone rule shown h).completed =
    h.completed ++ (h.offspring shown).filter (endsIn rule.stopToken) := by
  rw [alone, advance, expansions_told]

/-- A search from this root goes down the tree: its beams are shown what the tree reports, and the token that ends a
sequence of the tree is the one that ends a beam. -/
structure Explores (rule : BeamRule) (shown : BeamSequence → Generation) (t : SearchTree) (root : BeamSequence) :
    Prop where
  stopToken : rule.stopToken = t.stopToken
  shows {s : BeamSequence} : s.lora = root.lora → s.companions = root.companions →
    position? (shown s) = t.reported s.tokens

/-- The active beams go back to the root, and there are places for everything that has been completed and for all
nodes of the tree below the active beams. -/
structure HasPlaces (rule : BeamRule) (t : SearchTree) (root : BeamSequence) (n : Nat) (h : Hypotheses) : Prop where
  stems : ∀ s ∈ h.active, s.lora = root.lora ∧ s.companions = root.companions
  places : h.completed.length + (h.active.flatMap fun s => t.nodes n s.tokens).length ≤ rule.width

theorem HasPlaces.position_eq (hplaces : HasPlaces rule t root n h) (hexplores : Explores rule shown t root)
    {s : BeamSequence} (hs : s ∈ h.active) : position? (shown s) = t.reported s.tokens := by
  obtain ⟨hlora, hcompanions⟩ := hplaces.stems s hs
  exact hexplores.shows hlora hcompanions

/-- What is made of the elements that pass a test stands beside what is made of the others. -/
theorem flatMap_ite_perm {α β : Type} (p : α → Bool) (one : α → β) (more : α → List β) (l : List α) :
    (l.flatMap fun x => if p x then [one x] else more x).Perm
      ((l.filter p).map one ++ (l.filter (!p ·)).flatMap more) := by
  induction l with
  | nil => exact .refl _
  | cons x rest ih =>
    rw [List.flatMap_cons]
    cases hp : p x with
    | true =>
      rw [List.filter_cons_of_pos hp, List.filter_cons_of_neg (by simp [hp])]
      exact ih.cons (one x)
    | false =>
      rw [List.filter_cons_of_neg (by simp [hp]), List.filter_cons_of_pos (by simp [hp]), List.flatMap_cons]
      exact (ih.append_left (more x)).trans (List.perm_append_comm_assoc _ _ _)

/-- What a step brings forth and the nodes below it are fewer than the nodes below the beams it finds. -/
theorem HasPlaces.length_offspring (hplaces : HasPlaces rule t root (n + 1) h)
    (hexplores : Explores rule shown t root) :
    ((h.offspring shown).filter (endsIn t.stopToken)).length +
      (((h.offspring shown).filter (!endsIn t.stopToken ·)).flatMap fun s => t.nodes n s.tokens).length ≤
    (h.active.flatMap fun s => t.nodes (n + 1) s.tokens).length := by
  have hsplit := (flatMap_ite_perm (endsIn t.stopToken) (fun _ => []) (fun s => t.nodes n s.tokens)
    (h.offspring shown)).length_eq
  rw [List.length_append, List.length_map] at hsplit
  rw [← hsplit, offspring, List.flatMap_assoc, List.length_flatMap, List.length_flatMap]
  apply List.sum_le_sum
  intro s hs
  rw [SearchTree.length_nodes_succ (hplaces.position_eq hexplores hs)]
  exact Nat.le_succ _

/-- As there are places for all, a step goes on with everything that has not ended. -/
theorem HasPlaces.active_perm (hplaces : HasPlaces rule t root (n + 1) h) (hexplores : Explores rule shown t root) :
    (alone rule shown h).active.Perm ((h.offspring shown).filter (!endsIn t.stopToken ·)) := by
  have hnodes := hplaces.length_offspring hexplores
  have hcount : ((h.offspring shown).filter (!endsIn t.stopToken ·)).length ≤
      (((h.offspring shown).filter (!endsIn t.stopToken ·)).flatMap fun s => t.nodes n s.tokens).length :=
    SearchTree.length_le_nodes _
  have hroom := hplaces.places
  rw [active_alone, hexplores.stopToken]
  apply BeamRanking.keepBest_perm
  omega

theorem HasPlaces.alone (hplaces : HasPlaces rule t root (n + 1) h) (hexplores : Explores rule shown t root) :
    HasPlaces rule t root n (alone rule shown h) where
  stems := by
    intro s hs
    have hmem := List.mem_of_mem_filter (BeamRanking.mem_of_mem_keepBest (active_alone ▸ hs))
    obtain ⟨beam, hbeam, hs⟩ := List.mem_flatMap.mp hmem
    obtain ⟨_, _, _, _, rfl⟩ := mem_extensions.mp hs
    exact hplaces.stems beam hbeam
  places := by
    have hnodes := hplaces.length_offspring hexplores
    have hactive := (hplaces.active_perm hexplores).flatMap_right fun s => t.nodes n s.tokens
    have hroom := hplaces.places
    rw [completed_alone, hexplores.stopToken, List.length_append, hactive.length_eq]
    omega

/-- As there are places for all, the steps that are left bring together the leaves below the active beams. -/
theorem HasPlaces.pool_perm (hplaces : HasPlaces rule t root n h) (hexplores : Explores rule shown t root) :
    (((Hypotheses.alone rule shown)^[n] h).pool.map (·.told)).Perm
      (h.completed.map (·.told) ++ h.active.flatMap (t.found n)) := by
  induction n generalizing h with
  | zero =>
    have hfound : h.active.flatMap (t.found 0) = h.active.map (·.told) := by
      rw [List.map_eq_flatMap]
      exact List.flatMap_congr fun s _ => SearchTree.found_zero
    rw [Function.iterate_zero, id, pool, List.map_append, hfound]
  | succ n ih =>
    -- the leaves below the beams of this step are what it completes and the leaves below the beams of the next
    have hbelow : h.active.flatMap (t.found (n + 1)) = (h.offspring shown).flatMap fun x =>
        if endsIn t.stopToken x then [x.told] else t.found n x := by
      rw [offspring, List.flatMap_assoc]
      exact List.flatMap_congr fun s hs => SearchTree.found_succ (hplaces.position_eq hexplores hs)
    have hsplit := flatMap_ite_perm (endsIn t.stopToken) (·.told) (t.found n) (h.offspring shown)
    have hactive := (hplaces.active_perm hexplores).flatMap_right (t.found n)
    have hrest := ih (hplaces.alone hexplores)
    rw [completed_alone, hexplores.stopToken, List.map_append, List.append_assoc] at hrest
    rw [Function.iterate_succ_apply, hbelow]
    exact hrest.trans ((hactive.append_left _).trans hsplit.symm |>.append_left _)

/-- These sequences are the leaves of the tree below the root, each once, and stand best first. They are those to
which a path leads that ends in the token that ends a sequence, at any depth, or goes down to the lowest depth. -/
structure Exhausts (rule : BeamRule) (t : SearchTree) (depth : Nat) (root : BeamSequence) (best : List BeamSequence) :
    Prop where
  leaves : (best.map (·.told)).Perm ((t.leaves depth root.tokens).map root.follow)
  told_iff {tokens : List TokenId} {sum : Binary32} : (tokens, sum) ∈ best.map (·.told) ↔
    ∃ path, t.Leads root.tokens path ∧ (t.ended path = true ∧ path.length ≤ depth ∨ path.length = depth) ∧
      root.follow path = (tokens, sum)
  distinct : (best.map (·.tokens)).Nodup
  best_first : best.Pairwise fun a b => rule.ranking.before a b = true

/-- A search that keeps as many beams as its tree has nodes finds the leaves of the tree by itself. -/
theorem exhausts_alone {tokenizer : Tokenizer} (hexplores : Explores rule shown t root)
    (hwide : (t.nodes n root.tokens).length ≤ rule.width) :
    Exhausts rule t n root (((alone rule shown)^[n] ⟨[root], []⟩).finish rule tokenizer) := by
  have hplaces : HasPlaces rule t root n ⟨[root], []⟩ := by
    refine ⟨?_, ?_⟩
    · intro s hs
      cases List.mem_singleton.mp hs
      exact ⟨rfl, rfl⟩
    · simpa using hwide
  have hpool := hplaces.pool_perm hexplores
  rw [List.map_nil, List.nil_append, List.flatMap_singleton] at hpool
  have hlength := hpool.length_eq
  rw [List.length_map, SearchTree.found, List.length_map] at hlength
  have hfew : (t.leaves n root.tokens).length ≤ (t.nodes n root.tokens).length := SearchTree.length_leaves_le
  have hroom : ((alone rule shown)^[n] ⟨[root], []⟩).pool.length ≤ rule.width := by omega
  have hkept : (rule.ranking.keepBest rule.width ((alone rule shown)^[n] ⟨[root], []⟩).pool).Perm _ :=
    BeamRanking.keepBest_perm hroom
  have hleaves := (hkept.map (·.told)).trans hpool
  refine ⟨?_, ?_, ?_, List.pairwise_map.mpr BeamRanking.pairwise_keepBest⟩
  · rw [finish, List.map_map]
    exact hleaves
  · intro tokens sum
    rw [finish, List.map_map]
    refine hleaves.mem_iff.trans ?_
    simp only [SearchTree.found, List.mem_map, SearchTree.mem_leaves, and_assoc]
  · rw [finish, List.map_map]
    have htokens := hleaves.map Prod.fst
    rw [List.map_map] at htokens
    exact htokens.nodup_iff.mpr SearchTree.nodup_found

end Hypotheses

/-- An update that shows, on a request that continues a beam, what is reported after the prompt of the request under
its adapter, and is on the request. -/
def Update.Reports (params : BeamParams) (reported : Prompt → Option LoraAdapter → Option Candidates) (r : Request)
    (u : Update) : Prop :=
  u.id = r.id ∧ ∀ beam, r.toPendingRequest = beamRequest params beam →
    ∃ g, u = .generation g ∧ Hypotheses.position? g = reported beam.toPrompt beam.lora

namespace Service

open Hypotheses

variable {σ : Type} {svc : Service σ} {owes : σ → List Request → Prop} {core : Core σ} {params : BeamParams}
  {reported : Prompt → Option LoraAdapter → Option Candidates} {prompts : List Prompt}
  {lora : Broadcast (Option LoraAdapter)} {loras : List (Option LoraAdapter)} {starts : List BeamSequence}

/-- The sequence that a search for a prompt with an adapter starts from. -/
def rootOf (svc : Service σ) (p : Prompt × Option LoraAdapter) : BeamSequence where
  tokens := p.1.tokensBy svc.tokenizer
  lora := p.2
  companions := p.1.companions

/-- The tree below the root of a search. -/
def searchTree (svc : Service σ) (params : BeamParams)
    (reported : Prompt → Option LoraAdapter → Option Candidates) (root : BeamSequence) : SearchTree where
  reported tokens := reported (.tokens tokens none root.companions) root.lora
  stopToken := (svc.beamRule params).stopToken

/-- A result that shows these candidates. -/
def resultShowing (position : Option Candidates) : Generation where
  id := ⟨0⟩
  prompt := none
  promptTokenIds := []
  outputs := [⟨0, "", [], none, position.map ([·]), none⟩]
  finished := true

theorem position?_resultShowing (position : Option Candidates) : position? (resultShowing position) = position := by
  cases position <;> rfl

def shownBy (reported : Prompt → Option LoraAdapter → Option Candidates) (beam : BeamSequence) : Generation :=
  resultShowing (reported beam.toPrompt beam.lora)

theorem reports_showing : Update.Showing (Update.Reports params reported) params (shownBy reported) where
  id h := h.1
  shows beam h hr := by
    obtain ⟨g, hu, hposition⟩ := h.2 beam hr
    exact ⟨g, hu, hposition.trans (position?_resultShowing _).symm⟩

theorem explores_searchTree (svc : Service σ) (params : BeamParams)
    (reported : Prompt → Option LoraAdapter → Option Candidates) (root : BeamSequence) :
    Explores (svc.beamRule params) (shownBy reported) (svc.searchTree params reported root) root where
  stopToken := rfl
  shows {s} hlora hcompanions := by
    rw [shownBy, position?_resultShowing, BeamSequence.toPrompt, hlora, hcompanions]
    rfl

theorem starts_eq_map {l : List (Prompt × Option LoraAdapter)}
    (h : List.Forall₂ (fun p start => BeamSequence.ofPrompt svc.tokenizer p.1 p.2 = .ok start) l starts) :
    starts = l.map svc.rootOf := by
  induction h with
  | nil => rfl
  | cons hstart _ ih => rw [List.map_cons, ← ih, BeamSequence.ofPrompt_eq_ok hstart, rootOf]

/-- On an idle and reliable engine that reports on a beam what depends on nothing but its tokens, its companions and
its adapter, a search that keeps as many beams as the tree of each prompt has nodes finds for every prompt the leaves
of its tree. -/
theorem wide_search_exhaustive (hrunner : svc.model.runner = .generate)
    (hreliable : svc.engine.Reliable (Update.Reports params reported) owes) (hidle : owes core.engine [])
    (hparams : params.verify = .ok ()) (hprompts : ∀ p ∈ prompts, ∀ rows, p ≠ .embeds rows)
    (hlora : lora.resolve "lora_request" prompts.length = .ok loras)
    (hroom : svc.HasRoomFor params prompts lora core)
    (hwide : ∀ p ∈ prompts.zip loras, ((svc.searchTree params reported (svc.rootOf p)).nodes params.maxTokens
      (svc.rootOf p).tokens).length ≤ params.beamWidth) :
    ∃ found, svc.Finds params prompts lora core found ∧
      List.Forall₂ (fun p best => Exhausts (svc.beamRule params) (svc.searchTree params reported (svc.rootOf p))
        params.maxTokens (svc.rootOf p) best) (prompts.zip loras) found := by
  obtain ⟨starts, hstarts⟩ := exists_ofPrompt svc.tokenizer (l := prompts.zip loras) (by
    intro p hp
    exact hprompts p.1 (List.of_mem_zip hp).1)
  refine ⟨_, finds_of_showing hrunner hreliable reports_showing hidle hparams hlora hstarts hroom, ?_⟩
  rw [starts_eq_map hstarts, List.map_map, List.forall₂_map_right_iff, List.forall₂_same]
  intro p hp
  exact exhausts_alone (explores_searchTree svc params reported (svc.rootOf p)) (hwide p hp)

/-- A rehearsed engine reports on every beam what its answers show after the beam's tokens. -/
theorem reports_last {plan : Scripted.Plan} (hmistaken : plan.mistaken = []) (params : BeamParams) (r : Request) :
    Update.Reports params (plan.shown params) r (plan.last r) := by
  refine ⟨Scripted.Answers.id_update _ _ r _ _, ?_⟩
  intro beam hr
  have hparams : r.params = .sampling params.samplingParams := congrArg PendingRequest.params hr
  refine ⟨plan.answers.generation plan.alphabet r params.samplingParams true, ?_,
    Scripted.Answers.position?_beamRequest hr true⟩
  simp only [Scripted.Plan.last, Scripted.Answers.update, hmistaken, hparams]
  rfl

/-- An engine that offers three tokens after the token 10, two after the token 11 and none after others. -/
def forkPlan : Scripted.Plan where
  answers :=
    { rules := [⟨.endsWith [10], [(11, .one), (13, .one), (0, .zero)]⟩, ⟨.endsWith [11], [(12, .one), (0, .zero)]⟩]
      offsets := [] }
  alphabet := {}

def forkService : Service Scripted.State := ⟨forkPlan.engine, Scripted.Alphabet.tokenizer {}, none⟩

def sixBeams : BeamParams := { beamWidth := 6, maxTokens := 2 }

def forkRoot : BeamSequence := forkService.rootOf (.ofTokens [10], none)

def forkTree : SearchTree := forkService.searchTree sixBeams (forkPlan.shown sixBeams) forkRoot

theorem branches_forkTree :
    forkTree.branches [10] = [(0, ⟨.zero, some 3, none⟩), (11, ⟨.one, some 1, none⟩), (13, ⟨.one, some 2, none⟩)] ∧
    forkTree.branches [10, 11] = [(0, ⟨.zero, some 2, none⟩), (12, ⟨.one, some 1, none⟩)] ∧
    forkTree.branches [10, 13] = [] := by
  have hten : forkPlan.answers.rules.find? (·.test.holds [10]) =
      some ⟨.endsWith [10], [(11, .one), (13, .one), (0, .zero)]⟩ := rfl
  have heleven : forkPlan.answers.rules.find? (·.test.holds [10, 11]) =
      some ⟨.endsWith [11], [(12, .one), (0, .zero)]⟩ := rfl
  have hnone : forkPlan.answers.ranked {} [10, 13] = [] := List.mergeSort_nil
  have hreported : ∀ tokens, forkTree.reported tokens = forkPlan.answers.shown {} 12 tokens := fun _ => rfl
  refine ⟨?_, ?_, ?_⟩
  · rw [SearchTree.branches, hreported, Scripted.Answers.shown,
      Scripted.Answers.ranked_of_rule hten (by decide)]
    rfl
  · rw [SearchTree.branches, hreported, Scripted.Answers.shown,
      Scripted.Answers.ranked_of_rule heleven (by decide)]
    rfl
  · rw [SearchTree.branches, hreported, Scripted.Answers.shown, hnone]
    rfl

theorem nodes_forkTree : ((forkTree.nodes 2 forkRoot.tokens).map fun path => path.map (·.1)) =
    [[], [0], [11], [11, 0], [11, 12], [13]] := by
  obtain ⟨hten, heleven, hthirteen⟩ := branches_forkTree
  have hstop : forkTree.stopToken = some 0 := rfl
  have hroot : forkRoot.tokens = [10] := rfl
  simp [SearchTree.nodes, hroot, hstop, hten, heleven, hthirteen]

theorem leaves_forkTree : forkTree.leaves 2 forkRoot.tokens =
    [[(0, ⟨.zero, some 3, none⟩)], [(11, ⟨.one, some 1, none⟩), (0, ⟨.zero, some 2, none⟩)],
      [(11, ⟨.one, some 1, none⟩), (12, ⟨.one, some 1, none⟩)]] := by
  obtain ⟨hten, heleven, hthirteen⟩ := branches_forkTree
  have hstop : forkTree.stopToken = some 0 := rfl
  have hroot : forkRoot.tokens = [10] := rfl
  simp [SearchTree.leaves_succ, SearchTree.leaves_zero, hroot, hstop, hten, heleven, hthirteen]

theorem told_leaves_forkTree : (forkTree.leaves 2 forkRoot.tokens).map forkRoot.follow =
    [([10, 0], .zero), ([10, 11, 0], .one), ([10, 11, 12], .ofNat 2)] := by
  rw [leaves_forkTree]
  decide

def forkCore : Core Scripted.State := ⟨{}, ⟨0⟩, none⟩

/-- A search that keeps six beams finds the three leaves of a tree with six nodes, one of which has nothing below it. -/
theorem forkService_exhaustive : ∃ best,
    forkService.Finds sixBeams [.ofTokens [10]] (.one none) forkCore [best] ∧
    (best.map (·.told)).Perm [([10, 0], .zero), ([10, 11, 0], .one), ([10, 11, 12], .ofNat 2)] := by
  have hparams : sixBeams.verify = .ok () := rfl
  have hreliable : forkService.engine.Reliable (Update.Reports sixBeams (forkPlan.shown sixBeams)) Scripted.Plan.Owes :=
    Scripted.Plan.Faithful.reliable ⟨rfl, rfl, rfl⟩ rfl rfl (reports_last rfl sixBeams)
  have hidle : Scripted.Plan.Owes forkCore.engine [] := ⟨.refl _, fun _ h => nomatch h⟩
  have hprompts : ∀ p ∈ [Prompt.ofTokens [10]], ∀ rows, p ≠ .embeds rows := by
    intro p hp rows
    cases List.mem_singleton.mp hp
    nofun
  have hlora : (Broadcast.one (none : Option LoraAdapter)).resolve "lora_request" 1 = .ok [none] := rfl
  have hwide : ∀ p ∈ [(Prompt.ofTokens [10], (none : Option LoraAdapter))],
      ((forkService.searchTree sixBeams (forkPlan.shown sixBeams) (forkService.rootOf p)).nodes 2
        (forkService.rootOf p).tokens).length ≤ 6 := by
    intro p hp
    cases List.mem_singleton.mp hp
    have hnodes := congrArg List.length nodes_forkTree
    rw [List.length_map] at hnodes
    exact Nat.le_of_eq hnodes
  obtain ⟨found, hfound, hexhausts⟩ := wide_search_exhaustive rfl hreliable hidle hparams hprompts hlora
    (hasRoomFor_of_le hparams (by decide)) hwide
  obtain ⟨best, rest, hbest, hrest, rfl⟩ := List.forall₂_cons_left_iff.mp hexhausts
  cases hrest
  refine ⟨best, hfound, ?_⟩
  rw [← told_leaves_forkTree]
  exact hbest.leaves

end Service

end BatchInference
