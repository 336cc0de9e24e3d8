import BatchInference.Proofs.Beam.Lineage

/-!
The tree of all sequences that could be generated after a prompt. Below a sequence stand those with one more of the
tokens reported for it, unless the sequence ends in the token that ends sequences; the root is followed in any case,
as the prompt may end in that token. Places in the tree are told by the paths that lead to them.
-/

namespace BatchInference

/-- What is reported after every sequence of tokens, if anything is, and the token that ends a sequence, if one
does. -/
structure SearchTree where
  reported : List TokenId → Option Candidates
  stopToken : Option TokenId

namespace SearchTree

variable {t : SearchTree} {tokens : List TokenId} {path : List (TokenId × Logprob)} {e : TokenId × Logprob}
  {depth : Nat}

/-- The tokens that may follow a sequence, with their log-probabilities. -/
def branches (t : SearchTree) (tokens : List TokenId) : List (TokenId × Logprob) :=
  (t.reported tokens).elim [] (·.entries)

/-- Every token of the path is one of those reported after the tokens before it, and none but the last is the one that
ends a sequence. -/
inductive Leads (t : SearchTree) : List TokenId → List (TokenId × Logprob) → Prop
  | here {tokens : List TokenId} : Leads t tokens []
  | stop {tokens : List TokenId} {e : TokenId × Logprob} (he : e ∈ t.branches tokens)
      (hstop : t.stopToken = some e.1) : Leads t tokens [e]
  | step {tokens : List TokenId} {e : TokenId × Logprob} {path : List (TokenId × Logprob)}
      (he : e ∈ t.branches tokens) (hgoes : t.stopToken ≠ some e.1) (rest : Leads t (tokens ++ [e.1]) path) :
      Leads t tokens (e :: path)

/-- The paths to all nodes of the tree below a sequence, down to a depth; the first is the one to the sequence
itself. -/
def nodes (t : SearchTree) : (depth : Nat) → List TokenId → List (List (TokenId × Logprob))
  | 0, _ => [[]]
  | depth + 1, tokens =>
    [] :: (t.branches tokens).flatMap fun e =>
      (if t.stopToken = some e.1 then [[]] else t.nodes depth (tokens ++ [e.1])).map (e :: ·)

theorem length_nodes_pos : 0 < (t.nodes depth tokens).length := by
  cases depth with
  | zero => exact Nat.one_pos
  | succ depth => exact Nat.succ_pos _

/-- The nodes are those to which a path of at most so many tokens leads. -/
theorem mem_nodes : path ∈ t.nodes depth tokens ↔ t.Leads tokens path ∧ path.length ≤ depth := by
  induction depth generalizing tokens path with
  | zero =>
    rw [nodes, List.mem_singleton, Nat.le_zero, List.length_eq_zero_iff]
    constructor
    · rintro rfl
      exact ⟨.here, rfl⟩
    · exact And.right
  | succ depth ih =>
    simp only [nodes, List.mem_cons, List.mem_flatMap, List.mem_map]
    constructor
    · rintro (rfl | ⟨e, he, rest, hrest, rfl⟩)
      · exact ⟨.here, Nat.zero_le _⟩
      · split at hrest
        case isTrue hstop =>
          cases List.mem_singleton.mp hrest
          exact ⟨.stop he hstop, Nat.succ_le_succ (Nat.zero_le depth)⟩
        case isFalse hgoes =>
          obtain ⟨hleads, hlength⟩ := ih.mp hrest
          exact ⟨.step he hgoes hleads, Nat.succ_le_succ hlength⟩
    · rintro ⟨hleads, hlength⟩
      cases hleads with
      | here => exact .inl rfl
      | @stop _ e he hstop =>
        refine .inr ⟨e, he, [], ?_, rfl⟩
        rw [if_pos hstop]
        exact List.mem_cons_self
      | @step _ e rest he hgoes hrest =>
        refine .inr ⟨e, he, rest, ?_, rfl⟩
        rw [if_neg hgoes]
        exact ih.mpr ⟨hrest, Nat.le_of_succ_le_succ hlength⟩

theorem nodup_branches : ((t.branches tokens).map (·.1)).Nodup := by
  unfold branches
  cases t.reported tokens with
  | none => exact .nil
  | some position => exact position.nodup_tokens

/-- No two nodes have the same tokens, so that there are as many nodes as sequences in the tree. -/
theorem nodup_nodes : ((t.nodes depth tokens).map fun path => path.map (·.1)).Nodup := by
  induction depth generalizing tokens with
  | zero => exact List.nodup_singleton _
  | succ depth ih =>
    rw [nodes, List.map_cons, List.nodup_cons]
    constructor
    · simp
    · rw [List.Nodup, List.pairwise_map, List.pairwise_flatMap]
      constructor
      · -- below one branch all paths begin with the same token
        intro e _
        have hbelow : ((if t.stopToken = some e.1 then [[]] else t.nodes depth (tokens ++ [e.1])).map
            fun path => path.map (·.1)).Nodup := by
          split
          · exact List.nodup_singleton _
          · exact ih
        rw [List.pairwise_map]
        refine (List.pairwise_map.mp hbelow).imp ?_
        intro path path' hne heq
        exact hne (List.cons_inj_right _ |>.mp heq)
      · refine (List.pairwise_map.mp nodup_branches).imp ?_
        intro e e' hne path hpath path' hpath' heq
        obtain ⟨rest, _, rfl⟩ := List.mem_map.mp hpath
        obtain ⟨rest', _, rfl⟩ := List.mem_map.mp hpath'
        exact hne (List.cons.inj heq).1

/-! The sequences that a search looks for. -/

/-- The path ends in the token that ends a sequence. -/
def ended (t : SearchTree) (path : List (TokenId × Logprob)) : Bool :=
  path.getLast?.any fun e => t.stopToken = some e.1

theorem ended_singleton : t.ended [e] = decide (t.stopToken = some e.1) := rfl

theorem ended_cons (hgoes : t.stopToken ≠ some e.1) : t.ended (e :: path) = t.ended path := by
  cases path with
  | nil => simpa [ended] using hgoes
  | cons e' rest => rw [ended, List.getLast?_cons_cons, ended]

/-- The nodes that have ended, and those at the lowest depth. -/
def leaves (t : SearchTree) (depth : Nat) (tokens : List TokenId) : List (List (TokenId × Logprob)) :=
  (t.nodes depth tokens).filter fun path => t.ended path || path.length == depth

theorem mem_leaves : path ∈ t.leaves depth tokens ↔
    t.Leads tokens path ∧ (t.ended path = true ∧ path.length ≤ depth ∨ path.length = depth) := by
  rw [leaves, List.mem_filter, mem_nodes, Bool.or_eq_true, beq_iff_eq]
  constructor
  · rintro ⟨⟨hleads, hlength⟩, hended | hlowest⟩
    · exact ⟨hleads, .inl ⟨hended, hlength⟩⟩
    · exact ⟨hleads, .inr hlowest⟩
  · rintro ⟨hleads, ⟨hended, hlength⟩ | hlowest⟩
    · exact ⟨⟨hleads, hlength⟩, .inl hended⟩
    · exact ⟨⟨hleads, Nat.le_of_eq hlowest⟩, .inr hlowest⟩

theorem leaves_zero : t.leaves 0 tokens = [[]] := rfl

/-- The leaves of a tree are those below its branches. -/
theorem leaves_succ : t.leaves (depth + 1) tokens = (t.branches tokens).flatMap fun e =>
    (if t.stopToken = some e.1 then [[]] else t.leaves depth (tokens ++ [e.1])).map (e :: ·) := by
  have hroot : t.ended [] = false := rfl
  rw [leaves, nodes, List.filter_cons_of_neg (by simp [hroot]), List.filter_flatMap]
  congr 1
  funext e
  split
  case isTrue hstop => simp [ended_singleton, hstop]
  case isFalse hgoes =>
    rw [List.filter_map, leaves]
    congr 2
    funext path
    simp [ended_cons hgoes]

theorem length_leaves_le : (t.leaves depth tokens).length ≤ (t.nodes depth tokens).length :=
  List.length_filter_le _ _

theorem nodup_leaves : ((t.leaves depth tokens).map fun path => path.map (·.1)).Nodup :=
  nodup_nodes.sublist (List.filter_sublist.map _)

end SearchTree

end BatchInference
