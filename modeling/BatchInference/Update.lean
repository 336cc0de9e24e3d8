import BatchInference.RequestId
import BatchInference.Prompt

/-!
What an engine reports about a request, and the views of pooled vectors that single tasks give to their callers.
-/

namespace BatchInference

structure Logprob where
  logprob : Binary32
  rank : Option Nat := none
  decodedToken : Option String := none
  deriving DecidableEq, Repr

/-- The candidates reported at one position: each token once, in rising order. -/
structure Candidates where
  entries : List (TokenId × Logprob)
  rising : entries.Pairwise (fun a b => a.1 < b.1)

namespace Candidates

def insertEntry (token : TokenId) (value : Logprob) :
    List (TokenId × Logprob) → List (TokenId × Logprob)
  | [] => [(token, value)]
  | e :: rest =>
    if token < e.1 then (token, value) :: e :: rest
    else if token = e.1 then (token, value) :: rest
    else e :: insertEntry token value rest

/-- Every token of the result was there before or is the new one. -/
theorem mem_insertEntry {token : TokenId} {value : Logprob} {l : List (TokenId × Logprob)}
    {e : TokenId × Logprob} (h : e ∈ insertEntry token value l) : e.1 = token ∨ e ∈ l := by
  induction l with
  | nil => simp_all [insertEntry]
  | cons d rest ih =>
    unfold insertEntry at h
    split at h
    · simp only [List.mem_cons] at h
      rcases h with rfl | rfl | h <;> simp_all
    · split at h
      · simp only [List.mem_cons] at h
        rcases h with rfl | h <;> simp_all
      · simp only [List.mem_cons] at h
        rcases h with rfl | h
        · simp
        · rcases ih h with h | h <;> simp_all

theorem insertEntry_rising {token : TokenId} {value : Logprob} {l : List (TokenId × Logprob)}
    (h : l.Pairwise (fun a b => a.1 < b.1)) :
    (insertEntry token value l).Pairwise (fun a b => a.1 < b.1) := by
  induction l with
  | nil => simp [insertEntry]
  | cons d rest ih =>
    rw [List.pairwise_cons] at h
    unfold insertEntry
    split
    · rename_i hlt
      refine List.pairwise_cons.2 ⟨?_, List.pairwise_cons.2 h⟩
      intro e he
      simp only [List.mem_cons] at he
      rcases he with rfl | he
      · exact hlt
      · exact UInt32.lt_trans hlt (h.1 e he)
    · split
      · rename_i heq
        exact List.pairwise_cons.2 ⟨fun e he => by simpa [heq] using h.1 e he, h.2⟩
      · rename_i hnlt hne
        refine List.pairwise_cons.2 ⟨?_, ih h.2⟩
        intro e he
        rcases mem_insertEntry he with he | he
        · rw [he]
          rw [UInt32.lt_iff_toNat_lt] at hnlt ⊢
          have : token.toNat ≠ d.1.toNat := fun hc => hne (UInt32.toNat.inj hc)
          omega
        · exact h.1 e he

def empty : Candidates := ⟨[], .nil⟩

/-- Reports a candidate, in place of one with the same token. -/
def insert (c : Candidates) (token : TokenId) (value : Logprob) : Candidates :=
  ⟨insertEntry token value c.entries, insertEntry_rising c.rising⟩

/-- Of several candidates with one token the last stays. -/
def ofList (l : List (TokenId × Logprob)) : Candidates :=
  l.foldl (fun c e => c.insert e.1 e.2) empty

def get? (c : Candidates) (token : TokenId) : Option Logprob := c.entries.lookup token

end Candidates

inductive FinishReason where
  | stop
  | length
  | abort
  deriving DecidableEq, Repr, Inhabited

/-- One completion of a generation request. -/
structure Completion where
  index : Nat
  text : String
  tokenIds : List TokenId
  cumulativeLogprob : Option Binary32
  /-- The candidates at each generated position, if they were asked for. -/
  logprobs : Option (List Candidates)
  finishReason : Option FinishReason

structure Generation where
  id : RequestId
  prompt : Option String
  promptTokenIds : List TokenId
  outputs : List Completion
  finished : Bool

namespace Generation

def numInputTokens (g : Generation) : Nat := g.promptTokenIds.length * g.outputs.length

def numOutputTokens (g : Generation) : Nat := (g.outputs.flatMap (·.tokenIds)).length

end Generation

structure Pooled where
  id : RequestId
  promptTokenIds : List TokenId
  data : List Binary32
  finished : Bool

inductive OutputSort where
  | generation
  | pooled
  deriving DecidableEq, Repr

def OutputSort.name : OutputSort → String
  | .generation => "RequestOutput"
  | .pooled => "PoolingRequestOutput"

/-- A status update on one request. One that is finished is the last. -/
inductive Update where
  | generation (output : Generation)
  | pooled (output : Pooled)

namespace Update

def id : Update → RequestId
  | .generation g => g.id
  | .pooled p => p.id

def finished : Update → Bool
  | .generation g => g.finished
  | .pooled p => p.finished

def sort : Update → OutputSort
  | .generation _ => .generation
  | .pooled _ => .pooled

end Update

structure Embedding where
  id : RequestId
  promptTokenIds : List TokenId
  embedding : List Binary32
  deriving DecidableEq, Repr

def Pooled.toEmbedding (p : Pooled) : Embedding := ⟨p.id, p.promptTokenIds, p.data⟩

/-- A pooled vector as the probabilities of classes. -/
structure Classification where
  id : RequestId
  promptTokenIds : List TokenId
  probs : List Binary32
  deriving DecidableEq, Repr

def Classification.numClasses (c : Classification) : Nat := c.probs.length

def Pooled.toClassification (p : Pooled) : Classification := ⟨p.id, p.promptTokenIds, p.data⟩

/-- Similarity of a pair of texts. -/
structure PairScore where
  /-- The id of the request, or the ids of the two requests joined by an underscore. -/
  id : String
  promptTokenIds : List TokenId
  score : Binary32
  deriving DecidableEq, Repr

end BatchInference
