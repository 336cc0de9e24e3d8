import Mathlib.Data.List.Forall2
import Mathlib.Logic.Function.Iterate
import BatchInference.Beam.Hypotheses

/-!
The search of one prompt by itself, for a rule that tells every beam its candidates. In a step of several searches
at once every search does what it does by itself, whatever becomes of the others: only the candidates of its own
beams matter, in the order of its beams.
-/

namespace BatchInference.Hypotheses

variable {rule : BeamRule} {ask : BeamSequence → Generation} {h : Hypotheses} {hs : List Hypotheses}
  {results : List Generation}

/-- One step of one search, where every beam is given the candidates it asks for. -/
def alone (rule : BeamRule) (ask : BeamSequence → Generation) (h : Hypotheses) : Hypotheses :=
  h.advance rule (h.active.map ask)

/-- The results show each beam the candidates that it asks for. -/
def Tells (ask : BeamSequence → Generation) (beams : List BeamSequence) (results : List Generation) : Prop :=
  List.Forall₂ (fun beam result => position? result = position? (ask beam)) beams results

theorem alone_of_exhausted (hactive : h.active = []) : alone rule ask h = h := by
  cases h with
  | mk active completed =>
    subst hactive
    simp [alone, advance, expansions, BeamRanking.keepBest, BeamRanking.sorted]

theorem iterate_alone_of_exhausted (hactive : h.active = []) (n : Nat) : (alone rule ask)^[n] h = h :=
  Function.iterate_fixed (alone_of_exhausted hactive) n

theorem extensions_of_position {beam : BeamSequence} {g g' : Generation} (hposition : position? g = position? g') :
    extensions beam g = extensions beam g' := by
  rw [extensions, extensions, hposition]

theorem expansions_of_tells (htells : Tells ask h.active results) :
    h.expansions results = h.expansions (h.active.map ask) := by
  unfold expansions
  generalize h.active = beams at htells
  induction htells with
  | nil => rfl
  | cons hposition _ ih =>
    rw [List.map_cons, List.zip_cons_cons, List.zip_cons_cons, List.flatMap_cons, List.flatMap_cons, ih]
    exact congrArg (· ++ _) (extensions_of_position hposition)

/-- A step of several searches is a step of each by itself. -/
theorem advanceAll_of_tells (htells : Tells ask (hs.flatMap (·.active)) results) :
    advanceAll rule hs results = hs.map (alone rule ask) := by
  induction hs generalizing results with
  | nil => rfl
  | cons h rest ih =>
    rw [List.flatMap_cons] at htells
    have hfirst : Tells ask h.active (results.take h.active.length) := by
      have htake := List.forall₂_take h.active.length htells
      rwa [List.take_left] at htake
    have hrest : Tells ask (rest.flatMap (·.active)) (results.drop h.active.length) := by
      have hdrop := List.forall₂_drop h.active.length htells
      rwa [List.drop_left] at hdrop
    rw [advanceAll, ih hrest, List.map_cons]
    simp only [alone, advance, expansions_of_tells hfirst]

@[simp]
theorem length_advanceAll : (advanceAll rule hs results).length = hs.length := by
  induction hs generalizing results with
  | nil => rfl
  | cons h rest ih => rw [advanceAll, List.length_cons, List.length_cons, ih]

theorem exists_of_mem_advanceAll (hh : h ∈ advanceAll rule hs results) :
    ∃ g ∈ hs, ∃ given, h = g.advance rule given := by
  induction hs generalizing results with
  | nil => cases hh
  | cons g rest ih =>
    rcases List.mem_cons.mp hh with rfl | hrest
    · exact ⟨g, List.mem_cons_self, _, rfl⟩
    · obtain ⟨k, hk, given, rfl⟩ := ih hrest
      exact ⟨k, List.mem_cons_of_mem g hk, given, rfl⟩

theorem length_active_of_mem_advanceAll (hh : h ∈ advanceAll rule hs results) : h.active.length ≤ rule.width := by
  obtain ⟨_, _, _, rfl⟩ := exists_of_mem_advanceAll hh
  exact List.length_take_le _ _

theorem length_beams_le {width : Nat} (h : ∀ h ∈ hs, h.active.length ≤ width) :
    (hs.flatMap (·.active)).length ≤ hs.length * width := by
  induction hs with
  | nil => simp
  | cons g rest ih =>
    have hg := h g List.mem_cons_self
    have hrest := ih fun k hk => h k (List.mem_cons_of_mem g hk)
    rw [List.flatMap_cons, List.length_append, List.length_cons, Nat.add_mul]
    omega

end BatchInference.Hypotheses
