import PredicateDispatch.Proofs.Hierarchy.Growth
import PredicateDispatch.Proofs.Resolution.Ranking

/-!
# What a link leaves to select from

A link matters to a call only if an argument has the type of the child or one
below it.  For all other arguments the same signatures accept them, at the same
distances, so that the candidates stay the same, and with them whatever is
decided by the candidates: the choice, that there is none, and the ties.
-/

namespace PredicateDispatch.Hierarchy

/-! ## Candidates decide -/

theorem resolve_eq_of_candidates_eq {hierarchy hierarchy' : Hierarchy}
    {metric : Metric} {signatures signatures' : List Signature}
    {actual : Signature}
    (hcandidates : hierarchy'.candidates metric actual 0 signatures' =
      hierarchy.candidates metric actual 0 signatures) :
    hierarchy'.resolve metric signatures' actual =
      hierarchy.resolve metric signatures actual :=
  congrArg (fun candidates => Resolution.ofRanked (sortCandidates candidates))
    hcandidates

theorem mem_candidatesBy_of_tied {hierarchy : Hierarchy}
    {total : Signature → Signature → ℕ} {signatures : List Signature} {actual : Signature} {tied : List Candidate}
    (hresolve : hierarchy.resolveBy total signatures actual = .ambiguous tied)
    {candidate : Candidate} (hmem : candidate ∈ tied) :
    candidate ∈ hierarchy.candidatesBy total actual 0 signatures := by
  apply mem_rankBy_iff.mp
  rw [resolveBy] at hresolve
  cases hrank : hierarchy.rankBy total signatures actual with
  | nil => simp [hrank, Resolution.ofRanked] at hresolve
  | cons best rest =>
      rw [hrank, Resolution.ofRanked] at hresolve
      split at hresolve
      · cases hresolve
      · obtain rfl := Resolution.ambiguous.inj hresolve
        exact List.cons_subset_cons best (List.takeWhile_subset _) hmem

/-- Of a declared type only its number counts. -/
theorem accepts_congr_left (hierarchy : Hierarchy) {left right : Signature}
    (hids : Signature.ids left = Signature.ids right) (actual : Signature) :
    hierarchy.accepts left actual = hierarchy.accepts right actual := by
  induction left generalizing right actual with
  | nil =>
      obtain rfl : right = [] := List.map_eq_nil_iff.mp hids.symm
      rfl
  | cons head rest ih =>
      cases right with
      | nil => cases hids
      | cons head' rest' =>
          obtain ⟨hhead, hrest⟩ := List.cons.inj hids
          cases actual with
          | nil => rfl
          | cons type others =>
              rw [accepts, accepts, ih hrest, hierarchy.isA_congr_left hhead]

theorem accepts_singleton_of_apart {hierarchy : Hierarchy} {child : Predicate}
    {actual : Signature}
    (hapart : ∀ type ∈ actual, hierarchy.isA child type = false) :
    hierarchy.accepts [child] actual = false := by
  cases actual with
  | nil => rfl
  | cons type others =>
      rw [accepts, hapart type List.mem_cons_self]
      rfl

/-! ## One link -/

section Link

variable {hierarchy linked : Hierarchy} {parent child : Predicate}
  (hlink : hierarchy.link parent child = .ok linked)
  (hcoherent : hierarchy.Coherent)
include hlink hcoherent

theorem accepts_link_of_apart {declared actual : Signature}
    (hapart : ∀ type ∈ actual, hierarchy.isA child type = false) :
    linked.accepts declared actual = hierarchy.accepts declared actual := by
  induction declared generalizing actual with
  | nil => cases actual <;> rfl
  | cons head rest ih =>
      cases actual with
      | nil => rfl
      | cons type others =>
          obtain ⟨htype, hothers⟩ := List.forall_mem_cons.mp hapart
          rw [accepts, accepts, isA_link_of_apart hlink hcoherent htype,
            ih hothers]

theorem totalDistance_link_of_apart (metric : Metric)
    {declared actual : Signature}
    (hapart : ∀ type ∈ actual, hierarchy.isA child type = false)
    (haccepts : hierarchy.accepts declared actual = true) :
    linked.totalDistance metric declared actual =
      hierarchy.totalDistance metric declared actual := by
  induction declared generalizing actual with
  | nil => cases actual <;> rfl
  | cons head rest ih =>
      cases actual with
      | nil => rfl
      | cons type others =>
          obtain ⟨htype, hothers⟩ := List.forall_mem_cons.mp hapart
          obtain ⟨habove, hrest⟩ := Bool.and_eq_true_iff.mp haccepts
          rw [totalDistance, totalDistance, ih hothers hrest,
            distance_link_of_apart hlink hcoherent htype metric habove]

theorem candidates_link_of_apart (metric : Metric) {actual : Signature}
    (hapart : ∀ type ∈ actual, hierarchy.isA child type = false) (start : ℕ)
    (signatures : List Signature) :
    linked.candidates metric actual start signatures =
      hierarchy.candidates metric actual start signatures :=
  candidatesBy_congr
    (fun _ _ => accepts_link_of_apart hlink hcoherent hapart)
    (fun _ _ => totalDistance_link_of_apart hlink hcoherent metric hapart) start

end Link

end PredicateDispatch.Hierarchy
