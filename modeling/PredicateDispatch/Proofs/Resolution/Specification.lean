import Mathlib.Algebra.GroupWithZero.Nat
import Mathlib.Data.List.Forall2
import PredicateDispatch.Proofs.Dispatch.Reachable
import PredicateDispatch.Proofs.Resolution.Nearest

/-!
# What a resolution is

Which signatures cover a call, and how far each one is, can be said without
ranking them.  Ranking is a stable sort, so that it lists exactly these
candidates by distance and then by position, and the nearest of them stand at
its front in the order of their positions.  A resolution is therefore determined
by the candidates alone: there is none, one is nearer than all others, or at
least two are nearest.

None of this depends on what the totals are.  It holds of the totals in 32 bits,
which are the sums of the distances modulo `totalLimit`, and of the sums
themselves, and the two resolve a call alike if its sums fit.
-/

namespace PredicateDispatch

variable {Code : Type}

namespace Hierarchy

/-! ## Candidates, without a ranking -/

/-- There are as many declared types as actual ones, and each is the actual type
at its place or an ancestor of it. -/
def Covers (hierarchy : Hierarchy) (declared actual : Signature) : Prop :=
  List.Forall₂ (fun upper lower => hierarchy.isA upper lower = true) declared
    actual

/-- The sum of the distances at all places. -/
def distanceSum (hierarchy : Hierarchy) (metric : Metric)
    (declared actual : Signature) : ℕ :=
  (List.zipWith (fun upper lower => hierarchy.distance metric lower upper)
    declared actual).sum

/-- The signature at this position covers the call, and their total is this
distance. -/
def IsCandidate (hierarchy : Hierarchy) (total : Signature → Signature → ℕ)
    (signatures : List Signature) (actual : Signature)
    (candidate : Candidate) : Prop :=
  ∃ declared, signatures[candidate.index]? = some declared ∧
    hierarchy.Covers declared actual ∧
    candidate.distance = total declared actual

/-- No candidate is nearer than this one. -/
def IsNearest (hierarchy : Hierarchy) (total : Signature → Signature → ℕ)
    (signatures : List Signature) (actual : Signature)
    (candidate : Candidate) : Prop :=
  hierarchy.IsCandidate total signatures actual candidate ∧
    ∀ other, hierarchy.IsCandidate total signatures actual other →
      candidate.distance ≤ other.distance

variable {hierarchy : Hierarchy} {total : Signature → Signature → ℕ}
  {signatures : List Signature} {actual : Signature}

theorem accepts_iff_covers {declared : Signature} :
    hierarchy.accepts declared actual = true ↔
      hierarchy.Covers declared actual := by
  induction declared generalizing actual with
  | nil => cases actual <;> simp [accepts, Covers]
  | cons head rest ih =>
      cases actual with
      | nil => simp [accepts, Covers]
      | cons type others =>
          rw [accepts, Bool.and_eq_true, ih, Covers, Covers, List.forall₂_cons]

theorem totalDistance_eq_distanceSum (hierarchy : Hierarchy) (metric : Metric) :
    hierarchy.totalDistance metric = hierarchy.distanceSum metric := by
  funext declared actual
  induction declared generalizing actual with
  | nil => cases actual <;> rfl
  | cons head rest ih =>
      cases actual with
      | nil => rfl
      | cons type others =>
          rw [totalDistance, ih, distanceSum, distanceSum, List.zipWith_cons_cons,
            List.sum_cons]

theorem wrappedTotal_eq_distanceSum_mod (hierarchy : Hierarchy)
    (metric : Metric) :
    hierarchy.wrappedTotal metric = fun declared actual =>
      hierarchy.distanceSum metric declared actual % totalLimit := by
  funext declared actual
  rw [wrappedTotal_eq_mod, totalDistance_eq_distanceSum]

theorem mem_rankBy_iff_isCandidate {candidate : Candidate} :
    candidate ∈ hierarchy.rankBy total signatures actual ↔
      hierarchy.IsCandidate total signatures actual candidate := by
  constructor
  · intro hmem
    obtain ⟨declared, hdeclared, haccepts, hdistance⟩ :=
      exists_of_mem_rankBy hmem
    exact ⟨declared, hdeclared, accepts_iff_covers.mp haccepts, hdistance⟩
  · rintro ⟨declared, hdeclared, hcovers, hdistance⟩
    have hmem := mem_rankBy_of_accepts total hdeclared
      (accepts_iff_covers.mpr hcovers)
    rw [← hdistance] at hmem
    exact hmem

/-- There is one candidate for a position. -/
theorem IsCandidate.eq_of_index_eq {left right : Candidate}
    (hleft : hierarchy.IsCandidate total signatures actual left)
    (hright : hierarchy.IsCandidate total signatures actual right)
    (hindex : left.index = right.index) : left = right := by
  obtain ⟨declared, hdeclared, -, hdistance⟩ := hleft
  obtain ⟨declared', hdeclared', -, hdistance'⟩ := hright
  rw [hindex, hdeclared'] at hdeclared
  obtain rfl : declared' = declared := Option.some.inj hdeclared
  cases left
  cases right
  simp_all

/-! ## Ranking is stable -/

end Hierarchy

/-- Nearer, or as near and at an earlier position. -/
def Candidate.Before (left right : Candidate) : Prop :=
  left.distance < right.distance ∨
    (left.distance = right.distance ∧ left.index < right.index)

namespace Hierarchy

variable (hierarchy : Hierarchy) (total : Signature → Signature → ℕ)
  (signatures : List Signature) (actual : Signature)

/-- Candidates at one distance are ranked as they stand in the table. -/
theorem filter_rankBy (distance : ℕ) :
    ((hierarchy.rankBy total signatures actual).filter
        fun candidate => candidate.distance == distance) =
      (hierarchy.candidatesBy total actual 0 signatures).filter
        fun candidate => candidate.distance == distance := by
  have hperm := hierarchy.perm_rankBy total signatures actual
  have htied : ((hierarchy.candidatesBy total actual 0 signatures).filter
      fun candidate => candidate.distance == distance).Pairwise
        fun left right => left.distance ≤ right.distance := by
    refine List.pairwise_of_forall_mem_list fun left hleft right hright => ?_
    have hleft_distance := (List.mem_filter.mp hleft).2
    have hright_distance := (List.mem_filter.mp hright).2
    simp only [beq_iff_eq] at hleft_distance hright_distance
    omega
  have hsublist := (List.sublist_insertionSort htied
    List.filter_sublist).filter fun candidate => candidate.distance == distance
  rw [← sortCandidates_eq_insertionSort, List.filter_filter] at hsublist
  simp only [Bool.and_self] at hsublist
  exact (hsublist.eq_of_length (hperm.filter _).length_eq.symm).symm

theorem pairwise_before_rankBy :
    (hierarchy.rankBy total signatures actual).Pairwise Candidate.Before := by
  rw [List.pairwise_iff_forall_sublist]
  intro left right hsublist
  have hle : left.distance ≤ right.distance :=
    List.pairwise_iff_forall_sublist.mp
      (pairwise_rankBy hierarchy total signatures actual) hsublist
  rcases Nat.lt_or_eq_of_le hle with hlt | heq
  · exact Or.inl hlt
  · refine Or.inr ⟨heq, ?_⟩
    -- At one distance the two stand in the table as they do in the ranking.
    have htied := hsublist.filter fun candidate =>
      candidate.distance == right.distance
    rw [filter_rankBy] at htied
    have hpair : [left, right].filter
        (fun candidate => candidate.distance == right.distance) =
          [left, right] := by simp [heq]
    rw [hpair] at htied
    exact List.pairwise_iff_forall_sublist.mp
      (hierarchy.pairwise_index_candidatesBy total signatures actual 0)
      (htied.trans List.filter_sublist)

theorem nodup_index_rankBy :
    ((hierarchy.rankBy total signatures actual).map Candidate.index).Nodup := by
  refine (nodup_rankBy hierarchy total signatures actual).map_on ?_
  intro left hleft right hright hindex
  exact (mem_rankBy_iff_isCandidate.mp hleft).eq_of_index_eq
    (mem_rankBy_iff_isCandidate.mp hright) hindex

end Hierarchy

/-! ## The nearest candidates -/

/-- What is taken from the front is all there is if nothing of the kind comes
after something else. -/
theorem takeWhile_eq_filter {α : Type*} {p : α → Bool} {items : List α}
    (hfront : items.Pairwise fun left right => p right = true → p left = true) :
    items.takeWhile p = items.filter p := by
  induction items with
  | nil => rfl
  | cons head tail ih =>
      obtain ⟨hhead, htail⟩ := List.pairwise_cons.mp hfront
      rw [List.takeWhile_cons, List.filter_cons]
      split
      case isTrue => rw [ih htail]
      case isFalse hother =>
        have hnone : tail.filter p = [] := List.filter_eq_nil_iff.mpr
          fun item hmem hitem => hother (hhead item hmem hitem)
        rw [hnone]

/-- What a resolution says of the signatures of a function and a call: that none
covers the call, that one candidate is nearer than every other one, or that
exactly these, at least two, are nearest, listed in the order of their
positions. -/
def Resolution.Describes (hierarchy : Hierarchy) (total : Signature → Signature → ℕ)
    (signatures : List Signature) (actual : Signature) : Resolution → Prop
  | noMatch => ∀ declared ∈ signatures, ¬ hierarchy.Covers declared actual
  | unique best =>
    hierarchy.IsCandidate total signatures actual best ∧
    ∀ other, hierarchy.IsCandidate total signatures actual other →
      other.index ≠ best.index → best.distance < other.distance
  | ambiguous tied =>
    2 ≤ tied.length ∧
    (tied.Pairwise fun left right => left.index < right.index) ∧
    ∀ candidate, candidate ∈ tied ↔
      hierarchy.IsNearest total signatures actual candidate

namespace Hierarchy

variable {hierarchy : Hierarchy} {total : Signature → Signature → ℕ}
  {signatures : List Signature} {actual : Signature}

section Ranked

variable {best : Candidate} {rest : List Candidate}
  (hrank : hierarchy.rankBy total signatures actual = best :: rest)
include hrank

theorem isNearest_of_rankBy_eq_cons :
    hierarchy.IsNearest total signatures actual best := by
  have hmem : ∀ candidate,
      hierarchy.IsCandidate total signatures actual candidate ↔
        candidate = best ∨ candidate ∈ rest := fun candidate => by
    rw [← mem_rankBy_iff_isCandidate, hrank, List.mem_cons]
  have hsorted := pairwise_rankBy hierarchy total signatures actual
  rw [hrank] at hsorted
  obtain ⟨hfirst, -⟩ := List.pairwise_cons.mp hsorted
  refine ⟨(hmem best).mpr (Or.inl rfl), fun candidate hcandidate => ?_⟩
  rcases (hmem candidate).mp hcandidate with rfl | hlater
  · exact Nat.le_refl _
  · exact hfirst candidate hlater

/-- The first of a ranking, with those after it that are as near, is the whole
group of candidates at its distance, in the order of their positions. -/
theorem nearest_of_rankBy_eq_cons :
    best :: (rest.takeWhile fun candidate =>
        candidate.distance == best.distance) =
      (hierarchy.candidatesBy total actual 0 signatures).filter
        fun candidate => candidate.distance == best.distance := by
  have hsorted := pairwise_rankBy hierarchy total signatures actual
  rw [hrank] at hsorted
  obtain ⟨hbest, hrest⟩ := List.pairwise_cons.mp hsorted
  have hfront : rest.Pairwise fun left right =>
      (right.distance == best.distance) = true →
        (left.distance == best.distance) = true := by
    refine hrest.imp_of_mem fun hleft _ hle hright => ?_
    have hleast := hbest _ hleft
    simp only [beq_iff_eq] at hright ⊢
    omega
  rw [← filter_rankBy, hrank, List.filter_cons_of_pos (by simp),
    takeWhile_eq_filter hfront]

/-- These are the nearest candidates. -/
theorem mem_nearest_iff_isNearest (candidate : Candidate) :
    candidate ∈ best :: (rest.takeWhile fun candidate =>
        candidate.distance == best.distance) ↔
      hierarchy.IsNearest total signatures actual candidate := by
  obtain ⟨hbest, hleast⟩ := isNearest_of_rankBy_eq_cons hrank
  rw [nearest_of_rankBy_eq_cons hrank, List.mem_filter, ← mem_rankBy_iff,
    mem_rankBy_iff_isCandidate, beq_iff_eq]
  constructor
  · rintro ⟨hcandidate, hdistance⟩
    exact ⟨hcandidate, hdistance ▸ hleast⟩
  · rintro ⟨hcandidate, hnearest⟩
    exact ⟨hcandidate,
      Nat.le_antisymm (hnearest best hbest) (hleast candidate hcandidate)⟩

end Ranked

theorem resolveBy_describes (hierarchy : Hierarchy) (total : Signature → Signature → ℕ)
    (signatures : List Signature) (actual : Signature) :
    (hierarchy.resolveBy total signatures actual).Describes hierarchy total
      signatures actual := by
  rw [resolveBy]
  cases hrank : hierarchy.rankBy total signatures actual with
  | nil =>
      intro declared hmem hcovers
      obtain ⟨index, hindex⟩ := List.getElem?_of_mem hmem
      have hcandidate := mem_rankBy_of_accepts total hindex
        (accepts_iff_covers.mpr hcovers)
      rw [hrank] at hcandidate
      exact absurd hcandidate List.not_mem_nil
  | cons best rest =>
      obtain ⟨hbest, hleast⟩ := isNearest_of_rankBy_eq_cons hrank
      have hgroup := nearest_of_rankBy_eq_cons hrank
      have hnearest := mem_nearest_iff_isNearest hrank
      rw [Resolution.ofRanked]
      cases htied : rest.takeWhile fun candidate =>
          candidate.distance == best.distance with
      | nil =>
          rw [htied] at hnearest
          refine ⟨hbest, fun other hother hindex => ?_⟩
          refine Nat.lt_of_le_of_ne (hleast other hother) fun heq => ?_
          have hself := (hnearest other).mpr ⟨hother, heq ▸ hleast⟩
          exact hindex (congrArg Candidate.index (List.mem_singleton.mp hself))
      | cons second others =>
          rw [htied] at hnearest hgroup
          refine ⟨by simp, ?_, hnearest⟩
          rw [hgroup]
          exact (hierarchy.pairwise_index_candidatesBy total signatures actual
            0).sublist List.filter_sublist

theorem resolve_describes (hierarchy : Hierarchy) (metric : Metric)
    (signatures : List Signature) (actual : Signature) :
    (hierarchy.resolve metric signatures actual).Describes hierarchy
      (hierarchy.totalDistance metric) signatures actual :=
  hierarchy.resolveBy_describes (hierarchy.totalDistance metric) signatures
    actual

end Hierarchy

/-! ## Only one resolution describes a call -/

namespace Resolution

variable {hierarchy : Hierarchy} {total : Signature → Signature → ℕ}
  {signatures : List Signature} {actual : Signature}

theorem not_isCandidate_of_noMatch
    (hnone : noMatch.Describes hierarchy total signatures actual)
    (candidate : Candidate) :
    ¬ hierarchy.IsCandidate total signatures actual candidate := by
  rintro ⟨declared, hdeclared, hcovers, -⟩
  exact hnone declared (List.mem_of_getElem? hdeclared) hcovers

/-- A tie has two members at different positions. -/
theorem exists_pair_of_ambiguous {tied : List Candidate}
    (htied : (ambiguous tied).Describes hierarchy total signatures actual) :
    ∃ first second, first.index < second.index ∧
      hierarchy.IsNearest total signatures actual first ∧
      hierarchy.IsNearest total signatures actual second := by
  obtain ⟨hlength, hordered, hmem⟩ := htied
  match tied, hlength with
  | first :: second :: others, _ =>
      exact ⟨first, second, (List.pairwise_cons.mp hordered).1 second (by simp),
        (hmem first).mp (by simp), (hmem second).mp (by simp)⟩

theorem not_describes_unique_of_ambiguous {tied : List Candidate}
    (htied : (ambiguous tied).Describes hierarchy total signatures actual)
    (best : Candidate) :
    ¬ (unique best).Describes hierarchy total signatures actual := by
  rintro ⟨hbest, hnearer⟩
  obtain ⟨first, second, hindex, ⟨hfirst, hleast⟩, hsecond, hleast'⟩ :=
    exists_pair_of_ambiguous htied
  by_cases hself : first.index = best.index
  · have hlt := hnearer second hsecond (hself ▸ Nat.ne_of_gt hindex)
    exact absurd (hleast' best hbest) (Nat.not_le_of_lt hlt)
  · exact absurd (hleast best hbest) (Nat.not_le_of_lt (hnearer first hfirst hself))

theorem eq_of_describes_unique {left right : Candidate}
    (hleft : (unique left).Describes hierarchy total signatures actual)
    (hright : (unique right).Describes hierarchy total signatures actual) :
    left = right := by
  refine hleft.1.eq_of_index_eq hright.1 ?_
  by_contra hindex
  have hlt := hleft.2 right hright.1 (Ne.symm hindex)
  have hgt := hright.2 left hleft.1 hindex
  exact Nat.lt_asymm hlt hgt

theorem eq_of_describes_ambiguous {left right : List Candidate}
    (hleft : (ambiguous left).Describes hierarchy total signatures actual)
    (hright : (ambiguous right).Describes hierarchy total signatures actual) :
    left = right := by
  obtain ⟨-, hleft_ordered, hleft_mem⟩ := hleft
  obtain ⟨-, hright_ordered, hright_mem⟩ := hright
  have : Std.Irrefl fun left right : Candidate => left.index < right.index :=
    ⟨fun _ => Nat.lt_irrefl _⟩
  have : Std.Antisymm fun left right : Candidate => left.index < right.index :=
    ⟨fun _ _ hlt hgt => absurd hlt (Nat.lt_asymm hgt)⟩
  exact hleft_ordered.eq_of_mem_iff hright_ordered fun candidate =>
    (hleft_mem candidate).trans (hright_mem candidate).symm

theorem eq_of_describes {left right : Resolution}
    (hleft : left.Describes hierarchy total signatures actual)
    (hright : right.Describes hierarchy total signatures actual) :
    left = right := by
  cases left with
  | noMatch =>
      have hnone := not_isCandidate_of_noMatch hleft
      cases right with
      | noMatch => rfl
      | unique best => exact absurd hright.1 (hnone best)
      | ambiguous tied =>
          obtain ⟨first, -, -, hfirst, -⟩ := exists_pair_of_ambiguous hright
          exact absurd hfirst.1 (hnone first)
  | unique best =>
      cases right with
      | noMatch => exact absurd hleft.1 (not_isCandidate_of_noMatch hright best)
      | unique best' => rw [eq_of_describes_unique hleft hright]
      | ambiguous tied =>
          exact absurd hleft (not_describes_unique_of_ambiguous hright best)
  | ambiguous tied =>
      cases right with
      | noMatch =>
          obtain ⟨first, -, -, hfirst, -⟩ := exists_pair_of_ambiguous hleft
          exact absurd hfirst.1 (not_isCandidate_of_noMatch hright first)
      | unique best =>
          exact absurd hright (not_describes_unique_of_ambiguous hleft best)
      | ambiguous tied' => rw [eq_of_describes_ambiguous hleft hright]

end Resolution

theorem resolveBy_eq_iff_describes {hierarchy : Hierarchy} {total : Signature → Signature → ℕ}
    {signatures : List Signature} {actual : Signature} (resolution : Resolution) :
    hierarchy.resolveBy total signatures actual = resolution ↔
      resolution.Describes hierarchy total signatures actual := by
  have hdescribes := hierarchy.resolveBy_describes total signatures actual
  constructor
  · rintro rfl
    exact hdescribes
  · exact fun hresolution => Resolution.eq_of_describes hdescribes hresolution

/-! ## Ties as a selection reports them -/

/-- Each candidate has a signature to be reported. -/
theorem map_signatures_of_isCandidate {hierarchy : Hierarchy}
    {total : Signature → Signature → ℕ} {signatures : List Signature}
    {actual : Signature} {candidates : List Candidate}
    (hcandidates : ∀ candidate ∈ candidates,
      hierarchy.IsCandidate total signatures actual candidate) :
    (candidates.filterMap fun candidate =>
        signatures[candidate.index]?).map some =
      candidates.map fun candidate => signatures[candidate.index]? := by
  rw [List.map_filterMap_some_eq_filter_map_isSome, List.filter_eq_self]
  intro found hfound
  obtain ⟨candidate, hcandidate, rfl⟩ := List.mem_map.mp hfound
  obtain ⟨declared, hdeclared, -⟩ := hcandidates candidate hcandidate
  rw [hdeclared]
  rfl

theorem map_signatures_of_ambiguous {hierarchy : Hierarchy}
    {total : Signature → Signature → ℕ} {signatures : List Signature}
    {actual : Signature} {tied : List Candidate}
    (htied : (Resolution.ambiguous tied).Describes hierarchy total signatures
      actual) :
    (tied.filterMap fun candidate => signatures[candidate.index]?).map some =
      tied.map fun candidate => signatures[candidate.index]? := by
  obtain ⟨-, -, hmem⟩ := htied
  exact map_signatures_of_isCandidate
    fun candidate hcandidate => ((hmem candidate).mp hcandidate).1

namespace Registry

section SelectBy

variable {registry : Registry Code} {id : ℕ} {function : GenericFunction Code}
  (hfunction : registry.function? id = some function)
  (resolve : Hierarchy → Metric → List Signature → Signature → Resolution)
  {types : Signature} (metric : Metric)
include hfunction

/-- A selection that finds nothing in the cache answers what resolving
decides. -/
theorem selectBy_answer_of_uncached {useCache : Bool}
    (huncached : useCache = true → registry.cached? id types = none)
    (tolerateTie : Bool) :
    (registry.selectBy resolve id types metric useCache tolerateTie).1 =
      (resolve registry.hierarchy metric function.signatures types).answer
        function types tolerateTie := by
  have hnone : (if useCache then registry.cached? id types else none) = none := by
    split
    case isTrue huse => exact huncached huse
    case isFalse => rfl
  rw [selectBy, hfunction]
  dsimp only
  rw [hnone]
  cases resolve registry.hierarchy metric function.signatures types with
  | noMatch => rfl
  | unique best => rfl
  | ambiguous tied => cases tolerateTie <;> rfl

theorem selectBy_answer_of_cached {selected : Option ℕ}
    (hcached : registry.cached? id types = some selected) (tolerateTie : Bool) :
    (registry.selectBy resolve id types metric true tolerateTie).1 =
      .ok selected := by
  rw [selectBy, hfunction]
  dsimp only
  rw [if_pos rfl, hcached]

end SelectBy

/-- Answers that fail for a tie that is not in the cache, and for nothing else,
and then report exactly the signatures of its candidates, in their order. -/
def ReportsTies (registry : Registry Code) (id : ℕ)
    (function : GenericFunction Code) (types : Signature)
    (resolution : Resolution) (answer : Bool → Except Error (Option ℕ)) : Prop :=
  ∀ (useCache : Bool) (error : Error), answer useCache = .error error ↔
    (useCache = true → registry.cached? id types = none) ∧
    ∃ tied candidates, resolution = .ambiguous tied ∧
      candidates.map some =
        (tied.map fun candidate => function.signatures[candidate.index]?) ∧
      error = .ambiguous function.name types candidates

theorem selectBy_reportsTies {registry : Registry Code} {id : ℕ}
    {function : GenericFunction Code}
    (hfunction : registry.function? id = some function) {types : Signature}
    {metric : Metric}
    {resolve : Hierarchy → Metric → List Signature → Signature → Resolution}
    {total : Signature → Signature → ℕ}
    (hdescribes : (resolve registry.hierarchy metric function.signatures
      types).Describes registry.hierarchy total function.signatures types) :
    registry.ReportsTies id function types
      (resolve registry.hierarchy metric function.signatures types)
      fun useCache =>
        (registry.selectBy resolve id types metric useCache false).1 := by
  intro useCache error
  dsimp only
  constructor
  · intro herror
    have huncached : useCache = true → registry.cached? id types = none := by
      rintro rfl
      cases hcached : registry.cached? id types with
      | none => rfl
      | some selected =>
          rw [selectBy_answer_of_cached hfunction resolve metric hcached] at herror
          cases herror
    rw [selectBy_answer_of_uncached hfunction resolve metric huncached] at herror
    refine ⟨huncached, ?_⟩
    cases hresolve : resolve registry.hierarchy metric function.signatures
        types with
    | noMatch =>
        rw [hresolve] at herror
        cases herror
    | unique best =>
        rw [hresolve] at herror
        cases herror
    | ambiguous tied =>
        rw [hresolve] at herror hdescribes
        exact ⟨tied, _, rfl, map_signatures_of_ambiguous hdescribes,
          (Except.error.inj herror).symm⟩
  · rintro ⟨huncached, tied, candidates, hresolve, hcandidates, rfl⟩
    rw [hresolve] at hdescribes
    rw [← map_signatures_of_ambiguous hdescribes] at hcandidates
    rw [selectBy_answer_of_uncached hfunction resolve metric huncached, hresolve,
      List.map_injective_iff.mpr (Option.some_injective _) hcandidates]
    rfl

/-- If the totals of its entries fit, a function is selected from alike. -/
theorem wrappedSelect_eq_select {registry : Registry Code} {id : ℕ}
    {function : GenericFunction Code}
    (hfunction : registry.function? id = some function) {types : Signature}
    {metric : Metric}
    (hfits : registry.hierarchy.TotalsFit metric function.signatures types)
    (useCache tolerateTie : Bool) :
    registry.wrappedSelect id types metric useCache tolerateTie =
      registry.select id types metric useCache tolerateTie := by
  rw [wrappedSelect, select, selectBy, selectBy, hfunction]
  dsimp only
  rw [hfits.wrappedResolve_eq]

/-- A tie is never remembered under the metric of the registry. -/
theorem CacheSound.cached?_eq_none {registry : Registry Code}
    (hsound : registry.CacheSound) {id : ℕ} {function : GenericFunction Code}
    (hfunction : registry.function? id = some function) {types : Signature}
    {tied : List Candidate}
    (htied : registry.hierarchy.resolve registry.metric function.signatures
      types = .ambiguous tied) : registry.cached? id types = none := by
  cases hcached : registry.cached? id types with
  | none => rfl
  | some selected =>
      have hsettled := settled?_of_cached? hsound hcached hfunction
      rw [htied] at hsettled
      cases hsettled

end Registry

/-! ## Main statement -/

namespace Hierarchy

/-- The resolution is what describes the candidates at these totals, and nothing
else is, and the ranking lists every candidate once, by distance and then by
position. -/
structure ResolvesBy (hierarchy : Hierarchy)
    (total : Signature → Signature → ℕ) (signatures : List Signature)
    (actual : Signature) (ranking : List Candidate)
    (resolution : Resolution) : Prop where
  resolution_iff : ∀ other, resolution = other ↔
    other.Describes hierarchy total signatures actual
  mem_ranking_iff : ∀ candidate, candidate ∈ ranking ↔
    hierarchy.IsCandidate total signatures actual candidate
  nodup_ranking : (ranking.map Candidate.index).Nodup
  ordered : ranking.Pairwise Candidate.Before

theorem resolvesBy (hierarchy : Hierarchy) (total : Signature → Signature → ℕ)
    (signatures : List Signature) (actual : Signature) :
    hierarchy.ResolvesBy total signatures actual
      (hierarchy.rankBy total signatures actual)
      (hierarchy.resolveBy total signatures actual) where
  resolution_iff := resolveBy_eq_iff_describes
  mem_ranking_iff := fun _ => mem_rankBy_iff_isCandidate
  nodup_ranking := hierarchy.nodup_index_rankBy total signatures actual
  ordered := hierarchy.pairwise_before_rankBy total signatures actual

end Hierarchy

/-- A resolution is what describes the candidates of the call, and nothing else
is: no match, the one that is nearer than all others, or the group of at least
two nearest ones in the order of registration.  A ranking lists every candidate
once, by distance and then by position.  A selection fails for a tie only, and
reports exactly the signatures of its group, in their order.

This is so of the totals in 32 bits for every call, and of the exact sums.  Both
rank, resolve and select alike if the sums of the signatures that cover the call
are below the limit.  The cache of a reachable registry never hides a tie. -/
theorem resolution_is_exact (hierarchy : Hierarchy) (metric : Metric)
    (signatures : List Signature) (actual : Signature) :
    hierarchy.ResolvesBy
      (fun declared actual =>
        hierarchy.distanceSum metric declared actual % Hierarchy.totalLimit)
      signatures actual (hierarchy.wrappedRank metric signatures actual)
      (hierarchy.wrappedResolve metric signatures actual) ∧
    hierarchy.ResolvesBy (hierarchy.distanceSum metric) signatures actual
      (hierarchy.rank metric signatures actual)
      (hierarchy.resolve metric signatures actual) ∧
    (hierarchy.TotalsFit metric signatures actual →
      hierarchy.wrappedRank metric signatures actual =
        hierarchy.rank metric signatures actual ∧
      hierarchy.wrappedResolve metric signatures actual =
        hierarchy.resolve metric signatures actual) ∧
    ∀ (registry : Registry Code) (id : ℕ) (function : GenericFunction Code),
      registry.hierarchy = hierarchy → registry.function? id = some function →
      function.signatures = signatures →
        registry.ReportsTies id function actual
          (hierarchy.wrappedResolve metric signatures actual)
          (fun useCache =>
            (registry.wrappedSelect id actual metric useCache false).1) ∧
        registry.ReportsTies id function actual
          (hierarchy.resolve metric signatures actual)
          (fun useCache =>
            (registry.select id actual metric useCache false).1) ∧
        (hierarchy.TotalsFit metric signatures actual → ∀ useCache tolerateTie,
          registry.wrappedSelect id actual metric useCache tolerateTie =
            registry.select id actual metric useCache tolerateTie) ∧
        (registry.Reachable → registry.metric = metric → ∀ tied,
          hierarchy.resolve metric signatures actual = .ambiguous tied →
            registry.cached? id actual = none) := by
  rw [← hierarchy.wrappedTotal_eq_distanceSum_mod metric,
    ← hierarchy.totalDistance_eq_distanceSum metric]
  refine ⟨hierarchy.resolvesBy _ signatures actual,
    hierarchy.resolvesBy _ signatures actual,
    fun hfits => ⟨hfits.wrappedRank_eq, hfits.wrappedResolve_eq⟩, ?_⟩
  rintro registry id function rfl hfunction rfl
  refine ⟨Registry.selectBy_reportsTies hfunction
      (Hierarchy.resolveBy_describes ..),
    Registry.selectBy_reportsTies hfunction (Hierarchy.resolveBy_describes ..),
    Registry.wrappedSelect_eq_select hfunction, ?_⟩
  rintro hreachable rfl tied htied
  exact hreachable.cacheSound.cached?_eq_none hfunction htied

/-- Two entries for pairs of a truth value and any value, in either order. -/
def mirrored : Registry Unit :=
  [Operation.createFunction "combine",
    .register 5 ⟨[Predicate.boolean, Predicate.any], Predicate.null, .code ()⟩,
    .register 5 ⟨[Predicate.any, Predicate.boolean], Predicate.null,
      .code ()⟩].foldl
    (fun registry operation => (operation.perform registry).2) (.fresh {})

theorem resolution_is_exact_mirrored :
    mirrored.Reachable ∧
    (∃ function, mirrored.function? 5 = some function ∧
      mirrored.hierarchy.TotalsFit .directed function.signatures
        [Predicate.boolean, Predicate.boolean] ∧
      (Resolution.ambiguous [⟨0, 1⟩, ⟨1, 1⟩]).Describes mirrored.hierarchy
        (mirrored.hierarchy.distanceSum .directed) function.signatures
        [Predicate.boolean, Predicate.boolean]) ∧
    (mirrored.wrappedSelect 5 [Predicate.boolean, Predicate.boolean] .directed
        true false).1 =
      .error (.ambiguous "combine" [Predicate.boolean, Predicate.boolean]
        [[Predicate.boolean, Predicate.any],
          [Predicate.any, Predicate.boolean]]) ∧
    mirrored.wrappedSelect 5 [Predicate.boolean, Predicate.boolean] .directed
        true false =
      mirrored.select 5 [Predicate.boolean, Predicate.boolean] .directed true
        false := by
  have hcreated := (Registry.Reachable.fresh {}).perform
    (.createFunction "combine" : Operation Unit) trivial
  have hregistered := hcreated.perform
    (.register 5 ⟨[Predicate.boolean, Predicate.any], Predicate.null, .code ()⟩)
    trivial
  have hreachable : mirrored.Reachable := hregistered.perform
    (.register 5 ⟨[Predicate.any, Predicate.boolean], Predicate.null, .code ()⟩)
    trivial
  have hfunction : mirrored.function? 5 = some {
      name := "combine"
      entries := [
        ⟨[Predicate.boolean, Predicate.any], Predicate.null, .code ()⟩,
        ⟨[Predicate.any, Predicate.boolean], Predicate.null, .code ()⟩] } := by
    rfl
  have hmetric : mirrored.metric = .directed := by decide +kernel
  have htotals : ∀ declared ∈
      [[Predicate.boolean, Predicate.any], [Predicate.any, Predicate.boolean]],
      mirrored.hierarchy.totalDistance .directed declared
        [Predicate.boolean, Predicate.boolean] < Hierarchy.totalLimit := by
    decide +kernel
  have hfits : mirrored.hierarchy.TotalsFit .directed
      [[Predicate.boolean, Predicate.any], [Predicate.any, Predicate.boolean]]
      [Predicate.boolean, Predicate.boolean] :=
    fun declared hmem _ => htotals declared hmem
  have htied : mirrored.hierarchy.resolve .directed
      [[Predicate.boolean, Predicate.any], [Predicate.any, Predicate.boolean]]
      [Predicate.boolean, Predicate.boolean] =
        .ambiguous [⟨0, 1⟩, ⟨1, 1⟩] := by decide +kernel
  obtain ⟨-, hexact, hsame, hselect⟩ := @resolution_is_exact Unit
    mirrored.hierarchy .directed
    [[Predicate.boolean, Predicate.any], [Predicate.any, Predicate.boolean]]
    [Predicate.boolean, Predicate.boolean]
  obtain ⟨hfails, -, hselects, huncached⟩ := hselect mirrored 5 _ rfl hfunction rfl
  have htied_wrapped := (hsame hfits).2.trans htied
  exact ⟨hreachable, ⟨_, hfunction, hfits, (hexact.resolution_iff _).mp htied⟩,
    (hfails true _).mpr ⟨fun _ => huncached hreachable hmetric _ htied, _, _,
      htied_wrapped, rfl, rfl⟩, hselects hfits true false⟩

end PredicateDispatch
