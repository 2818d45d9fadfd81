import Mathlib.Data.List.Sort
import PredicateDispatch.Proofs.Hierarchy.Distance
import PredicateDispatch.Resolution

/-!
# What a ranking ranks

The candidates of a call are the positions of the accepting signatures, and
ranking only reorders them, whatever the totals are that it goes by.  Neither
step looks at anything of an actual type but its number, so that a resolution is
a function of the numbers alone.  A total in 32 bits is the sum of the distances
modulo the limit, and the same where that sum fits.
-/

namespace PredicateDispatch

@[simp]
theorem Signature.ids_nil : Signature.ids [] = [] := rfl

@[simp]
theorem Signature.ids_cons (head : Predicate) (rest : Signature) :
    Signature.ids (head :: rest) = head.id :: Signature.ids rest := rfl

namespace Hierarchy

/-! ## Acceptance and totals decide -/

section Congr

variable {hierarchy hierarchy' : Hierarchy}
  {total total' : Signature → Signature → ℕ} {actual actual' : Signature}
  {signatures : List Signature}
  (haccepts : ∀ declared ∈ signatures,
    hierarchy.accepts declared actual = hierarchy'.accepts declared actual')
  (htotal : ∀ declared ∈ signatures,
    hierarchy'.accepts declared actual' = true →
      total declared actual = total' declared actual')
include haccepts htotal

theorem candidatesBy_congr (start : ℕ) :
    hierarchy.candidatesBy total actual start signatures =
      hierarchy'.candidatesBy total' actual' start signatures := by
  induction signatures generalizing start with
  | nil => rfl
  | cons declared rest ih =>
      obtain ⟨hhead, hrest⟩ := List.forall_mem_cons.mp haccepts
      obtain ⟨hhead_total, hrest_total⟩ := List.forall_mem_cons.mp htotal
      rw [candidatesBy, candidatesBy, hhead, ih hrest hrest_total]
      split
      case isTrue haccepted => rw [hhead_total haccepted]
      case isFalse => rfl

theorem rankBy_congr :
    hierarchy.rankBy total signatures actual =
      hierarchy'.rankBy total' signatures actual' := by
  rw [rankBy, rankBy, candidatesBy_congr haccepts htotal]

theorem resolveBy_congr :
    hierarchy.resolveBy total signatures actual =
      hierarchy'.resolveBy total' signatures actual' := by
  rw [resolveBy, resolveBy, rankBy_congr haccepts htotal]

end Congr

variable (hierarchy : Hierarchy) (metric : Metric)

/-! ## Only numbers count -/

theorem accepts_congr (declared : Signature) {left right : Signature}
    (hids : Signature.ids left = Signature.ids right) :
    hierarchy.accepts declared left = hierarchy.accepts declared right := by
  induction declared generalizing left right with
  | nil =>
      cases left <;> cases right <;> simp_all [accepts]
  | cons head rest ih =>
      cases left with
      | nil =>
          cases right with
          | nil => rfl
          | cons => simp at hids
      | cons type others =>
          cases right with
          | nil => simp at hids
          | cons type' others' =>
              simp only [Signature.ids_cons, List.cons.injEq] at hids
              rw [accepts, accepts, hierarchy.isA_congr head hids.1, ih hids.2]

theorem totalDistance_congr (declared : Signature) {left right : Signature}
    (hids : Signature.ids left = Signature.ids right) :
    hierarchy.totalDistance metric declared left =
      hierarchy.totalDistance metric declared right := by
  induction declared generalizing left right with
  | nil => cases left <;> cases right <;> rfl
  | cons head rest ih =>
      cases left with
      | nil =>
          cases right with
          | nil => rfl
          | cons => simp at hids
      | cons type others =>
          cases right with
          | nil => simp at hids
          | cons type' others' =>
              simp only [Signature.ids_cons, List.cons.injEq] at hids
              rw [totalDistance, totalDistance,
                hierarchy.distance_congr metric hids.1, ih hids.2]

theorem totalDistance_congr_left {left right : Signature}
    (hids : Signature.ids left = Signature.ids right) (actual : Signature) :
    hierarchy.totalDistance metric left actual =
      hierarchy.totalDistance metric right actual := by
  induction left generalizing right actual with
  | nil =>
      obtain rfl : right = [] := List.map_eq_nil_iff.mp hids.symm
      rfl
  | cons head rest ih =>
      cases right with
      | nil => cases hids
      | cons head' rest' =>
          obtain ⟨hhead, hrest⟩ := List.cons.inj hids
          cases actual with
          | nil => rfl
          | cons type others =>
              rw [totalDistance, totalDistance, ih hrest,
                hierarchy.distance_congr_right metric type hhead]

/-- A resolution depends on the numbers of the actual types only. -/
theorem resolve_congr (signatures : List Signature) {left right : Signature}
    (hids : Signature.ids left = Signature.ids right) :
    hierarchy.resolve metric signatures left =
      hierarchy.resolve metric signatures right :=
  resolveBy_congr (fun declared _ => hierarchy.accepts_congr declared hids)
    fun declared _ _ => hierarchy.totalDistance_congr metric declared hids

/-! ## A signature accepts itself -/

theorem accepts_self (types : Signature) :
    hierarchy.accepts types types = true := by
  induction types with
  | nil => rfl
  | cons head rest ih => simp [accepts, isA_self, ih]

theorem totalDistance_self (types : Signature) :
    hierarchy.totalDistance metric types types = 0 := by
  induction types with
  | nil => rfl
  | cons head rest ih => simp [totalDistance, distance_self, ih]

/-! ## Totals in 32 bits -/

theorem wrappedTotal_eq_mod (declared actual : Signature) :
    hierarchy.wrappedTotal metric declared actual =
      hierarchy.totalDistance metric declared actual % totalLimit := by
  rw [wrappedTotal]
  induction declared generalizing actual with
  | nil => cases actual <;> rfl
  | cons head rest ih =>
      cases actual with
      | nil => rfl
      | cons type others =>
          rw [wrappedDistance, totalDistance, UInt32.toNat_add, ih]
          simp [totalLimit, Nat.add_mod]

/-- The exact totals of the signatures that accept a call are below the limit of
32 bits. -/
def TotalsFit (hierarchy : Hierarchy) (metric : Metric) (signatures : List Signature)
    (actual : Signature) : Prop :=
  ∀ declared ∈ signatures, hierarchy.accepts declared actual = true →
    hierarchy.totalDistance metric declared actual < totalLimit

section TotalsFit

variable {hierarchy metric} {signatures : List Signature} {actual : Signature}
  (hfits : hierarchy.TotalsFit metric signatures actual)
include hfits

theorem TotalsFit.wrappedTotal_eq (declared : Signature) (hmem : declared ∈ signatures)
    (haccepts : hierarchy.accepts declared actual = true) :
    hierarchy.wrappedTotal metric declared actual =
      hierarchy.totalDistance metric declared actual := by
  rw [wrappedTotal_eq_mod, Nat.mod_eq_of_lt (hfits declared hmem haccepts)]

theorem TotalsFit.wrappedRank_eq :
    hierarchy.wrappedRank metric signatures actual =
      hierarchy.rank metric signatures actual :=
  rankBy_congr (fun _ _ => rfl) hfits.wrappedTotal_eq

theorem TotalsFit.wrappedResolve_eq :
    hierarchy.wrappedResolve metric signatures actual =
      hierarchy.resolve metric signatures actual :=
  resolveBy_congr (fun _ _ => rfl) hfits.wrappedTotal_eq

end TotalsFit

/-- The symmetric metric makes no total greater. -/
theorem totalDistance_le_directed (declared actual : Signature) :
    hierarchy.totalDistance metric declared actual ≤
      hierarchy.totalDistance .directed declared actual := by
  induction declared generalizing actual with
  | nil => cases actual <;> exact Nat.le_refl _
  | cons head rest ih =>
      cases actual with
      | nil => exact Nat.le_refl _
      | cons type others =>
          have hhead : hierarchy.distance metric type head ≤
              hierarchy.distance .directed type head := by
            cases metric with
            | directed => exact Nat.le_refl _
            | symmetric => exact Nat.min_le_left _ _
          exact Nat.add_le_add hhead (ih others)

theorem TotalsFit.of_directed {signatures : List Signature} {actual : Signature}
    (hfits : hierarchy.TotalsFit .directed signatures actual) :
    hierarchy.TotalsFit metric signatures actual :=
  fun declared hmem haccepts =>
    (hierarchy.totalDistance_le_directed metric declared actual).trans_lt
      (hfits declared hmem haccepts)

/-! ## A new predicate changes no resolution -/

theorem climb_create (name : String) (steps : ℕ) (type : Predicate) :
    (hierarchy.create name).climb steps type = hierarchy.climb steps type := by
  induction steps generalizing type with
  | zero => rfl
  | succ steps ih =>
      simp only [climb, ih]
      rfl

theorem distance_create (name : String) (actual declared : Predicate) :
    (hierarchy.create name).distance metric actual declared =
      hierarchy.distance metric actual declared := by
  have htypeDistance : (hierarchy.create name).typeDistance =
      hierarchy.typeDistance := by
    funext source target
    simp only [typeDistance, lineage, climb_create]
    rfl
  cases metric <;> simp only [distance, htypeDistance]

theorem accepts_create (name : String) (declared actual : Signature) :
    (hierarchy.create name).accepts declared actual =
      hierarchy.accepts declared actual := by
  induction declared generalizing actual with
  | nil => cases actual <;> rfl
  | cons head rest ih =>
      cases actual with
      | nil => rfl
      | cons type others =>
          rw [accepts, accepts, ih]
          rfl

theorem totalDistance_create (name : String) (declared actual : Signature) :
    (hierarchy.create name).totalDistance metric declared actual =
      hierarchy.totalDistance metric declared actual := by
  induction declared generalizing actual with
  | nil => cases actual <;> rfl
  | cons head rest ih =>
      cases actual with
      | nil => rfl
      | cons type others =>
          rw [totalDistance, totalDistance, ih, distance_create]

theorem candidates_create (name : String) (actual : Signature) (start : ℕ)
    (signatures : List Signature) :
    (hierarchy.create name).candidates metric actual start signatures =
      hierarchy.candidates metric actual start signatures :=
  candidatesBy_congr
    (fun declared _ => hierarchy.accepts_create name declared actual)
    (fun declared _ _ =>
      hierarchy.totalDistance_create metric name declared actual) start

theorem resolve_create (name : String) :
    (hierarchy.create name).resolve = hierarchy.resolve := by
  funext metric signatures actual
  exact resolveBy_congr
    (fun declared _ => hierarchy.accepts_create name declared actual)
    fun declared _ _ => hierarchy.totalDistance_create metric name declared actual

/-! ## Candidates are positions of accepting signatures -/

variable {hierarchy} {total : Signature → Signature → ℕ}

theorem mem_candidatesBy_iff {actual : Signature} {start : ℕ}
    {signatures : List Signature} {candidate : Candidate} :
    candidate ∈ hierarchy.candidatesBy total actual start signatures ↔
      ∃ offset declared, signatures[offset]? = some declared ∧
        hierarchy.accepts declared actual = true ∧
        candidate = ⟨start + offset,
          total declared actual⟩ := by
  induction signatures generalizing start with
  | nil => simp [candidatesBy]
  | cons head rest ih =>
      have htail : (∃ offset declared, rest[offset]? = some declared ∧
          hierarchy.accepts declared actual = true ∧
          candidate = ⟨start + 1 + offset,
            total declared actual⟩) ↔
          ∃ offset declared, (head :: rest)[offset + 1]? = some declared ∧
            hierarchy.accepts declared actual = true ∧
            candidate = ⟨start + (offset + 1),
              total declared actual⟩ := by
        simp only [List.getElem?_cons_succ, Nat.add_assoc, Nat.add_comm 1]
      rw [candidatesBy]
      split
      case isTrue haccepts =>
        rw [List.mem_cons, ih, htail]
        constructor
        · rintro (rfl | ⟨offset, hoffset⟩)
          · exact ⟨0, head, rfl, haccepts, rfl⟩
          · exact ⟨offset + 1, hoffset⟩
        · rintro ⟨_ | offset, declared, hdeclared, hrest⟩
          · obtain rfl : head = declared := Option.some.inj hdeclared
            exact Or.inl hrest.2
          · exact Or.inr ⟨offset, declared, hdeclared, hrest⟩
      case isFalse hrejects =>
        rw [ih, htail]
        constructor
        · rintro ⟨offset, hoffset⟩
          exact ⟨offset + 1, hoffset⟩
        · rintro ⟨_ | offset, declared, hdeclared, hrest⟩
          · obtain rfl : head = declared := Option.some.inj hdeclared
            exact absurd hrest.1 hrejects
          · exact ⟨offset, declared, hdeclared, hrest⟩

theorem pairwise_index_candidatesBy (hierarchy : Hierarchy)
    (total : Signature → Signature → ℕ) (signatures : List Signature)
    (actual : Signature) (start : ℕ) :
    (hierarchy.candidatesBy total actual start signatures).Pairwise
      fun left right => left.index < right.index := by
  induction signatures generalizing start with
  | nil => exact List.Pairwise.nil
  | cons declared rest ih =>
      rw [candidatesBy]
      split
      case isTrue =>
        refine List.pairwise_cons.mpr ⟨fun later hlater => ?_, ih (start + 1)⟩
        obtain ⟨offset, _, -, -, rfl⟩ := mem_candidatesBy_iff.mp hlater
        change start < start + 1 + offset
        omega
      case isFalse => exact ih (start + 1)

end Hierarchy

/-! ## Ranking reorders the candidates -/

theorem insertCandidate_eq_orderedInsert (candidate : Candidate)
    (candidates : List Candidate) :
    insertCandidate candidate candidates =
      candidates.orderedInsert (fun left right => left.distance ≤ right.distance)
        candidate := by
  induction candidates with
  | nil => rfl
  | cons head tail ih => rw [insertCandidate, List.orderedInsert_cons, ih]

/-- Ranking is the stable insertion sort by distance. -/
theorem sortCandidates_eq_insertionSort (candidates : List Candidate) :
    sortCandidates candidates =
      candidates.insertionSort
        (fun left right => left.distance ≤ right.distance) := by
  induction candidates with
  | nil => rfl
  | cons head tail ih =>
      rw [List.insertionSort_cons, ← ih, ← insertCandidate_eq_orderedInsert]
      rfl

namespace Hierarchy

variable {hierarchy : Hierarchy} {total : Signature → Signature → ℕ}

theorem perm_rankBy (hierarchy : Hierarchy)
    (total : Signature → Signature → ℕ) (signatures : List Signature)
    (actual : Signature) :
    (hierarchy.rankBy total signatures actual).Perm
      (hierarchy.candidatesBy total actual 0 signatures) := by
  rw [rankBy, sortCandidates_eq_insertionSort]
  exact List.perm_insertionSort _ _

theorem mem_rankBy_iff {signatures : List Signature} {actual : Signature}
    {candidate : Candidate} :
    candidate ∈ hierarchy.rankBy total signatures actual ↔
      candidate ∈ hierarchy.candidatesBy total actual 0 signatures :=
  (hierarchy.perm_rankBy total signatures actual).mem_iff

/-- Of two accepting signatures the second one is chosen if it is nearer, and
ties if it is as near. -/
theorem resolveBy_pair {first second actual : Signature}
    (hfirst : hierarchy.accepts first actual = true)
    (hsecond : hierarchy.accepts second actual = true)
    (hle : total second actual ≤ total first actual) :
    hierarchy.resolveBy total [first, second] actual =
      if total second actual < total first actual then
        .unique ⟨1, total second actual⟩
      else
        .ambiguous [⟨0, total first actual⟩, ⟨1, total second actual⟩] := by
  rw [resolveBy, rankBy, candidatesBy, if_pos hfirst, candidatesBy,
    if_pos hsecond, candidatesBy]
  simp only [sortCandidates, List.foldr_cons, List.foldr_nil, insertCandidate]
  rcases Nat.lt_or_eq_of_le hle with hlt | heq
  · rw [if_pos hlt, if_neg (Nat.not_le_of_lt hlt)]
    have hne : (total first actual == total second actual) = false := by
      simpa using (Nat.ne_of_lt hlt).symm
    simp [Resolution.ofRanked, hne]
  · simp [Resolution.ofRanked, heq]

theorem mem_rankBy_of_resolveBy_eq_unique {signatures : List Signature}
    {actual : Signature} {best : Candidate}
    (hresolve : hierarchy.resolveBy total signatures actual = .unique best) :
    best ∈ hierarchy.rankBy total signatures actual := by
  rw [resolveBy] at hresolve
  cases hrank : hierarchy.rankBy total signatures actual with
  | nil => simp [hrank, Resolution.ofRanked] at hresolve
  | cons first rest =>
      rw [hrank, Resolution.ofRanked] at hresolve
      split at hresolve
      · obtain rfl : first = best := Resolution.unique.inj hresolve
        exact List.mem_cons_self
      · simp at hresolve

/-- A selected position is one of the table, and its signature accepts the
types. -/
theorem exists_accepts_of_resolveBy_eq_unique {signatures : List Signature}
    {actual : Signature} {best : Candidate}
    (hresolve : hierarchy.resolveBy total signatures actual = .unique best) :
    ∃ declared, signatures[best.index]? = some declared ∧
      hierarchy.accepts declared actual = true := by
  obtain ⟨offset, declared, hdeclared, haccepts, rfl⟩ :=
    mem_candidatesBy_iff.mp
      (mem_rankBy_iff.mp (mem_rankBy_of_resolveBy_eq_unique hresolve))
  exact ⟨declared, by simpa using hdeclared, haccepts⟩

end Hierarchy

end PredicateDispatch
