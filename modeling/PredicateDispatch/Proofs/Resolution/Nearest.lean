import PredicateDispatch.Proofs.Hierarchy.Growth
import PredicateDispatch.Proofs.Resolution.Ranking

/-!
# The nearest entry

An accepting signature that is strictly nearer than all others is selected.
In a table in which no argument types stand twice, the entry on the lowest type
that accepts a single argument is such a signature, under either metric if the
type is not too far: so is the entry for the type of the argument itself, and
without one the entry for its parent.
-/

namespace PredicateDispatch.Hierarchy

variable {hierarchy : Hierarchy} {metric : Metric}
  {signatures : List Signature} {actual : Signature}

/-! ## Any number of arguments -/

section Ranking

variable {total : Signature → Signature → ℕ}

theorem exists_of_mem_rankBy {candidate : Candidate}
    (hmem : candidate ∈ hierarchy.rankBy total signatures actual) :
    ∃ declared, signatures[candidate.index]? = some declared ∧
      hierarchy.accepts declared actual = true ∧
      candidate.distance = total declared actual := by
  obtain ⟨offset, declared, hdeclared, haccepts, rfl⟩ :=
    mem_candidatesBy_iff.mp (mem_rankBy_iff.mp hmem)
  exact ⟨declared, by simpa using hdeclared, haccepts, rfl⟩

theorem mem_rankBy_of_accepts (total : Signature → Signature → ℕ) {index : ℕ}
    {declared : Signature} (hdeclared : signatures[index]? = some declared)
    (haccepts : hierarchy.accepts declared actual = true) :
    ⟨index, total declared actual⟩ ∈
      hierarchy.rankBy total signatures actual :=
  mem_rankBy_iff.mpr (mem_candidatesBy_iff.mpr
    ⟨index, declared, hdeclared, haccepts, by rw [Nat.zero_add]⟩)

theorem pairwise_rankBy (hierarchy : Hierarchy)
    (total : Signature → Signature → ℕ) (signatures : List Signature)
    (actual : Signature) :
    (hierarchy.rankBy total signatures actual).Pairwise
      fun left right => left.distance ≤ right.distance := by
  rw [rankBy, sortCandidates_eq_insertionSort]
  have : IsTrans Candidate fun left right => left.distance ≤ right.distance :=
    ⟨fun _ _ _ => Nat.le_trans⟩
  have : Std.Total fun left right : Candidate =>
      left.distance ≤ right.distance := ⟨fun _ _ => Nat.le_total _ _⟩
  exact List.pairwise_insertionSort _ _

theorem nodup_rankBy (hierarchy : Hierarchy)
    (total : Signature → Signature → ℕ) (signatures : List Signature)
    (actual : Signature) :
    (hierarchy.rankBy total signatures actual).Nodup := by
  have hnodup : (hierarchy.candidatesBy total actual 0 signatures).Nodup :=
    (hierarchy.pairwise_index_candidatesBy total signatures actual 0).imp
      fun hlt heq => Nat.ne_of_lt hlt (congrArg Candidate.index heq)
  exact (hierarchy.perm_rankBy total signatures actual).nodup_iff.mpr hnodup

theorem resolveBy_eq_noMatch
    (hrejects : ∀ declared ∈ signatures,
      hierarchy.accepts declared actual = false) :
    hierarchy.resolveBy total signatures actual = .noMatch := by
  have hrank : hierarchy.rankBy total signatures actual = [] := by
    apply List.eq_nil_iff_forall_not_mem.mpr
    intro candidate hmem
    obtain ⟨declared, hdeclared, haccepts, -⟩ := exists_of_mem_rankBy hmem
    have hrejected := hrejects declared (List.mem_of_getElem? hdeclared)
    exact Bool.noConfusion (hrejected.symm.trans haccepts)
  rw [resolveBy, hrank, Resolution.ofRanked]

/-- Some accepting signature is at least as near as every other one. -/
theorem exists_least_of_accepts (total : Signature → Signature → ℕ)
    (haccepts : ∃ declared ∈ signatures,
      hierarchy.accepts declared actual = true) :
    ∃ (index : ℕ) (least : Signature), signatures[index]? = some least ∧
      hierarchy.accepts least actual = true ∧
      ∀ other ∈ signatures, hierarchy.accepts other actual = true →
        total least actual ≤
          total other actual := by
  obtain ⟨declared, hmem, haccepts⟩ := haccepts
  obtain ⟨position, hposition⟩ := List.getElem?_of_mem hmem
  have hpairwise := pairwise_rankBy hierarchy total signatures actual
  cases hrank : hierarchy.rankBy total signatures actual with
  | nil =>
      have hcandidate := mem_rankBy_of_accepts total hposition haccepts
      rw [hrank] at hcandidate
      exact absurd hcandidate List.not_mem_nil
  | cons best rest =>
      have hbest : best ∈ hierarchy.rankBy total signatures actual := by
        rw [hrank]
        exact List.mem_cons_self
      obtain ⟨least, hleast, hleast_accepts, hdistance⟩ := exists_of_mem_rankBy hbest
      refine ⟨best.index, least, hleast, hleast_accepts, fun other hother hothers => ?_⟩
      obtain ⟨index, hindex⟩ := List.getElem?_of_mem hother
      have hcandidate := mem_rankBy_of_accepts total hindex hothers
      rw [hrank] at hcandidate hpairwise
      rw [← hdistance]
      rcases List.mem_cons.mp hcandidate with heq | hrest
      · rw [← heq]
      · exact (List.pairwise_cons.mp hpairwise).1 _ hrest

/-- A candidate that is strictly nearer than all others is chosen. -/
theorem resolveBy_eq_unique_of_least {best : Candidate}
    (hbest : best ∈ hierarchy.rankBy total signatures actual)
    (hfarther : ∀ candidate ∈ hierarchy.rankBy total signatures actual,
      candidate ≠ best → best.distance < candidate.distance) :
    hierarchy.resolveBy total signatures actual = .unique best := by
  have hpairwise := pairwise_rankBy hierarchy total signatures actual
  have hnodup := nodup_rankBy hierarchy total signatures actual
  rw [resolveBy]
  cases hrank : hierarchy.rankBy total signatures actual with
  | nil =>
      rw [hrank] at hbest
      exact absurd hbest List.not_mem_nil
  | cons head rest =>
      rw [hrank] at hbest hfarther hpairwise hnodup
      obtain rfl : best = head := by
        by_contra hne
        have hrest := (List.mem_cons.mp hbest).resolve_left hne
        exact absurd ((List.pairwise_cons.mp hpairwise).1 _ hrest)
          (Nat.not_le_of_lt (hfarther head List.mem_cons_self (Ne.symm hne)))
      have halone : (rest.takeWhile fun candidate =>
          candidate.distance == best.distance) = [] := by
        cases rest with
        | nil => rfl
        | cons second others =>
            have hne : second ≠ best := by
              rintro rfl
              exact (List.nodup_cons.mp hnodup).1 List.mem_cons_self
            have hlt := hfarther second
              (List.mem_cons_of_mem _ List.mem_cons_self) hne
            exact List.takeWhile_cons_of_neg (by simpa using Nat.ne_of_gt hlt)
      rw [Resolution.ofRanked, halone]

/-- An accepting signature that is strictly nearer than all others is
selected. -/
theorem resolveBy_eq_unique_of_nearest {index : ℕ} {nearest : Signature}
    (hnearest : signatures[index]? = some nearest)
    (haccepts : hierarchy.accepts nearest actual = true)
    (hfarther : ∀ other declared, signatures[other]? = some declared →
      hierarchy.accepts declared actual = true → other ≠ index →
        total nearest actual <
          total declared actual) :
    hierarchy.resolveBy total signatures actual =
      .unique ⟨index, total nearest actual⟩ := by
  refine resolveBy_eq_unique_of_least
    (mem_rankBy_of_accepts total hnearest haccepts) fun candidate hmem hne => ?_
  obtain ⟨declared, hdeclared, hdeclared_accepts, hdistance⟩ :=
    exists_of_mem_rankBy hmem
  have hindex : candidate.index ≠ index := by
    rintro rfl
    obtain rfl := Option.some.inj (hnearest.symm.trans hdeclared)
    exact hne (by rw [← hdistance])
  rw [hdistance]
  exact hfarther _ _ hdeclared hdeclared_accepts hindex

end Ranking

/-! ## Signatures below all others -/

/-- In a table without repetition, signatures with the same numbers stand at
the same place. -/
theorem index_eq_of_ids_eq
    (hnodup : (signatures.map Signature.ids).Nodup) {left right : ℕ}
    {first second : Signature} (hfirst : signatures[left]? = some first)
    (hsecond : signatures[right]? = some second)
    (hids : first.ids = second.ids) : left = right := by
  have hlt : left < (signatures.map Signature.ids).length := by
    rw [List.length_map]
    exact (List.getElem?_eq_some_iff.mp hfirst).1
  apply (List.getElem?_inj hlt hnodup).mp
  rw [List.getElem?_map, List.getElem?_map, hfirst, hsecond]
  exact congrArg some hids

/-- The symmetric metric, which cuts distances off, does not cut off that of any
actual type to its declared one. -/
def InReach (hierarchy : Hierarchy) (metric : Metric) :
    (declared actual : Signature) → Prop
  | declared :: rest, actual :: others =>
    (metric = .symmetric →
      hierarchy.typeDistance actual declared < unreachableDistance) ∧
    hierarchy.InReach metric rest others
  | _, _ => True

theorem inReach_directed (hierarchy : Hierarchy) (declared actual : Signature) :
    hierarchy.InReach .directed declared actual := by
  induction declared generalizing actual with
  | nil => trivial
  | cons head rest ih =>
      cases actual with
      | nil => trivial
      | cons type others => exact ⟨nofun, ih others⟩

namespace Coherent

variable (hcoherent : hierarchy.Coherent)
include hcoherent

/-- Further up is farther, unless the distance is cut off. -/
theorem distance_lt_of_isA {upper middle lower : Predicate}
    (hmiddle : hierarchy.isA middle lower = true)
    (hupper : hierarchy.isA upper middle = true) (hne : upper.id ≠ middle.id)
    (hreach : metric = .symmetric →
      hierarchy.typeDistance lower middle < unreachableDistance) :
    hierarchy.distance metric lower middle <
      hierarchy.distance metric lower upper := by
  have hpos := hcoherent.typeDistance_pos hupper hne
  have hadd := hcoherent.typeDistance_add hmiddle hupper
  have hfarther : hierarchy.typeDistance lower middle <
      hierarchy.typeDistance lower upper := by omega
  cases metric with
  | directed => exact hfarther
  | symmetric =>
      rw [hcoherent.distance_symmetric_eq_min hmiddle,
        hcoherent.distance_symmetric_eq_min (hcoherent.isA_trans hupper hmiddle)]
      exact lt_of_le_of_lt (Nat.min_le_left _ _)
        (Nat.lt_min.mpr ⟨hfarther, hreach rfl⟩)

theorem accepts_trans {upper middle lower : Signature}
    (hmiddle : hierarchy.accepts middle lower = true)
    (hupper : hierarchy.accepts upper middle = true) :
    hierarchy.accepts upper lower = true := by
  induction lower generalizing upper middle with
  | nil =>
      cases middle with
      | cons => cases hmiddle
      | nil => exact hupper
  | cons type others ih =>
      cases middle with
      | nil => cases hmiddle
      | cons second rest =>
          cases upper with
          | nil => cases hupper
          | cons first rest' =>
              obtain ⟨hlower, hothers⟩ := Bool.and_eq_true_iff.mp hmiddle
              obtain ⟨habove, hrest⟩ := Bool.and_eq_true_iff.mp hupper
              exact Bool.and_eq_true_iff.mpr
                ⟨hcoherent.isA_trans habove hlower, ih hothers hrest⟩

/-- Of a signature and a different one above it, the lower one is nearer. -/
theorem totalDistance_le_and_lt {upper middle lower : Signature}
    (hmiddle : hierarchy.accepts middle lower = true)
    (hupper : hierarchy.accepts upper middle = true)
    (hreach : hierarchy.InReach metric middle lower) :
    hierarchy.totalDistance metric middle lower ≤
        hierarchy.totalDistance metric upper lower ∧
      (upper.ids ≠ middle.ids →
        hierarchy.totalDistance metric middle lower <
          hierarchy.totalDistance metric upper lower) := by
  induction lower generalizing upper middle with
  | nil =>
      cases middle with
      | cons => cases hmiddle
      | nil =>
          cases upper with
          | cons => cases hupper
          | nil => exact ⟨Nat.le_refl _, fun hne => absurd rfl hne⟩
  | cons type others ih =>
      cases middle with
      | nil => cases hmiddle
      | cons second rest =>
          cases upper with
          | nil => cases hupper
          | cons first rest' =>
              obtain ⟨hlower, hothers⟩ := Bool.and_eq_true_iff.mp hmiddle
              obtain ⟨habove, hrest⟩ := Bool.and_eq_true_iff.mp hupper
              obtain ⟨hle, hlt⟩ := ih hothers hrest hreach.2
              simp only [totalDistance, Signature.ids_cons]
              by_cases hid : first.id = second.id
              · rw [hierarchy.distance_congr_right metric type hid]
                refine ⟨Nat.add_le_add_left hle _, fun hne => ?_⟩
                refine Nat.add_lt_add_left (hlt fun hids => hne ?_) _
                rw [hid, hids]
              · have hhead := hcoherent.distance_lt_of_isA hlower habove hid
                  hreach.1
                have htotal := Nat.add_lt_add_of_lt_of_le hhead hle
                exact ⟨htotal.le, fun _ => htotal⟩

/-- An accepting signature that is in reach and below all other accepting ones
is selected under either metric. -/
theorem resolve_eq_unique_of_below
    (hnodup : (signatures.map Signature.ids).Nodup) {lowest : Signature}
    {index : ℕ} (hindex : signatures[index]? = some lowest)
    (haccepts : hierarchy.accepts lowest actual = true)
    (hbelow : ∀ other ∈ signatures, hierarchy.accepts other actual = true →
      hierarchy.accepts other lowest = true)
    (hreach : hierarchy.InReach metric lowest actual) :
    hierarchy.resolve metric signatures actual =
      .unique ⟨index, hierarchy.totalDistance metric lowest actual⟩ := by
  refine resolveBy_eq_unique_of_nearest hindex haccepts
    fun position declared hdeclared hdeclared_accepts hposition => ?_
  have habove := hbelow declared (List.mem_of_getElem? hdeclared) hdeclared_accepts
  exact (hcoherent.totalDistance_le_and_lt haccepts habove hreach).2
    fun hids => hposition (index_eq_of_ids_eq hnodup hdeclared hindex hids)

end Coherent

/-! ## One argument -/

theorem accepts_singleton_iff {declared : Signature} {type : Predicate} :
    hierarchy.accepts declared [type] = true ↔
      ∃ single, declared = [single] ∧ hierarchy.isA single type = true := by
  cases declared with
  | nil => simp [accepts]
  | cons single rest =>
      cases rest with
      | nil => simp [accepts]
      | cons second others => simp [accepts]

theorem totalDistance_singleton (metric : Metric) (declared type : Predicate) :
    hierarchy.totalDistance metric [declared] [type] =
      hierarchy.distance metric type declared := rfl

section Single

variable (hcoherent : hierarchy.Coherent)
  (hnodup : (signatures.map Signature.ids).Nodup) {type : Predicate}
include hcoherent hnodup

/-- The entry on the lowest declared type that accepts the argument is selected
under either metric, as long as it is not too far for the symmetric one. -/
theorem Coherent.resolve_eq_unique_of_closest (metric : Metric) {index : ℕ}
    {closest : Predicate} (hclosest : signatures[index]? = some [closest])
    (habove : hierarchy.isA closest type = true)
    (hnear : hierarchy.typeDistance type closest < unreachableDistance)
    (hlowest : ∀ other, [other] ∈ signatures →
      hierarchy.isA other type = true → hierarchy.isA other closest = true) :
    hierarchy.resolve metric signatures [type] =
      .unique ⟨index, hierarchy.typeDistance type closest⟩ := by
  have hdistance : hierarchy.totalDistance metric [closest] [type] =
      hierarchy.typeDistance type closest := by
    rw [totalDistance_singleton]
    cases metric with
    | directed => rfl
    | symmetric =>
        rw [hcoherent.distance_symmetric_eq_min habove]
        exact Nat.min_eq_left (Nat.le_of_lt hnear)
  rw [← hdistance]
  refine hcoherent.resolve_eq_unique_of_below hnodup hclosest
    (accepts_singleton_iff.mpr ⟨closest, rfl, habove⟩)
    (fun other hother haccepts => ?_) ⟨fun _ => hnear, trivial⟩
  obtain ⟨single, rfl, hsingle⟩ := accepts_singleton_iff.mp haccepts
  exact accepts_singleton_iff.mpr ⟨single, rfl, hlowest single hother hsingle⟩

/-- The entry for the type itself is selected, whatever the metric. -/
theorem Coherent.resolve_eq_unique_of_self (metric : Metric) {index : ℕ}
    {self : Predicate} (hself : signatures[index]? = some [self])
    (hid : self.id = type.id) :
    hierarchy.resolve metric signatures [type] = .unique ⟨index, 0⟩ := by
  have hzero := hierarchy.typeDistance_self hid
  have hbelow : hierarchy.isA self type = true := by
    rw [hierarchy.isA_congr_left hid]
    exact hierarchy.isA_self type
  rw [← hzero]
  refine hcoherent.resolve_eq_unique_of_closest hnodup metric hself hbelow
    (by rw [hzero]; decide) fun other _ hother => ?_
  rw [hierarchy.isA_congr other hid]
  exact hother

/-- If the type has no entry of its own, the entry on its parent is selected. -/
theorem Coherent.resolve_eq_unique_of_parent (metric : Metric) {index : ℕ}
    {parent : Predicate} (hparent : signatures[index]? = some [parent])
    (hlink : hierarchy.ParentLink type.id parent.id)
    (hnew : ∀ single : Predicate, [single] ∈ signatures → single.id ≠ type.id) :
    hierarchy.resolve metric signatures [type] = .unique ⟨index, 1⟩ := by
  have hone := hcoherent.typeDistance_of_parentLink hlink
  rw [← hone]
  exact hcoherent.resolve_eq_unique_of_closest hnodup metric hparent
    (hcoherent.isA_of_parentLink hlink) (by rw [hone]; decide)
    fun other hother habove =>
      hcoherent.isA_parent_of_parentLink hlink habove (hnew other hother)

end Single

end PredicateDispatch.Hierarchy
