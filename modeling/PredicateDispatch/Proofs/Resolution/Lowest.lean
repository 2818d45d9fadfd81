import PredicateDispatch.Proofs.Resolution.Nearest
import PredicateDispatch.Proofs.Resolution.Locality

/-!
# The lowest entry

Directed distances add up along a chain of signatures, so that an accepting
signature below all other accepting ones is strictly nearer than they are and is
selected.  A table has such a signature for every call that it accepts if, with
any two signatures that accept the call, it also has one below both.  For a
single argument this is so in every table.
-/

namespace PredicateDispatch.Hierarchy

variable {hierarchy : Hierarchy} {signatures : List Signature}

/-- The signature accepts the types, and every other one that does so is
above it. -/
structure Lowest (hierarchy : Hierarchy) (signatures : List Signature)
    (actual lowest : Signature) : Prop where
  accepts : hierarchy.accepts lowest actual = true
  below : ∀ other ∈ signatures, hierarchy.accepts other actual = true →
    hierarchy.accepts other lowest = true

/-- Any two signatures that accept the types are above a third one that does so,
which may be one of them. -/
def Meets (hierarchy : Hierarchy) (signatures : List Signature)
    (actual : Signature) : Prop :=
  ∀ left ∈ signatures, ∀ right ∈ signatures,
    hierarchy.accepts left actual = true → hierarchy.accepts right actual = true →
      ∃ meet ∈ signatures, hierarchy.accepts meet actual = true ∧
        hierarchy.accepts left meet = true ∧ hierarchy.accepts right meet = true

namespace Coherent

variable (hcoherent : hierarchy.Coherent)
include hcoherent

theorem totalDistance_add {upper middle lower : Signature}
    (hmiddle : hierarchy.accepts middle lower = true)
    (hupper : hierarchy.accepts upper middle = true) :
    hierarchy.totalDistance .directed upper lower =
      hierarchy.totalDistance .directed middle lower +
        hierarchy.totalDistance .directed upper middle := by
  induction lower generalizing upper middle with
  | nil =>
      cases middle with
      | nil => cases upper <;> rfl
      | cons => cases hmiddle
  | cons type others ih =>
      cases middle with
      | nil => cases hmiddle
      | cons second rest =>
          cases upper with
          | nil => cases hupper
          | cons first rest' =>
              obtain ⟨hlower, hothers⟩ := Bool.and_eq_true_iff.mp hmiddle
              obtain ⟨habove, hrest⟩ := Bool.and_eq_true_iff.mp hupper
              have hhead : hierarchy.distance .directed type first =
                  hierarchy.distance .directed type second +
                    hierarchy.distance .directed second first :=
                hcoherent.typeDistance_add hlower habove
              simp only [totalDistance, hhead, ih hothers hrest]
              omega

/-- Only a type itself is at no distance, under either metric. -/
theorem id_eq_of_distance_eq_zero (metric : Metric) {declared actual : Predicate}
    (habove : hierarchy.isA declared actual = true)
    (hzero : hierarchy.distance metric actual declared = 0) :
    declared.id = actual.id := by
  by_contra hne
  have hpos : 0 < hierarchy.distance .directed actual declared :=
    hcoherent.typeDistance_pos habove hne
  cases metric with
  | directed => exact absurd hzero hpos.ne'
  | symmetric =>
      rw [hcoherent.distance_symmetric_eq_min habove] at hzero
      have hcut : 0 < unreachableDistance := by decide
      exact absurd hzero (Nat.lt_min.mpr ⟨hpos, hcut⟩).ne'

theorem ids_eq_of_totalDistance_eq_zero {metric : Metric}
    {upper lower : Signature}
    (haccepts : hierarchy.accepts upper lower = true)
    (hzero : hierarchy.totalDistance metric upper lower = 0) :
    upper.ids = lower.ids := by
  induction lower generalizing upper with
  | nil =>
      cases upper with
      | nil => rfl
      | cons => cases haccepts
  | cons type others ih =>
      cases upper with
      | nil => cases haccepts
      | cons first rest =>
          obtain ⟨habove, hrest⟩ := Bool.and_eq_true_iff.mp haccepts
          obtain ⟨hhead, htail⟩ := Nat.add_eq_zero_iff.mp hzero
          rw [Signature.ids_cons, Signature.ids_cons, ih hrest htail,
            hcoherent.id_eq_of_distance_eq_zero metric habove hhead]

/-- Of two different signatures at most one is above the other one. -/
theorem ids_eq_of_accepts_of_accepts {left right : Signature}
    (hright : hierarchy.accepts left right = true)
    (hleft : hierarchy.accepts right left = true) : left.ids = right.ids := by
  induction left generalizing right with
  | nil =>
      cases right with
      | nil => rfl
      | cons => cases hright
  | cons first rest ih =>
      cases right with
      | nil => cases hright
      | cons second others =>
          obtain ⟨hbelow, hothers⟩ := Bool.and_eq_true_iff.mp hright
          obtain ⟨habove, hrest⟩ := Bool.and_eq_true_iff.mp hleft
          rw [Signature.ids_cons, Signature.ids_cons,
            hcoherent.id_eq_of_isA_of_isA hbelow habove, ih hothers hrest]

/-- The lowest accepting signature is selected. -/
theorem resolve_eq_unique_of_lowest
    (hnodup : (signatures.map Signature.ids).Nodup) {actual lowest : Signature}
    {index : ℕ} (hindex : signatures[index]? = some lowest)
    (hlowest : hierarchy.Lowest signatures actual lowest) :
    hierarchy.resolve .directed signatures actual =
      .unique ⟨index, hierarchy.totalDistance .directed lowest actual⟩ := by
  exact hcoherent.resolve_eq_unique_of_below hnodup hindex hlowest.accepts
    hlowest.below (hierarchy.inReach_directed lowest actual)

/-- The nearest accepting signature is the lowest one. -/
theorem exists_lowest {actual : Signature}
    (hmeets : hierarchy.Meets signatures actual)
    (haccepts : ∃ declared ∈ signatures,
      hierarchy.accepts declared actual = true) :
    ∃ (index : ℕ) (lowest : Signature), signatures[index]? = some lowest ∧
      hierarchy.Lowest signatures actual lowest := by
  obtain ⟨index, least, hindex, hleast, hle⟩ :=
    exists_least_of_accepts (hierarchy.totalDistance .directed) haccepts
  refine ⟨index, least, hindex, hleast, fun other hother hothers => ?_⟩
  obtain ⟨meet, hmeet, hmeet_accepts, hleft, hright⟩ :=
    hmeets least (List.mem_of_getElem? hindex) other hother hleast hothers
  -- The meet is not farther than the nearest one, so that it is that one.
  have hadd := hcoherent.totalDistance_add hmeet_accepts hleft
  have hmeet_le := hle meet hmeet hmeet_accepts
  have hzero : hierarchy.totalDistance .directed least meet = 0 := by omega
  have hids : least.ids = meet.ids :=
    hcoherent.ids_eq_of_totalDistance_eq_zero hleft hzero
  rw [hierarchy.accepts_congr other hids]
  exact hright

/-- A table with meets settles every call. -/
theorem settled_of_meets (hnodup : (signatures.map Signature.ids).Nodup)
    {actual : Signature} (hmeets : hierarchy.Meets signatures actual) :
    ((∀ declared ∈ signatures, hierarchy.accepts declared actual = false) ∧
      hierarchy.resolve .directed signatures actual = .noMatch) ∨
    ∃ index lowest, signatures[index]? = some lowest ∧
      hierarchy.Lowest signatures actual lowest ∧
      hierarchy.resolve .directed signatures actual =
        .unique ⟨index, hierarchy.totalDistance .directed lowest actual⟩ := by
  by_cases haccepts : ∃ declared ∈ signatures,
      hierarchy.accepts declared actual = true
  · obtain ⟨index, lowest, hindex, hlowest⟩ :=
      hcoherent.exists_lowest hmeets haccepts
    exact Or.inr ⟨index, lowest, hindex, hlowest,
      hcoherent.resolve_eq_unique_of_lowest hnodup hindex hlowest⟩
  · have hrejects : ∀ declared ∈ signatures,
        hierarchy.accepts declared actual = false := fun declared hmem =>
      Bool.eq_false_iff.mpr fun haccept => haccepts ⟨declared, hmem, haccept⟩
    exact Or.inl ⟨hrejects, resolveBy_eq_noMatch hrejects⟩

/-! ## At most one argument -/

/-- The ancestors of a type are a chain, so that every table has meets for a
single type, and there is nothing to choose from for none. -/
theorem meets_of_short (signatures : List Signature) {actual : Signature}
    (hshort : actual.length ≤ 1) : hierarchy.Meets signatures actual := by
  intro left hleft right hright hleft_accepts hright_accepts
  match actual, hshort with
  | [], _ =>
      cases left with
      | cons => cases hleft_accepts
      | nil =>
          cases right with
          | cons => cases hright_accepts
          | nil => exact ⟨[], hleft, rfl, rfl, rfl⟩
  | [type], _ =>
      obtain ⟨first, rfl, hfirst⟩ := accepts_singleton_iff.mp hleft_accepts
      obtain ⟨second, rfl, hsecond⟩ := accepts_singleton_iff.mp hright_accepts
      have haccepts : ∀ {upper lower}, hierarchy.isA upper lower = true →
          hierarchy.accepts [upper] [lower] = true :=
        fun habove => accepts_singleton_iff.mpr ⟨_, rfl, habove⟩
      rcases hcoherent.isA_total_of_isA hfirst hsecond with habove | hbelow
      · exact ⟨[second], hright, hright_accepts, haccepts habove,
          haccepts (hierarchy.isA_self second)⟩
      · exact ⟨[first], hleft, hleft_accepts,
          haccepts (hierarchy.isA_self first), haccepts hbelow⟩

/-- With one argument there are no ties: the entry on the lowest declared type
that accepts the argument is selected. -/
theorem exists_resolve_eq_unique (hnodup : (signatures.map Signature.ids).Nodup)
    {type : Predicate}
    (haccepts : ∃ single, [single] ∈ signatures ∧
      hierarchy.isA single type = true) :
    ∃ (index : ℕ) (nearest : Predicate), signatures[index]? = some [nearest] ∧
      hierarchy.isA nearest type = true ∧
      (∀ other, [other] ∈ signatures → hierarchy.isA other type = true →
        hierarchy.isA other nearest = true) ∧
      hierarchy.resolve .directed signatures [type] =
        .unique ⟨index, hierarchy.typeDistance type nearest⟩ := by
  obtain ⟨single, hmem, habove⟩ := haccepts
  have hmeets : hierarchy.Meets signatures [type] :=
    hcoherent.meets_of_short signatures (Nat.le_refl 1)
  obtain ⟨index, lowest, hindex, hlowest⟩ :=
    hcoherent.exists_lowest hmeets
      ⟨[single], hmem, accepts_singleton_iff.mpr ⟨single, rfl, habove⟩⟩
  obtain ⟨nearest, rfl, hnearest⟩ := accepts_singleton_iff.mp hlowest.accepts
  refine ⟨index, nearest, hindex, hnearest, fun other hother habove' => ?_,
    hcoherent.resolve_eq_unique_of_lowest hnodup hindex hlowest⟩
  have haccepts := hlowest.below [other] hother
    (accepts_singleton_iff.mpr ⟨other, rfl, habove'⟩)
  obtain ⟨_, heq, hbelow⟩ := accepts_singleton_iff.mp haccepts
  obtain rfl := List.head_eq_of_cons_eq heq
  exact hbelow

end Coherent

end PredicateDispatch.Hierarchy
