import PredicateDispatch.Proofs.Hierarchy.Closures

/-!
# Counting parent links

The distance to an ancestor is found by walking the lineage.  The walk is as
long as the stored list of ancestors, so that it must be shown that no ancestor
lies further up: one link upward takes exactly one ancestor away.  All facts
about distances follow from what one link does.
-/

namespace PredicateDispatch.Hierarchy

open Relation

/-! ## Only numbers count -/

section Numbers

variable (hierarchy : Hierarchy)

theorem climb_congr (steps : ℕ) {left right : Predicate}
    (hid : left.id = right.id) :
    hierarchy.climb steps left = hierarchy.climb steps right := by
  cases steps with
  | zero => rfl
  | succ steps => simp only [climb, parent?, hid]

theorem lineage_congr {left right : Predicate} (hid : left.id = right.id) :
    hierarchy.lineage left = hierarchy.lineage right := by
  rw [lineage, lineage, ancestorsOf, ancestorsOf, hid,
    hierarchy.climb_congr _ hid]

theorem isA_congr (ancestor : Predicate) {left right : Predicate}
    (hid : left.id = right.id) :
    hierarchy.isA ancestor left = hierarchy.isA ancestor right := by
  rw [isA, isA, ancestorsOf, ancestorsOf, hid]

theorem isA_congr_left {left right : Predicate} (hid : left.id = right.id)
    (descendant : Predicate) :
    hierarchy.isA left descendant = hierarchy.isA right descendant := by
  rw [isA, isA, hid]

theorem typeDistance_congr {left right left' right' : Predicate}
    (hleft : left.id = left'.id) (hright : right.id = right'.id) :
    hierarchy.typeDistance left right = hierarchy.typeDistance left' right' := by
  rw [typeDistance, typeDistance, hierarchy.isA_congr right hleft,
    hierarchy.isA_congr_left hright, hierarchy.lineage_congr hleft]
  simp only [List.findIdx?_cons, hleft, hright]

theorem distance_congr (metric : Metric) {left right : Predicate}
    (hid : left.id = right.id) (declared : Predicate) :
    hierarchy.distance metric left declared =
      hierarchy.distance metric right declared := by
  simp only [distance, hierarchy.typeDistance_congr hid rfl,
    hierarchy.typeDistance_congr (rfl : declared.id = declared.id) hid]

theorem distance_congr_right (metric : Metric) (actual : Predicate)
    {left right : Predicate} (hid : left.id = right.id) :
    hierarchy.distance metric actual left =
      hierarchy.distance metric actual right := by
  simp only [distance, hierarchy.typeDistance_congr rfl hid,
    hierarchy.typeDistance_congr hid rfl]

end Numbers

/-! ## One link upward -/

theorem typeDistance_self (hierarchy : Hierarchy) {source target : Predicate}
    (hid : target.id = source.id) :
    hierarchy.typeDistance source target = 0 := by
  simp [typeDistance, isA, hid, List.findIdx?_cons]

theorem distance_self (hierarchy : Hierarchy) (metric : Metric)
    (type : Predicate) : hierarchy.distance metric type type = 0 := by
  cases metric <;> simp [distance, typeDistance_self hierarchy rfl]

theorem typeDistance_of_not_isA {hierarchy : Hierarchy}
    {source target : Predicate}
    (habove : hierarchy.isA target source = false) :
    hierarchy.typeDistance source target = unreachableDistance := by
  simp [typeDistance, habove]

namespace Coherent

variable {hierarchy : Hierarchy} (hcoherent : hierarchy.Coherent)
include hcoherent

/-- One link upward takes exactly the parent away from the ancestors. -/
theorem ancestorIds_perm_of_parent {type parent : Predicate}
    (hparent : hierarchy.parent? type = some parent) :
    (Signature.ids (parent :: hierarchy.ancestorsOf parent)).Perm
      (hierarchy.ancestorIds type.id) := by
  apply (List.perm_ext_iff_of_nodup (hcoherent.nodup_lineage parent)
    (hcoherent.nodup_ancestorIds type.id)).mpr
  intro other
  rw [hcoherent.mem_ancestorIds_iff_of_parent hparent]
  exact List.mem_cons

theorem length_ancestorsOf_of_parent {type parent : Predicate}
    (hparent : hierarchy.parent? type = some parent) :
    (hierarchy.ancestorsOf type).length =
      (hierarchy.ancestorsOf parent).length + 1 := by
  have hlength := (hcoherent.ancestorIds_perm_of_parent hparent).length_eq.symm
  simpa [ancestorIds, ancestorsOf, Signature.ids] using hlength

theorem lineage_of_parent {type parent : Predicate}
    (hparent : hierarchy.parent? type = some parent) :
    hierarchy.lineage type = parent :: hierarchy.lineage parent := by
  rw [lineage, hcoherent.length_ancestorsOf_of_parent hparent]
  simp only [climb, hparent]
  rfl

theorem lineage_of_root {type : Predicate}
    (hroot : hierarchy.parent? type = none) :
    hierarchy.lineage type = [] := by
  rw [lineage, hcoherent.ancestorsOf_eq_nil_of_root hroot]
  rfl

/-- Induction along the way up: from a root, and from a parent to its child. -/
@[elab_as_elim]
theorem upward_induction {motive : Predicate → Prop}
    (root : ∀ type, hierarchy.parent? type = none → motive type)
    (child : ∀ type parent, hierarchy.parent? type = some parent →
      motive parent → motive type)
    (type : Predicate) : motive type := by
  induction hlength : (hierarchy.ancestorsOf type).length generalizing type with
  | zero =>
      cases hparent : hierarchy.parent? type with
      | none => exact root type hparent
      | some parent =>
          have hstep := hcoherent.length_ancestorsOf_of_parent hparent
          omega
  | succ length ih =>
      cases hparent : hierarchy.parent? type with
      | none => exact root type hparent
      | some parent =>
          have hstep := hcoherent.length_ancestorsOf_of_parent hparent
          exact child type parent hparent (ih parent (by omega))

theorem ids_lineage_perm (type : Predicate) :
    (Signature.ids (hierarchy.lineage type)).Perm
      (hierarchy.ancestorIds type.id) := by
  induction type using hcoherent.upward_induction with
  | root type hroot =>
      rw [hcoherent.lineage_of_root hroot, ← ids_ancestorsOf,
        hcoherent.ancestorsOf_eq_nil_of_root hroot]
  | child type parent hparent ih =>
      rw [hcoherent.lineage_of_parent hparent]
      exact (List.Perm.cons parent.id ih).trans
        (hcoherent.ancestorIds_perm_of_parent hparent)

theorem exists_findIdx?_lineage {source target : Predicate}
    (habove : hierarchy.isA target source = true) :
    ∃ index, (source :: hierarchy.lineage source).findIdx?
      (fun type => type.id == target.id) = some index := by
  have hmem : target.id ∈
      Signature.ids (source :: hierarchy.lineage source) := by
    rcases (hierarchy.isA_eq_true_iff_mem target source).mp habove with
      hself | hancestor
    · exact List.mem_cons.mpr (Or.inl hself)
    · exact List.mem_cons_of_mem source.id
        ((hcoherent.ids_lineage_perm source).mem_iff.mpr hancestor)
  obtain ⟨type, htype, hid⟩ := List.mem_map.mp hmem
  rw [← Option.isSome_iff_exists, List.findIdx?_isSome, List.any_eq_true]
  exact ⟨type, htype, by simp [hid]⟩

theorem isA_parent_of_isA {source target parent : Predicate}
    (hparent : hierarchy.parent? source = some parent)
    (hne : target.id ≠ source.id)
    (habove : hierarchy.isA target source = true) :
    hierarchy.isA target parent = true := by
  rw [isA_eq_true_iff_mem,
    hcoherent.mem_ancestorIds_iff_of_parent hparent] at habove
  exact (isA_eq_true_iff_mem hierarchy target parent).mpr
    (habove.resolve_left hne)

theorem isA_of_isA_parent {source target parent : Predicate}
    (hparent : hierarchy.parent? source = some parent)
    (habove : hierarchy.isA target parent = true) :
    hierarchy.isA target source = true ∧ target.id ≠ source.id := by
  have hancestor : target.id ∈ hierarchy.ancestorIds source.id := by
    rw [hcoherent.mem_ancestorIds_iff_of_parent hparent]
    exact (isA_eq_true_iff_mem hierarchy target parent).mp habove
  refine ⟨(isA_eq_true_iff_mem hierarchy target source).mpr
    (Or.inr hancestor), fun hid => ?_⟩
  exact hcoherent.acyclic source.id
    ((hcoherent.mem_ancestorIds source.id source.id).mp (hid ▸ hancestor))

/-- The distance grows by one with each link. -/
theorem typeDistance_of_parent {source target parent : Predicate}
    (hparent : hierarchy.parent? source = some parent)
    (habove : hierarchy.isA target parent = true) :
    hierarchy.typeDistance source target =
      hierarchy.typeDistance parent target + 1 := by
  obtain ⟨hsource, hne⟩ := hcoherent.isA_of_isA_parent hparent habove
  obtain ⟨index, hindex⟩ := hcoherent.exists_findIdx?_lineage habove
  have hskip : (source.id == target.id) = false := by
    simpa using Ne.symm hne
  rw [typeDistance, typeDistance, if_pos hsource, if_pos habove,
    hcoherent.lineage_of_parent hparent, List.findIdx?_cons, hskip, hindex]
  rfl

/-! ## Distances along a chain -/

/-- By way of a type in between, the distances add up. -/
theorem typeDistance_add {upper middle lower : Predicate}
    (hmiddle : hierarchy.isA middle lower = true)
    (hupper : hierarchy.isA upper middle = true) :
    hierarchy.typeDistance lower upper =
      hierarchy.typeDistance lower middle +
        hierarchy.typeDistance middle upper := by
  induction lower using hcoherent.upward_induction with
  | root lower hroot =>
      have hself := hcoherent.id_eq_of_isA_root hroot hmiddle
      rw [hierarchy.typeDistance_self hself, Nat.zero_add,
        hierarchy.typeDistance_congr hself rfl]
  | child lower parent hparent ih =>
      by_cases hself : middle.id = lower.id
      · rw [hierarchy.typeDistance_self hself, Nat.zero_add,
          hierarchy.typeDistance_congr hself rfl]
      · have hbelow := hcoherent.isA_parent_of_isA hparent hself hmiddle
        rw [hcoherent.typeDistance_of_parent hparent hbelow,
          hcoherent.typeDistance_of_parent hparent
            (hcoherent.isA_trans hupper hbelow), ih hbelow]
        exact Nat.add_right_comm _ _ 1

theorem typeDistance_pos {upper lower : Predicate}
    (habove : hierarchy.isA upper lower = true) (hne : upper.id ≠ lower.id) :
    0 < hierarchy.typeDistance lower upper := by
  cases hparent : hierarchy.parent? lower with
  | none => exact absurd (hcoherent.id_eq_of_isA_root hparent habove) hne
  | some parent =>
      rw [hcoherent.typeDistance_of_parent hparent
        (hcoherent.isA_parent_of_isA hparent hne habove)]
      exact Nat.succ_pos _

/-! ## The symmetric metric -/

/-- From an ancestor down to its descendant there is no way, so that the
symmetric metric is the directed one cut off. -/
theorem distance_symmetric_eq_min {actual declared : Predicate}
    (habove : hierarchy.isA declared actual = true) :
    hierarchy.distance .symmetric actual declared =
      min (hierarchy.distance .directed actual declared)
        unreachableDistance := by
  change min (hierarchy.typeDistance actual declared)
      (hierarchy.typeDistance declared actual) =
    min (hierarchy.typeDistance actual declared) unreachableDistance
  by_cases hid : declared.id = actual.id
  · rw [typeDistance_self hierarchy hid, Nat.zero_min, Nat.zero_min]
  · have hbelow : hierarchy.isA actual declared = false := by
      by_contra hboth
      have hback : hierarchy.isA actual declared = true := by simpa using hboth
      exact hid (hcoherent.id_eq_of_isA_of_isA habove hback)
    rw [typeDistance_of_not_isA hbelow]

/-! ## Distances and depth -/

/-- The distance to an ancestor is at most the number of ancestors. -/
theorem typeDistance_le_length {source target : Predicate}
    (habove : hierarchy.isA target source = true) :
    hierarchy.typeDistance source target ≤
      (hierarchy.ancestorsOf source).length := by
  induction source using hcoherent.upward_induction with
  | root source hroot =>
      rw [hierarchy.typeDistance_self (hcoherent.id_eq_of_isA_root hroot habove)]
      exact Nat.zero_le _
  | child source parent hparent ih =>
      by_cases hself : target.id = source.id
      · rw [hierarchy.typeDistance_self hself]
        exact Nat.zero_le _
      · have hupper := hcoherent.isA_parent_of_isA hparent hself habove
        rw [hcoherent.typeDistance_of_parent hparent hupper,
          hcoherent.length_ancestorsOf_of_parent hparent]
        exact Nat.succ_le_succ (ih hupper)

/-- Every distance up to the number of ancestors is that of some ancestor. -/
theorem exists_typeDistance_eq {source : Predicate} {steps : ℕ}
    (hsteps : steps ≤ (hierarchy.ancestorsOf source).length) :
    ∃ target, hierarchy.isA target source = true ∧
      hierarchy.typeDistance source target = steps := by
  induction source using hcoherent.upward_induction generalizing steps with
  | root source hroot =>
      rw [hcoherent.ancestorsOf_eq_nil_of_root hroot] at hsteps
      obtain rfl : steps = 0 := Nat.le_zero.mp hsteps
      exact ⟨source, by simp [isA], hierarchy.typeDistance_self rfl⟩
  | child source parent hparent ih =>
      cases steps with
      | zero => exact ⟨source, by simp [isA], hierarchy.typeDistance_self rfl⟩
      | succ steps =>
          rw [hcoherent.length_ancestorsOf_of_parent hparent] at hsteps
          obtain ⟨target, habove, hdistance⟩ :=
            ih (Nat.le_of_succ_le_succ hsteps)
          refine ⟨target, (hcoherent.isA_of_isA_parent hparent habove).1, ?_⟩
          rw [hcoherent.typeDistance_of_parent hparent habove, hdistance]

end Coherent

end PredicateDispatch.Hierarchy
