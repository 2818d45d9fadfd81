import PredicateDispatch.Proofs.Hierarchy.Distance

/-!
# What a growing forest keeps

A new predicate stands alone, and a link changes what is above the child and
what is below it, and nothing else: whatever is neither the child nor below it
keeps its ancestors and its distances, in forests of any shape.
-/

namespace PredicateDispatch.Hierarchy

open Relation

/-- The predicate has been created here. -/
def Knows (hierarchy : Hierarchy) (type : Predicate) : Prop :=
  type.id < hierarchy.predicates.size

instance (hierarchy : Hierarchy) (type : Predicate) :
    Decidable (hierarchy.Knows type) :=
  inferInstanceAs (Decidable (_ < _))

/-- Parent links join predicates that have been created. -/
def Confined (hierarchy : Hierarchy) : Prop :=
  ∀ child parent, hierarchy.ParentLink child parent →
    child < hierarchy.predicates.size ∧ parent < hierarchy.predicates.size

theorem Knows.create {hierarchy : Hierarchy} {type : Predicate}
    (hknown : hierarchy.Knows type) (name : String) :
    (hierarchy.create name).Knows type := by
  rw [Knows, Hierarchy.create, Array.size_push]
  exact Nat.lt_succ_of_lt hknown

theorem knows_fresh (hierarchy : Hierarchy) (name : String) :
    (hierarchy.create name).Knows (hierarchy.fresh name) := by
  rw [Knows, create, Array.size_push]
  exact Nat.lt_succ_self _

theorem Confined.create {hierarchy : Hierarchy} (hconfined : hierarchy.Confined)
    (name : String) : (hierarchy.create name).Confined := by
  intro child parent hlink
  obtain ⟨hchild, hparent⟩ := hconfined child parent hlink
  rw [Hierarchy.create, Array.size_push]
  exact ⟨Nat.lt_succ_of_lt hchild, Nat.lt_succ_of_lt hparent⟩

/-! ## Strangers -/

section Strangers

variable {hierarchy : Hierarchy} (hconfined : hierarchy.Confined)
  {stranger : Predicate} (hstranger : ¬ hierarchy.Knows stranger)
include hconfined hstranger

theorem Confined.parent?_eq_none : hierarchy.parent? stranger = none := by
  cases hparent : hierarchy.parent? stranger with
  | none => rfl
  | some parent =>
      exact absurd (hconfined _ _ (parentLink_of_parent?_eq_some hparent)).1
        hstranger

/-- Nothing is below a predicate that has not been created. -/
theorem Confined.isA_iff_of_above (hcoherent : hierarchy.Coherent)
    (type : Predicate) :
    hierarchy.isA stranger type = true ↔ stranger.id = type.id := by
  rw [hcoherent.isA_iff]
  constructor
  · intro hpath
    rcases hpath.cases_tail with hid | ⟨last, _, hlink⟩
    · exact hid
    · exact absurd (hconfined _ _ hlink).2 hstranger
  · intro hid
    rw [hid]

end Strangers

theorem not_knows_fresh (hierarchy : Hierarchy) (name : String) :
    ¬ hierarchy.Knows (hierarchy.fresh name) :=
  Nat.lt_irrefl _

theorem Knows.ne_fresh {hierarchy : Hierarchy} {type : Predicate}
    (hknown : hierarchy.Knows type) (name : String) :
    (hierarchy.fresh name).id ≠ type.id :=
  (Nat.ne_of_lt hknown).symm

/-- A new predicate is above nothing that has been created before. -/
theorem Confined.isA_fresh_eq_false {hierarchy : Hierarchy}
    (hconfined : hierarchy.Confined) (hcoherent : hierarchy.Coherent)
    (name : String) {type : Predicate} (hknown : hierarchy.Knows type) :
    hierarchy.isA (hierarchy.fresh name) type = false := by
  rw [Bool.eq_false_iff]
  intro habove
  have hstranger := hierarchy.not_knows_fresh name
  exact hknown.ne_fresh name
    ((hconfined.isA_iff_of_above hstranger hcoherent type).mp habove)

/-- A new predicate is below nothing that has been created before. -/
theorem Confined.isA_create_fresh_eq_false {hierarchy : Hierarchy}
    (hconfined : hierarchy.Confined) (hcoherent : hierarchy.Coherent)
    (name : String) {type : Predicate} (hknown : hierarchy.Knows type) :
    (hierarchy.create name).isA type (hierarchy.fresh name) = false := by
  have hroot := hconfined.parent?_eq_none (hierarchy.not_knows_fresh name)
  have hnone : (hierarchy.create name).ancestorsOf (hierarchy.fresh name) = [] :=
    hcoherent.ancestorsOf_eq_nil_of_root hroot
  have hne : type.id ≠ (hierarchy.fresh name).id := (hknown.ne_fresh name).symm
  simp [isA, hnone, hne]

/-- A new predicate can be linked under every other one. -/
theorem Confined.exists_link_fresh {hierarchy : Hierarchy}
    (hconfined : hierarchy.Confined) (hcoherent : hierarchy.Coherent)
    {parent : Predicate} {name : String}
    (hparent : (hierarchy.fresh name).id ≠ parent.id) :
    ∃ linked, (hierarchy.create name).link parent (hierarchy.fresh name) =
      .ok linked := by
  have hstranger := hierarchy.not_knows_fresh name
  have hfree : (hierarchy.create name).parent? (hierarchy.fresh name) = none :=
    hconfined.parent?_eq_none hstranger
  have hapart : (hierarchy.create name).isA (hierarchy.fresh name) parent =
      false := by
    rw [Bool.eq_false_iff]
    intro habove
    exact hparent
      ((hconfined.isA_iff_of_above hstranger hcoherent parent).mp habove)
  exact ⟨_, link_eq_ok_iff.mpr ⟨hfree, hapart, rfl⟩⟩

/-! ## One link -/

section Link

variable {hierarchy linked : Hierarchy} {parent child : Predicate}
  (hlink : hierarchy.link parent child = .ok linked)
include hlink

theorem predicates_of_link : linked.predicates = hierarchy.predicates := by
  obtain ⟨_, _, rfl⟩ := link_eq_ok_iff.mp hlink
  rfl

theorem Knows.link {type : Predicate} (hknown : hierarchy.Knows type) :
    linked.Knows type := by
  rw [Knows, predicates_of_link hlink]
  exact hknown

theorem Confined.link (hconfined : hierarchy.Confined)
    (hparent : hierarchy.Knows parent) (hchild : hierarchy.Knows child) :
    linked.Confined := by
  intro lower upper hstep
  rw [predicates_of_link hlink]
  rcases (parentLink_link_iff hlink lower upper).mp hstep with
    hold | ⟨rfl, rfl⟩
  · exact hconfined lower upper hold
  · exact ⟨hchild, hparent⟩

theorem parentLink_of_link : linked.ParentLink child.id parent.id :=
  (parentLink_link_iff hlink _ _).mpr (Or.inr ⟨rfl, rfl⟩)

theorem ids_ne_of_link : child.id ≠ parent.id := by
  obtain ⟨_, hapart, _⟩ := link_eq_ok_iff.mp hlink
  intro hid
  rw [hierarchy.isA_congr_left hid, isA_self] at hapart
  exact Bool.noConfusion hapart

theorem parent?_link_of_ne {type : Predicate} (hne : type.id ≠ child.id) :
    linked.parent? type = hierarchy.parent? type := by
  obtain ⟨_, _, rfl⟩ := link_eq_ok_iff.mp hlink
  have hkey : compare child.id type.id ≠ .eq :=
    fun heq => hne (Std.LawfulEqCmp.eq_of_compare heq).symm
  simp [parent?, Std.TreeMap.getElem?_insert, hkey]

theorem parent?_link_self : linked.parent? child = some parent := by
  obtain ⟨_, _, rfl⟩ := link_eq_ok_iff.mp hlink
  exact Std.TreeMap.getElem?_insert_self

/-- A link takes no parent away. -/
theorem parent?_link_of_some {type above : Predicate}
    (habove : hierarchy.parent? type = some above) :
    linked.parent? type = some above := by
  obtain ⟨hfree, _, _⟩ := link_eq_ok_iff.mp hlink
  rw [parent?_link_of_ne hlink]
  · exact habove
  · intro hid
    rw [parent?, ← hid] at hfree
    cases habove.symm.trans hfree

variable (hcoherent : hierarchy.Coherent)
include hcoherent

/-- A link takes no ancestor away. -/
theorem isA_link_of_isA {upper lower : Predicate}
    (habove : hierarchy.isA upper lower = true) :
    linked.isA upper lower = true := by
  rw [(hcoherent.link hlink).isA_iff]
  rw [hcoherent.isA_iff] at habove
  exact ReflTransGen.mono
    (fun _ _ hstep => (parentLink_link_iff hlink _ _).mpr (Or.inl hstep))
    _ _ habove

/-- Beside what was above before, a link puts what is above the parent above what
is below the child. -/
theorem isA_link_iff (upper lower : Predicate) :
    linked.isA upper lower = true ↔
      hierarchy.isA upper lower = true ∨
        (hierarchy.isA upper parent = true ∧
          hierarchy.isA child lower = true) := by
  rw [(hcoherent.link hlink).isA_iff, hcoherent.isA_iff, hcoherent.isA_iff,
    hcoherent.isA_iff, reflTransGen_iff_eq_or_transGen,
    transGen_parentLink_link_iff hlink, ← or_assoc,
    ← reflTransGen_iff_eq_or_transGen]
  exact or_congr_right and_comm

/-! ### What is not below the child -/

variable {type : Predicate} (hapart : hierarchy.isA child type = false)
include hapart

theorem ancestorsOf_link_of_apart :
    linked.ancestorsOf type = hierarchy.ancestorsOf type := by
  have hout : type.id ∉
      Signature.ids (child :: hierarchy.descendantsOf child) := by
    rw [hcoherent.mem_subtree_iff, ← hcoherent.isA_iff, hapart]
    exact Bool.false_ne_true
  obtain ⟨_, _, rfl⟩ := link_eq_ok_iff.mp hlink
  rw [ancestorsOf, getD_extend _ _ _ (hcoherent.nodup_subtree child), if_neg hout]
  rfl

theorem isA_link_of_apart (upper : Predicate) :
    linked.isA upper type = hierarchy.isA upper type := by
  rw [isA, isA, ancestorsOf_link_of_apart hlink hcoherent hapart]

theorem climb_link_of_apart (steps : ℕ) :
    linked.climb steps type = hierarchy.climb steps type := by
  induction steps generalizing type with
  | zero => rfl
  | succ steps ih =>
      have hne : type.id ≠ child.id := by
        intro hid
        rw [hierarchy.isA_congr child hid, isA_self] at hapart
        exact Bool.noConfusion hapart
      rw [climb, climb, parent?_link_of_ne hlink hne]
      cases hparent : hierarchy.parent? type with
      | none => rfl
      | some upper =>
          have hupper : hierarchy.isA child upper = false := by
            rw [Bool.eq_false_iff]
            intro hbelow
            have htype := (hcoherent.isA_of_isA_parent hparent hbelow).1
            exact Bool.noConfusion (htype.symm.trans hapart)
          exact congrArg (upper :: ·) (ih hupper)

theorem typeDistance_link_of_apart (target : Predicate) :
    linked.typeDistance type target = hierarchy.typeDistance type target := by
  rw [typeDistance, typeDistance, lineage, lineage,
    isA_link_of_apart hlink hcoherent hapart,
    ancestorsOf_link_of_apart hlink hcoherent hapart,
    climb_link_of_apart hlink hcoherent hapart]

/-- The way up is as long as before, under both metrics. -/
theorem distance_link_of_apart (metric : Metric) {declared : Predicate}
    (habove : hierarchy.isA declared type = true) :
    linked.distance metric type declared =
      hierarchy.distance metric type declared := by
  have hdirected := typeDistance_link_of_apart hlink hcoherent hapart declared
  cases metric with
  | directed => exact hdirected
  | symmetric =>
      have habove' := isA_link_of_isA hlink hcoherent habove
      rw [(hcoherent.link hlink).distance_symmetric_eq_min habove',
        hcoherent.distance_symmetric_eq_min habove]
      exact congrArg (min · unreachableDistance) hdirected

end Link

/-- Links between predicates that have been created, one after the other. -/
theorem Confined.foldl_link {hierarchy : Hierarchy}
    (hconfined : hierarchy.Confined) {pairs : List (Predicate × Predicate)}
    (hknown : ∀ pair ∈ pairs, hierarchy.Knows pair.1 ∧ hierarchy.Knows pair.2) :
    (pairs.foldl (fun hierarchy pair =>
      (hierarchy.link pair.1 pair.2).toOption.getD hierarchy)
        hierarchy).Confined := by
  induction pairs generalizing hierarchy with
  | nil => exact hconfined
  | cons pair rest ih =>
      obtain ⟨⟨hparent, hchild⟩, hrest⟩ := List.forall_mem_cons.mp hknown
      rw [List.foldl_cons]
      cases hlink : hierarchy.link pair.1 pair.2 with
      | error cause => exact ih hconfined hrest
      | ok linked =>
          exact ih (hconfined.link hlink hparent hchild) fun other hother =>
            ⟨(hrest other hother).1.link hlink, (hrest other hother).2.link hlink⟩

theorem confined_kernel : kernel.Confined := by
  apply Confined.foldl_link
  · intro child parent hlink
    simp [ParentLink] at hlink
  · decide

/-! ## Along a parent link -/

section ParentLink

variable {hierarchy : Hierarchy} (hcoherent : hierarchy.Coherent)
  {parent child : Predicate}
  (hlink : hierarchy.ParentLink child.id parent.id)
include hcoherent hlink

theorem Coherent.isA_of_parentLink : hierarchy.isA parent child = true := by
  rw [hcoherent.isA_iff]
  exact ReflTransGen.single hlink

theorem Coherent.typeDistance_of_parentLink :
    hierarchy.typeDistance child parent = 1 := by
  obtain ⟨stored, hstored, hid⟩ := Option.map_eq_some_iff.mp hlink
  have hparent : hierarchy.parent? child = some stored := hstored
  have habove : hierarchy.isA parent stored = true := by
    rw [← hierarchy.isA_congr_left hid]
    exact hierarchy.isA_self stored
  rw [hcoherent.typeDistance_of_parent hparent habove,
    hierarchy.typeDistance_self hid.symm]

/-- What is properly above a child is above its parent. -/
theorem Coherent.isA_parent_of_parentLink {upper : Predicate}
    (habove : hierarchy.isA upper child = true) (hne : upper.id ≠ child.id) :
    hierarchy.isA upper parent = true := by
  rw [hcoherent.isA_iff] at habove ⊢
  rcases habove.cases_head with hid | ⟨next, hnext, hrest⟩
  · exact absurd hid.symm hne
  · rwa [hierarchy.parentLink_rightUnique hnext hlink] at hrest

/-- Nothing is between a child and its parent. -/
theorem Coherent.id_eq_or_id_eq_of_between {middle : Predicate}
    (hlower : hierarchy.isA middle child = true)
    (hupper : hierarchy.isA parent middle = true) :
    middle.id = child.id ∨ middle.id = parent.id := by
  by_cases hid : middle.id = child.id
  · exact Or.inl hid
  · have hparent := hcoherent.isA_parent_of_parentLink hlink hlower hid
    exact Or.inr (hcoherent.id_eq_of_isA_of_isA hparent hupper)

end ParentLink

/-! ## Forests of which one keeps the parents of the other -/

/-- As long as parents stay, whatever is above a predicate stays above it, and as
far away as it was. -/
theorem Coherent.isA_and_typeDistance_of_parents {earlier later : Hierarchy}
    (hearlier : earlier.Coherent) (hlater : later.Coherent)
    (hparents : ∀ type parent, earlier.parent? type = some parent →
      later.parent? type = some parent)
    {upper lower : Predicate} (habove : earlier.isA upper lower = true) :
    later.isA upper lower = true ∧
      later.typeDistance lower upper = earlier.typeDistance lower upper := by
  have hself : ∀ {lower : Predicate}, upper.id = lower.id →
      later.isA upper lower = true ∧
        later.typeDistance lower upper = earlier.typeDistance lower upper := by
    intro lower hid
    rw [later.isA_congr_left hid, later.typeDistance_self hid,
      earlier.typeDistance_self hid]
    exact ⟨later.isA_self lower, rfl⟩
  induction lower using hearlier.upward_induction with
  | root lower hroot => exact hself (hearlier.id_eq_of_isA_root hroot habove)
  | child lower parent hparent ih =>
      by_cases hid : upper.id = lower.id
      · exact hself hid
      · have hupper := hearlier.isA_parent_of_isA hparent hid habove
        have hparent' := hparents lower parent hparent
        obtain ⟨hupper', hdistance⟩ := ih hupper
        refine ⟨(hlater.isA_of_isA_parent hparent' hupper').1, ?_⟩
        rw [hlater.typeDistance_of_parent hparent' hupper', hdistance,
          hearlier.typeDistance_of_parent hparent hupper]

/-- The way up to a proper ancestor ends with one of its children. -/
theorem Coherent.exists_child_of_isA {hierarchy : Hierarchy}
    (hcoherent : hierarchy.Coherent) {upper lower : Predicate}
    (habove : hierarchy.isA upper lower = true) (hne : upper.id ≠ lower.id) :
    ∃ child, hierarchy.ParentLink child upper.id ∧
      ∀ type : Predicate, type.id = child → hierarchy.isA type lower = true := by
  rw [hcoherent.isA_iff] at habove
  rcases habove.cases_tail with hid | ⟨child, hpath, hlink⟩
  · exact absurd hid hne
  · refine ⟨child, hlink, fun type htype => ?_⟩
    rw [hcoherent.isA_iff, htype]
    exact hpath

end PredicateDispatch.Hierarchy
