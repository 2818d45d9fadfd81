import Mathlib.Logic.Relation
import Mathlib.Data.List.Nodup
import PredicateDispatch.Hierarchy

/-!
# Stored relatives and parent links

The forest keeps the ancestors and the descendants of every predicate, and a
link extends them along a whole lineage and a whole subtree at once.  This
module proves that they are never anything but the two closures of the parent
relation, whichever links were made or refused before, in whatever order and
on whatever handles.  Only the number of a handle counts, so relations are
stated on numbers.
-/

namespace PredicateDispatch

open Relation

/-! ## One more pair in a relation -/

/-- A path along a relation with one more pair takes the new pair, or it is a
path of the relation itself. -/
theorem transGen_or_pair_iff {α : Type*} {r : α → α → Prop}
    {source target x y : α} :
    TransGen (fun a b => r a b ∨ (a = source ∧ b = target)) x y ↔
      TransGen r x y ∨ (ReflTransGen r x source ∧ ReflTransGen r target y) := by
  constructor
  · intro hpath
    induction hpath with
    | single hstep =>
        rcases hstep with hstep | ⟨rfl, rfl⟩
        · exact Or.inl (TransGen.single hstep)
        · exact Or.inr ⟨ReflTransGen.refl, ReflTransGen.refl⟩
    | tail _ hstep ih =>
        rcases hstep with hstep | ⟨rfl, rfl⟩
        · rcases ih with hold | ⟨hsource, htarget⟩
          · exact Or.inl (hold.tail hstep)
          · exact Or.inr ⟨hsource, htarget.tail hstep⟩
        · rcases ih with hold | ⟨hsource, _⟩
          · exact Or.inr ⟨hold.to_reflTransGen, ReflTransGen.refl⟩
          · exact Or.inr ⟨hsource, ReflTransGen.refl⟩
  · have hlift : r ≤ fun a b => r a b ∨ (a = source ∧ b = target) :=
      fun _ _ => Or.inl
    rintro (hold | ⟨hsource, htarget⟩)
    · exact TransGen.mono hlift x y hold
    · have hedge : TransGen (fun a b => r a b ∨ (a = source ∧ b = target))
          source target := TransGen.single (Or.inr ⟨rfl, rfl⟩)
      have hup := TransGen.trans_right (ReflTransGen.mono hlift x source hsource)
        hedge
      exact hup.trans_left (ReflTransGen.mono hlift target y htarget)

namespace Hierarchy

/-! ## Forests that can be made -/

/-- The forests made from the empty one by creating predicates and by links
between any handles, where a refused link changes nothing. -/
inductive Reachable : Hierarchy → Prop
  | empty : Reachable {}
  | create {hierarchy : Hierarchy} (name : String) :
      Reachable hierarchy → Reachable (hierarchy.create name)
  | link {hierarchy : Hierarchy} (parent child : Predicate) :
      Reachable hierarchy →
        Reachable ((hierarchy.link parent child).toOption.getD hierarchy)

theorem Reachable.of_link_eq_ok {hierarchy linked : Hierarchy}
    {parent child : Predicate} (hreach : hierarchy.Reachable)
    (hlink : hierarchy.link parent child = .ok linked) : linked.Reachable := by
  have hnext := hreach.link parent child
  rw [hlink] at hnext
  exact hnext

/-- The forest that every registry starts with. -/
theorem reachable_kernel : kernel.Reachable := by
  have hcreated : Reachable { predicates := Predicate.kernel.toArray } :=
    ((((Reachable.empty.create "isAny").create "isPred").create "isFn").create
      "isBool").create "isNull"
  exact (((hcreated.link Predicate.any Predicate.boolean).link
    Predicate.any Predicate.null).link Predicate.any Predicate.function).link
      Predicate.function Predicate.predicate

/-! ## Parent links between numbers -/

/-- The predicate numbered `parent` is the parent of the one numbered
`child`. -/
def ParentLink (hierarchy : Hierarchy) (child parent : ℕ) : Prop :=
  (hierarchy.parents[child]?).map Predicate.id = some parent

/-- The numbers of the stored ancestors of a predicate. -/
def ancestorIds (hierarchy : Hierarchy) (type : ℕ) : List ℕ :=
  Signature.ids (hierarchy.ancestors.getD type [])

/-- The numbers of the stored descendants of a predicate. -/
def descendantIds (hierarchy : Hierarchy) (type : ℕ) : List ℕ :=
  Signature.ids (hierarchy.descendants.getD type [])

theorem ids_ancestorsOf (hierarchy : Hierarchy) (type : Predicate) :
    Signature.ids (hierarchy.ancestorsOf type) =
      hierarchy.ancestorIds type.id := rfl

theorem ids_descendantsOf (hierarchy : Hierarchy) (type : Predicate) :
    Signature.ids (hierarchy.descendantsOf type) =
      hierarchy.descendantIds type.id := rfl

theorem parentLink_rightUnique (hierarchy : Hierarchy) :
    Relator.RightUnique hierarchy.ParentLink := by
  intro child left right hleft hright
  exact Option.some.inj (hleft.symm.trans hright)

theorem parentLink_of_parent?_eq_some {hierarchy : Hierarchy}
    {type parent : Predicate} (hparent : hierarchy.parent? type = some parent) :
    hierarchy.ParentLink type.id parent.id := by
  change (hierarchy.parent? type).map Predicate.id = some parent.id
  rw [hparent]
  rfl

theorem not_parentLink_of_parent?_eq_none {hierarchy : Hierarchy}
    {type : Predicate} (hparent : hierarchy.parent? type = none) (parent : ℕ) :
    ¬ hierarchy.ParentLink type.id parent := by
  intro hlink
  change (hierarchy.parent? type).map Predicate.id = some parent at hlink
  simp [hparent] at hlink

theorem isA_eq_true_iff_mem (hierarchy : Hierarchy)
    (ancestor descendant : Predicate) :
    hierarchy.isA ancestor descendant = true ↔
      ancestor.id = descendant.id ∨
        ancestor.id ∈ hierarchy.ancestorIds descendant.id := by
  simp [isA, ancestorsOf, ancestorIds, Signature.ids]

theorem isA_self (hierarchy : Hierarchy) (type : Predicate) :
    hierarchy.isA type type = true := by
  simp [isA]

/-! ## What holds of every forest -/

/-- The stored relatives are exactly those found along parent links, each
stored once, and no predicate is above itself. -/
structure Coherent (hierarchy : Hierarchy) : Prop where
  acyclic : ∀ type, ¬ TransGen hierarchy.ParentLink type type
  mem_ancestorIds : ∀ type other,
    other ∈ hierarchy.ancestorIds type ↔
      TransGen hierarchy.ParentLink type other
  mem_descendantIds : ∀ type other,
    other ∈ hierarchy.descendantIds type ↔
      TransGen hierarchy.ParentLink other type
  nodup_ancestorIds : ∀ type, (hierarchy.ancestorIds type).Nodup
  nodup_descendantIds : ∀ type, (hierarchy.descendantIds type).Nodup

theorem coherent_empty : Coherent {} := by
  have hnone : ∀ type parent : ℕ,
      ¬ ParentLink ({} : Hierarchy) type parent := by
    intro type parent hlink
    simp [ParentLink] at hlink
  have hpath : ∀ type other : ℕ,
      ¬ TransGen (ParentLink ({} : Hierarchy)) type other := by
    intro type other hpath
    obtain ⟨parent, hlink, _⟩ := TransGen.head'_iff.mp hpath
    exact hnone type parent hlink
  constructor
  · exact fun type => hpath type type
  · intro type other
    simp [ancestorIds, Signature.ids, hpath]
  · intro type other
    simp [descendantIds, Signature.ids, hpath]
  · intro type
    simp [ancestorIds, Signature.ids]
  · intro type
    simp [descendantIds, Signature.ids]

theorem Coherent.create {hierarchy : Hierarchy} (hcoherent : hierarchy.Coherent)
    (name : String) : (hierarchy.create name).Coherent :=
  ⟨hcoherent.acyclic, hcoherent.mem_ancestorIds, hcoherent.mem_descendantIds,
    hcoherent.nodup_ancestorIds, hcoherent.nodup_descendantIds⟩

/-! ## One link -/

/-- A list of relatives grows for the members of a family and for no one
else. -/
theorem getD_extend (lists : Std.TreeMap ℕ (List Predicate))
    (members more : List Predicate) (hnodup : (Signature.ids members).Nodup)
    (type : ℕ) :
    (extend lists members more).getD type [] =
      if type ∈ Signature.ids members then more ++ lists.getD type []
      else lists.getD type [] := by
  induction members generalizing lists with
  | nil => simp [extend, Signature.ids]
  | cons head rest ih =>
      obtain ⟨hhead, hrest⟩ := List.nodup_cons.mp hnodup
      have hstep : extend lists (head :: rest) more =
          extend (lists.insert head.id (more ++ lists.getD head.id [])) rest
            more := rfl
      rw [hstep, ih _ hrest, Std.TreeMap.getD_insert]
      by_cases htype : type = head.id
      · subst htype
        have hout : head.id ∉ Signature.ids rest := hhead
        have hin : head.id ∈ Signature.ids (head :: rest) := List.mem_cons_self
        simp [hout, hin]
      · have hne : compare head.id type ≠ .eq :=
          fun heq => htype (Std.LawfulEqCmp.eq_of_compare heq).symm
        simp [hne, htype, Signature.ids]

/-- Everything that an accepted link tells: the child had no parent, the parent
was not below it, and the relatives grow by the lineage and the subtree. -/
theorem link_eq_ok_iff {hierarchy linked : Hierarchy}
    {parent child : Predicate} :
    hierarchy.link parent child = .ok linked ↔
      hierarchy.parent? child = none ∧ hierarchy.isA child parent = false ∧
        linked = { hierarchy with
          parents := hierarchy.parents.insert child.id parent
          ancestors := extend hierarchy.ancestors
            (child :: hierarchy.descendantsOf child)
            (parent :: hierarchy.ancestorsOf parent)
          descendants := extend hierarchy.descendants
            (parent :: hierarchy.ancestorsOf parent)
            (child :: hierarchy.descendantsOf child) } := by
  rw [link]
  cases hparent : hierarchy.parent? child with
  | some existing => simp
  | none =>
      cases hbelow : hierarchy.isA child parent with
      | true => simp
      | false => simp [eq_comm]

section Link

variable {hierarchy linked : Hierarchy} {parent child : Predicate}

theorem parentLink_link_iff (hlink : hierarchy.link parent child = .ok linked)
    (type other : ℕ) :
    linked.ParentLink type other ↔
      hierarchy.ParentLink type other ∨
        (type = child.id ∧ other = parent.id) := by
  obtain ⟨hfree, _, rfl⟩ := link_eq_ok_iff.mp hlink
  by_cases htype : type = child.id
  · subst htype
    simp only [not_parentLink_of_parent?_eq_none hfree other, false_or]
    simp [ParentLink, eq_comm]
  · have hne : compare child.id type ≠ .eq :=
      fun heq => htype (Std.LawfulEqCmp.eq_of_compare heq).symm
    simp [ParentLink, Std.TreeMap.getElem?_insert, hne, htype]

theorem transGen_parentLink_link_iff
    (hlink : hierarchy.link parent child = .ok linked) (type other : ℕ) :
    TransGen linked.ParentLink type other ↔
      TransGen hierarchy.ParentLink type other ∨
        (ReflTransGen hierarchy.ParentLink type child.id ∧
          ReflTransGen hierarchy.ParentLink parent.id other) := by
  have hrelation : linked.ParentLink = fun a b =>
      hierarchy.ParentLink a b ∨ (a = child.id ∧ b = parent.id) := by
    funext a b
    exact propext (parentLink_link_iff hlink a b)
  rw [hrelation]
  exact transGen_or_pair_iff

/-- No path of the old forest leads from the parent to the child. -/
theorem Coherent.not_reflTransGen_of_link (hcoherent : hierarchy.Coherent)
    (hlink : hierarchy.link parent child = .ok linked) :
    ¬ ReflTransGen hierarchy.ParentLink parent.id child.id := by
  obtain ⟨_, hbelow, _⟩ := link_eq_ok_iff.mp hlink
  intro hpath
  have htrue : hierarchy.isA child parent = true := by
    rw [isA_eq_true_iff_mem, hcoherent.mem_ancestorIds]
    exact reflTransGen_iff_eq_or_transGen.mp hpath
  exact Bool.noConfusion (htrue.symm.trans hbelow)

/-- What the link puts above a member of the subtree was not above it before:
the member has only one way up, and that way ended at the child. -/
theorem Coherent.not_transGen_of_link (hcoherent : hierarchy.Coherent)
    (hlink : hierarchy.link parent child = .ok linked) {lower upper : ℕ}
    (hlower : ReflTransGen hierarchy.ParentLink lower child.id)
    (hupper : ReflTransGen hierarchy.ParentLink parent.id upper) :
    ¬ TransGen hierarchy.ParentLink lower upper := by
  obtain ⟨hfree, _, _⟩ := link_eq_ok_iff.mp hlink
  intro hpath
  rcases ReflTransGen.total_of_right_unique hierarchy.parentLink_rightUnique
      hlower hpath.to_reflTransGen with hbeyond | hbefore
  · rcases hbeyond.cases_head with heq | ⟨next, hstep, _⟩
    · exact hcoherent.not_reflTransGen_of_link hlink (heq ▸ hupper)
    · exact not_parentLink_of_parent?_eq_none hfree next hstep
  · exact hcoherent.not_reflTransGen_of_link hlink (hupper.trans hbefore)

theorem Coherent.mem_lineage_iff (hcoherent : hierarchy.Coherent)
    (type : Predicate) (other : ℕ) :
    other ∈ Signature.ids (type :: hierarchy.ancestorsOf type) ↔
      ReflTransGen hierarchy.ParentLink type.id other := by
  rw [reflTransGen_iff_eq_or_transGen, ← hcoherent.mem_ancestorIds]
  exact List.mem_cons

theorem Coherent.mem_subtree_iff (hcoherent : hierarchy.Coherent)
    (type : Predicate) (other : ℕ) :
    other ∈ Signature.ids (type :: hierarchy.descendantsOf type) ↔
      ReflTransGen hierarchy.ParentLink other type.id := by
  rw [reflTransGen_iff_eq_or_transGen, ← hcoherent.mem_descendantIds,
    eq_comm (a := type.id)]
  exact List.mem_cons

theorem Coherent.nodup_lineage (hcoherent : hierarchy.Coherent)
    (type : Predicate) :
    (Signature.ids (type :: hierarchy.ancestorsOf type)).Nodup := by
  have hself : type.id ∉ hierarchy.ancestorIds type.id := by
    rw [hcoherent.mem_ancestorIds]
    exact hcoherent.acyclic type.id
  exact List.nodup_cons.mpr ⟨hself, hcoherent.nodup_ancestorIds type.id⟩

theorem Coherent.nodup_subtree (hcoherent : hierarchy.Coherent)
    (type : Predicate) :
    (Signature.ids (type :: hierarchy.descendantsOf type)).Nodup := by
  have hself : type.id ∉ hierarchy.descendantIds type.id := by
    rw [hcoherent.mem_descendantIds]
    exact hcoherent.acyclic type.id
  exact List.nodup_cons.mpr ⟨hself, hcoherent.nodup_descendantIds type.id⟩

theorem Coherent.ancestorIds_link (hcoherent : hierarchy.Coherent)
    (hlink : hierarchy.link parent child = .ok linked) (type : ℕ) :
    linked.ancestorIds type =
      if type ∈ Signature.ids (child :: hierarchy.descendantsOf child) then
        Signature.ids (parent :: hierarchy.ancestorsOf parent) ++
          hierarchy.ancestorIds type
      else hierarchy.ancestorIds type := by
  obtain ⟨_, _, rfl⟩ := link_eq_ok_iff.mp hlink
  rw [ancestorIds, getD_extend _ _ _ (hcoherent.nodup_subtree child)]
  split <;> simp [ancestorIds, Signature.ids]

theorem Coherent.descendantIds_link (hcoherent : hierarchy.Coherent)
    (hlink : hierarchy.link parent child = .ok linked) (type : ℕ) :
    linked.descendantIds type =
      if type ∈ Signature.ids (parent :: hierarchy.ancestorsOf parent) then
        Signature.ids (child :: hierarchy.descendantsOf child) ++
          hierarchy.descendantIds type
      else hierarchy.descendantIds type := by
  obtain ⟨_, _, rfl⟩ := link_eq_ok_iff.mp hlink
  rw [descendantIds, getD_extend _ _ _ (hcoherent.nodup_lineage parent)]
  split <;> simp [descendantIds, Signature.ids]

/-- A link keeps the stored relatives exact. -/
theorem Coherent.link (hcoherent : hierarchy.Coherent)
    (hlink : hierarchy.link parent child = .ok linked) : linked.Coherent := by
  constructor
  case acyclic =>
    intro type hcycle
    rcases (transGen_parentLink_link_iff hlink type type).mp hcycle with
      hold | ⟨hlower, hupper⟩
    · exact hcoherent.acyclic type hold
    · exact hcoherent.not_reflTransGen_of_link hlink (hupper.trans hlower)
  case mem_ancestorIds =>
    intro type other
    rw [transGen_parentLink_link_iff hlink, hcoherent.ancestorIds_link hlink,
      ← hcoherent.mem_subtree_iff, ← hcoherent.mem_lineage_iff,
      ← hcoherent.mem_ancestorIds]
    split <;> rename_i hmember <;> simp [hmember, or_comm]
  case mem_descendantIds =>
    intro type other
    rw [transGen_parentLink_link_iff hlink, hcoherent.descendantIds_link hlink,
      ← hcoherent.mem_subtree_iff, ← hcoherent.mem_lineage_iff,
      ← hcoherent.mem_descendantIds]
    split <;> rename_i hmember <;> simp [hmember, or_comm]
  case nodup_ancestorIds =>
    intro type
    rw [hcoherent.ancestorIds_link hlink]
    split
    case isTrue hmember =>
      apply List.Nodup.append (hcoherent.nodup_lineage parent)
        (hcoherent.nodup_ancestorIds type)
      intro upper hupper hold
      exact hcoherent.not_transGen_of_link hlink
        ((hcoherent.mem_subtree_iff child type).mp hmember)
        ((hcoherent.mem_lineage_iff parent upper).mp hupper)
        ((hcoherent.mem_ancestorIds type upper).mp hold)
    case isFalse => exact hcoherent.nodup_ancestorIds type
  case nodup_descendantIds =>
    intro type
    rw [hcoherent.descendantIds_link hlink]
    split
    case isTrue hmember =>
      apply List.Nodup.append (hcoherent.nodup_subtree child)
        (hcoherent.nodup_descendantIds type)
      intro lower hlower hold
      exact hcoherent.not_transGen_of_link hlink
        ((hcoherent.mem_subtree_iff child lower).mp hlower)
        ((hcoherent.mem_lineage_iff parent type).mp hmember)
        ((hcoherent.mem_descendantIds type lower).mp hold)
    case isFalse => exact hcoherent.nodup_descendantIds type

end Link

theorem Reachable.coherent {hierarchy : Hierarchy}
    (hreach : hierarchy.Reachable) : hierarchy.Coherent := by
  induction hreach with
  | empty => exact coherent_empty
  | create name _ ih => exact ih.create name
  | @link hierarchy parent child _ ih =>
      cases hlink : hierarchy.link parent child with
      | error cause => exact ih
      | ok linked => exact ih.link hlink

/-! ## Consequences for the queries -/

namespace Coherent

variable {hierarchy : Hierarchy} (hcoherent : hierarchy.Coherent)
include hcoherent

/-- The subtype test is the reflexive and transitive closure of the parent
relation. -/
theorem isA_iff (ancestor descendant : Predicate) :
    hierarchy.isA ancestor descendant = true ↔
      ReflTransGen hierarchy.ParentLink descendant.id ancestor.id := by
  rw [isA_eq_true_iff_mem, hcoherent.mem_ancestorIds,
    reflTransGen_iff_eq_or_transGen]

theorem isA_trans {upper middle lower : Predicate}
    (hupper : hierarchy.isA upper middle = true)
    (hlower : hierarchy.isA middle lower = true) :
    hierarchy.isA upper lower = true := by
  rw [hcoherent.isA_iff] at hupper hlower ⊢
  exact hlower.trans hupper

theorem id_eq_of_isA_of_isA {left right : Predicate}
    (hleft : hierarchy.isA left right = true)
    (hright : hierarchy.isA right left = true) : left.id = right.id := by
  rw [hcoherent.isA_iff, reflTransGen_iff_eq_or_transGen] at hleft
  rw [hcoherent.isA_iff] at hright
  rcases hleft with heq | hup
  · exact heq
  · exact (hcoherent.acyclic right.id (hup.trans_left hright)).elim

theorem isA_total_of_isA {left right lower : Predicate}
    (hleft : hierarchy.isA left lower = true)
    (hright : hierarchy.isA right lower = true) :
    hierarchy.isA left right = true ∨ hierarchy.isA right left = true := by
  rw [hcoherent.isA_iff] at hleft hright ⊢
  rw [hcoherent.isA_iff]
  exact (ReflTransGen.total_of_right_unique hierarchy.parentLink_rightUnique
    hleft hright).symm

/-- The ancestors are the parent with its own ancestors. -/
theorem mem_ancestorIds_iff_of_parent {type parent : Predicate}
    (hparent : hierarchy.parent? type = some parent) (other : ℕ) :
    other ∈ hierarchy.ancestorIds type.id ↔
      other = parent.id ∨ other ∈ hierarchy.ancestorIds parent.id := by
  rw [hcoherent.mem_ancestorIds, hcoherent.mem_ancestorIds,
    ← reflTransGen_iff_eq_or_transGen, TransGen.head'_iff]
  have hstep := parentLink_of_parent?_eq_some hparent
  constructor
  · rintro ⟨next, hnext, hrest⟩
    rwa [hierarchy.parentLink_rightUnique hnext hstep] at hrest
  · exact fun hrest => ⟨parent.id, hstep, hrest⟩

theorem ancestorsOf_eq_nil_of_root {type : Predicate}
    (hroot : hierarchy.parent? type = none) :
    hierarchy.ancestorsOf type = [] := by
  apply List.eq_nil_iff_forall_not_mem.mpr
  intro ancestor hmem
  have hpath := (hcoherent.mem_ancestorIds type.id ancestor.id).mp
    (List.mem_map_of_mem hmem)
  obtain ⟨next, hnext, _⟩ := TransGen.head'_iff.mp hpath
  exact not_parentLink_of_parent?_eq_none hroot next hnext

/-- Nothing but a root itself is above it. -/
theorem id_eq_of_isA_root {upper type : Predicate}
    (hroot : hierarchy.parent? type = none)
    (habove : hierarchy.isA upper type = true) : upper.id = type.id := by
  rw [isA_eq_true_iff_mem, ← ids_ancestorsOf,
    hcoherent.ancestorsOf_eq_nil_of_root hroot] at habove
  exact habove.resolve_right List.not_mem_nil

end Coherent

/-! ## Main statement -/

/-- In every forest that can be made, whatever was linked or refused before,
parent links never return, the stored ancestors and descendants are the two
closures of the parent relation, and the subtype test is its reflexive and
transitive closure: an order in which the ancestors of one predicate form a
chain. -/
theorem closures_of_reachable {hierarchy : Hierarchy}
    (hreach : hierarchy.Reachable) :
    (∀ type, ¬ TransGen hierarchy.ParentLink type type) ∧
    (∀ type other : Predicate,
      other.id ∈ Signature.ids (hierarchy.ancestorsOf type) ↔
        TransGen hierarchy.ParentLink type.id other.id) ∧
    (∀ type : Predicate,
      type.id ∉ Signature.ids (hierarchy.ancestorsOf type)) ∧
    (∀ type parent : Predicate, hierarchy.parent? type = some parent →
      ∀ other, other ∈ Signature.ids (hierarchy.ancestorsOf type) ↔
        other = parent.id ∨
          other ∈ Signature.ids (hierarchy.ancestorsOf parent)) ∧
    (∀ type, hierarchy.parent? type = none →
      hierarchy.ancestorsOf type = []) ∧
    (∀ type other : Predicate,
      other.id ∈ Signature.ids (hierarchy.descendantsOf type) ↔
        type.id ∈ Signature.ids (hierarchy.ancestorsOf other)) ∧
    (∀ ancestor descendant : Predicate,
      hierarchy.isA ancestor descendant = true ↔
        ReflTransGen hierarchy.ParentLink descendant.id ancestor.id) ∧
    (∀ type, hierarchy.isA type type = true) ∧
    (∀ upper middle lower : Predicate, hierarchy.isA upper middle = true →
      hierarchy.isA middle lower = true → hierarchy.isA upper lower = true) ∧
    (∀ left right : Predicate, hierarchy.isA left right = true →
      hierarchy.isA right left = true → left.id = right.id) ∧
    (∀ left right lower : Predicate, hierarchy.isA left lower = true →
      hierarchy.isA right lower = true →
        hierarchy.isA left right = true ∨ hierarchy.isA right left = true) := by
  have hcoherent := hreach.coherent
  refine ⟨hcoherent.acyclic, ?_, ?_, ?_, ?_, ?_, hcoherent.isA_iff, ?_, ?_, ?_, ?_⟩
  · intro type other
    exact hcoherent.mem_ancestorIds type.id other.id
  · intro type hself
    exact hcoherent.acyclic type.id
      ((hcoherent.mem_ancestorIds type.id type.id).mp hself)
  · intro type parent hparent other
    exact hcoherent.mem_ancestorIds_iff_of_parent hparent other
  · intro type hroot
    exact hcoherent.ancestorsOf_eq_nil_of_root hroot
  · intro type other
    rw [ids_descendantsOf, ids_ancestorsOf, hcoherent.mem_descendantIds,
      hcoherent.mem_ancestorIds]
  · exact hierarchy.isA_self
  · exact fun _ _ _ => hcoherent.isA_trans
  · exact fun _ _ => hcoherent.id_eq_of_isA_of_isA
  · exact fun _ _ _ => hcoherent.isA_total_of_isA

/-- A chain linked from below: the upper link is made when the lower part is
already there, and a last link that would close a cycle is refused. -/
def linkedFromBelow : Hierarchy :=
  [((⟨1, "isB"⟩ : Predicate), (⟨2, "isC"⟩ : Predicate)),
    (⟨0, "isA"⟩, ⟨1, "isB"⟩), (⟨2, "isC"⟩, ⟨0, "isA"⟩)].foldl
    (fun hierarchy pair =>
      (hierarchy.link pair.1 pair.2).toOption.getD hierarchy)
    (((create {} "isA").create "isB").create "isC")

theorem closures_of_linkedFromBelow :
    linkedFromBelow.Reachable ∧
      TransGen linkedFromBelow.ParentLink 2 0 ∧
      ¬ TransGen linkedFromBelow.ParentLink 0 0 ∧
      2 ∈ Signature.ids (linkedFromBelow.descendantsOf ⟨0, "isA"⟩) := by
  have hcreated : Reachable (((create {} "isA").create "isB").create "isC") :=
    ((Reachable.empty.create "isA").create "isB").create "isC"
  have hreach : linkedFromBelow.Reachable :=
    ((hcreated.link ⟨1, "isB"⟩ ⟨2, "isC"⟩).link ⟨0, "isA"⟩ ⟨1, "isB"⟩).link
      ⟨2, "isC"⟩ ⟨0, "isA"⟩
  obtain ⟨hacyclic, hancestors, _, _, _, hdescendants, _⟩ :=
    closures_of_reachable hreach
  have hstored : 0 ∈ Signature.ids (linkedFromBelow.ancestorsOf ⟨2, "isC"⟩) := by
    decide
  exact ⟨hreach, (hancestors ⟨2, "isC"⟩ ⟨0, "isA"⟩).mp hstored, hacyclic 0,
    (hdescendants ⟨0, "isA"⟩ ⟨2, "isC"⟩).mpr hstored⟩

end Hierarchy

end PredicateDispatch
