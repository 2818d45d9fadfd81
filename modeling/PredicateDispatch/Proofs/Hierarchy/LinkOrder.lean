import PredicateDispatch.Proofs.Hierarchy.Growth

/-!
# The order of links

A forest can be linked from above, where every link adds a leaf, or from below,
where every link hangs a whole tree under a root, and the forests in between
have little in common.  Still the order does not matter: if all links can be
made in one order, then they can be made in every order, and the forests at the
end answer every question alike.  Two neighbouring links may change places, and
every order is reached by such exchanges.
-/

namespace PredicateDispatch.Hierarchy

open Relation

/-- Makes links, each a parent with a child, until one is refused. -/
def linkAll (hierarchy : Hierarchy) :
    List (Predicate × Predicate) → Except LinkError Hierarchy
  | [] => .ok hierarchy
  | (parent, child) :: rest =>
    match hierarchy.link parent child with
    | .error cause => .error cause
    | .ok linked => linked.linkAll rest

theorem linkAll_cons_eq_ok_iff {hierarchy final : Hierarchy}
    {parent child : Predicate} {rest : List (Predicate × Predicate)} :
    hierarchy.linkAll ((parent, child) :: rest) = .ok final ↔
      ∃ linked, hierarchy.link parent child = .ok linked ∧
        linked.linkAll rest = .ok final := by
  rw [linkAll]
  cases hierarchy.link parent child with
  | error cause => simp
  | ok linked => simp

theorem Coherent.linkAll {hierarchy final : Hierarchy}
    (hcoherent : hierarchy.Coherent) {links : List (Predicate × Predicate)}
    (hlinks : hierarchy.linkAll links = .ok final) : final.Coherent := by
  induction links generalizing hierarchy with
  | nil =>
      obtain rfl := Except.ok.inj hlinks
      exact hcoherent
  | cons pair rest ih =>
      obtain ⟨linked, hlink, hrest⟩ := linkAll_cons_eq_ok_iff.mp hlinks
      exact ih (hcoherent.link hlink) hrest

/-! ## Forests with the same parents -/

/-- The same predicates, with the same parents.  The stored relatives may stand
in another order. -/
structure SameParents (left right : Hierarchy) : Prop where
  predicates : left.predicates = right.predicates
  parents : ∀ type : ℕ, left.parents[type]? = right.parents[type]?

namespace SameParents

variable {left right : Hierarchy}

theorem refl (hierarchy : Hierarchy) : SameParents hierarchy hierarchy :=
  ⟨rfl, fun _ => rfl⟩

theorem trans {third : Hierarchy} (hsame : SameParents left right)
    (hsame' : SameParents right third) : SameParents left third :=
  ⟨hsame.predicates.trans hsame'.predicates,
    fun type => (hsame.parents type).trans (hsame'.parents type)⟩

theorem parent?_eq (hsame : SameParents left right) :
    left.parent? = right.parent? := by
  funext type
  exact hsame.parents type.id

theorem parentLink_eq (hsame : SameParents left right) :
    left.ParentLink = right.ParentLink := by
  funext child parent
  rw [ParentLink, ParentLink, hsame.parents]

theorem climb_eq (hsame : SameParents left right) (steps : ℕ)
    (type : Predicate) : left.climb steps type = right.climb steps type := by
  induction steps generalizing type with
  | zero => rfl
  | succ steps ih =>
      rw [climb, climb, hsame.parent?_eq]
      cases right.parent? type with
      | none => rfl
      | some parent => exact congrArg (parent :: ·) (ih parent)

section Queries

variable (hsame : SameParents left right) (hleft : left.Coherent)
  (hright : right.Coherent)
include hsame hleft hright

theorem ancestorIds_perm (type : ℕ) :
    (left.ancestorIds type).Perm (right.ancestorIds type) := by
  apply (List.perm_ext_iff_of_nodup (hleft.nodup_ancestorIds type)
    (hright.nodup_ancestorIds type)).mpr
  intro other
  rw [hleft.mem_ancestorIds, hright.mem_ancestorIds, hsame.parentLink_eq]

theorem descendantIds_perm (type : ℕ) :
    (left.descendantIds type).Perm (right.descendantIds type) := by
  apply (List.perm_ext_iff_of_nodup (hleft.nodup_descendantIds type)
    (hright.nodup_descendantIds type)).mpr
  intro other
  rw [hleft.mem_descendantIds, hright.mem_descendantIds, hsame.parentLink_eq]

theorem isA_eq : left.isA = right.isA := by
  funext ancestor descendant
  rw [Bool.eq_iff_iff, hleft.isA_iff, hright.isA_iff, hsame.parentLink_eq]

theorem lineage_eq (type : Predicate) :
    left.lineage type = right.lineage type := by
  have hlength : (left.ancestorsOf type).length =
      (right.ancestorsOf type).length := by
    have hperm := hsame.ancestorIds_perm hleft hright type.id
    simpa [ancestorIds, ancestorsOf, Signature.ids] using hperm.length_eq
  rw [lineage, lineage, hlength, hsame.climb_eq]

theorem distance_eq : left.distance = right.distance := by
  have hdirected : left.typeDistance = right.typeDistance := by
    funext source target
    rw [typeDistance, typeDistance, hsame.isA_eq hleft hright,
      hsame.lineage_eq hleft hright]
  funext metric actual declared
  cases metric with
  | directed => exact congrFun₂ hdirected actual declared
  | symmetric => rw [distance, distance, hdirected]

/-- A link that one of the forests takes, the other takes too. -/
theorem link {parent child : Predicate} {linked : Hierarchy}
    (hlink : left.link parent child = .ok linked) :
    ∃ linked', right.link parent child = .ok linked' ∧
      SameParents linked linked' := by
  obtain ⟨hfree, hapart, rfl⟩ := link_eq_ok_iff.mp hlink
  rw [hsame.parent?_eq] at hfree
  rw [hsame.isA_eq hleft hright] at hapart
  refine ⟨_, link_eq_ok_iff.mpr ⟨hfree, hapart, rfl⟩, hsame.predicates, ?_⟩
  intro type
  simp only [Std.TreeMap.getElem?_insert, hsame.parents]

end Queries

theorem linkAll {links : List (Predicate × Predicate)} {final : Hierarchy}
    (hsame : SameParents left right) (hleft : left.Coherent)
    (hright : right.Coherent) (hlinks : left.linkAll links = .ok final) :
    ∃ final', right.linkAll links = .ok final' ∧ SameParents final final' := by
  induction links generalizing left right with
  | nil =>
      obtain rfl := Except.ok.inj hlinks
      exact ⟨right, rfl, hsame⟩
  | cons pair rest ih =>
      obtain ⟨linked, hlink, hrest⟩ := linkAll_cons_eq_ok_iff.mp hlinks
      obtain ⟨linked', hlink', hsame'⟩ := hsame.link hleft hright hlink
      obtain ⟨final', hrest', hfinal⟩ :=
        ih hsame' (hleft.link hlink) (hright.link hlink') hrest
      exact ⟨final', linkAll_cons_eq_ok_iff.mpr ⟨linked', hlink', hrest'⟩, hfinal⟩

end SameParents

/-! ## Neighbouring links -/

section Exchange

variable {hierarchy first second : Hierarchy}
  {parent child parent' child' : Predicate}
  (hcoherent : hierarchy.Coherent)
  (hfirst : hierarchy.link parent child = .ok first)
  (hsecond : first.link parent' child' = .ok second)
include hcoherent hfirst hsecond

/-- The second of two links could have been the first. -/
theorem Coherent.exists_link_second :
    child.id ≠ child'.id ∧
      ∃ first', hierarchy.link parent' child' = .ok first' := by
  obtain ⟨hfree, hapart, -⟩ := link_eq_ok_iff.mp hsecond
  have hne : child.id ≠ child'.id := by
    intro hid
    have hlinked := parentLink_of_link hfirst
    rw [hid] at hlinked
    exact not_parentLink_of_parent?_eq_none hfree parent.id hlinked
  have hfree' : hierarchy.parent? child' = none := by
    rw [← parent?_link_of_ne hfirst (Ne.symm hne)]
    exact hfree
  have hapart' : hierarchy.isA child' parent' = false := by
    rw [Bool.eq_false_iff]
    intro habove
    exact Bool.noConfusion
      ((isA_link_of_isA hfirst hcoherent habove).symm.trans hapart)
  exact ⟨hne, _, link_eq_ok_iff.mpr ⟨hfree', hapart', rfl⟩⟩

/-- The first of two links can still be made after the second. -/
theorem Coherent.exists_link_first {first' : Hierarchy}
    (hfirst' : hierarchy.link parent' child' = .ok first') :
    ∃ second', first'.link parent child = .ok second' := by
  obtain ⟨hne, -⟩ := hcoherent.exists_link_second hfirst hsecond
  obtain ⟨hfree, -, -⟩ := link_eq_ok_iff.mp hfirst
  have hfree' : first'.parent? child = none := by
    rw [parent?_link_of_ne hfirst' hne]
    exact hfree
  have hapart' : first'.isA child parent = false := by
    rw [Bool.eq_false_iff]
    intro habove
    rw [(hcoherent.link hfirst').isA_iff,
      reflTransGen_iff_eq_or_transGen] at habove
    rcases habove with hid | hpath
    · exact ids_ne_of_link hfirst hid
    · rcases (transGen_parentLink_link_iff hfirst' _ _).mp hpath with
        hold | ⟨hlower, hupper⟩
      · exact hcoherent.not_reflTransGen_of_link hfirst hold.to_reflTransGen
      · -- The way from the parent to the child leads over the other link, so
        -- that with the first link made the other one would close a cycle.
        have hbelow : ReflTransGen first.ParentLink parent'.id child'.id := by
          have hlift : ∀ lower upper, hierarchy.ParentLink lower upper →
              first.ParentLink lower upper := fun lower upper hstep =>
            (parentLink_link_iff hfirst lower upper).mpr (Or.inl hstep)
          exact ((ReflTransGen.mono hlift _ _ hupper).tail
            (parentLink_of_link hfirst)).trans
              (ReflTransGen.mono hlift _ _ hlower)
        exact (hcoherent.link hfirst).not_reflTransGen_of_link hsecond hbelow
  exact ⟨_, link_eq_ok_iff.mpr ⟨hfree', hapart', rfl⟩⟩

/-- Two links that can be made one after the other can be made the other way
round, and lead to the same parents. -/
theorem Coherent.exists_link_exchange :
    ∃ first' second', hierarchy.link parent' child' = .ok first' ∧
      first'.link parent child = .ok second' ∧ SameParents second second' := by
  obtain ⟨hne, first', hfirst'⟩ := hcoherent.exists_link_second hfirst hsecond
  obtain ⟨second', hsecond'⟩ :=
    hcoherent.exists_link_first hfirst hsecond hfirst'
  refine ⟨first', second', hfirst', hsecond', ?_, fun type => ?_⟩
  · rw [predicates_of_link hsecond, predicates_of_link hfirst,
      predicates_of_link hsecond', predicates_of_link hfirst']
  · obtain ⟨-, -, rfl⟩ := link_eq_ok_iff.mp hfirst
    obtain ⟨-, -, rfl⟩ := link_eq_ok_iff.mp hsecond
    obtain ⟨-, -, rfl⟩ := link_eq_ok_iff.mp hfirst'
    obtain ⟨-, -, rfl⟩ := link_eq_ok_iff.mp hsecond'
    simp only [Std.TreeMap.getElem?_insert]
    by_cases hchild : child.id = type
    · subst hchild
      have hother : compare child'.id child.id ≠ .eq := fun heq =>
        hne (Std.LawfulEqCmp.eq_of_compare heq).symm
      rw [if_neg hother, if_pos Std.ReflCmp.compare_self,
        if_pos Std.ReflCmp.compare_self]
    · have hother : compare child.id type ≠ .eq := fun heq =>
        hchild (Std.LawfulEqCmp.eq_of_compare heq)
      rw [if_neg hother, if_neg hother]

end Exchange

/-! ## All orders -/

/-- By exchanges of neighbours every order is reached. -/
theorem Coherent.exists_linkAll_of_perm {hierarchy final : Hierarchy}
    (hcoherent : hierarchy.Coherent) {links links' : List (Predicate × Predicate)}
    (hperm : links.Perm links') (hlinks : hierarchy.linkAll links = .ok final) :
    ∃ final', hierarchy.linkAll links' = .ok final' ∧
      SameParents final final' := by
  induction hperm generalizing hierarchy final with
  | nil => exact ⟨final, hlinks, .refl final⟩
  | cons pair _ ih =>
      obtain ⟨linked, hlink, hrest⟩ := linkAll_cons_eq_ok_iff.mp hlinks
      obtain ⟨final', hrest', hsame⟩ := ih (hcoherent.link hlink) hrest
      exact ⟨final', linkAll_cons_eq_ok_iff.mpr ⟨linked, hlink, hrest'⟩, hsame⟩
  | swap left right rest =>
      obtain ⟨first, hfirst, htail⟩ := linkAll_cons_eq_ok_iff.mp hlinks
      obtain ⟨second, hsecond, hrest⟩ := linkAll_cons_eq_ok_iff.mp htail
      obtain ⟨first', second', hfirst', hsecond', hsame⟩ :=
        hcoherent.exists_link_exchange hfirst hsecond
      obtain ⟨final', hrest', hfinal⟩ := hsame.linkAll
        ((hcoherent.link hfirst).link hsecond)
        ((hcoherent.link hfirst').link hsecond') hrest
      refine ⟨final', ?_, hfinal⟩
      exact linkAll_cons_eq_ok_iff.mpr ⟨first', hfirst',
        linkAll_cons_eq_ok_iff.mpr ⟨second', hsecond', hrest'⟩⟩
  | trans _ _ ih ih' =>
      obtain ⟨middle, hmiddle, hsame⟩ := ih hcoherent hlinks
      obtain ⟨final', hfinal, hsame'⟩ := ih' hcoherent hmiddle
      exact ⟨final', hfinal, hsame.trans hsame'⟩

/-! ## Main statement -/

/-- If all links can be made in some order, then they can be made in any other
order too, and all orders end with the same parents, the same ancestors and
descendants, the same order and the same distances under both metrics. -/
theorem link_order_irrelevant {hierarchy final : Hierarchy}
    (hreach : hierarchy.Reachable) {links links' : List (Predicate × Predicate)}
    (hperm : links.Perm links') (hlinks : hierarchy.linkAll links = .ok final) :
    ∃ final', hierarchy.linkAll links' = .ok final' ∧
      final'.predicates = final.predicates ∧
      final'.parent? = final.parent? ∧
      (∀ type, (Signature.ids (final'.ancestorsOf type)).Perm
        (Signature.ids (final.ancestorsOf type))) ∧
      (∀ type, (Signature.ids (final'.descendantsOf type)).Perm
        (Signature.ids (final.descendantsOf type))) ∧
      final'.isA = final.isA ∧
      final'.distance = final.distance := by
  obtain ⟨final', hlinks', hsame⟩ :=
    hreach.coherent.exists_linkAll_of_perm hperm hlinks
  have hcoherent := hreach.coherent.linkAll hlinks
  have hcoherent' := hreach.coherent.linkAll hlinks'
  refine ⟨final', hlinks', hsame.predicates.symm, hsame.parent?_eq.symm,
    fun type => ?_, fun type => ?_, (hsame.isA_eq hcoherent hcoherent').symm,
    (hsame.distance_eq hcoherent hcoherent').symm⟩
  · exact (hsame.ancestorIds_perm hcoherent hcoherent' type.id).symm
  · exact (hsame.descendantIds_perm hcoherent hcoherent' type.id).symm

/-- A tree with two leaves that hangs under a root: the links of the tree come
first, and the link of the whole tree comes last. -/
def treeLinks : List (Predicate × Predicate) :=
  [(⟨1, "isShape"⟩, ⟨2, "isSquare"⟩), (⟨1, "isShape"⟩, ⟨3, "isCircle"⟩),
    (⟨3, "isCircle"⟩, ⟨4, "isDisc"⟩), (⟨0, "isThing"⟩, ⟨1, "isShape"⟩)]

theorem link_order_irrelevant_treeLinks :
    Hierarchy.Reachable {} ∧ treeLinks.Perm treeLinks.reverse ∧
      ∃ final final', linkAll {} treeLinks = .ok final ∧
        linkAll {} treeLinks.reverse = .ok final' ∧
        final'.isA = final.isA ∧
        final'.distance .directed ⟨4, "isDisc"⟩ ⟨0, "isThing"⟩ = 3 := by
  have hperm : treeLinks.Perm treeLinks.reverse :=
    (List.reverse_perm treeLinks).symm
  obtain ⟨final, hlinks, hdistance⟩ : ∃ final, linkAll {} treeLinks = .ok final ∧
      final.distance .directed ⟨4, "isDisc"⟩ ⟨0, "isThing"⟩ = 3 :=
    ⟨_, rfl, by decide⟩
  obtain ⟨final', hlinks', -, -, -, -, hisA, hdistances⟩ :=
    link_order_irrelevant .empty hperm hlinks
  refine ⟨.empty, hperm, final, final', hlinks, hlinks', hisA, ?_⟩
  rw [hdistances, hdistance]

end PredicateDispatch.Hierarchy
