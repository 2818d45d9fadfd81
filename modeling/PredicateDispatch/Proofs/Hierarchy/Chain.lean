import PredicateDispatch.Proofs.Hierarchy.Distance

/-!
# Chains

In a chain every predicate but the first is a child of the one created before it, so
that numbers tell how far up everything is.  Chains of any length can be made, and so
there are types that are farther away than an unreachable one is said to be.
-/

namespace PredicateDispatch.Hierarchy

open Relation

/-- A chain of so many links, the predicate numbered 0 at the top. -/
def chain : ℕ → Hierarchy
  | 0 => create {} "isLink"
  | depth + 1 =>
    let longer := (chain depth).create "isLink"
    (longer.link ⟨depth, "isLink"⟩ ⟨depth + 1, "isLink"⟩).toOption.getD longer

theorem reachable_chain (depth : ℕ) : (chain depth).Reachable := by
  induction depth with
  | zero => exact Reachable.empty.create "isLink"
  | succ depth ih => exact (ih.create "isLink").link _ _

/-- The next link of a chain is accepted. -/
theorem exists_link_chain (depth : ℕ)
    (hlinks : ∀ child parent, (chain depth).ParentLink child parent ↔
      child = parent + 1 ∧ child ≤ depth) :
    ∃ linked, ((chain depth).create "isLink").link ⟨depth, "isLink"⟩
      ⟨depth + 1, "isLink"⟩ = .ok linked := by
  have hfree : (chain depth).parent? ⟨depth + 1, "isLink"⟩ = none := by
    cases hparent : (chain depth).parent? ⟨depth + 1, "isLink"⟩ with
    | none => rfl
    | some parent =>
        have hlink := (hlinks _ _).mp (parentLink_of_parent?_eq_some hparent)
        exact absurd hlink.2 (Nat.not_succ_le_self depth)
  have hbelow : (chain depth).isA ⟨depth + 1, "isLink"⟩ ⟨depth, "isLink"⟩ =
      false := by
    by_contra habove
    have hpath := ((reachable_chain depth).coherent.isA_iff _ _).mp
      (by simpa using habove)
    have hdescends : ∀ upper, ReflTransGen (chain depth).ParentLink depth upper →
        upper ≤ depth := by
      intro upper hupper
      induction hupper with
      | refl => exact Nat.le_refl depth
      | tail _ hlink ih =>
          have hstep := ((hlinks _ _).mp hlink).1
          omega
    exact absurd (hdescends _ hpath) (Nat.not_succ_le_self depth)
  exact ⟨_, link_eq_ok_iff.mpr ⟨hfree, hbelow, rfl⟩⟩

theorem parentLink_chain_iff (depth child parent : ℕ) :
    (chain depth).ParentLink child parent ↔
      child = parent + 1 ∧ child ≤ depth := by
  induction depth generalizing child parent with
  | zero =>
      constructor
      · intro hlink
        simp [chain, create, ParentLink] at hlink
      · omega
  | succ depth ih =>
      obtain ⟨linked, hlink⟩ := exists_link_chain depth ih
      have hchain : chain (depth + 1) = linked := by
        rw [chain, hlink]
        rfl
      rw [hchain, parentLink_link_iff hlink]
      change (chain depth).ParentLink child parent ∨ _ ↔ _
      rw [ih]
      dsimp only
      omega

/-- In a chain the number of a predicate is the number of its ancestors. -/
theorem length_ancestorsOf_chain {depth : ℕ} (type : Predicate)
    (htype : type.id ≤ depth) :
    ((chain depth).ancestorsOf type).length = type.id := by
  have hcoherent := (reachable_chain depth).coherent
  induction type using hcoherent.upward_induction with
  | root type hroot =>
      have hzero : type.id = 0 := by
        by_contra hpositive
        have hlink := (parentLink_chain_iff depth type.id (type.id - 1)).mpr
          ⟨by omega, htype⟩
        exact not_parentLink_of_parent?_eq_none hroot _ hlink
      rw [hcoherent.ancestorsOf_eq_nil_of_root hroot, hzero]
      rfl
  | child type parent hparent ih =>
      have hlink := (parentLink_chain_iff depth type.id parent.id).mp
        (parentLink_of_parent?_eq_some hparent)
      rw [hcoherent.length_ancestorsOf_of_parent hparent, ih (by omega),
        hlink.1]

end PredicateDispatch.Hierarchy
