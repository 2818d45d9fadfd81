import Mathlib.Data.List.Perm.Subperm
import PredicateDispatch.Proofs.Hierarchy.Chain

/-!
# The walk up to an ancestor

A distance is measured by a walk along the parent links, which counts them until it
arrives.  Whether it is made at all is read off the stored ancestors, which nobody
compares with the parent links on the way.  Every forest that can be made keeps them
the same and closes no cycle, and so the walk always ends, it never lacks a parent on
its way to an ancestor, and it counts exactly the links, however many there are.
-/

namespace PredicateDispatch.Hierarchy

open Relation

/-! ## Parents of parents -/

/-- The predicate so many parent links above, if there are so many. -/
def nthParent? (hierarchy : Hierarchy) : ℕ → Predicate → Option Predicate
  | 0, type => some type
  | links + 1, type => (hierarchy.parent? type).bind (hierarchy.nthParent? links)

/-- The last link upward, in place of the first one. -/
theorem nthParent?_succ (hierarchy : Hierarchy) (links : ℕ) (type : Predicate) :
    hierarchy.nthParent? (links + 1) type =
      (hierarchy.nthParent? links type).bind hierarchy.parent? := by
  induction links generalizing type with
  | zero => exact Option.bind_fun_some (hierarchy.parent? type)
  | succ links ih =>
      rw [nthParent?, nthParent?, Option.bind_assoc]
      exact congrArg _ (funext ih)

section Coherent

variable {hierarchy : Hierarchy} (hcoherent : hierarchy.Coherent)
  {source target : Predicate}
include hcoherent

theorem Coherent.typeDistance_eq_zero_iff :
    hierarchy.typeDistance source target = 0 ↔ source.id = target.id := by
  constructor
  · intro hzero
    by_contra hne
    cases habove : hierarchy.isA target source with
    | true =>
        exact absurd hzero
          (Nat.ne_of_gt (hcoherent.typeDistance_pos habove (Ne.symm hne)))
    | false =>
        rw [typeDistance_of_not_isA habove] at hzero
        exact absurd hzero (by decide)
  · exact fun hid => hierarchy.typeDistance_self hid.symm

omit hcoherent in
theorem ids_ne_of_typeDistance_eq_succ {links : ℕ}
    (hdistance : hierarchy.typeDistance source target = links + 1) :
    target.id ≠ source.id := by
  intro hid
  rw [hierarchy.typeDistance_self hid] at hdistance
  exact Nat.succ_ne_zero links hdistance.symm

/-- One link above the source, the target is one link nearer. -/
theorem Coherent.isA_and_typeDistance_succ_iff {parent : Predicate}
    (hparent : hierarchy.parent? source = some parent) (links : ℕ) :
    hierarchy.isA target source = true ∧
        hierarchy.typeDistance source target = links + 1 ↔
      hierarchy.isA target parent = true ∧
        hierarchy.typeDistance parent target = links := by
  constructor
  · rintro ⟨habove, hdistance⟩
    have hne := ids_ne_of_typeDistance_eq_succ hdistance
    have hupper := hcoherent.isA_parent_of_isA hparent hne habove
    rw [hcoherent.typeDistance_of_parent hparent hupper] at hdistance
    exact ⟨hupper, Nat.succ.inj hdistance⟩
  · rintro ⟨hupper, rfl⟩
    exact ⟨(hcoherent.isA_of_isA_parent hparent hupper).1,
      hcoherent.typeDistance_of_parent hparent hupper⟩

/-- The distance to an ancestor says which parent of a parent it is, and it is no
other one. -/
theorem Coherent.nthParent?_iff (links : ℕ) :
    (hierarchy.nthParent? links source).map Predicate.id = some target.id ↔
      hierarchy.isA target source = true ∧
        hierarchy.typeDistance source target = links := by
  induction links generalizing source with
  | zero =>
      rw [hcoherent.typeDistance_eq_zero_iff]
      constructor
      · intro hid
        have hsame : source.id = target.id := Option.some.inj hid
        rw [hierarchy.isA_congr target hsame]
        exact ⟨hierarchy.isA_self target, hsame⟩
      · exact fun ⟨_, hsame⟩ => congrArg some hsame
  | succ links ih =>
      cases hparent : hierarchy.parent? source with
      | none =>
          rw [nthParent?, hparent, Option.bind_none]
          constructor
          · exact nofun
          · rintro ⟨habove, hdistance⟩
            exact absurd (hcoherent.id_eq_of_isA_root hparent habove)
              (ids_ne_of_typeDistance_eq_succ hdistance)
      | some parent =>
          rw [hcoherent.isA_and_typeDistance_succ_iff hparent, ← ih, nthParent?, hparent,
            Option.bind_some]

/-- A predicate that has something else above it has a parent. -/
theorem Coherent.exists_parent_of_isA (habove : hierarchy.isA target source = true)
    (hne : source.id ≠ target.id) :
    ∃ parent, hierarchy.parent? source = some parent := by
  cases hparent : hierarchy.parent? source with
  | none => exact absurd (hcoherent.id_eq_of_isA_root hparent habove) (Ne.symm hne)
  | some parent => exact ⟨parent, rfl⟩

/-- Where no link leads to a number beyond a bound, distances stay below it. -/
theorem Coherent.typeDistance_lt {bound : ℕ} (hsource : source.id < bound)
    (hlinks : ∀ child parent, hierarchy.ParentLink child parent → parent < bound)
    (habove : hierarchy.isA target source = true) :
    hierarchy.typeDistance source target < bound := by
  have hwithin : Signature.ids (source :: hierarchy.ancestorsOf source) ⊆
      List.range bound := by
    intro id hid
    rw [List.mem_range]
    rcases ((hcoherent.mem_lineage_iff source id).mp hid).cases_tail with
      rfl | ⟨child, -, hlink⟩
    · exact hsource
    · exact hlinks child id hlink
  have hlength := ((hcoherent.nodup_lineage source).subperm hwithin).length_le
  rw [List.length_range, Signature.ids, List.length_map, List.length_cons] at hlength
  exact Nat.lt_of_le_of_lt (hcoherent.typeDistance_le_length habove) hlength

end Coherent

/-! ## Rounds of the walk -/

/-- Where a walk has come to, and how many links it has counted. -/
structure Walk where
  current : Predicate
  links : ℕ

def Walk.start (source : Predicate) : Walk :=
  ⟨source, 0⟩

/-- One round of the walk: it has not arrived, and goes on to the parent. -/
inductive Round (hierarchy : Hierarchy) (target : Predicate) : Walk → Walk → Prop
  | up {walk : Walk} {parent : Predicate} :
      walk.current.id ≠ target.id → hierarchy.parent? walk.current = some parent →
        Round hierarchy target walk ⟨parent, walk.links + 1⟩

/-- The walk comes there after some rounds. -/
def Reaches (hierarchy : Hierarchy) (source target : Predicate) : Walk → Prop :=
  ReflTransGen (hierarchy.Round target) (.start source)

section Rounds

variable {hierarchy : Hierarchy} {source target : Predicate} {earlier later walk : Walk}

theorem Round.nthParent?_eq (hround : hierarchy.Round target earlier later)
    (hearlier : hierarchy.nthParent? earlier.links source = some earlier.current) :
    hierarchy.nthParent? later.links source = some later.current := by
  obtain ⟨-, hparent⟩ := hround
  rw [nthParent?_succ, hearlier, Option.bind_some, hparent]

/-- The walk counts every link that it follows. -/
theorem Reaches.nthParent?_eq (hreaches : hierarchy.Reaches source target walk) :
    hierarchy.nthParent? walk.links source = some walk.current := by
  induction hreaches with
  | refl => rfl
  | tail _ hround ih => exact hround.nthParent?_eq ih

variable (hcoherent : hierarchy.Coherent)
include hcoherent

/-- Each round takes an ancestor away. -/
theorem Round.length_ancestorsOf_lt (hround : hierarchy.Round target earlier later) :
    (hierarchy.ancestorsOf later.current).length <
      (hierarchy.ancestorsOf earlier.current).length := by
  obtain ⟨-, hparent⟩ := hround
  rw [hcoherent.length_ancestorsOf_of_parent hparent]
  exact Nat.lt_succ_self _

/-- No walk goes on for ever, wherever it starts and whatever it looks for. -/
theorem Coherent.wellFounded_round :
    WellFounded fun later earlier => hierarchy.Round target earlier later :=
  Subrelation.wf (fun hround => hround.length_ancestorsOf_lt hcoherent)
    (measure fun walk : Walk => (hierarchy.ancestorsOf walk.current).length).wf

theorem Round.isA (hround : hierarchy.Round target earlier later)
    (habove : hierarchy.isA target earlier.current = true) :
    hierarchy.isA target later.current = true := by
  obtain ⟨hne, hparent⟩ := hround
  exact hcoherent.isA_parent_of_isA hparent (Ne.symm hne) habove

/-- A walk to an ancestor stays below it. -/
theorem Reaches.isA (hreaches : hierarchy.Reaches source target walk)
    (habove : hierarchy.isA target source = true) :
    hierarchy.isA target walk.current = true := by
  induction hreaches with
  | refl => exact habove
  | tail _ hround ih => exact hround.isA hcoherent ih

/-- As long as it is below the target, it arrives or goes on: no parent is missing. -/
theorem Coherent.exists_round (habove : hierarchy.isA target walk.current = true)
    (hne : walk.current.id ≠ target.id) : ∃ next, hierarchy.Round target walk next := by
  obtain ⟨parent, hparent⟩ := hcoherent.exists_parent_of_isA habove hne
  exact ⟨_, .up hne hparent⟩

theorem Coherent.exists_arrival (habove : hierarchy.isA target source = true) :
    ∃ walk, hierarchy.Reaches source target walk ∧ walk.current.id = target.id := by
  have hended : WellFounded fun later earlier => hierarchy.Round target earlier later :=
    hcoherent.wellFounded_round
  have harrives : ∀ walk : Walk, hierarchy.isA target walk.current = true →
      ∃ last, ReflTransGen (hierarchy.Round target) walk last ∧
        last.current.id = target.id := by
    intro walk
    induction walk using hended.induction with
    | _ walk ih =>
        intro habove
        by_cases hid : walk.current.id = target.id
        · exact ⟨walk, .refl, hid⟩
        · obtain ⟨next, hround⟩ := hcoherent.exists_round habove hid
          obtain ⟨last, hrest, hlast⟩ := ih next hround (hround.isA hcoherent habove)
          exact ⟨last, .head hround hrest, hlast⟩
  exact harrives (.start source) habove

/-- Only walks to ancestors arrive, and they have counted the distance. -/
theorem Reaches.isA_and_typeDistance_eq (hreaches : hierarchy.Reaches source target walk)
    (harrived : walk.current.id = target.id) :
    hierarchy.isA target source = true ∧
      hierarchy.typeDistance source target = walk.links := by
  apply (hcoherent.nthParent?_iff walk.links).mp
  rw [hreaches.nthParent?_eq]
  exact congrArg some harrived

end Rounds

/-! ## The distance -/

/-- What the distance has to do with parent links, and with the walk that counts
them. -/
structure CountsLinks (hierarchy : Hierarchy) (source target : Predicate) : Prop where
  /-- There is no endless walk. -/
  ends : Acc (fun later earlier => hierarchy.Round target earlier later) (.start source)
  /-- The stored ancestors tell rightly whether the walk arrives. -/
  arrives_iff : (∃ walk, hierarchy.Reaches source target walk ∧
      walk.current.id = target.id) ↔ hierarchy.isA target source = true
  /-- On the way to an ancestor no parent is missing. -/
  goes_on : hierarchy.isA target source = true → ∀ walk,
    hierarchy.Reaches source target walk → walk.current.id ≠ target.id →
      ∃ next, hierarchy.Round target walk next
  /-- What the walk has counted when it arrives is the distance. -/
  counted : ∀ walk, hierarchy.Reaches source target walk →
    walk.current.id = target.id → hierarchy.typeDistance source target = walk.links
  nth_parent_iff : ∀ links,
    (hierarchy.nthParent? links source).map Predicate.id = some target.id ↔
      hierarchy.isA target source = true ∧
        hierarchy.typeDistance source target = links
  unreachable : hierarchy.isA target source = false →
    hierarchy.typeDistance source target = unreachableDistance
  zero_iff : hierarchy.typeDistance source target = 0 ↔ source.id = target.id
  additive : ∀ middle, hierarchy.isA middle source = true →
    hierarchy.isA target middle = true →
      hierarchy.typeDistance source target =
        hierarchy.typeDistance source middle + hierarchy.typeDistance middle target
  /-- A count needs no more digits than the numbers of the predicates. -/
  fits : ∀ bound, source.id < bound →
    (∀ child parent, hierarchy.ParentLink child parent → parent < bound) →
      hierarchy.isA target source = true →
        hierarchy.typeDistance source target < bound

/-- In every forest that can be made, the walk from any predicate towards any other
one ends, and the distance to an ancestor is the number of parent links up to it. -/
theorem distance_counts_links {hierarchy : Hierarchy} (hreach : hierarchy.Reachable)
    (source target : Predicate) : hierarchy.CountsLinks source target := by
  have hcoherent := hreach.coherent
  have hcounted : ∀ walk, hierarchy.Reaches source target walk →
      walk.current.id = target.id →
        hierarchy.isA target source = true ∧
          hierarchy.typeDistance source target = walk.links :=
    fun _ hreaches => hreaches.isA_and_typeDistance_eq hcoherent
  exact {
    ends := hcoherent.wellFounded_round.apply (.start source)
    arrives_iff := ⟨fun ⟨walk, hreaches, harrived⟩ => (hcounted walk hreaches harrived).1,
      hcoherent.exists_arrival⟩
    goes_on := fun habove _ hreaches hne =>
      hcoherent.exists_round (hreaches.isA hcoherent habove) hne
    counted := fun walk hreaches harrived => (hcounted walk hreaches harrived).2
    nth_parent_iff := hcoherent.nthParent?_iff
    unreachable := typeDistance_of_not_isA
    zero_iff := hcoherent.typeDistance_eq_zero_iff
    additive := fun _ hmiddle hupper => hcoherent.typeDistance_add hmiddle hupper
    fits := fun _ hsource hlinks habove =>
      hcoherent.typeDistance_lt hsource hlinks habove }

theorem id_nthParent?_chain {depth links : ℕ} {type : Predicate}
    (htype : type.id ≤ depth) (hlinks : links ≤ type.id) :
    ((chain depth).nthParent? links type).map Predicate.id = some (type.id - links) := by
  induction links with
  | zero => rfl
  | succ links ih =>
      obtain ⟨lower, hlower, hid⟩ := Option.map_eq_some_iff.mp (ih (by omega))
      have hlink : (chain depth).ParentLink lower.id (type.id - (links + 1)) :=
        (parentLink_chain_iff _ _ _).mpr ⟨by omega, by omega⟩
      rw [nthParent?_succ, hlower, Option.bind_some]
      exact hlink

/-- From the bottom to the top of a chain it is farther than to an unreachable type. -/
theorem distance_counts_links_chain :
    (chain 101).Reachable ∧
      (chain 101).typeDistance ⟨101, "isLink"⟩ ⟨0, "isLink"⟩ = 101 ∧
      (chain 101).typeDistance ⟨0, "isLink"⟩ ⟨101, "isLink"⟩ = unreachableDistance := by
  have hreach := reachable_chain 101
  have hup : (chain 101).CountsLinks ⟨101, "isLink"⟩ ⟨0, "isLink"⟩ :=
    distance_counts_links hreach _ _
  have hdown : (chain 101).CountsLinks ⟨0, "isLink"⟩ ⟨101, "isLink"⟩ :=
    distance_counts_links hreach _ _
  obtain ⟨habove, hdistance⟩ := (hup.nth_parent_iff 101).mp
    (id_nthParent?_chain (Nat.le_refl 101) (Nat.le_refl 101))
  refine ⟨hreach, hdistance, hdown.unreachable ?_⟩
  rw [Bool.eq_false_iff]
  intro hbelow
  exact absurd (hreach.coherent.id_eq_of_isA_of_isA habove hbelow) (by decide)

end PredicateDispatch.Hierarchy
