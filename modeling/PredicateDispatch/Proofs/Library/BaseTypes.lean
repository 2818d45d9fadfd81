import PredicateDispatch.Library.Handles
import PredicateDispatch.Proofs.Resolution.Lowest

/-!
# The base types and tables over them

The types that entries of the base library are declared for form a fixed tree,
whatever else a forest holds: their parents are settled when they are made, and
nothing but the root can still get one.  A table is a list of rows over this
tree.  If it has a row below any two rows that can accept the same call, then it
settles every call in every such forest, and this is a finite check.
-/

namespace PredicateDispatch

inductive BaseType where
  | any
  | predicate
  | function
  | boolean
  | null
  | real
  | int
  | character
  | string
  | list
  | map
deriving DecidableEq, Repr

namespace BaseType

/-- In the order in which the predicates are made. -/
def all : List BaseType :=
  [any, predicate, function, boolean, null, real, int, character, string, list,
    map]

theorem mem_all (type : BaseType) : type ∈ all := by
  cases type <;> decide

def parent? : BaseType → Option BaseType
  | any => none
  | predicate => some function
  | int => some real
  | character => some int
  | _ => some any

/-- The proper ancestors, found by at most `steps` parent links. -/
def climb : ℕ → BaseType → List BaseType
  | 0, _ => []
  | steps + 1, type =>
    match type.parent? with
    | none => []
    | some parent => parent :: climb steps parent

/-- The upper type is the lower one or above it.  No base type is deeper than
the characters, with three links above them. -/
def above (upper lower : BaseType) : Bool :=
  upper == lower || (climb 3 lower).contains upper

theorem above_parent {type parent : BaseType} (hparent : type.parent? = some parent)
    (upper : BaseType) :
    above upper type = (upper == type || above upper parent) := by
  cases type <;> cases hparent <;> cases upper <;> rfl

theorem above_root {type : BaseType} (hroot : type.parent? = none)
    (upper : BaseType) : above upper type = (upper == type) := by
  cases type <;> cases hroot
  cases upper <;> rfl

/-- Every type is reached from the root by links downward. -/
theorem downward_induction {motive : BaseType → Prop}
    (root : ∀ type, type.parent? = none → motive type)
    (child : ∀ type parent, type.parent? = some parent → motive parent →
      motive type) (type : BaseType) : motive type := by
  have hany : motive any := root any rfl
  have hreal : motive real := child real any rfl hany
  have hint : motive int := child int real rfl hreal
  have hfunction : motive function := child function any rfl hany
  cases type with
  | any => exact hany
  | real => exact hreal
  | int => exact hint
  | character => exact child character int rfl hint
  | function => exact hfunction
  | predicate => exact child predicate function rfl hfunction
  | boolean => exact child boolean any rfl hany
  | null => exact child null any rfl hany
  | string => exact child string any rfl hany
  | list => exact child list any rfl hany
  | map => exact child map any rfl hany

/-! ## Rows -/

/-- Each type of the one row is at or above that of the other one. -/
def aboveAll : List BaseType → List BaseType → Bool
  | [], [] => true
  | upper :: rest, lower :: others => above upper lower && aboveAll rest others
  | _, _ => false

theorem aboveAll_self (row : List BaseType) : aboveAll row row = true := by
  induction row with
  | nil => rfl
  | cons type row ih => simp [aboveAll, above, ih]

/-- The row of the lower types, unless two are on different branches. -/
def meet? : List BaseType → List BaseType → Option (List BaseType)
  | [], [] => some []
  | left :: rest, right :: others =>
    if above left right then (meet? rest others).map (right :: ·)
    else if above right left then (meet? rest others).map (left :: ·)
    else none
  | _, _ => none

/-- With any two rows that can accept the same call, the row below both is in
the table. -/
def HasMeets (rows : List (List BaseType)) : Prop :=
  ∀ left ∈ rows, ∀ right ∈ rows, ∀ meet ∈ meet? left right, meet ∈ rows

instance (rows : List (List BaseType)) : Decidable (HasMeets rows) :=
  inferInstanceAs (Decidable (∀ left ∈ rows, ∀ right ∈ rows,
    ∀ meet ∈ meet? left right, meet ∈ rows))

end BaseType

namespace BaseTypes

/-- The predicate for a base type. -/
def handle (types : BaseTypes) : BaseType → Predicate
  | .any => Predicate.any
  | .predicate => Predicate.predicate
  | .function => Predicate.function
  | .boolean => Predicate.boolean
  | .null => Predicate.null
  | .real => types.real
  | .int => types.int
  | .character => types.character
  | .string => types.string
  | .list => types.list
  | .map => types.map

/-- The signature that a row stands for. -/
def handles (types : BaseTypes) (row : List BaseType) : Signature :=
  row.map types.handle

/-- The predicates are different ones, linked as the base types are. -/
structure Placed (types : BaseTypes) (hierarchy : Hierarchy) : Prop where
  parent? : ∀ type parent : BaseType, type.parent? = some parent →
    hierarchy.parent? (types.handle type) = some (types.handle parent)
  distinct : (BaseType.all.map fun type => (types.handle type).id).Nodup

namespace Placed

variable {types : BaseTypes} {hierarchy : Hierarchy}
  (hplaced : types.Placed hierarchy)
include hplaced

theorem eq_of_ids_eq {left right : BaseType}
    (hid : (types.handle left).id = (types.handle right).id) : left = right :=
  List.inj_on_of_nodup_map hplaced.distinct left.mem_all right.mem_all hid

theorem eq_of_handles_eq {left right : List BaseType}
    (hids : (types.handles left).ids = (types.handles right).ids) :
    left = right := by
  rw [handles, handles, Signature.ids, Signature.ids, List.map_map,
    List.map_map] at hids
  exact List.map_injective_iff.mpr (fun _ _ => hplaced.eq_of_ids_eq) hids

variable (hcoherent : hierarchy.Coherent)
include hcoherent

/-- In every forest the base types are ordered as in their own tree: what is
above the root by links that were made later is no base type. -/
theorem isA_handle (upper lower : BaseType) :
    hierarchy.isA (types.handle upper) (types.handle lower) =
      BaseType.above upper lower := by
  have hbelow_root : ∀ type : BaseType,
      hierarchy.isA Predicate.any (types.handle type) = true := by
    intro type
    induction type using BaseType.downward_induction with
    | root type hroot =>
        cases type <;> cases hroot
        exact hierarchy.isA_self Predicate.any
    | child type parent hparent ih =>
        exact (hcoherent.isA_of_isA_parent (hplaced.parent? type parent hparent)
          ih).1
  rw [Bool.eq_iff_iff]
  induction lower using BaseType.downward_induction with
  | root lower hroot =>
      rw [BaseType.above_root hroot, beq_iff_eq]
      constructor
      · intro habove
        cases lower <;> cases hroot
        exact hplaced.eq_of_ids_eq
          (hcoherent.id_eq_of_isA_of_isA habove (hbelow_root upper))
      · rintro rfl
        exact hierarchy.isA_self _
  | child lower parent hparent ih =>
      have hlinked := hplaced.parent? lower parent hparent
      rw [BaseType.above_parent hparent, Bool.or_eq_true, beq_iff_eq, ← ih]
      constructor
      · intro habove
        by_cases hself : upper = lower
        · exact Or.inl hself
        · have hne := fun hid => hself (hplaced.eq_of_ids_eq hid)
          exact Or.inr (hcoherent.isA_parent_of_isA hlinked hne habove)
      · rintro (rfl | habove)
        · exact hierarchy.isA_self _
        · exact (hcoherent.isA_of_isA_parent hlinked habove).1

theorem accepts_handles (upper lower : List BaseType) :
    hierarchy.accepts (types.handles upper) (types.handles lower) =
      BaseType.aboveAll upper lower := by
  induction upper generalizing lower with
  | nil => cases lower <;> rfl
  | cons first rest ih =>
      cases lower with
      | nil => rfl
      | cons second others =>
          exact congrArg₂ Bool.and (hplaced.isA_handle hcoherent first second)
            (ih others)

/-- Rows that accept the same types have a row below both, which accepts them
as well: at each place, one of the two declared types is above the other. -/
theorem exists_meet {left right : List BaseType} {actual : Signature}
    (hleft : hierarchy.accepts (types.handles left) actual = true)
    (hright : hierarchy.accepts (types.handles right) actual = true) :
    ∃ meet ∈ BaseType.meet? left right,
      hierarchy.accepts (types.handles meet) actual = true ∧
      BaseType.aboveAll left meet = true ∧
      BaseType.aboveAll right meet = true := by
  induction left generalizing right actual with
  | nil =>
      cases actual with
      | cons => cases hleft
      | nil =>
          cases right with
          | cons => cases hright
          | nil => exact ⟨[], rfl, rfl, rfl, rfl⟩
  | cons first rest ih =>
      cases actual with
      | nil => cases hleft
      | cons type others =>
          cases right with
          | nil => cases hright
          | cons second rest' =>
              obtain ⟨hfirst, hrest⟩ := Bool.and_eq_true_iff.mp hleft
              obtain ⟨hsecond, hrest'⟩ := Bool.and_eq_true_iff.mp hright
              obtain ⟨meet, hmeet, haccepts, hleft', hright'⟩ := ih hrest hrest'
              have hself := fun type : BaseType =>
                (hplaced.isA_handle hcoherent type type).symm.trans
                  (hierarchy.isA_self _)
              rw [BaseType.meet?]
              by_cases habove : BaseType.above first second = true
              · rw [if_pos habove]
                exact ⟨second :: meet, Option.mem_map_of_mem _ hmeet,
                  Bool.and_eq_true_iff.mpr ⟨hsecond, haccepts⟩,
                  Bool.and_eq_true_iff.mpr ⟨habove, hleft'⟩,
                  Bool.and_eq_true_iff.mpr ⟨hself second, hright'⟩⟩
              · have hbelow : BaseType.above second first = true := by
                  rw [← hplaced.isA_handle hcoherent] at habove ⊢
                  exact (hcoherent.isA_total_of_isA hfirst hsecond).resolve_left
                    habove
                rw [if_neg habove, if_pos hbelow]
                exact ⟨first :: meet, Option.mem_map_of_mem _ hmeet,
                  Bool.and_eq_true_iff.mpr ⟨hfirst, haccepts⟩,
                  Bool.and_eq_true_iff.mpr ⟨hself first, hleft'⟩,
                  Bool.and_eq_true_iff.mpr ⟨hbelow, hright'⟩⟩

/-- The finite check is enough for every call. -/
theorem meets {rows : List (List BaseType)} (hmeets : BaseType.HasMeets rows)
    (actual : Signature) : hierarchy.Meets (rows.map types.handles) actual := by
  intro left hleft right hright hleft_accepts hright_accepts
  obtain ⟨upper, hupper, rfl⟩ := List.mem_map.mp hleft
  obtain ⟨other, hother, rfl⟩ := List.mem_map.mp hright
  obtain ⟨meet, hmeet, haccepts, hbelow, hbelow'⟩ :=
    hplaced.exists_meet hcoherent hleft_accepts hright_accepts
  refine ⟨types.handles meet,
    List.mem_map_of_mem (hmeets upper hupper other hother meet hmeet), haccepts,
    ?_, ?_⟩
  · rw [hplaced.accepts_handles hcoherent]
    exact hbelow
  · rw [hplaced.accepts_handles hcoherent]
    exact hbelow'

/-- A type is not below base types on different branches. -/
theorem isA_eq_false_of_apart (left right : BaseType) {type : Predicate}
    (hleft : hierarchy.isA (types.handle left) type = true)
    (hapart : BaseType.above left right = false ∧ BaseType.above right left = false) :
    hierarchy.isA (types.handle right) type = false := by
  rw [Bool.eq_false_iff]
  intro hright
  have hbase := hplaced.isA_handle hcoherent
  rcases hcoherent.isA_total_of_isA hleft hright with habove | hbelow
  · cases hapart.1.symm.trans ((hbase _ _).symm.trans habove)
  · cases hapart.2.symm.trans ((hbase _ _).symm.trans hbelow)

end Placed

end BaseTypes

end PredicateDispatch
