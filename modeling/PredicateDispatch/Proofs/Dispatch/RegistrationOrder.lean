import Mathlib.Data.List.Induction
import PredicateDispatch.Proofs.Registry.Tables
import PredicateDispatch.Proofs.Resolution.Specificity

/-!
# The order of registration

A table of entries is a map from lists of argument types.  Its keys stand in the
order in which they were first registered, and each has the entry that was
registered for it last.  What a call selects depends on the map alone: two
tables with the same argument types in whatever order, and under whatever names,
select the same types at the same distance, or nothing, or are tied between the
same ones.
-/

namespace PredicateDispatch

variable {Code : Type}

/-- An item that is added at the end stays unless it is there already. -/
theorem eraseDups_concat {α : Type*} [BEq α] [LawfulBEq α] (items : List α)
    (last : α) :
    (items ++ [last]).eraseDups =
      if last ∈ items.eraseDups then items.eraseDups
      else items.eraseDups ++ [last] := by
  rw [List.eraseDups_append]
  by_cases hmem : last ∈ items
  · have hnothing : [last].removeAll items = [] := by
      simpa [List.removeAll] using hmem
    rw [hnothing, if_pos (List.mem_eraseDups.mpr hmem), List.eraseDups_nil,
      List.append_nil]
  · have hself : [last].removeAll items = [last] := by
      simpa [List.removeAll] using hmem
    rw [hself, if_neg (mt List.mem_eraseDups.mp hmem)]
    rfl

namespace GenericFunction

/-! ## A table as a map -/

/-- Registers entries one after the other. -/
def addEntries (function : GenericFunction Code)
    (sequence : List (MethodEntry Code)) : GenericFunction Code :=
  sequence.foldl addEntry function

theorem name_addEntries (function : GenericFunction Code)
    (sequence : List (MethodEntry Code)) :
    (function.addEntries sequence).name = function.name := by
  induction sequence generalizing function with
  | nil => rfl
  | cons entry rest ih => exact ih (function.addEntry entry)

/-- The entry for argument types with these numbers. -/
def entryFor? (function : GenericFunction Code) (types : List ℕ) :
    Option (MethodEntry Code) :=
  function.entries.find? fun entry => entry.arguments.ids == types

/-- The last of these registrations for argument types with these numbers. -/
def latest? (sequence : List (MethodEntry Code)) (types : List ℕ) :
    Option (MethodEntry Code) :=
  sequence.reverse.find? fun entry => entry.arguments.ids == types

theorem latest?_cons (entry : MethodEntry Code)
    (sequence : List (MethodEntry Code)) (types : List ℕ) :
    latest? (entry :: sequence) types = (latest? sequence types).or
      (if entry.arguments.ids = types then some entry else none) := by
  rw [latest?, List.reverse_cons, List.find?_append, latest?,
    List.find?_singleton]
  simp only [beq_iff_eq]

theorem latest?_eq_some_iff {sequence : List (MethodEntry Code)}
    {types : List ℕ} {entry : MethodEntry Code} :
    latest? sequence types = some entry ↔ entry.arguments.ids = types ∧
      ∃ earlier later, sequence = earlier ++ entry :: later ∧
        ∀ other ∈ later, other.arguments.ids ≠ types := by
  rw [latest?, List.find?_eq_some_iff_append]
  refine and_congr (by simp) ⟨?_, ?_⟩
  · rintro ⟨before, after, hsequence, hbefore⟩
    refine ⟨after.reverse, before.reverse, ?_, fun other hother => ?_⟩
    · simpa using congrArg List.reverse hsequence
    · simpa using hbefore other (List.mem_reverse.mp hother)
  · rintro ⟨earlier, later, rfl, hlater⟩
    exact ⟨later.reverse, earlier.reverse, by simp,
      fun other hother => by simpa using hlater other (List.mem_reverse.mp hother)⟩

theorem entryFor?_addEntry (function : GenericFunction Code)
    (entry : MethodEntry Code) (types : List ℕ) :
    (function.addEntry entry).entryFor? types =
      if entry.arguments.ids = types then some entry
      else function.entryFor? types := by
  rw [entryFor?, entryFor?, addEntry]
  dsimp only
  induction function.entries with
  | nil =>
      rw [putEntry, List.find?_singleton]
      simp only [beq_iff_eq, List.find?_nil]
  | cons existing rest ih =>
      rw [putEntry]
      by_cases hsame : existing.arguments.ids = entry.arguments.ids
      · rw [if_pos (by simpa using hsame)]
        by_cases htypes : entry.arguments.ids = types
        · rw [List.find?_cons_of_pos (by simpa using htypes), if_pos htypes]
        · rw [List.find?_cons_of_neg (by simpa using htypes), if_neg htypes,
            List.find?_cons_of_neg (by simpa [hsame] using htypes)]
      · rw [if_neg (by simpa using hsame)]
        by_cases htypes : existing.arguments.ids = types
        · have hother : entry.arguments.ids ≠ types :=
            fun heq => hsame (htypes.trans heq.symm)
          rw [List.find?_cons_of_pos (by simpa using htypes), if_neg hother,
            List.find?_cons_of_pos (by simpa using htypes)]
        · rw [List.find?_cons_of_neg (by simpa using htypes), ih,
            List.find?_cons_of_neg (by simpa using htypes)]

theorem entryFor?_addEntries (function : GenericFunction Code)
    (sequence : List (MethodEntry Code)) (types : List ℕ) :
    (function.addEntries sequence).entryFor? types =
      (latest? sequence types).or (function.entryFor? types) := by
  induction sequence generalizing function with
  | nil => rfl
  | cons entry rest ih =>
      have hstep : function.addEntries (entry :: rest) =
        (function.addEntry entry).addEntries rest := rfl
      rw [hstep, ih, entryFor?_addEntry, latest?_cons, Option.or_assoc]
      split <;> rfl

theorem nodup_addEntries {function : GenericFunction Code}
    (hnodup : function.argumentIds.Nodup) (sequence : List (MethodEntry Code)) :
    (function.addEntries sequence).argumentIds.Nodup := by
  induction sequence generalizing function with
  | nil => exact hnodup
  | cons entry rest ih => exact ih (nodup_addEntry hnodup entry)

/-- The argument types stand in the order of their first registrations. -/
theorem argumentIds_addEntries {function : GenericFunction Code}
    (hempty : function.entries = []) (sequence : List (MethodEntry Code)) :
    (function.addEntries sequence).argumentIds =
      (sequence.map fun entry => entry.arguments.ids).eraseDups := by
  -- By the last registration, which is the only one that can add a key at the
  -- end of the table.
  induction sequence using List.reverseRecOn with
  | nil =>
      rw [addEntries, List.foldl_nil, argumentIds, hempty]
      rfl
  | append_singleton earlier entry ih =>
      have hstep : function.addEntries (earlier ++ [entry]) =
          (function.addEntries earlier).addEntry entry := by
        rw [addEntries, List.foldl_append]
        rfl
      rw [hstep, argumentIds_addEntry, ih, List.map_append]
      exact (eraseDups_concat ..).symm

theorem entryFor?_eq_some_iff {function : GenericFunction Code}
    (hnodup : function.argumentIds.Nodup) {types : List ℕ}
    {entry : MethodEntry Code} :
    function.entryFor? types = some entry ↔
      entry ∈ function.entries ∧ entry.arguments.ids = types := by
  constructor
  · intro hfound
    exact ⟨List.mem_of_find?_eq_some hfound,
      by simpa using List.find?_some hfound⟩
  · rintro ⟨hmem, rfl⟩
    cases hfound : function.entryFor? entry.arguments.ids with
    | none =>
        have hnone := List.find?_eq_none.mp hfound entry hmem
        exact absurd BEq.rfl hnone
    | some found =>
        have hids : found.arguments.ids = entry.arguments.ids := by
          simpa using List.find?_some hfound
        rw [List.inj_on_of_nodup_map hnodup
          (List.mem_of_find?_eq_some hfound) hmem hids]

end GenericFunction

/-! ## What a call chooses -/

namespace Hierarchy

/-- The argument types cover the call, and no others of the table that do are
nearer. -/
def Suits (hierarchy : Hierarchy) (metric : Metric)
    (signatures : List Signature) (actual declared : Signature) : Prop :=
  hierarchy.accepts declared actual = true ∧
    ∀ other ∈ signatures, hierarchy.accepts other actual = true →
      hierarchy.totalDistance metric declared actual ≤
        hierarchy.totalDistance metric other actual

variable {hierarchy : Hierarchy} {metric : Metric}
  {signatures : List Signature} {actual : Signature}

theorem isNearest_iff {candidate : Candidate} :
    hierarchy.IsNearest (hierarchy.totalDistance metric) signatures actual
      candidate ↔
      ∃ declared, signatures[candidate.index]? = some declared ∧
        hierarchy.Suits metric signatures actual declared ∧
        candidate.distance =
          hierarchy.totalDistance metric declared actual := by
  constructor
  · rintro ⟨⟨declared, hdeclared, hcovers, hdistance⟩, hleast⟩
    refine ⟨declared, hdeclared, ⟨accepts_iff_covers.mpr hcovers, ?_⟩, hdistance⟩
    intro other hother haccepts
    obtain ⟨index, hindex⟩ := List.getElem?_of_mem hother
    rw [← hdistance]
    exact hleast ⟨index, _⟩ ⟨other, hindex, accepts_iff_covers.mp haccepts, rfl⟩
  · rintro ⟨declared, hdeclared, ⟨haccepts, hleast⟩, hdistance⟩
    refine ⟨⟨declared, hdeclared, accepts_iff_covers.mp haccepts, hdistance⟩, ?_⟩
    rintro other ⟨declared', hdeclared', hcovers, hfar⟩
    rw [hdistance, hfar]
    exact hleast declared' (List.mem_of_getElem? hdeclared')
      (accepts_iff_covers.mpr hcovers)

theorem mem_winners_iff {candidate : Candidate} :
    candidate ∈ (hierarchy.resolve metric signatures actual).winners ↔
      hierarchy.IsNearest (hierarchy.totalDistance metric) signatures actual
      candidate := by
  refine ⟨isNearest_of_mem_winners, fun hnearest => ?_⟩
  have hdescribes := hierarchy.resolve_describes metric signatures actual
  cases hresolve : hierarchy.resolve metric signatures actual with
  | noMatch =>
      rw [hresolve] at hdescribes
      exact absurd hnearest.1
        (Resolution.not_isCandidate_of_noMatch hdescribes candidate)
  | unique best =>
      rw [hresolve] at hdescribes
      obtain ⟨hbest, hnearer⟩ := hdescribes
      refine List.mem_singleton.mpr (hnearest.1.eq_of_index_eq hbest ?_)
      by_contra hindex
      exact absurd (hnearest.2 best hbest)
        (Nat.not_le_of_lt (hnearer candidate hnearest.1 hindex))
  | ambiguous tied =>
      rw [hresolve] at hdescribes
      exact (hdescribes.2.2 candidate).mpr hnearest

theorem nodup_winners :
    (hierarchy.resolve metric signatures actual).winners.Nodup := by
  have hdescribes := hierarchy.resolve_describes metric signatures actual
  cases hresolve : hierarchy.resolve metric signatures actual with
  | noMatch => exact List.nodup_nil
  | unique best => exact List.nodup_singleton best
  | ambiguous tied =>
      rw [hresolve] at hdescribes
      refine hdescribes.2.1.imp fun hlt heq => ?_
      exact Nat.lt_irrefl _ (heq ▸ hlt)

end Hierarchy

/-- The argument types that a resolution leaves to the call. -/
def Resolution.chosen (signatures : List Signature) (resolution : Resolution) :
    List Signature :=
  resolution.winners.filterMap fun winner => signatures[winner.index]?

namespace Hierarchy

section Chosen

variable (hierarchy : Hierarchy) (metric : Metric)
  (signatures : List Signature) (actual : Signature)

theorem mem_chosen_iff {declared : Signature} :
    declared ∈ (hierarchy.resolve metric signatures actual).chosen signatures ↔
      declared ∈ signatures ∧
        hierarchy.Suits metric signatures actual declared := by
  rw [Resolution.chosen, List.mem_filterMap]
  constructor
  · rintro ⟨winner, hwinner, hdeclared⟩
    obtain ⟨found, hfound, hsuits, -⟩ :=
      isNearest_iff.mp (mem_winners_iff.mp hwinner)
    obtain rfl := Option.some.inj (hdeclared.symm.trans hfound)
    exact ⟨List.mem_of_getElem? hdeclared, hsuits⟩
  · rintro ⟨hmem, hsuits⟩
    obtain ⟨index, hindex⟩ := List.getElem?_of_mem hmem
    exact ⟨⟨index, hierarchy.totalDistance metric declared actual⟩,
      mem_winners_iff.mpr (isNearest_iff.mpr ⟨declared, hindex, hsuits, rfl⟩),
      hindex⟩

theorem map_some_chosen :
    ((hierarchy.resolve metric signatures actual).chosen signatures).map some =
      (hierarchy.resolve metric signatures actual).winners.map
        fun winner => signatures[winner.index]? :=
  map_signatures_of_isCandidate
    fun _ hwinner => (mem_winners_iff.mp hwinner).1

theorem length_chosen :
    ((hierarchy.resolve metric signatures actual).chosen signatures).length =
      (hierarchy.resolve metric signatures actual).winners.length := by
  have hlength := congrArg List.length
    (hierarchy.map_some_chosen metric signatures actual)
  rwa [List.length_map, List.length_map] at hlength

/-- In a table without repetition, nothing is chosen twice. -/
theorem nodup_ids_chosen (hnodup : (signatures.map Signature.ids).Nodup) :
    (((hierarchy.resolve metric signatures actual).chosen signatures).map
      Signature.ids).Nodup := by
  apply List.Nodup.of_map some
  have hsome : ∀ list : List Signature, (list.map Signature.ids).map some =
      (list.map some).map (Option.map Signature.ids) := by
    intro list
    simp only [List.map_map, Function.comp_def, Option.map_some]
  rw [hsome, map_some_chosen, List.map_map]
  -- Winners of the same argument types stand at one position.
  refine nodup_winners.map_on fun left hleft right hright hids => ?_
  have hleft' := mem_winners_iff.mp hleft
  have hright' := mem_winners_iff.mp hright
  obtain ⟨first, hfirst, -⟩ := isNearest_iff.mp hleft'
  obtain ⟨second, hsecond, -⟩ := isNearest_iff.mp hright'
  simp only [Function.comp_apply, hfirst, hsecond, Option.map_some,
    Option.some.injEq] at hids
  exact hleft'.1.eq_of_index_eq hright'.1
    (index_eq_of_ids_eq hnodup hfirst hsecond hids)

end Chosen

end Hierarchy

/-! ## Two tables with the same argument types -/

/-- Two resolutions, each over its own table, choose the same argument types at
the same distance, or nothing, or are tied between the same ones. -/
inductive Resolution.Agrees (left right : List Signature) :
    Resolution → Resolution → Prop
  | noMatch : Agrees left right noMatch noMatch
  | unique {best best' : Candidate} {declared declared' : Signature} :
      left[best.index]? = some declared → right[best'.index]? = some declared' →
        declared.ids = declared'.ids → best.distance = best'.distance →
          Agrees left right (unique best) (unique best')
  | ambiguous {tied tied' : List Candidate} :
      (((ambiguous tied).chosen left).map Signature.ids).Perm
        (((ambiguous tied').chosen right).map Signature.ids) →
          Agrees left right (ambiguous tied) (ambiguous tied')

/-- Two selections, each from its own table, answer with entries for the same
argument types, or with none, or fail for a tie between the same ones. -/
inductive SameSelection (left right : List Signature) :
    Except Error (Option ℕ) → Except Error (Option ℕ) → Prop
  | none : SameSelection left right (.ok none) (.ok none)
  | entry {index index' : ℕ} {declared declared' : Signature} :
      left[index]? = some declared → right[index']? = some declared' →
        declared.ids = declared'.ids →
          SameSelection left right (.ok (some index)) (.ok (some index'))
  | tie {name : String} {types : Signature} {candidates candidates' :
      List Signature} :
      (candidates.map Signature.ids).Perm (candidates'.map Signature.ids) →
        SameSelection left right (.error (.ambiguous name types candidates))
          (.error (.ambiguous name types candidates'))

namespace Hierarchy

section Tables

variable {left right : List Signature}
  (hsame : ∀ ids, ids ∈ left.map Signature.ids ↔ ids ∈ right.map Signature.ids)

include hsame in
theorem Suits.transfer {hierarchy : Hierarchy} {metric : Metric}
    {actual declared declared' : Signature} (hids : declared.ids = declared'.ids)
    (hsuits : hierarchy.Suits metric left actual declared) :
    hierarchy.Suits metric right actual declared' := by
  obtain ⟨haccepts, hleast⟩ := hsuits
  refine ⟨(hierarchy.accepts_congr_left hids actual).symm.trans haccepts, ?_⟩
  intro other hother hothers
  obtain ⟨other', hother', hids'⟩ := List.mem_map.mp
    ((hsame other.ids).mpr (List.mem_map_of_mem hother))
  rw [← hierarchy.totalDistance_congr_left metric hids,
    ← hierarchy.totalDistance_congr_left metric hids']
  exact hleast other' hother'
    ((hierarchy.accepts_congr_left hids' actual).trans hothers)

include hsame in
theorem mem_ids_chosen_of_mem (hierarchy : Hierarchy) (metric : Metric)
    (actual : Signature) {ids : List ℕ}
    (hmem : ids ∈ ((hierarchy.resolve metric left actual).chosen left).map
      Signature.ids) :
    ids ∈ ((hierarchy.resolve metric right actual).chosen right).map
      Signature.ids := by
  obtain ⟨declared, hdeclared, rfl⟩ := List.mem_map.mp hmem
  obtain ⟨hentry, hsuits⟩ := (mem_chosen_iff ..).mp hdeclared
  obtain ⟨declared', hentry', hids⟩ := List.mem_map.mp
    ((hsame declared.ids).mp (List.mem_map_of_mem hentry))
  rw [← hids]
  exact List.mem_map_of_mem
    ((mem_chosen_iff ..).mpr ⟨hentry', hsuits.transfer hsame hids.symm⟩)

variable (hleft : (left.map Signature.ids).Nodup)
  (hright : (right.map Signature.ids).Nodup) (hierarchy : Hierarchy)
  (metric : Metric) (actual : Signature)
include hsame hleft hright

theorem perm_ids_chosen :
    (((hierarchy.resolve metric left actual).chosen left).map
      Signature.ids).Perm
        (((hierarchy.resolve metric right actual).chosen right).map
          Signature.ids) := by
  apply (List.perm_ext_iff_of_nodup (nodup_ids_chosen _ _ _ _ hleft)
    (nodup_ids_chosen _ _ _ _ hright)).mpr
  exact fun ids => ⟨mem_ids_chosen_of_mem hsame hierarchy metric actual,
    mem_ids_chosen_of_mem (fun ids => (hsame ids).symm) hierarchy metric actual⟩

theorem agrees_of_unique {best best' : Candidate}
    (hresolve : hierarchy.resolve metric left actual = .unique best)
    (hresolve' : hierarchy.resolve metric right actual = .unique best') :
    Resolution.Agrees left right (.unique best) (.unique best') := by
  have hbest : best ∈ (hierarchy.resolve metric left actual).winners := by
    rw [hresolve]
    exact List.mem_singleton_self best
  have hbest' : best' ∈ (hierarchy.resolve metric right actual).winners := by
    rw [hresolve']
    exact List.mem_singleton_self best'
  obtain ⟨declared, hdeclared, -, hdistance⟩ :=
    isNearest_iff.mp (mem_winners_iff.mp hbest)
  obtain ⟨declared', hdeclared', -, hdistance'⟩ :=
    isNearest_iff.mp (mem_winners_iff.mp hbest')
  have hperm := perm_ids_chosen hsame hleft hright hierarchy metric actual
  rw [hresolve, hresolve'] at hperm
  have hids : declared.ids = declared'.ids := by
    simpa [Resolution.chosen, Resolution.winners, hdeclared, hdeclared']
      using hperm
  refine .unique hdeclared hdeclared' hids ?_
  rw [hdistance, hdistance', hierarchy.totalDistance_congr_left metric hids]

/-- How many are chosen tells what kind of resolution it is. -/
theorem resolve_agrees :
    Resolution.Agrees left right (hierarchy.resolve metric left actual)
      (hierarchy.resolve metric right actual) := by
  have hperm := perm_ids_chosen hsame hleft hright hierarchy metric actual
  have hlength := hperm.length_eq
  rw [List.length_map, List.length_map, length_chosen, length_chosen] at hlength
  have hunique := @agrees_of_unique left right hsame hleft hright hierarchy
    metric actual
  have hdescribes := hierarchy.resolve_describes metric left actual
  have hdescribes' := hierarchy.resolve_describes metric right actual
  -- One is chosen by a selection, none by no match, at least two by a tie.
  generalize hierarchy.resolve metric left actual = chosen at *
  generalize hierarchy.resolve metric right actual = chosen' at *
  cases chosen with
  | noMatch =>
      cases chosen' with
      | noMatch => exact .noMatch
      | unique best => cases hlength
      | ambiguous tied =>
          have hnone : 0 = tied.length := hlength
          exact absurd hdescribes'.1 (by omega)
  | unique best =>
      cases chosen' with
      | noMatch => cases hlength
      | unique best' => exact hunique rfl rfl
      | ambiguous tied =>
          have hone : 1 = tied.length := hlength
          exact absurd hdescribes'.1 (by omega)
  | ambiguous tied =>
      cases chosen' with
      | noMatch =>
          have hnone : tied.length = 0 := hlength
          exact absurd hdescribes.1 (by omega)
      | unique best =>
          have hone : tied.length = 1 := hlength
          exact absurd hdescribes.1 (by omega)
      | ambiguous tied' => exact .ambiguous hperm

end Tables

end Hierarchy

/-- What agrees is answered alike. -/
theorem Resolution.Agrees.answer {function function' : GenericFunction Code}
    (hname : function.name = function'.name) (types : Signature)
    (tolerateTie : Bool) {left right : Resolution}
    (hagrees : left.Agrees function.signatures function'.signatures right) :
    SameSelection function.signatures function'.signatures
      (left.answer function types tolerateTie)
      (right.answer function' types tolerateTie) := by
  cases hagrees with
  | noMatch => exact .none
  | unique hdeclared hdeclared' hids _ => exact .entry hdeclared hdeclared' hids
  | ambiguous hperm =>
      cases tolerateTie with
      | true => exact .none
      | false =>
          rw [Resolution.answer, Resolution.answer, hname]
          exact .tie hperm

namespace Registry

/-! ## Registration in a registry -/

/-- Registers entries of one function one after the other. -/
def addEntries (registry : Registry Code) (id : ℕ)
    (sequence : List (MethodEntry Code)) : Registry Code :=
  sequence.foldl (fun registry entry => registry.addEntry id entry) registry

variable {registry : Registry Code} {id : ℕ}

theorem function?_addEntries {function : GenericFunction Code}
    (hfunction : registry.function? id = some function)
    (sequence : List (MethodEntry Code)) :
    (registry.addEntries id sequence).function? id =
      some (function.addEntries sequence) := by
  induction sequence generalizing registry function with
  | nil => exact hfunction
  | cons entry rest ih =>
      have hadded : (registry.addEntry id entry).function? id =
          some (function.addEntry entry) := by
        change (registry.toCatalog.modifyFunction id _).function? id = _
        rw [function?_modifyFunction_self, hfunction]
        rfl
      exact ih hadded

theorem hierarchy_addEntries (sequence : List (MethodEntry Code)) :
    (registry.addEntries id sequence).hierarchy = registry.hierarchy := by
  induction sequence generalizing registry with
  | nil => rfl
  | cons entry rest ih => exact ih

theorem cached?_addEntries {types : Signature}
    (huncached : registry.cached? id types = none)
    (sequence : List (MethodEntry Code)) :
    (registry.addEntries id sequence).cached? id types = none := by
  induction sequence generalizing registry with
  | nil => exact huncached
  | cons entry rest ih =>
      refine ih ?_
      change ((registry.addEntry id entry).cached? id types) = none
      rw [cached?, Option.map_eq_none_iff, List.find?_eq_none]
      intro remembered hremembered hfits
      have hother := (List.mem_filter.mp hremembered).2
      simp_all

end Registry

/-! ## Main statement -/

/-- Whatever is registered for a new function, its table has no argument types
twice, it has them in the order of their first registrations, and its entries
are the last registrations for their argument types.  If two tables have the
same argument types, then every call resolves to the same ones, whatever the
forest and the metric, and selections from the two functions answer alike. -/
theorem registration_order_irrelevant {function : GenericFunction Code}
    (hempty : function.entries = []) :
    (∀ sequence,
      (function.addEntries sequence).argumentIds.Nodup ∧
      (function.addEntries sequence).argumentIds =
        (sequence.map fun entry => entry.arguments.ids).eraseDups ∧
      ∀ entry, entry ∈ (function.addEntries sequence).entries ↔
        ∃ earlier later, sequence = earlier ++ entry :: later ∧
          ∀ other ∈ later, other.arguments.ids ≠ entry.arguments.ids) ∧
    ∀ left right : List (MethodEntry Code),
      (∀ ids, ids ∈ (function.addEntries left).argumentIds ↔
        ids ∈ (function.addEntries right).argumentIds) →
      (∀ (hierarchy : Hierarchy) metric actual,
        Resolution.Agrees (function.addEntries left).signatures
          (function.addEntries right).signatures
          (hierarchy.resolve metric (function.addEntries left).signatures actual)
          (hierarchy.resolve metric (function.addEntries right).signatures
            actual)) ∧
      ∀ (registry : Registry Code) id types,
        registry.function? id = some function →
        registry.cached? id types = none →
        ∀ metric useCache tolerateTie,
          SameSelection (function.addEntries left).signatures
            (function.addEntries right).signatures
            ((registry.addEntries id left).select id types metric useCache
              tolerateTie).1
            ((registry.addEntries id right).select id types metric useCache
              tolerateTie).1 := by
  have hnodup : ∀ sequence,
      (function.addEntries sequence).argumentIds.Nodup := by
    refine GenericFunction.nodup_addEntries ?_
    rw [GenericFunction.argumentIds, hempty]
    exact List.nodup_nil
  refine ⟨fun sequence => ⟨hnodup sequence,
    GenericFunction.argumentIds_addEntries hempty sequence, fun entry => ?_⟩,
    fun left right hsame => ?_⟩
  · have hfound : (function.addEntries sequence).entryFor? entry.arguments.ids =
        some entry ↔ _ ∧ entry.arguments.ids = entry.arguments.ids :=
      GenericFunction.entryFor?_eq_some_iff (hnodup sequence)
    have hnew : function.entryFor? entry.arguments.ids = none := by
      rw [GenericFunction.entryFor?, hempty]
      rfl
    rw [GenericFunction.entryFor?_addEntries, hnew, Option.or_none,
      GenericFunction.latest?_eq_some_iff] at hfound
    simpa using hfound.symm
  · simp only [← GenericFunction.map_ids_signatures] at hnodup hsame
    have hagrees := Hierarchy.resolve_agrees hsame (hnodup left) (hnodup right)
    refine ⟨hagrees, ?_⟩
    intro registry id types hfunction huncached metric useCache tolerateTie
    have hanswer : ∀ sequence,
        ((registry.addEntries id sequence).select id types metric useCache
          tolerateTie).1 =
        (registry.hierarchy.resolve metric
          (function.addEntries sequence).signatures types).answer
            (function.addEntries sequence) types tolerateTie := by
      intro sequence
      rw [Registry.select, Registry.selectBy_answer_of_uncached
        (Registry.function?_addEntries hfunction sequence) Hierarchy.resolve metric
        (fun _ => Registry.cached?_addEntries huncached sequence),
        Registry.hierarchy_addEntries]
    rw [hanswer left, hanswer right]
    exact (hagrees registry.hierarchy metric types).answer
      (by rw [GenericFunction.name_addEntries, GenericFunction.name_addEntries])
      types tolerateTie

/-- Two entries for pairs of a truth value and any value, in either order, the
first of which is then registered anew with another type of answers. -/
def pairs : List (MethodEntry Unit) :=
  [⟨[Predicate.boolean, Predicate.any], Predicate.null, .code ()⟩,
    ⟨[Predicate.any, Predicate.boolean], Predicate.null, .code ()⟩,
    ⟨[Predicate.boolean, Predicate.any], Predicate.boolean, .code ()⟩]

/-- A function without entries. -/
def combine : GenericFunction Unit := { name := "combine" }

theorem registration_order_irrelevant_pairs :
    combine.entries = [] ∧
    (combine.addEntries pairs).argumentIds = [[3, 0], [0, 3]] ∧
    (combine.addEntries pairs.tail).argumentIds = [[0, 3], [3, 0]] ∧
    ⟨[Predicate.boolean, Predicate.any], Predicate.boolean, .code ()⟩ ∈
      (combine.addEntries pairs).entries ∧
    Resolution.Agrees (combine.addEntries pairs).signatures
      (combine.addEntries pairs.tail).signatures
      (.ambiguous [⟨0, 1⟩, ⟨1, 1⟩]) (.ambiguous [⟨0, 1⟩, ⟨1, 1⟩]) ∧
    SameSelection (combine.addEntries pairs).signatures
      (combine.addEntries pairs.tail).signatures
      (.ok (some 0)) (.ok (some 1)) := by
  obtain ⟨htable, horder⟩ :=
    registration_order_irrelevant (rfl : combine.entries = [])
  obtain ⟨-, hids, hlatest⟩ := htable pairs
  obtain ⟨-, hids', -⟩ := htable pairs.tail
  have hkeys : (combine.addEntries pairs).argumentIds = [[3, 0], [0, 3]] := by
    rw [hids]
    decide
  have hkeys' : (combine.addEntries pairs.tail).argumentIds =
      [[0, 3], [3, 0]] := by
    rw [hids']
    decide
  obtain ⟨hresolve, hselect⟩ := horder pairs pairs.tail (by
    intro ids
    rw [hkeys, hkeys']
    exact (List.Perm.swap [0, 3] [3, 0] []).mem_iff)
  have htied := hresolve Hierarchy.kernel .directed
    [Predicate.boolean, Predicate.boolean]
  have hchosen := hselect
    ((Operation.createFunction "combine").perform (.fresh {})).2 5
    [Predicate.boolean, Predicate.null] rfl rfl .directed true false
  refine ⟨rfl, hkeys, hkeys', (hlatest _).mpr ⟨pairs.take 2, [], rfl, by simp⟩,
    ?_, hchosen⟩
  have hleft : Hierarchy.kernel.resolve .directed
      (combine.addEntries pairs).signatures
      [Predicate.boolean, Predicate.boolean] =
        .ambiguous [⟨0, 1⟩, ⟨1, 1⟩] := by decide +kernel
  have hright : Hierarchy.kernel.resolve .directed
      (combine.addEntries pairs.tail).signatures
      [Predicate.boolean, Predicate.boolean] =
        .ambiguous [⟨0, 1⟩, ⟨1, 1⟩] := by decide +kernel
  rwa [hleft, hright] at htied

end PredicateDispatch
