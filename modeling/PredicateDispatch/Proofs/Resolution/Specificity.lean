import PredicateDispatch.Proofs.Hierarchy.Chain
import PredicateDispatch.Proofs.Resolution.Lowest
import PredicateDispatch.Proofs.Resolution.Specification

/-!
# Specificity

One signature is at least as special as another when it is at or below it at
every place, that is, when the other one covers it.  Resolving adds up links and
does not look at this order, but it respects it: the way from a call to the less
special of two signatures leads through the other one, so that it is strictly
longer unless the two are the same.

Totals in 32 bits do so as long as they are exact.  If the types of a call have
together as many ancestors as 32 bits count, some signature above them is just so
far away that its total is zero again, and it ties with the types themselves.
-/

namespace PredicateDispatch

/-- The candidates that a resolution leaves to the call: the selected one, or
those that tie. -/
def Resolution.winners : Resolution → List Candidate
  | noMatch => []
  | unique best => [best]
  | ambiguous tied => tied

namespace Hierarchy

variable {hierarchy : Hierarchy} {metric : Metric}
  {signatures : List Signature} {actual : Signature}

/-- What is selected, or ties, is nearest. -/
theorem isNearest_of_mem_winners {winner : Candidate}
    (hwinner : winner ∈
      (hierarchy.resolve metric signatures actual).winners) :
    hierarchy.IsNearest (hierarchy.totalDistance metric) signatures actual
      winner := by
  have hdescribes := hierarchy.resolve_describes metric signatures actual
  cases hresolve : hierarchy.resolve metric signatures actual with
  | noMatch => simp [hresolve, Resolution.winners] at hwinner
  | unique best =>
      rw [hresolve] at hwinner hdescribes
      obtain rfl : winner = best := List.mem_singleton.mp hwinner
      obtain ⟨hbest, hnearer⟩ := hdescribes
      refine ⟨hbest, fun other hother => ?_⟩
      by_cases hindex : other.index = winner.index
      · rw [hother.eq_of_index_eq hbest hindex]
      · exact (hnearer other hother hindex).le
  | ambiguous tied =>
      rw [hresolve] at hwinner hdescribes
      exact (hdescribes.2.2 winner).mp hwinner

/-! ## The types of the call themselves -/

namespace Coherent

variable (hcoherent : hierarchy.Coherent)
  (hdistinct : (signatures.map Signature.ids).Nodup)
include hcoherent hdistinct

/-- A signature with just the types of the call is selected, at no distance. -/
theorem resolve_eq_unique_of_exact {index : ℕ} {exact : Signature}
    (hexact : signatures[index]? = some exact)
    (hids : exact.ids = actual.ids) :
    hierarchy.resolve metric signatures actual = .unique ⟨index, 0⟩ := by
  have haccepts : hierarchy.accepts exact actual = true := by
    rw [← hierarchy.accepts_congr exact hids]
    exact hierarchy.accepts_self exact
  have hzero : hierarchy.totalDistance metric exact actual = 0 := by
    rw [← hierarchy.totalDistance_congr metric exact hids]
    exact hierarchy.totalDistance_self metric exact
  rw [← hzero]
  apply resolveBy_eq_unique_of_nearest hexact haccepts
  intro other declared hdeclared hdeclared_accepts hother
  rw [hzero]
  apply Nat.pos_of_ne_zero
  intro hnear
  have hsame := hcoherent.ids_eq_of_totalDistance_eq_zero hdeclared_accepts hnear
  exact hother (index_eq_of_ids_eq hdistinct hdeclared hexact
    (hsame.trans hids.symm))

/-! ## Special signatures win -/

/-- No candidate other than a nearest one is at or below it at every place. -/
theorem index_eq_of_isNearest {winner : Candidate}
    (hnearest : hierarchy.IsNearest (hierarchy.totalDistance .directed)
      signatures actual winner)
    {chosen other : Signature} {index : ℕ}
    (hchosen : signatures[winner.index]? = some chosen)
    (hother : signatures[index]? = some other)
    (hcovers : hierarchy.Covers other actual)
    (hbelow : hierarchy.Covers chosen other) : index = winner.index := by
  obtain ⟨⟨declared, hdeclared, -, hdistance⟩, hleast⟩ := hnearest
  obtain rfl : chosen = declared :=
    Option.some.inj (hchosen.symm.trans hdeclared)
  have haccepts := accepts_iff_covers.mpr hcovers
  have habove := accepts_iff_covers.mpr hbelow
  -- The way to the chosen signature leads through the other one.
  have hadd := hcoherent.totalDistance_add haccepts habove
  have hle := hleast ⟨index, _⟩ ⟨other, hother, hcovers, rfl⟩
  rw [hdistance] at hle
  have hzero : hierarchy.totalDistance .directed chosen other = 0 := by
    dsimp only at hle
    omega
  have hids := hcoherent.ids_eq_of_totalDistance_eq_zero habove hzero
  exact index_eq_of_ids_eq hdistinct hother hchosen hids.symm

end Coherent

/-- Of different signatures, one that covers the call and is at or below all
others that do is chosen under the directed metric.  Nothing that is chosen or
ties leaves out a different signature that covers the call and is at or below it
at every place.  And whatever the metric, a signature with the very types of the
call is chosen, at no distance. -/
structure RespectsSpecificity (hierarchy : Hierarchy)
    (resolve : Metric → List Signature → Signature → Resolution)
    (signatures : List Signature) (actual : Signature) : Prop where
  lowest : ∀ index lowest, signatures[index]? = some lowest →
    hierarchy.Covers lowest actual →
    (∀ other ∈ signatures, hierarchy.Covers other actual →
      hierarchy.Covers other lowest) →
      ∃ distance, resolve .directed signatures actual =
        .unique ⟨index, distance⟩
  winners : ∀ winner ∈ (resolve .directed signatures actual).winners,
    ∃ chosen, signatures[winner.index]? = some chosen ∧
      hierarchy.Covers chosen actual ∧
      ∀ index other, signatures[index]? = some other →
        hierarchy.Covers other actual → hierarchy.Covers chosen other →
          index = winner.index
  exact : ∀ metric index exact, signatures[index]? = some exact →
    exact.ids = actual.ids →
      resolve metric signatures actual = .unique ⟨index, 0⟩

theorem Coherent.respectsSpecificity (hcoherent : hierarchy.Coherent)
    (hdistinct : (signatures.map Signature.ids).Nodup) (actual : Signature) :
    hierarchy.RespectsSpecificity hierarchy.resolve signatures actual where
  lowest index lowest hlowest hcovers hbelow := by
    refine ⟨_, hcoherent.resolve_eq_unique_of_lowest hdistinct hlowest
      ⟨accepts_iff_covers.mpr hcovers, fun other hother haccepts => ?_⟩⟩
    exact accepts_iff_covers.mpr
      (hbelow other hother (accepts_iff_covers.mp haccepts))
  winners winner hwinner := by
    have hnearest := isNearest_of_mem_winners hwinner
    obtain ⟨chosen, hchosen, hcovers, -⟩ := hnearest.1
    exact ⟨chosen, hchosen, hcovers, fun index other hother hcovers' hbelow =>
      hcoherent.index_eq_of_isNearest hdistinct hnearest hchosen hother hcovers'
        hbelow⟩
  exact metric index exact hexact hids :=
    hcoherent.resolve_eq_unique_of_exact hdistinct hexact hids

/-! ## How far signatures can be -/

/-- The number of links above all types of a call. -/
def depthSum (hierarchy : Hierarchy) (actual : Signature) : ℕ :=
  (actual.map fun type => (hierarchy.ancestorsOf type).length).sum

namespace Coherent

variable (hcoherent : hierarchy.Coherent)
include hcoherent

theorem totalDistance_le_depthSum {declared : Signature}
    (haccepts : hierarchy.accepts declared actual = true) :
    hierarchy.totalDistance .directed declared actual ≤
      hierarchy.depthSum actual := by
  induction declared generalizing actual with
  | nil => cases actual <;> exact Nat.zero_le _
  | cons head rest ih =>
      cases actual with
      | nil => exact Nat.zero_le _
      | cons type others =>
          obtain ⟨habove, hrest⟩ := Bool.and_eq_true_iff.mp haccepts
          exact Nat.add_le_add (hcoherent.typeDistance_le_length habove) (ih hrest)

/-- Every total up to the number of links above a call is that of a signature
that covers it. -/
theorem exists_totalDistance_eq {total : ℕ}
    (htotal : total ≤ hierarchy.depthSum actual) :
    ∃ declared, hierarchy.accepts declared actual = true ∧
      hierarchy.totalDistance .directed declared actual = total := by
  induction actual generalizing total with
  | nil => exact ⟨[], rfl, (Nat.le_zero.mp htotal).symm⟩
  | cons type others ih =>
      have hsum : hierarchy.depthSum (type :: others) =
          (hierarchy.ancestorsOf type).length + hierarchy.depthSum others := rfl
      -- The first place takes as much as there is above it.
      obtain ⟨head, habove, hhead⟩ := hcoherent.exists_typeDistance_eq
        (Nat.min_le_right total (hierarchy.ancestorsOf type).length)
      obtain ⟨rest, hrest, htail⟩ := @ih
        (total - min total (hierarchy.ancestorsOf type).length) (by omega)
      refine ⟨head :: rest, Bool.and_eq_true_iff.mpr ⟨habove, hrest⟩, ?_⟩
      rw [totalDistance, htail]
      change hierarchy.typeDistance type head + _ = total
      omega

theorem fits_of_depthSum_lt (hshallow : hierarchy.depthSum actual < totalLimit)
    (signatures : List Signature) :
    hierarchy.TotalsFit .directed signatures actual :=
  fun _ _ haccepts =>
    (hcoherent.totalDistance_le_depthSum haccepts).trans_lt hshallow

/-- Above a call that is too deep, some signature at the limit is as near in
32 bits as the types of the call themselves. -/
theorem exists_tie_of_deep (hdeep : totalLimit ≤ hierarchy.depthSum actual) :
    ∃ declared, ([declared, actual].map Signature.ids).Nodup ∧
      hierarchy.wrappedResolve .directed [declared, actual] actual =
        .ambiguous [⟨0, 0⟩, ⟨1, 0⟩] := by
  obtain ⟨declared, haccepts, htotal⟩ := hcoherent.exists_totalDistance_eq hdeep
  refine ⟨declared, ?_, ?_⟩
  · have hne : declared.ids ≠ actual.ids := by
      intro hids
      rw [hierarchy.totalDistance_congr_left .directed hids, totalDistance_self]
        at htotal
      exact absurd htotal (by decide)
    simpa using hne
  · have hzero : hierarchy.wrappedTotal .directed declared actual = 0 := by
      rw [wrappedTotal_eq_mod, htotal, Nat.mod_self]
    have hself : hierarchy.wrappedTotal .directed actual actual = 0 := by
      rw [wrappedTotal_eq_mod, totalDistance_self, Nat.zero_mod]
    rw [wrappedResolve, resolveBy_pair haccepts (hierarchy.accepts_self actual)
      (hself.trans hzero.symm).le, hzero, hself]
    rfl

end Coherent

/-! ## Main statement -/

/-- In 32 bits, resolving respects specificity in all tables exactly if the types
of the call have fewer ancestors together than the limit.  By exact sums it does
so in every table, and both resolve alike in a table whose sums fit. -/
theorem specificity_respected_iff_shallow (hreach : hierarchy.Reachable)
    (actual : Signature) :
    ((∀ signatures, (signatures.map Signature.ids).Nodup →
        hierarchy.RespectsSpecificity hierarchy.wrappedResolve signatures
          actual) ↔
      hierarchy.depthSum actual < totalLimit) ∧
    ∀ signatures, (signatures.map Signature.ids).Nodup →
      hierarchy.RespectsSpecificity hierarchy.resolve signatures actual ∧
      (hierarchy.TotalsFit .directed signatures actual → ∀ metric,
        hierarchy.wrappedResolve metric signatures actual =
          hierarchy.resolve metric signatures actual) := by
  have hcoherent := hreach.coherent
  have hsame : ∀ signatures, hierarchy.TotalsFit .directed signatures actual →
      ∀ metric, hierarchy.wrappedResolve metric signatures actual =
        hierarchy.resolve metric signatures actual :=
    fun _ hfits metric => (hfits.of_directed hierarchy metric).wrappedResolve_eq
  refine ⟨⟨fun hrespects => ?_, fun hshallow signatures hdistinct => ?_⟩,
    fun signatures hdistinct =>
      ⟨hcoherent.respectsSpecificity hdistinct actual, hsame signatures⟩⟩
  · by_contra hdeep
    obtain ⟨declared, hdistinct, htie⟩ :=
      hcoherent.exists_tie_of_deep (Nat.le_of_not_lt hdeep)
    have hexact := (hrespects _ hdistinct).exact .directed 1 actual rfl rfl
    rw [htie] at hexact
    cases hexact
  · have hexact := hcoherent.respectsSpecificity hdistinct actual
    have hequal := hsame signatures
      (hcoherent.fits_of_depthSum_lt hshallow signatures)
    exact {
      lowest := by rw [hequal]; exact hexact.lowest
      winners := by rw [hequal]; exact hexact.winners
      exact := fun metric => by rw [hequal]; exact hexact.exact metric }

/-- Even numbers below integers below reals. -/
def numbers : Hierarchy :=
  [((⟨0, "isReal"⟩ : Predicate), (⟨1, "isInt"⟩ : Predicate)),
    (⟨1, "isInt"⟩, ⟨2, "isEven"⟩)].foldl
    (fun hierarchy pair =>
      (hierarchy.link pair.1 pair.2).toOption.getD hierarchy)
    (((create {} "isReal").create "isInt").create "isEven")

/-- The entries of an addition: for reals, and for integers in either or both
places. -/
def additions : List Signature :=
  [[⟨0, "isReal"⟩, ⟨0, "isReal"⟩], [⟨1, "isInt"⟩, ⟨0, "isReal"⟩],
    [⟨0, "isReal"⟩, ⟨1, "isInt"⟩], [⟨1, "isInt"⟩, ⟨1, "isInt"⟩]]

/-- A call with 2 ^ 22 arguments, each of the lowest type of a chain. -/
def deepCall : Signature :=
  List.replicate 0x400000 ⟨1024, "isLink"⟩

theorem depthSum_deepCall : (chain 1024).depthSum deepCall = totalLimit := by
  rw [depthSum, deepCall, List.map_replicate, List.sum_replicate_nat,
    length_ancestorsOf_chain _ (Nat.le_refl 1024)]
  rfl

/-- Two even numbers are added as integers; without the entry for these there is a
tie, of which no member is at or below the other.  In a chain of 1024 links a call
of 2 ^ 22 arguments is too deep. -/
theorem specificity_respected_iff_shallow_numbers :
    numbers.Reachable ∧ (additions.map Signature.ids).Nodup ∧
    (∃ distance, numbers.wrappedResolve .directed additions
      [⟨2, "isEven"⟩, ⟨2, "isEven"⟩] = .unique ⟨3, distance⟩) ∧
    numbers.wrappedResolve .symmetric additions [⟨1, "isInt"⟩, ⟨0, "isReal"⟩] =
      .unique ⟨1, 0⟩ ∧
    numbers.wrappedResolve .directed (additions.take 3)
        [⟨2, "isEven"⟩, ⟨2, "isEven"⟩] = .ambiguous [⟨1, 3⟩, ⟨2, 3⟩] ∧
    ¬ numbers.Covers [⟨1, "isInt"⟩, ⟨0, "isReal"⟩]
      [⟨0, "isReal"⟩, ⟨1, "isInt"⟩] ∧
    (chain 1024).Reachable ∧
    ¬ ∀ signatures, (signatures.map Signature.ids).Nodup →
      (chain 1024).RespectsSpecificity (chain 1024).wrappedResolve signatures
        deepCall := by
  have hreach : numbers.Reachable :=
    (((Reachable.empty.create "isReal").create "isInt").create "isEven").link
      ⟨0, "isReal"⟩ ⟨1, "isInt"⟩ |>.link ⟨1, "isInt"⟩ ⟨2, "isEven"⟩
  have hdistinct : (additions.map Signature.ids).Nodup := by decide
  have hdistinct' : ((additions.take 3).map Signature.ids).Nodup := by decide
  have hcovers : ∀ declared actual : Signature,
      numbers.accepts declared actual = true → numbers.Covers declared actual :=
    fun _ _ => accepts_iff_covers.mp
  have hbelow : ∀ other ∈ additions,
      numbers.accepts other [⟨1, "isInt"⟩, ⟨1, "isInt"⟩] = true := by
    decide +kernel
  have htied : numbers.wrappedResolve .directed (additions.take 3)
      [⟨2, "isEven"⟩, ⟨2, "isEven"⟩] = .ambiguous [⟨1, 3⟩, ⟨2, 3⟩] := by
    decide +kernel
  have hrespects := (specificity_respected_iff_shallow hreach
    [⟨2, "isEven"⟩, ⟨2, "isEven"⟩]).1.mpr (by decide +kernel)
  have hexact := (specificity_respected_iff_shallow hreach
    [⟨1, "isInt"⟩, ⟨0, "isReal"⟩]).1.mpr (by decide +kernel) additions hdistinct
  refine ⟨hreach, hdistinct, ?_, hexact.exact .symmetric 1 _ rfl rfl, htied, ?_,
    reachable_chain 1024, fun hdeep => ?_⟩
  · exact (hrespects additions hdistinct).lowest 3 [⟨1, "isInt"⟩, ⟨1, "isInt"⟩] rfl
      (hcovers _ _ (by decide +kernel)) fun other hother _ =>
        hcovers _ _ (hbelow other hother)
  · intro hbelow
    obtain ⟨chosen, hchosen, -, hother⟩ :=
      (hrespects (additions.take 3) hdistinct').winners ⟨1, 3⟩ (by
        rw [htied]
        exact List.mem_cons_self)
    obtain rfl := Option.some.inj hchosen
    have hindex := hother 2 _ rfl (hcovers _ _ (by decide +kernel)) hbelow
    exact absurd hindex (by decide)
  · have hshallow :=
      (specificity_respected_iff_shallow (reachable_chain 1024) deepCall).1.mp hdeep
    exact absurd hshallow (depthSum_deepCall ▸ Nat.lt_irrefl _)

end Hierarchy

end PredicateDispatch
