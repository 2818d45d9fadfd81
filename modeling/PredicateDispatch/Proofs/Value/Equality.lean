import PredicateDispatch.Proofs.Number.Order
import PredicateDispatch.Value.Equality

/-!
# Equality is symmetric, and reflexive off NaN

Equality takes payloads and values apart at the same time, down to numbers, texts,
functions and predicates.  There it is symmetric, and nothing but NaN differs from
itself, so that this holds of everything that is built from them.
-/

namespace PredicateDispatch

/-- The real is somewhere in the payload, in whatever depth of lists and of keys
and values of maps. -/
inductive Payload.Contains (x : Float) : Payload → Prop
  | real : Contains x (.real x)
  | item {items : List Value} {item : Value} :
      item ∈ items → Contains x item.payload → Contains x (.list items)
  | key {bindings : List Binding} {binding : Binding} :
      binding ∈ bindings → Contains x binding.key.payload → Contains x (.map bindings)
  | value {bindings : List Binding} {binding : Binding} :
      binding ∈ bindings → Contains x binding.value.payload →
        Contains x (.map bindings)

/-- No real in the payload is NaN. -/
def Payload.IsNaNFree (payload : Payload) : Prop :=
  ∀ x, payload.Contains x → x.isNaN = false

/-! ## Functions and tags -/

namespace Callable

theorem same_comm (callable other : Callable) :
    callable.same other = other.same callable := by
  cases callable <;> cases other <;> simp only [same, Bool.beq_comm]

theorem same_self (callable : Callable) : callable.same callable = true := by
  cases callable <;> simp [same]

end Callable

theorem sameTag_iff {tag tag' : Option Predicate} :
    sameTag tag tag' = true ↔ tag.map Predicate.id = tag'.map Predicate.id := by
  cases tag <;> cases tag' <;> simp [sameTag]

theorem sameTag_comm (tag tag' : Option Predicate) : sameTag tag tag' = sameTag tag' tag := by
  rw [Bool.eq_iff_iff, sameTag_iff, sameTag_iff, eq_comm]

/-! ## Symmetry -/

mutual

theorem Payload.same_comm (a b : Payload) : a.same b = b.same a := by
  cases a with
  | list as =>
      cases b with
      | list bs => exact sameItems_comm as bs
      | _ => rfl
  | map as =>
      cases b with
      | map bs => exact sameBindings_comm as bs
      | _ => rfl
  | real x =>
      cases b with
      | real y => exact Binary64.order_eq_comm x y
      | _ => rfl
  | function callable =>
      cases b with
      | function other => exact callable.same_comm other
      | _ => rfl
  | boolean truth =>
      cases b with
      | boolean other => exact Bool.beq_comm
      | _ => rfl
  | int n =>
      cases b with
      | int m => exact Bool.beq_comm
      | _ => rfl
  | text s =>
      cases b with
      | text t => exact Bool.beq_comm
      | _ => rfl
  | predicate type =>
      cases b with
      | predicate type' => exact Bool.beq_comm
      | _ => rfl
  | null => cases b <;> rfl
termination_by structural a

theorem Value.same_comm (v w : Value) : v.same w = w.same v := by
  obtain ⟨payload, tag⟩ := v
  obtain ⟨payload', tag'⟩ := w
  exact congrArg₂ Bool.and (payload.same_comm payload') (sameTag_comm tag tag')
termination_by structural v

theorem Binding.same_comm (a b : Binding) : a.same b = b.same a := by
  obtain ⟨key, value⟩ := a
  obtain ⟨key', value'⟩ := b
  exact congrArg₂ Bool.and (key.same_comm key') (value.same_comm value')
termination_by structural a

theorem sameItems_comm (as bs : List Value) : sameItems as bs = sameItems bs as := by
  cases as with
  | nil => cases bs <;> rfl
  | cons a as =>
      cases bs with
      | nil => rfl
      | cons b bs => exact congrArg₂ Bool.and (a.same_comm b) (sameItems_comm as bs)
termination_by structural as

theorem sameBindings_comm (as bs : List Binding) :
    sameBindings as bs = sameBindings bs as := by
  cases as with
  | nil => cases bs <;> rfl
  | cons a as =>
      cases bs with
      | nil => rfl
      | cons b bs => exact congrArg₂ Bool.and (a.same_comm b) (sameBindings_comm as bs)
termination_by structural as

end

/-! ## Reflexivity -/

namespace Payload

theorem isNaNFree_real_iff {x : Float} :
    (real x).IsNaNFree ↔ x.isNaN = false := by
  constructor
  · exact fun hfree => hfree x .real
  · intro hnumber y hcontains
    cases hcontains
    exact hnumber

theorem isNaNFree_list_iff {items : List Value} :
    (list items).IsNaNFree ↔ ∀ item ∈ items, item.payload.IsNaNFree := by
  constructor
  · exact fun hfree item hitem x hcontains => hfree x (.item hitem hcontains)
  · intro hfree x hcontains
    cases hcontains with
    | item hitem hcontains => exact hfree _ hitem x hcontains

theorem isNaNFree_map_iff {bindings : List Binding} :
    (map bindings).IsNaNFree ↔ ∀ binding ∈ bindings,
      binding.key.payload.IsNaNFree ∧ binding.value.payload.IsNaNFree := by
  constructor
  · exact fun hfree binding hbinding =>
      ⟨fun x hcontains => hfree x (.key hbinding hcontains),
        fun x hcontains => hfree x (.value hbinding hcontains)⟩
  · intro hfree x hcontains
    cases hcontains with
    | key hbinding hcontains => exact (hfree _ hbinding).1 x hcontains
    | value hbinding hcontains => exact (hfree _ hbinding).2 x hcontains

end Payload

mutual

theorem Payload.same_self_iff (payload : Payload) :
    payload.same payload = true ↔ payload.IsNaNFree := by
  cases payload with
  | real x =>
      rw [Payload.isNaNFree_real_iff, ← Binary64.order_self_eq_iff]
      exact beq_iff_eq
  | list items =>
      rw [Payload.isNaNFree_list_iff]
      exact sameItems_self_iff items
  | map bindings =>
      rw [Payload.isNaNFree_map_iff]
      exact sameBindings_self_iff bindings
  | _ =>
      refine iff_of_true ?_ fun x hcontains => nomatch hcontains
      simp only [Payload.same, beq_self_eq_true, Callable.same_self]
termination_by structural payload

theorem Value.same_self_iff (value : Value) :
    value.same value = true ↔ value.payload.IsNaNFree := by
  obtain ⟨payload, tag⟩ := value
  have htag : sameTag tag tag = true := sameTag_iff.mpr rfl
  rw [← payload.same_self_iff, Value.same, htag, Bool.and_true]
termination_by structural value

theorem Binding.same_self_iff (binding : Binding) :
    binding.same binding = true ↔
      binding.key.payload.IsNaNFree ∧ binding.value.payload.IsNaNFree := by
  obtain ⟨key, value⟩ := binding
  rw [← key.same_self_iff, ← value.same_self_iff, Binding.same, Bool.and_eq_true]
termination_by structural binding

theorem sameItems_self_iff (items : List Value) :
    sameItems items items = true ↔ ∀ item ∈ items, item.payload.IsNaNFree := by
  cases items with
  | nil => simp [sameItems]
  | cons item items =>
      rw [List.forall_mem_cons, ← item.same_self_iff, ← sameItems_self_iff items, sameItems,
        Bool.and_eq_true]
termination_by structural items

theorem sameBindings_self_iff (bindings : List Binding) :
    sameBindings bindings bindings = true ↔ ∀ binding ∈ bindings,
      binding.key.payload.IsNaNFree ∧ binding.value.payload.IsNaNFree := by
  cases bindings with
  | nil => simp [sameBindings]
  | cons binding bindings =>
      rw [List.forall_mem_cons, ← binding.same_self_iff, ← sameBindings_self_iff bindings,
        sameBindings, Bool.and_eq_true]
termination_by structural bindings

end

/-! ## The laws -/

/-- Equality of payloads and of values is symmetric, and they equal themselves
exactly if there is no NaN in them, at any depth.  Closures are compared by their
identities, generic functions by numbers and names, predicates and tags by numbers
only, and a value without a tag differs from all that have one. -/
theorem equality_laws :
    ((∀ a b : Payload, (a == b) = (b == a)) ∧
      ∀ v w : Value, (v == w) = (w == v)) ∧
    ((∀ a : Payload, (a == a) = true ↔ ∀ x, a.Contains x → x.isNaN = false) ∧
      ∀ v : Value, (v == v) = true ↔ ∀ x, v.payload.Contains x → x.isNaN = false) ∧
    (∀ identity name identity' name',
      (Payload.function (.closure identity name) ==
        .function (.closure identity' name')) = true ↔ identity = identity') ∧
    (∀ id name id' name',
      (Payload.function (.generic id name) == .function (.generic id' name')) = true ↔
        id = id' ∧ name = name') ∧
    (∀ identity name id name',
      (Payload.function (.closure identity name) ==
        .function (.generic id name')) = false) ∧
    (∀ type type' : Predicate,
      (Payload.predicate type == .predicate type') = true ↔ type.id = type'.id) ∧
    (∀ v w : Value, (v == w) = true ↔
      (v.payload == w.payload) = true ∧
        v.tag.map Predicate.id = w.tag.map Predicate.id) ∧
    ∀ payload payload' type,
      (Value.untagged payload == Value.tagged payload' type) = false := by
  have hvalues : ∀ v w : Value, (v == w) = true ↔ (v.payload == w.payload) = true ∧
      v.tag.map Predicate.id = w.tag.map Predicate.id := by
    rintro ⟨payload, tag⟩ ⟨payload', tag'⟩
    rw [← sameTag_iff, ← Bool.and_eq_true]
    rfl
  refine ⟨⟨Payload.same_comm, Value.same_comm⟩,
    ⟨Payload.same_self_iff, Value.same_self_iff⟩, ?closures, ?generics, ?mixed,
    ?predicates, hvalues, ?untagged⟩
  case closures =>
    intro identity name identity' name'
    change (identity == identity') = true ↔ _
    exact beq_iff_eq
  case generics =>
    intro id name id' name'
    change (id == id' && name == name') = true ↔ _
    rw [Bool.and_eq_true, beq_iff_eq, beq_iff_eq]
  case mixed => exact fun _ _ _ _ => rfl
  case predicates =>
    intro type type'
    change (type.id == type'.id) = true ↔ _
    exact beq_iff_eq
  case untagged =>
    intro payload payload' type
    rw [Bool.eq_false_iff]
    intro hsame
    cases ((hvalues _ _).mp hsame).2

end PredicateDispatch
