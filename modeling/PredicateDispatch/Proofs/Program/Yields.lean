import PredicateDispatch.Proofs.Program.Requests

/-!
# Programs that succeed

A program yields a postcondition in a world when it runs to its end there, does
not fail, and leaves an answer and a world as described.
-/

namespace PredicateDispatch

variable {Code α β : Type}

namespace Program

/-- The program succeeds in a world, with a result and a world as described. -/
def Yields (runTask : Runner Code) (program : Program Code α)
    (world : World Code) (post : α → World Code → Prop) : Prop :=
  ∃ value after, program.runWith runTask world = some (.ok value, after) ∧
    post value after

namespace Yields

variable {runTask : Runner Code} {world : World Code}

theorem pure {post : α → World Code → Prop} {value : α}
    (hpost : post value world) :
    (Pure.pure value : Program Code α).Yields runTask world post :=
  ⟨value, world, rfl, hpost⟩

theorem bind {program : Program Code α} {rest : α → Program Code β}
    {middle : α → World Code → Prop} {post : β → World Code → Prop}
    (hprogram : program.Yields runTask world middle)
    (hrest : ∀ value after, middle value after →
      (rest value).Yields runTask after post) :
    (program >>= rest).Yields runTask world post := by
  obtain ⟨value, after, hrun, hmiddle⟩ := hprogram
  obtain ⟨result, final, hrun', hpost⟩ := hrest value after hmiddle
  refine ⟨result, final, ?_, hpost⟩
  rw [bind_eq, runWith_bind, hrun]
  exact hrun'

theorem of_perform (operation : Operation Code) {value : operation.Answer}
    {after : Registry Code} {post : operation.Answer → World Code → Prop}
    (hperform : operation.perform world.registry = (.ok value, after))
    (hpost : post value { world with registry := after }) :
    (request (.registry operation)).Yields runTask world post := by
  refine ⟨value, { world with registry := after }, ?_, hpost⟩
  rw [runWith_request, Request.answer, World.perform, hperform]

theorem inspect :
    (Program.inspect : Program Code (Catalog Code)).Yields runTask world
      fun catalog after => catalog = world.registry.toCatalog ∧ after = world :=
  of_perform .inspect rfl ⟨rfl, rfl⟩

end Yields

end Program

end PredicateDispatch
