import ScopedImports.Memo

/-!
Batches of names: each distinct name is loaded once, in order of first occurrence, and every
position gets the value of its name.

    names   a b a c b        loads   a b c        values   x y x z y
-/

namespace ScopedImports.Batch

variable {α : Type} {m : Type → Type} [Monad m]

/-- The value of each of the names that occur in `file`; `loader` is given a name and the file, and
runs once for every distinct name. -/
def load (names : List String) (file : String) (loader : (name file : String) → m α) :
    m (List α) := do
  let value (name : String) : StateT (Memo (id : String → String) α) m α :=
    Memo.consult id name fun name => liftM (loader name file)
  let (values, _) ← (names.mapM value).run ∅
  pure values

end ScopedImports.Batch
