/-!
# Programs

A program makes requests and goes on with their answers until it is done. What a request does is
left to whoever runs the program, so one program serves every environment. Main definitions:
`Program`, its monad, and `Program.interpret`, which carries out each request by a program over
other requests.
-/

namespace BrowserScript

/-- A program over requests of type `Q`, each answered in its own type. -/
inductive Program (Q : Type) (A : Q → Type) (α : Type) where
  | done (result : α)
  | ask (request : Q) (next : A request → Program Q A α)

namespace Program

variable {Q : Type} {A : Q → Type} {α β γ : Type}

def bind : Program Q A α → (α → Program Q A β) → Program Q A β
  | done a, f => f a
  | ask request next, f => ask request fun answer => bind (next answer) f

instance : Monad (Program Q A) where
  pure := done
  bind := bind

/-- The program that makes one request. -/
def request (q : Q) : Program Q A (A q) := ask q done

theorem bind_done (p : Program Q A α) : bind p done = p := by
  induction p with
  | done a => rfl
  | ask q next induction =>
    simp only [bind]
    congr 1
    funext answer
    exact induction answer

theorem bind_assoc (p : Program Q A α) (f : α → Program Q A β) (g : β → Program Q A γ) :
    bind (bind p f) g = bind p fun a => bind (f a) g := by
  induction p with
  | done a => rfl
  | ask q next induction =>
    simp only [bind]
    congr 1
    funext answer
    exact induction answer

instance : LawfulMonad (Program Q A) := LawfulMonad.mk' (Program Q A)
  (fun p => bind_done p) (fun _ _ => rfl) (fun p f g => bind_assoc p f g)

/-- Carries out each request by a program over other requests. -/
def interpret {R : Type} {B : R → Type} (f : (q : Q) → Program R B (A q)) :
    Program Q A α → Program R B α
  | done a => done a
  | ask q next => bind (f q) fun answer => interpret f (next answer)

end Program

end BrowserScript
