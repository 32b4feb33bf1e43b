import Dialogue.Proofs.Session.Cutoff

/-!
# Renderings with an account

A rendering does more than it tells: it draws words and chooses by them, it looks rules up, and it assigns.
The renderer that writes all this down, in the order in which it happens, renders as the one that
does not, and its account has the assignments which that one makes.
-/

namespace Dialogue

open Markup (Node Element)

/-- What a rendering does on the way to its text. -/
inductive Deed where
  /-- A choice among so many items, from a place in the stream of words, and the index it falls on. -/
  | choice (draws : Draws) (items index : Nat)
  | lookup (target : String)
  | assignment (name value : String)
deriving DecidableEq

/-- The name and the value of an assignment. -/
def Deed.assignment? : Deed → Option (String × String)
  | .assignment name value => some (name, value)
  | _ => none

/-- The end of a rendering, with what it did in order. -/
structure Account (α : Type) where
  result : Except Error α
  draws : Draws
  deeds : List Deed

/-- What a rendering without an account ends in. -/
def Account.outcome {α : Type} (a : Account α) : Outcome α :=
  ⟨a.result, a.draws, a.deeds.filterMap Deed.assignment?⟩

/-- A rendering that gives an account, from the stream it starts with. -/
def Accounting (α : Type) : Type :=
  Draws → Account α

namespace Accounting

variable {α β : Type}

/-- Gives a value and does nothing. -/
def pure (a : α) : Accounting α :=
  fun d => ⟨.ok a, d, []⟩

/-- Ends in a fault and does nothing. -/
def fail (e : Error) : Accounting α :=
  fun d => ⟨.error e, d, []⟩

/-- One rendering after another, the deeds of the first before those of the second. -/
def bind (m : Accounting α) (f : α → Accounting β) : Accounting β :=
  fun d =>
    let first := m d
    match first.result with
    | .error e => ⟨.error e, first.draws, first.deeds⟩
    | .ok a =>
      let second := f a first.draws
      { second with deeds := first.deeds ++ second.deeds }

instance : Monad Accounting where
  pure := pure
  bind := bind

/-- Writes a deed down. -/
def note (deed : Deed) : Accounting Unit :=
  fun d => ⟨.ok (), d, [deed]⟩

/-- Chooses as the rendering that runs does, and writes the choice down. -/
def choose (n : Nat) : Accounting Nat :=
  fun d => let (i, after) := d.below n; ⟨.ok i, after, [.choice d n i]⟩

instance : Renderer Accounting where
  fail := fail
  choose := choose
  lookup rules target := do
    note (.lookup target)
    return rules target
  assign name value := note (.assignment name value)

theorem lookup_bind (rules : String → Option Category) (target : String)
    (f : Option Category → Accounting β) :
    Renderer.lookup rules target >>= f = note (.lookup target) >>= fun _ => f (rules target) :=
  rfl

/-- The rendering alone. -/
def silent (m : Accounting α) : Rendering α :=
  fun d => (m d).outcome

end Accounting

/-- What a call does when it renders, with its account. -/
def Interpreter.account {σ : Type} [RuleStore σ] (bot : Interpreter σ) (call : Call) : Account String :=
  (bot.task call).render bot.options
    (Renderer.consult Accounting bot.index bot.options bot.options.maxSraiDepth) bot.draws

/-! ## The account changes nothing -/

namespace Accounting

variable {α β : Type}

theorem silent_pure (a : α) : (Pure.pure a : Accounting α).silent = Pure.pure a :=
  rfl

theorem silent_bind (m : Accounting α) (f : α → Accounting β) :
    (m >>= f).silent = m.silent >>= fun a => (f a).silent := by
  funext d
  show (Accounting.bind m f d).outcome = Rendering.bind m.silent (fun a => (f a).silent) d
  rcases hm : m d with ⟨r, d', deeds⟩
  cases r with
  | error e => simp only [Accounting.bind, Rendering.bind, silent, hm, Account.outcome]
  | ok a =>
      simp only [Accounting.bind, Rendering.bind, silent, hm, Account.outcome, List.filterMap_append]

/-- A rendering that gives an account, beside the one that does the same and gives none. -/
def silently : Renderer.Relation Accounting Rendering where
  rel m m' := m.silent = m'
  pure := silent_pure
  bind h hf := by
    rw [silent_bind, h]
    simp only [hf]
  emptyChoice := rfl
  choose _ := rfl
  lookup _ _ := rfl
  assign _ _ := rfl

end Accounting

section
variable {σ : Type} [RuleStore σ]

theorem silent_consult (store : σ) (options : Options) (remaining : Nat) (target : String) :
    (Renderer.consult Accounting store options remaining target).silent =
      consult store options remaining target := by
  induction remaining generalizing target with
  | zero => rfl
  | succ remaining ih => exact Accounting.silently.consult_succ store options ih target

/-- The account of a call ends as the call does without one, and has its assignments. -/
theorem Interpreter.account_outcome (bot : Interpreter σ) (call : Call) :
    (bot.account call).outcome = bot.outcome call := by
  have hc := silent_consult bot.index bot.options bot.options.maxSraiDepth
  have hrender := Accounting.silently.render hc bot.options (bot.task call)
  exact congrFun hrender bot.draws

end

end Dialogue
