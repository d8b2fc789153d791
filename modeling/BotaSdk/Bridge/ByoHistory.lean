import Mathlib.Logic.Function.Basic
import BotaSdk.Bridge.ByoMachineDocuments
import BotaSdk.Lib.Run

/-!
# Histories of BYO uploads

A host starts the machine, keeps the documents that it asks to have kept, and answers its actions.
A start at any time is a restart after a crash: only the stored documents are left of the run before.
-/

namespace BotaSdk

namespace ByoMachine

/-- The stored documents, and the run with the action that it waits on. -/
structure World where
  store : String → Option Json
  current : Option (ByoMachine × Action)

/-- What happens next.  The documents of a save are kept apart from the answer to it, which a crash
may lose. -/
inductive Input where
  | start (input : ByoInput) (now : Nat)
  | keep
  | answer (event : Json) (now : Nat) (random : String)
  deriving DecidableEq

namespace World

def boot : World :=
  ⟨fun _ => none, none⟩

/-- A call that fails ends the run. -/
def continued (self : World) (result : Reply) : World :=
  match result with
  | .ok run => { self with current := some run }
  | .error _ => { self with current := none }

def kept (self : World) : World :=
  match self.current with
  | some (_, .save key docs) => { self with store := Function.update self.store key (some docs) }
  | _ => self

def answered (crates : Crates) (self : World) (event : Json) (now : Nat) (random : String) :
    World :=
  match self.current with
  | some (machine, _) => self.continued (machine.advance crates now random event)
  | none => self

def step (crates : Crates) (self : World) : Input → World × Unit
  | .start input now => (self.continued (start crates input now), ())
  | .keep => (self.kept, ())
  | .answer event now random => (self.answered crates event now random, ())

/-- A load gives what is stored, and a save is acknowledged once the documents are stored. -/
def agrees (self : World) (event : Json) : Action → Bool
  | .load key _ => decide (event.index "ok" = (self.store key).getD .null)
  | .save key docs => decide (self.store key = some docs)
  | _ => true

/-- The promise of a host about an answer that is no error.  What the device, the server and the
other effects answer is free. -/
def Honest (_ : List (Machine.Entry World Input Unit)) (self : World) : Input → Prop
  | .answer event _ _ => ∀ run ∈ self.current, event.get "error" = none → self.agrees event run.2
  | _ => True

instance {tr : List (Machine.Entry World Input Unit)} {self : World} {input : Input} :
    Decidable (Honest tr self input) :=
  match input with
  | .start _ _ => .isTrue trivial
  | .keep => .isTrue trivial
  | .answer event _ _ => inferInstanceAs
      (Decidable (∀ run ∈ self.current, event.get "error" = none → self.agrees event run.2))

end World

end ByoMachine

end BotaSdk
